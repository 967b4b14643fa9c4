import Mathlib.Algebra.Ring.Int.Defs
import Mathlib.Algebra.Ring.Nat
import Mathlib.Data.List.Count

/-!
# Socket buffers, memory and kernel return codes

Functions of the module return `int` codes: zero or a byte count on success
and a negated error number on failure.  A `struct sk_buff` is modelled by the
memory its data pointer ranges over, the size of its linear area, the bytes
held in fragments and its `len` field.  Buffers have an identity, so that a
run can be asked how often each of them was released.  Memory of a size is there
or not, but never beyond a limit.
-/

namespace Tunprox

namespace Errno

def EPERM : Int := 1
def ENOENT : Int := 2
def EAGAIN : Int := 11
def ENOMEM : Int := 12
def EEXIST : Int := 17
def EINVAL : Int := 22
def ERANGE : Int := 34
def EBADMSG : Int := 74
def EMSGSIZE : Int := 90
def EPROTONOSUPPORT : Int := 93
def ENOTCONN : Int := 107
def EALREADY : Int := 114
def ENOTSUPP : Int := 524

end Errno

/-- Conversion of an `unsigned int` value to `int`. -/
def toInt32 (value : Nat) : Int :=
  if value < 2 ^ 31 then value else value - 2 ^ 32

/-- A small length goes through an `unsigned int` and an `int`. -/
theorem toInt32_mod_of_lt {value : Nat} (small : value < 2 ^ 31) :
    toInt32 (value % 2 ^ 32) = value := by
  rw [Nat.mod_eq_of_lt (Nat.lt_trans small (by decide)), toInt32, if_pos small]

theorem toInt32_mod_neg {value : Nat} (large : 2 ^ 31 ≤ value) (fits : value < 2 ^ 32) :
    toInt32 (value % 2 ^ 32) < 0 := by
  rw [Nat.mod_eq_of_lt fits, toInt32, if_neg (Nat.not_lt.mpr large)]
  omega

/-- The size of the name of a net device with its zero byte. -/
def IFNAMSIZ : Nat := 16

/-- No allocation of the kernel is as large. -/
def KMALLOC_LIMIT : Nat := 2 ^ 30

/-- `kmalloc` and `krealloc`: what the memory of a size holds, if there is any. -/
structure Kmalloc (Memory : Type) where
  fresh : Nat → Option Memory
  limited : ∀ size memory, fresh size = some memory → size < KMALLOC_LIMIT

namespace Kmalloc

variable {Memory : Type}

/-- There is memory of the size. -/
def Grants (kmalloc : Kmalloc Memory) (size : Nat) : Prop :=
  (kmalloc.fresh size).isSome = true

instance (kmalloc : Kmalloc Memory) (size : Nat) : Decidable (kmalloc.Grants size) :=
  inferInstanceAs (Decidable (_ = true))

theorem Grants.lt {kmalloc : Kmalloc Memory} {size : Nat} (granted : kmalloc.Grants size) :
    size < KMALLOC_LIMIT := by
  obtain ⟨memory, fresh⟩ := Option.isSome_iff_exists.mp granted
  exact kmalloc.limited size memory fresh

/-- Memory of every size below the limit is granted. -/
def generous (memory : Memory) : Kmalloc Memory where
  fresh size := if size < KMALLOC_LIMIT then some memory else none
  limited size granted fresh := by
    by_contra large
    simp [large] at fresh

/-- No memory is granted. -/
def exhausted : Kmalloc Memory where
  fresh _ := none
  limited _ _ fresh := nomatch fresh

end Kmalloc

/-- `KERNEL_VERSION(a,b,c)` -/
def kernelVersion (major minor patch : Nat) : Nat :=
  major * 65536 + minor * 256 + patch

/-- Identity of a buffer.  The copy made of a buffer is a buffer of its own. -/
inductive BufId where
  | buffer (number : Nat)
  | copy (original : BufId)
  deriving DecidableEq, Repr

@[simp]
theorem BufId.copy_ne (id : BufId) : BufId.copy id ≠ id := by
  induction id with
  | buffer number => simp
  | copy original ih => simpa using ih

@[simp]
theorem BufId.ne_copy (id : BufId) : id ≠ BufId.copy id :=
  (BufId.copy_ne id).symm

/-- `struct sk_buff`.  `mem` is the memory from `head` on and `data` the
offset of the data pointer in it; the first `headlen` bytes from there are the
linear area, and what lies behind it is whatever the allocator left. -/
structure SkBuff where
  id : BufId
  mem : Nat → UInt8
  data : Nat
  headlen : Nat
  frags : List UInt8
  nrFrags : Nat
  fragList : Bool
  len : Nat
  len_lt : len < 2 ^ 32

namespace SkBuff

/-- `skb->data[index]` -/
def byte (skb : SkBuff) (index : Nat) : UInt8 :=
  skb.mem (skb.data + index)

/-- `skb_headroom` -/
def headroom (skb : SkBuff) : Nat :=
  skb.data

/-- `skb_copy`: a buffer of its own with all data in the linear area.  `fill`
is the content of the fresh memory behind the data. -/
def copied (skb : SkBuff) (fill : Nat → UInt8) : SkBuff where
  id := .copy skb.id
  mem := fun index =>
    if index < skb.data + skb.headlen then skb.mem index
    else skb.frags.getD (index - (skb.data + skb.headlen)) (fill index)
  data := skb.data
  headlen := skb.len
  frags := []
  nrFrags := 0
  fragList := false
  len := skb.len
  len_lt := skb.len_lt

/-- `skb_realloc_headroom`: a buffer of its own with the same data behind a
headroom of `room` bytes. -/
def reallocHeadroom (skb : SkBuff) (room : Nat) : SkBuff where
  id := .copy skb.id
  mem := fun index => if index < room then 0 else skb.mem (skb.data + (index - room))
  data := room
  headlen := skb.headlen
  frags := skb.frags
  nrFrags := skb.nrFrags
  fragList := skb.fragList
  len := skb.len
  len_lt := skb.len_lt

@[simp]
theorem copied_id (skb : SkBuff) (fill : Nat → UInt8) :
    (skb.copied fill).id = .copy skb.id :=
  rfl

@[simp]
theorem reallocHeadroom_id (skb : SkBuff) (room : Nat) :
    (skb.reallocHeadroom room).id = .copy skb.id :=
  rfl

end SkBuff

/-- `TP_GETPKTTYPE` -/
def tpGetpkttype (byte : UInt8) : Nat :=
  byte.toNat >>> 4

/-- `TP_ISPROT1` -/
def tpIsprot1 (byte : UInt8) : Bool :=
  tpGetpkttype byte == 1

/-- `TP_SKBISPROT1` -/
def tpSkbisprot1 (skb : SkBuff) : Bool :=
  decide (0 < skb.len) && tpIsprot1 (skb.byte 0)

/-- What is recorded about a buffer: it was taken from a socket, allocated,
freed, or handed to the network stack, which always consumes it. -/
inductive SkbEvent where
  | taken (id : BufId)
  | allocated (id : BufId)
  | kfreeSkb (id : BufId)
  | netifRx (id : BufId)
  deriving DecidableEq, Repr

namespace SkbEvent

/-- The event makes the module the owner of the buffer. -/
def acquires (id : BufId) : SkbEvent → Bool
  | .taken other | .allocated other => other == id
  | .kfreeSkb _ | .netifRx _ => false

/-- The event ends the module's ownership of the buffer. -/
def releases (id : BufId) : SkbEvent → Bool
  | .taken _ | .allocated _ => false
  | .kfreeSkb other | .netifRx other => other == id

end SkbEvent

/-- Number of times a buffer came into the hands of the module. -/
def acquisitions (id : BufId) (log : List SkbEvent) : Nat :=
  log.countP (SkbEvent.acquires id)

/-- Number of times a buffer was freed or handed on. -/
def releases (id : BufId) (log : List SkbEvent) : Nat :=
  log.countP (SkbEvent.releases id)

@[simp]
theorem acquisitions_append (id : BufId) (first second : List SkbEvent) :
    acquisitions id (first ++ second) =
      acquisitions id first + acquisitions id second :=
  List.countP_append

@[simp]
theorem releases_append (id : BufId) (first second : List SkbEvent) :
    releases id (first ++ second) = releases id first + releases id second :=
  List.countP_append

/-- Every buffer the log acquires is released exactly once, and nothing else
is released. -/
def ReleasedExactlyOnce (log : List SkbEvent) : Prop :=
  ∀ id, (0 < acquisitions id log → releases id log = 1) ∧
    (acquisitions id log = 0 → releases id log = 0)

end Tunprox
