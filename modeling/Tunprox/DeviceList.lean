import Mathlib.Data.List.FinRange
import Mathlib.Data.List.Forall2
import Tunprox.CommandResult
import Tunprox.InetText

/-!
# The list of devices

The kernel module packs the names of its devices one behind the other, each with its zero
byte, into a buffer whose size it computes as an `int`.  The tool makes room for an array of
pointers in front of the received text, lets it point behind every zero byte, and drops the
pointers to empty strings from the array.  Addresses in the block of the tool are counted
from its start, so that zero is no address of a string.  The allocations of both sides may
fail, and that of the names does if it asks for too much.
-/

namespace Tunprox.DeviceList

open Errno ByteBuffer NetlinkAttribute NetlinkMessage NetlinkReply CommandResult SkBuff
open InetText (numberText numberText_injective digitByte_ne_zero lt_of_mem_numeral
  length_numeral_le)
open Netlink (RERR_OK RERR_SYSTEM RERR_NOMEM)

/-- The name of a net device. -/
structure DevName extends CStr where
  nonempty : bytes ≠ []
  short : bytes.length < IFNAMSIZ

/-- What is used of a `struct net_device`; `isLdt` is `TPDEV_ISLDT`. -/
structure NetDev where
  name : DevName
  isLdt : Bool

/-- The devices of the module in a namespace. -/
def ldtNames (devices : List NetDev) : List DevName :=
  (devices.filter NetDev.isLdt).map NetDev.name

/-- The argument of `kmalloc`, which is computed as an `int` and taken for a `size_t`. -/
def kmallocSize (num : Nat) : Nat :=
  (toInt32 ((num * (IFNAMSIZ + 1) + 1) % 2 ^ 32) % 2 ^ 64).toNat

/-- Memory that holds anything. -/
def freshMemory (fresh : Nat → UInt8) (size : Nat) : List UInt8 :=
  (List.range size).map fresh

/-- The second loop of the module's `ldt_get_devlist`, from the offset `s`. -/
def copyNames : List UInt8 → Nat → List DevName → Option (List UInt8 × Nat)
  | devlist, s, [] => some (devlist, s)
  | devlist, s, name :: names => do
      let copied ← store devlist s name.terminated
      copyNames copied (s + strlen name.terminated + 1) names

/-- `ldt_get_devlist` of the module: the buffer and `*dlen`, or nothing if it writes outside
of the buffer. -/
def kernelLdtGetDevlist (kmalloc : Kmalloc (Nat → UInt8)) (devices : List NetDev) :
    Option (Except Int (List UInt8 × Nat)) :=
  let names := ldtNames devices
  let size := kmallocSize names.length
  match kmalloc.fresh size with
  | none => some (.error (-ENOMEM))
  | some fresh => do
      let cleared ← store (freshMemory fresh size) 0 [0]
      let copied ← copyNames cleared 0 names
      some (.ok (copied.1, copied.2 % 2 ^ 32))

/-- `ldt_nl_get_devlist`: the messages that reach the tool.  `skb` tells whether there is
memory for the answer. -/
def ldtNlGetDevlist (family : Family) (seq pid : Nat) (request : Request)
    (kmalloc : Kmalloc (Nat → UInt8)) (skb : Bool) (devices : List NetDev) :
    Option (List (Except Int (List UInt8))) :=
  (kernelLdtGetDevlist kmalloc devices).map fun
    | .error ret => answers family seq pid request ret
    | .ok (data, len) =>
        match sendInfo family seq pid 0 (some data) len skb with
        | .error ret => [.ok (netlinkAck seq pid ret request)]
        | .ok msg => [.ok msg]

/-- `sizeof (char*)` -/
def PTR_SIZE : Nat := 8

/-- The block with the array `arg` at its front, and the number of entries. -/
structure Args where
  block : List UInt8
  num : Nat

/-- `arg[index] = ptr` -/
def setArg (block : List UInt8) (index ptr : Nat) : Option (List UInt8) :=
  store block (PTR_SIZE * index) (littleEndian PTR_SIZE ptr)

/-- `arg[index]` -/
def getArg (block : List UInt8) (index : Nat) : Option Nat :=
  loadNumber block (PTR_SIZE * index) PTR_SIZE

/-- The body of the loop over the text, at the byte with the index `i`. -/
def addArg (info i : Nat) (args : Args) : Option Args := do
  let byte ← loadNumber args.block (info + i) 1
  if byte = 0 then do
    let block ← setArg args.block args.num (info + i + 1)
    some ⟨block, args.num + 1⟩
  else some args

/-- The loop over the text: `count` more bytes from the index `i` on. -/
def addArgs (info : Nat) : Nat → Nat → Args → Option Args
  | 0, _, args => some args
  | count + 1, i, args => (addArg info i args).bind (addArgs info count (i + 1))

/-- The body of the loop that drops the empty strings. -/
def keepArg (i : Nat) (args : Args) : Option Args := do
  let ptr ← getArg args.block i
  let byte ← loadNumber args.block ptr 1
  if byte = 0 then some args
  else if args.num < i then do
    let block ← setArg args.block args.num ptr
    some ⟨block, args.num + 1⟩
  else some { args with num := args.num + 1 }

/-- The loop that drops the empty strings: `count` more entries from the index `i` on. -/
def keepArgs : Nat → Nat → Args → Option Args
  | 0, _, args => some args
  | count + 1, i, args => (keepArg i args).bind (keepArgs count (i + 1))

/-- `realloc` -/
def reallocBlock (fresh : Nat → UInt8) (block : List UInt8) (size : Nat) : List UInt8 :=
  block.take size ++ freshMemory fresh (size - block.length)

/-- The part of the tool's `ldt_get_devlist` that parses the answer, whose last two
assignments to `num` and `arg[num]` end it.  It gives nothing if it reaches outside of the
block. -/
def parseDevlist (fresh : Nat → UInt8) (info : List UInt8) (ilen : Nat) : Option Args :=
  let num := (info.take ilen).count 0 + 2
  let len := toInt32 (num * PTR_SIZE % 2 ^ 32)
  -- `ilen + len + 1` is computed in 32 bits
  let block := reallocBlock fresh info ((ilen + len + 1) % 2 ^ 32).toNat
  if len < 0 then none
  else do
    let moved ← memmove block len.toNat 0 ilen
    let ended ← store moved (len.toNat + ilen) [0]
    let first ← setArg ended 0 len.toNat
    let filled ← addArgs len.toNat ilen 0 ⟨first, 1⟩
    let closed ← setArg filled.block filled.num 0
    let kept ← keepArgs filled.num 0 ⟨closed, 0⟩
    let last ← setArg kept.block kept.num 0
    some ⟨last, kept.num⟩

/-- `ldt_get_devlist` of the tool on what it receives: its result, and the block.  `realloc`
gets memory that holds anything, or none. -/
def ldtGetDevlist (memory : Option (Nat → UInt8)) (received : List (Except Int (List UInt8)))
    (stack : Int) : Option (Int × List UInt8) := do
  let reply ← ldtNlGetanswer received stack
  if reply.ret < 0 then some (reply.ret, [])
  else do
    let info ← reply.data
    match memory with
    | none => some (RERR_NOMEM, [])
    | some fresh => do
        let args ← parseDevlist fresh info reply.dlen
        some (args.num, args.block)

/-- The string at an address, with its zero byte inside of the block. -/
def loadString (block : List UInt8) (ptr : Nat) : Option (List UInt8) :=
  let string := cstring (block.drop ptr)
  if ptr + string.length < block.length then some string else none

/-- What a caller reads who follows the array up to the null pointer. -/
def readArgs (block : List UInt8) : Nat → Nat → Option (List (List UInt8))
  | 0, _ => none
  | fuel + 1, index => do
      let ptr ← getArg block index
      if ptr = 0 then some []
      else do
        let string ← loadString block ptr
        let strings ← readArgs block fuel (index + 1)
        some (string :: strings)

/-- Strings, each with its zero byte. -/
def texts (strings : List CStr) : List UInt8 :=
  strings.flatMap CStr.terminated

theorem texts_cons (string : CStr) (strings : List CStr) :
    texts (string :: strings) = string.terminated ++ texts strings :=
  rfl

/-- The strings in the answer; `send_info` takes no data for an empty string. -/
def sentStrings (names : List DevName) : List CStr :=
  if names = [] then [CStr.empty] else names.map DevName.toCStr

@[simp]
theorem length_freshMemory (fresh : Nat → UInt8) (size : Nat) :
    (freshMemory fresh size).length = size := by
  simp [freshMemory]

/-- Names that fit go behind one another. -/
theorem copyNames_eq (names : List DevName) (written rest : List UInt8)
    (room : (texts (names.map DevName.toCStr)).length ≤ rest.length) :
    copyNames (written ++ rest) written.length names =
      some (written ++ texts (names.map DevName.toCStr) ++
          rest.drop (texts (names.map DevName.toCStr)).length,
        written.length + (texts (names.map DevName.toCStr)).length) := by
  induction names generalizing written rest with
  | nil => simp [copyNames, texts]
  | cons name names ih =>
      rw [List.map_cons, texts_cons, List.length_append] at room
      have here : name.terminated.length ≤ rest.length := by omega
      have remaining : (texts (names.map DevName.toCStr)).length ≤
          (rest.drop name.terminated.length).length := by
        rw [List.length_drop]
        omega
      have position : written.length + strlen name.terminated + 1 =
          (written ++ name.terminated).length := by
        rw [strlen_terminated, List.length_append, CStr.length_terminated]
        omega
      rw [copyNames, store_append here]
      simp only [Option.bind_eq_bind, Option.bind_some]
      rw [position, ih (written ++ name.terminated) _ remaining, List.map_cons, texts_cons,
        List.drop_drop, List.length_append, List.length_append]
      simp only [List.append_assoc, Nat.add_assoc]

/-- The names fit if none of them is copied outside of the buffer. -/
theorem length_le_of_copyNames {names : List DevName} {devlist : List UInt8} {s : Nat}
    {copied : List UInt8 × Nat} (inside : s ≤ devlist.length)
    (copiedEq : copyNames devlist s names = some copied) :
    s + (texts (names.map DevName.toCStr)).length ≤ devlist.length := by
  induction names generalizing devlist s with
  | nil => simpa [texts] using inside
  | cons name names ih =>
      rw [copyNames] at copiedEq
      obtain ⟨stored, storedEq, rest⟩ := Option.bind_eq_some_iff.mp copiedEq
      obtain ⟨same, room⟩ := length_store storedEq
      rw [CStr.length_terminated] at room
      have next := ih (by rw [strlen_terminated]; omega) rest
      rw [List.map_cons, texts_cons, List.length_append, CStr.length_terminated]
      rw [strlen_terminated] at next
      omega

/-- A size that is granted is not negative as an `int`. -/
theorem kmallocSize_of_lt {num : Nat} (small : kmallocSize num < KMALLOC_LIMIT) :
    kmallocSize num = (num * (IFNAMSIZ + 1) + 1) % 2 ^ 32 := by
  unfold kmallocSize toInt32 KMALLOC_LIMIT at *
  split at small
  · omega
  · omega

/-- A string at the front of a buffer is all that `send_info` takes of it. -/
theorem infoData_append (strings : List CStr) (after : List UInt8) (nonempty : strings ≠ []) :
    infoData (some (texts strings ++ after)) (texts strings).length = some (texts strings) := by
  have positive : (texts strings).length ≠ 0 := by
    cases strings with
    | nil => exact absurd rfl nonempty
    | cons string strings =>
        rw [texts_cons, List.length_append, CStr.length_terminated]
        omega
  rw [infoData, Option.map_some, if_neg positive, List.take_left]

/-- Without a device there is a zero byte in the buffer, and the length is zero. -/
theorem infoData_empty (after : List UInt8) :
    infoData (some (0 :: after)) 0 = some (texts [CStr.empty]) := by
  simp [infoData, strlen, cstring, texts, CStr.empty, CStr.terminated]

section
variable {kmalloc : Kmalloc (Nat → UInt8)} {fresh : Nat → UInt8} {devices : List NetDev}

/-- The module's `ldt_get_devlist` succeeds if the buffer holds the names, and one byte at
least. -/
theorem kernelLdtGetDevlist_eq
    (granted : kmalloc.fresh (kmallocSize (ldtNames devices).length) = some fresh)
    (allocated : 1 ≤ kmallocSize (ldtNames devices).length)
    (fits : (texts ((ldtNames devices).map DevName.toCStr)).length ≤
      kmallocSize (ldtNames devices).length) :
    ∃ data len, kernelLdtGetDevlist kmalloc devices = some (.ok (data, len)) ∧
      infoData (some data) len = some (texts (sentStrings (ldtNames devices))) := by
  have bound := kmalloc.limited _ _ granted
  unfold KMALLOC_LIMIT at bound
  have one : ([0] : List UInt8).length ≤
      (freshMemory fresh (kmallocSize (ldtNames devices).length)).length := by
    rw [length_freshMemory, List.length_singleton]
    exact allocated
  have cleared : store (freshMemory fresh (kmallocSize (ldtNames devices).length)) 0 [0] =
      some (0 :: (freshMemory fresh (kmallocSize (ldtNames devices).length)).drop 1) := by
    have stored : store ([] ++ _) ([] : List UInt8).length [0] = some ([] ++ [0] ++ _) :=
      store_append one
    exact stored
  have copied := copyNames_eq (ldtNames devices) []
    (0 :: (freshMemory fresh (kmallocSize (ldtNames devices).length)).drop 1)
    (by rw [List.length_cons, List.length_drop, length_freshMemory]; omega)
  have small : (texts ((ldtNames devices).map DevName.toCStr)).length < 2 ^ 32 := by omega
  rw [List.nil_append, List.nil_append, List.length_nil, Nat.zero_add] at copied
  have listed : kernelLdtGetDevlist kmalloc devices = some (.ok
      (texts ((ldtNames devices).map DevName.toCStr) ++
        (0 :: (freshMemory fresh (kmallocSize (ldtNames devices).length)).drop 1).drop
          (texts ((ldtNames devices).map DevName.toCStr)).length,
        (texts ((ldtNames devices).map DevName.toCStr)).length)) := by
    simp only [kernelLdtGetDevlist, granted, cleared, Option.bind_eq_bind,
      Option.bind_some, copied, Nat.mod_eq_of_lt small]
  refine ⟨_, _, listed, ?_⟩
  unfold sentStrings
  split
  · rename_i none
    rw [none]
    exact infoData_empty _
  · rename_i some
    apply infoData_append
    rwa [Ne, List.map_eq_nil_iff]

theorem eq_of_kernelLdtGetDevlist_error {ret : Int}
    (listed : kernelLdtGetDevlist kmalloc devices = some (.error ret)) :
    ret = -ENOMEM ∧ ¬ kmalloc.Grants (kmallocSize (ldtNames devices).length) := by
  rw [kernelLdtGetDevlist] at listed
  split at listed
  · rename_i refused
    cases listed
    exact ⟨rfl, by simp [Kmalloc.Grants, refused]⟩
  · obtain ⟨cleared, -, rest⟩ := Option.bind_eq_some_iff.mp listed
    obtain ⟨copied, -, result⟩ := Option.bind_eq_some_iff.mp rest
    cases result

/-- If the module's `ldt_get_devlist` succeeds, the names fit into the buffer that it has
got. -/
theorem length_le_of_kernelLdtGetDevlist {data : List UInt8} {len : Nat}
    (listed : kernelLdtGetDevlist kmalloc devices = some (.ok (data, len))) :
    ∃ memory, kmalloc.fresh (kmallocSize (ldtNames devices).length) = some memory ∧
      1 ≤ kmallocSize (ldtNames devices).length ∧
      (texts ((ldtNames devices).map DevName.toCStr)).length ≤
        kmallocSize (ldtNames devices).length := by
  rw [kernelLdtGetDevlist] at listed
  split at listed
  · cases listed
  · rename_i memory granted
    obtain ⟨cleared, clearedEq, rest⟩ := Option.bind_eq_some_iff.mp listed
    obtain ⟨copied, copiedEq, -⟩ := Option.bind_eq_some_iff.mp rest
    obtain ⟨same, one⟩ := length_store clearedEq
    have room := length_le_of_copyNames (Nat.zero_le _) copiedEq
    rw [length_freshMemory] at same
    rw [length_freshMemory, List.length_singleton] at one
    exact ⟨memory, granted, by omega, by omega⟩

end

/-- The addresses behind the zero bytes of a text that stands at an address. -/
def starts : Nat → List UInt8 → List Nat
  | _, [] => []
  | address, byte :: bytes =>
      if byte = 0 then (address + 1) :: starts (address + 1) bytes
      else starts (address + 1) bytes

/-- The loop over the text appends the address behind each zero byte to the array. -/
theorem addArgs_eq {info : Nat} (todo past : List UInt8) (ptrs : List Nat) {rest : List UInt8}
    (infoEq : info = PTR_SIZE * ptrs.length + rest.length)
    (room : PTR_SIZE * todo.count 0 ≤ rest.length) :
    addArgs info todo.length past.length
        ⟨numbers PTR_SIZE ptrs ++ (rest ++ (past ++ todo ++ [0])), ptrs.length⟩ =
      some ⟨numbers PTR_SIZE (ptrs ++ starts (info + past.length) todo) ++
          (rest.drop (PTR_SIZE * todo.count 0) ++ (past ++ todo ++ [0])),
        ptrs.length + todo.count 0⟩ := by
  induction todo generalizing past ptrs rest with
  | nil => simp [addArgs, starts]
  | cons byte todo ih =>
      have text : past ++ byte :: todo ++ [0] = past ++ [byte] ++ todo ++ [0] := by simp
      have here : (numbers PTR_SIZE ptrs ++ (rest ++ (past ++ byte :: todo ++ [0]))).drop
          (info + past.length) = byte :: (todo ++ [0]) := by
        have parts : numbers PTR_SIZE ptrs ++ (rest ++ (past ++ byte :: todo ++ [0])) =
            numbers PTR_SIZE ptrs ++ rest ++ past ++ byte :: (todo ++ [0]) := by simp
        rw [parts]
        apply drop_append_of_length
        rw [List.length_append, List.length_append, length_numbers, infoEq]
      have inside : info + past.length ≤
          (numbers PTR_SIZE ptrs ++ (rest ++ (past ++ byte :: todo ++ [0]))).length := by
        simp only [List.length_append, length_numbers]
        omega
      have position : past.length + 1 = (past ++ [byte]).length := by simp
      rw [List.length_cons, addArgs, addArg, loadNumber_byte byte inside here]
      simp only [Option.bind_eq_bind, Option.bind_some, toNat_eq_zero_iff]
      by_cases zero : byte = 0
      · subst zero
        rw [List.count_cons_self, Nat.mul_succ] at room
        have shorter : PTR_SIZE ≤ rest.length := by omega
        have entry : PTR_SIZE ≤ (rest ++ (past ++ 0 :: todo ++ [0])).length := by
          rw [List.length_append]
          omega
        have infoNext : info = PTR_SIZE * (ptrs ++ [info + past.length + 1]).length +
            (rest.drop PTR_SIZE).length := by
          rw [List.length_append, List.length_singleton, List.length_drop, Nat.mul_succ]
          omega
        have next := ih (past ++ [0]) (ptrs ++ [info + past.length + 1]) infoNext
          (by rw [List.length_drop]; omega)
        have count : ptrs.length + 1 = (ptrs ++ [info + past.length + 1]).length := by simp
        rw [if_pos rfl, setArg, store_numbers_append _ _ entry, Option.bind_some,
          Option.bind_some, position, List.drop_append_of_le_length shorter, text, count, next,
          List.count_cons_self, Nat.mul_succ, List.drop_drop, starts, if_pos rfl,
          List.append_assoc, List.length_append, List.length_singleton, List.length_append,
          List.length_singleton]
        simp only [List.singleton_append, Nat.add_assoc, Nat.add_comm 1, Nat.add_comm PTR_SIZE]
      · rw [List.count_cons_of_ne zero] at room
        rw [if_neg zero, Option.bind_some, position, text,
          ih (past ++ [byte]) ptrs infoEq room, List.count_cons_of_ne zero, starts, if_neg zero,
          List.length_append, List.length_singleton, Nat.add_assoc]

/-- The address of a string in the part of the block behind the array, which takes up `size`
bytes. -/
structure Points (size : Nat) (tail : List UInt8) (ptr : Nat) (string : CStr) : Prop where
  positive : 0 < ptr
  small : ptr < 256 ^ PTR_SIZE
  split : ∃ offset after, ptr = size + offset ∧ offset ≤ tail.length ∧
    tail.drop offset = string.bytes ++ 0 :: after

theorem starts_terminated (string : CStr) (address : Nat) (after : List UInt8) :
    starts address (string.terminated ++ after) =
      (address + string.terminated.length) ::
        starts (address + string.terminated.length) after := by
  have skip (bytes : List UInt8) (nonzero : ∀ byte ∈ bytes, byte ≠ 0) (address : Nat) :
      starts address (bytes ++ 0 :: after) =
        (address + bytes.length + 1) :: starts (address + bytes.length + 1) after := by
    induction bytes generalizing address with
    | nil => rw [List.nil_append, starts, if_pos rfl, List.length_nil, Nat.add_zero]
    | cons byte bytes ih =>
        have first : byte ≠ 0 := nonzero byte List.mem_cons_self
        have shifted : address + 1 + bytes.length = address + (byte :: bytes).length := by
          rw [List.length_cons]
          omega
        rw [List.cons_append, starts, if_neg first,
          ih (fun other member => nonzero other (List.mem_cons_of_mem _ member)), shifted]
  have parts : string.terminated ++ after = string.bytes ++ 0 :: after := by
    simp [CStr.terminated]
  rw [parts, skip string.bytes string.nonzero, CStr.length_terminated, Nat.add_assoc]

theorem points_of_split {size : Nat} (positive : 0 < size) (string : CStr)
    {before rest after : List UInt8} (split : rest = string.bytes ++ 0 :: after)
    (small : size + (before ++ rest).length < 256 ^ PTR_SIZE) :
    Points size (before ++ rest) (size + before.length) string := by
  rw [List.length_append] at small
  constructor
  · omega
  · omega
  · refine ⟨before.length, after, rfl, ?_, ?_⟩
    · rw [List.length_append]
      omega
    · rw [List.drop_left, split]

/-- The array points to every string of the text, and to the empty one behind it. -/
theorem points_starts {size : Nat} (positive : 0 < size) (strings : List CStr)
    (before : List UInt8)
    (small : size + (before ++ (texts strings ++ [0])).length < 256 ^ PTR_SIZE) :
    List.Forall₂ (Points size (before ++ (texts strings ++ [0])))
      ((size + before.length) :: starts (size + before.length) (texts strings))
      (strings ++ [CStr.empty]) := by
  induction strings generalizing before with
  | nil =>
      apply List.Forall₂.cons
      · exact points_of_split positive CStr.empty
          (show texts [] ++ [0] = CStr.empty.bytes ++ 0 :: [] from rfl) small
      · exact List.Forall₂.nil
  | cons string strings ih =>
      have text : before ++ (texts (string :: strings) ++ [0]) =
          (before ++ string.terminated) ++ (texts strings ++ [0]) := by
        rw [texts_cons]
        simp only [List.append_assoc]
      have split : texts (string :: strings) ++ [0] =
          string.bytes ++ 0 :: (texts strings ++ [0]) := by
        rw [texts_cons, CStr.terminated]
        simp
      have rest := ih (before ++ string.terminated) (by rwa [text] at small)
      rw [← text, List.length_append, ← Nat.add_assoc] at rest
      rw [texts_cons string strings, starts_terminated, ← texts_cons, List.cons_append]
      exact List.Forall₂.cons (points_of_split positive string split small) rest

section
variable {front tail : List UInt8} {ptr : Nat} {string : CStr}

/-- What is at the address of a string in the whole block. -/
theorem drop_of_points (points : Points front.length tail ptr string) :
    ptr ≤ (front ++ tail).length ∧
      ∃ after, (front ++ tail).drop ptr = string.bytes ++ 0 :: after := by
  obtain ⟨offset, after, rfl, inside, split⟩ := points.split
  constructor
  · rw [List.length_append]
    omega
  · refine ⟨after, ?_⟩
    rw [← List.drop_drop, List.drop_left, split]

/-- The first byte of a string is zero if the string is empty. -/
theorem loadNumber_of_points (points : Points front.length tail ptr string) :
    ∃ byte, loadNumber (front ++ tail) ptr 1 = some byte ∧
      (byte = 0 ↔ string.bytes = []) := by
  obtain ⟨inside, after, split⟩ := drop_of_points points
  cases bytesEq : string.bytes with
  | nil =>
      rw [bytesEq] at split
      exact ⟨_, loadNumber_byte 0 inside split, by simp⟩
  | cons byte bytes =>
      rw [bytesEq] at split
      refine ⟨_, loadNumber_byte byte inside split, ?_⟩
      have nonzero : byte ≠ 0 := string.nonzero byte (by rw [bytesEq]; exact List.mem_cons_self)
      rw [toNat_eq_zero_iff]
      simp [nonzero]

theorem loadString_of_points (points : Points front.length tail ptr string) :
    loadString (front ++ tail) ptr = some string.bytes := by
  obtain ⟨inside, after, split⟩ := drop_of_points points
  have room : ptr + string.bytes.length < (front ++ tail).length := by
    have total := congrArg List.length split
    simp only [List.length_drop, List.length_append, List.length_cons] at total ⊢
    omega
  rw [loadString, split, cstring_append_zero, if_pos room]

end

/-- What the caller reads from an array of addresses of strings that ends with a null
pointer. -/
theorem readArgs_eq {size : Nat} {tail : List UInt8} {ptrs : List Nat} {strings : List CStr}
    (points : List.Forall₂ (Points size tail) ptrs strings) (front back : List Nat)
    (sizeEq : (numbers PTR_SIZE (front ++ ptrs ++ 0 :: back)).length = size) :
    readArgs (numbers PTR_SIZE (front ++ ptrs ++ 0 :: back) ++ tail) (strings.length + 1)
      front.length = some (strings.map CStr.bytes) := by
  induction points generalizing front with
  | nil =>
      rw [List.append_nil, List.length_nil, readArgs, getArg,
        loadNumber_numbers front back tail (by decide)]
      rfl
  | cons first rest ih =>
      rename_i ptr string ptrs strings
      have regrouped : front ++ ptr :: ptrs ++ 0 :: back =
          front ++ ptr :: (ptrs ++ 0 :: back) := by simp
      have moved : front ++ ptr :: ptrs ++ 0 :: back =
          front ++ [ptr] ++ ptrs ++ 0 :: back := by simp
      have next := ih (front ++ [ptr]) (by rwa [moved] at sizeEq)
      rw [← moved, List.length_append, List.length_singleton] at next
      have here := loadNumber_numbers front (ptrs ++ 0 :: back) tail first.small
      rw [← regrouped] at here
      have found : loadString
          (numbers PTR_SIZE (front ++ ptr :: ptrs ++ 0 :: back) ++ tail) ptr =
            some string.bytes :=
        loadString_of_points (by rwa [sizeEq])
      rw [List.length_cons, readArgs, getArg, here]
      simp only [Option.bind_eq_bind, Option.bind_some, if_neg first.positive.ne', found,
        next, List.map_cons]

/-- An address that is kept goes behind those kept before. -/
theorem keepOne (kept stale after : List Nat) (ptr : Nat) (tail : List UInt8) :
    ∃ shifted : List Nat, shifted.length = stale.length ∧
      (if kept.length < kept.length + stale.length then
          (setArg (numbers PTR_SIZE (kept ++ stale ++ ptr :: after) ++ tail) kept.length ptr).bind
            fun block => some (⟨block, kept.length + 1⟩ : Args)
        else some ⟨numbers PTR_SIZE (kept ++ stale ++ ptr :: after) ++ tail, kept.length + 1⟩) =
        some ⟨numbers PTR_SIZE (kept ++ [ptr] ++ shifted ++ after) ++ tail,
          kept.length + 1⟩ := by
  cases stale with
  | nil =>
      refine ⟨[], rfl, ?_⟩
      rw [List.length_nil, Nat.add_zero, if_neg (Nat.lt_irrefl _)]
      simp
  | cons old stale =>
      refine ⟨stale ++ [ptr], by simp, ?_⟩
      have first : kept ++ old :: stale ++ ptr :: after =
          kept ++ old :: (stale ++ ptr :: after) := by simp
      rw [if_pos (by rw [List.length_cons]; omega), setArg, first, store_numbers,
        Option.bind_some]
      simp

/-- The loop that drops the empty strings: the array begins with the addresses kept so far,
and what is to come has not been overwritten. -/
theorem keepArgs_eq {size : Nat} {tail : List UInt8} {todo : List Nat} {strings : List CStr}
    (points : List.Forall₂ (Points size tail) todo strings) (kept stale back : List Nat)
    (sizeEq : (numbers PTR_SIZE (kept ++ stale ++ todo ++ back)).length = size) :
    ∃ more left,
      keepArgs todo.length (kept.length + stale.length)
          ⟨numbers PTR_SIZE (kept ++ stale ++ todo ++ back) ++ tail, kept.length⟩ =
        some ⟨numbers PTR_SIZE (kept ++ more ++ left ++ back) ++ tail,
          kept.length + more.length⟩ ∧
        List.Forall₂ (Points size tail) more
          (strings.filter fun string => string.bytes ≠ []) ∧
          more.length + left.length = stale.length + todo.length := by
  induction points generalizing kept stale with
  | nil =>
      refine ⟨[], stale, ?_, List.Forall₂.nil, by simp⟩
      simp [keepArgs]
  | cons first rest ih =>
      rename_i ptr string todo strings
      have regrouped : kept ++ stale ++ ptr :: todo ++ back =
          (kept ++ stale) ++ ptr :: (todo ++ back) := by simp
      have here := loadNumber_numbers (kept ++ stale) (todo ++ back) tail first.small
      rw [← regrouped, List.length_append] at here
      obtain ⟨byte, byteAt, zero_iff⟩ : ∃ byte, loadNumber
          (numbers PTR_SIZE (kept ++ stale ++ ptr :: todo ++ back) ++ tail) ptr 1 = some byte ∧
            (byte = 0 ↔ string.bytes = []) :=
        loadNumber_of_points (by rwa [sizeEq])
      have moved : kept ++ stale ++ ptr :: todo ++ back =
          kept ++ (stale ++ [ptr]) ++ todo ++ back := by simp
      rw [List.length_cons, keepArgs, keepArg, getArg, here]
      simp only [Option.bind_eq_bind, Option.bind_some, byteAt, zero_iff]
      by_cases empty : string.bytes = []
      · obtain ⟨more, left, kept_eq, pointsMore, lengths⟩ :=
          ih kept (stale ++ [ptr]) (by rwa [← moved])
        rw [← moved, List.length_append, List.length_singleton, ← Nat.add_assoc] at kept_eq
        refine ⟨more, left, ?_, ?_, ?_⟩
        · rw [if_pos empty, Option.bind_some, kept_eq]
        · simpa [empty] using pointsMore
        · rw [List.length_append, List.length_singleton] at lengths
          omega
      · obtain ⟨shifted, same, keptOne⟩ := keepOne kept stale (todo ++ back) ptr tail
        have joined (middle : List Nat) : kept ++ middle ++ ptr :: todo ++ back =
            kept ++ middle ++ ptr :: (todo ++ back) := by simp
        have next : kept ++ [ptr] ++ shifted ++ (todo ++ back) =
            kept ++ [ptr] ++ shifted ++ todo ++ back := by simp
        rw [next, ← joined] at keptOne
        obtain ⟨more, left, rest_eq, pointsMore, lengths⟩ :=
          ih (kept ++ [ptr]) shifted (by
            rw [← sizeEq, length_numbers, length_numbers]
            simp only [List.length_append, List.length_cons, List.length_nil, same]
            congr 1
            omega)
        have position : kept.length + stale.length + 1 =
            (kept ++ [ptr]).length + shifted.length := by
          rw [List.length_append, List.length_singleton, same]
          omega
        have count : kept.length + 1 = (kept ++ [ptr]).length := by simp
        refine ⟨ptr :: more, left, ?_, ?_, ?_⟩
        · rw [if_neg empty, keptOne, Option.bind_some, position, count, rest_eq]
          simp only [List.append_assoc, List.cons_append, List.length_append,
            List.length_cons, List.length_nil]
          congr 2
          omega
        · rw [List.filter_cons_of_pos (by simpa using empty)]
          exact List.Forall₂.cons first pointsMore
        · simp only [List.length_cons]
          omega

/-- The text goes behind the room for the array, and a zero byte behind it. -/
theorem memmove_reallocBlock (fresh : Nat → UInt8) (text : List UInt8) (len : Nat) :
    ∃ front moved, front.length = len ∧
      memmove (reallocBlock fresh (text ++ [0]) (text.length + len + 1)) len 0 text.length =
        some moved ∧
        store moved (len + text.length) [0] = some (front ++ (text ++ [0])) := by
  have blockEq : reallocBlock fresh (text ++ [0]) (text.length + len + 1) =
      text ++ ([0] ++ freshMemory fresh len) := by
    have whole : (text ++ [0]).length ≤ text.length + len + 1 := by
      rw [List.length_append, List.length_singleton]
      omega
    have more : text.length + len + 1 - (text ++ [0]).length = len := by
      rw [List.length_append, List.length_singleton]
      omega
    rw [reallocBlock, List.take_of_length_le whole, more, List.append_assoc]
  generalize blockNamed : text ++ ([0] ++ freshMemory fresh len) = block at blockEq
  have size : block.length = text.length + len + 1 := by
    rw [← blockNamed, List.length_append, List.length_append, length_freshMemory,
      List.length_singleton]
    omega
  have loaded : load block 0 text.length = some text :=
    load_of_drop (Nat.zero_le _) (show block.drop 0 = text ++ _ from blockNamed.symm)
  have front : (block.take len).length = len := by
    rw [List.length_take]
    omega
  have stored : store block len text =
      some (block.take len ++ text ++ (block.drop len).drop text.length) := by
    have parts : store (block.take len ++ block.drop len) (block.take len).length text =
        some (block.take len ++ text ++ (block.drop len).drop text.length) :=
      store_append (by rw [List.length_drop]; omega)
    rwa [List.take_append_drop, front] at parts
  have last : ((block.drop len).drop text.length).length = 1 := by
    rw [List.length_drop, List.length_drop]
    omega
  have position : (block.take len ++ text).length = len + text.length := by
    rw [List.length_append, front]
  refine ⟨block.take len, block.take len ++ text ++ (block.drop len).drop text.length, front,
    ?_, ?_⟩
  · rw [blockEq, memmove, loaded, Option.bind_some, stored]
  · rw [← position, store_append, List.length_singleton, List.drop_eq_nil_of_le last.le,
      List.append_nil, List.append_assoc]
    rw [last, List.length_singleton]

theorem count_texts (strings : List CStr) : (texts strings).count 0 = strings.length := by
  induction strings with
  | nil => rfl
  | cons string strings ih =>
      have none : string.bytes.count 0 = 0 := by
        rw [List.count_eq_zero]
        intro member
        exact string.nonzero 0 member rfl
      rw [texts_cons, CStr.terminated, List.count_append, List.count_append, none, ih,
        List.count_singleton_self, List.length_cons]
      omega

theorem length_starts (address : Nat) (bytes : List UInt8) :
    (starts address bytes).length = bytes.count 0 := by
  induction bytes generalizing address with
  | nil => rfl
  | cons byte bytes ih =>
      rw [starts]
      split
      · rename_i zero
        rw [List.length_cons, ih, zero, List.count_cons_self]
      · rename_i nonzero
        rw [ih, List.count_cons_of_ne nonzero]

/-- The array as the first loop leaves it, with the null pointer at its end. -/
theorem addArgs_texts (strings : List CStr) {front : List UInt8}
    (frontLen : front.length = PTR_SIZE * (strings.length + 2))
    (small : front.length + (texts strings).length + 1 < 256 ^ PTR_SIZE) :
    ∃ first ptrs filled,
      setArg (front ++ (texts strings ++ [0])) 0 front.length = some first ∧
        addArgs front.length (texts strings).length 0 ⟨first, 1⟩ =
          some ⟨filled, ptrs.length⟩ ∧
        setArg filled ptrs.length 0 =
          some (numbers PTR_SIZE (ptrs ++ [0]) ++ (texts strings ++ [0])) ∧
        List.Forall₂ (Points front.length (texts strings ++ [0])) ptrs
          (strings ++ [CStr.empty]) := by
  have zeros := count_texts strings
  have zerosLen := length_starts front.length (texts strings)
  have pointer : PTR_SIZE * (strings.length + 2) =
      PTR_SIZE * strings.length + PTR_SIZE + PTR_SIZE := by
    rw [Nat.mul_succ, Nat.mul_succ]
  have room : PTR_SIZE ≤ (front ++ (texts strings ++ [0])).length := by
    rw [List.length_append]
    omega
  have entry : PTR_SIZE ≤ front.length := by omega
  have first : setArg (front ++ (texts strings ++ [0])) 0 front.length = some
      (numbers PTR_SIZE [front.length] ++
        (front.drop PTR_SIZE ++ (texts strings ++ [0]))) := by
    rw [← List.drop_append_of_le_length entry]
    exact store_numbers_append front.length [] room
  have infoEq : front.length =
      PTR_SIZE * [front.length].length + (front.drop PTR_SIZE).length := by
    rw [List.length_drop, List.length_singleton]
    omega
  have filled := addArgs_eq (texts strings) [] [front.length] infoEq
    (by rw [zeros, List.length_drop]; omega)
  rw [zeros, List.drop_drop, List.nil_append, List.length_nil, Nat.add_zero,
    List.singleton_append, List.length_singleton] at filled
  have count : 1 + strings.length =
      (front.length :: starts front.length (texts strings)).length := by
    rw [List.length_cons, zerosLen, zeros, Nat.add_comm]
  rw [count] at filled
  refine ⟨_, _, _, first, filled, ?_, ?_⟩
  · have left : (front.drop (PTR_SIZE + PTR_SIZE * strings.length)).length = PTR_SIZE := by
      rw [List.length_drop]
      omega
    have closing : PTR_SIZE ≤ (front.drop (PTR_SIZE + PTR_SIZE * strings.length) ++
        (texts strings ++ [0])).length := by
      rw [List.length_append, left]
      omega
    rw [setArg, store_numbers_append 0 _ closing, List.drop_append_of_le_length left.ge,
      List.drop_eq_nil_of_le left.le, List.nil_append]
  · have positive : 0 < PTR_SIZE := by decide
    have points := points_starts (show 0 < front.length by omega) strings []
      (by simp only [List.nil_append, List.length_append, List.length_singleton]; omega)
    exact points

/-- The array as the second loop leaves it. -/
theorem keepArgs_texts {ptrs : List Nat} {strings : List CStr} {tail : List UInt8}
    (points : List.Forall₂ (Points (PTR_SIZE * (ptrs.length + 1)) tail) ptrs strings) :
    ∃ kept last,
      keepArgs ptrs.length 0 ⟨numbers PTR_SIZE (ptrs ++ [0]) ++ tail, 0⟩ = some kept ∧
        setArg kept.block kept.num 0 = some last ∧
          kept.num = (strings.filter fun string => string.bytes ≠ []).length ∧
            readArgs last (kept.num + 1) 0 =
              some ((strings.filter fun string => string.bytes ≠ []).map CStr.bytes) := by
  have size (entries : List Nat) (same : entries.length = ptrs.length + 1) :
      (numbers PTR_SIZE entries).length = PTR_SIZE * (ptrs.length + 1) := by
    rw [length_numbers, same]
  obtain ⟨more, left, keptEq, pointsMore, lengths⟩ :=
    keepArgs_eq points [] [] [0] (size _ (by simp))
  simp only [List.nil_append, List.length_nil, Nat.zero_add] at keptEq lengths
  have count := pointsMore.length_eq
  -- the null pointer goes over an address that is not used, or over the first one
  obtain ⟨old, back, behind⟩ : ∃ old back, left ++ [0] = old :: back := by
    cases left with
    | nil => exact ⟨0, [], rfl⟩
    | cons old left => exact ⟨old, left ++ [0], rfl⟩
  have array : more ++ left ++ [0] = more ++ old :: back := by
    rw [List.append_assoc, behind]
  rw [array] at keptEq
  have last := store_numbers PTR_SIZE 0 old more back tail
  refine ⟨_, _, keptEq, last, count, ?_⟩
  have read := readArgs_eq pointsMore [] back (size _ (by
    have total := congrArg List.length behind
    simp only [List.length_append, List.length_cons, List.length_nil] at total ⊢
    omega))
  rw [List.nil_append, List.length_nil, ← count] at read
  exact read

/-- The tool's array holds the strings of the text that are not empty. -/
theorem parseDevlist_texts (fresh : Nat → UInt8) {strings : List CStr}
    (entries : PTR_SIZE * (strings.length + 2) < 2 ^ 31)
    (bounded : (texts strings).length < 2 ^ 31) :
    ∃ args, parseDevlist fresh (texts strings ++ [0]) (texts strings).length = some args ∧
      args.num = (strings.filter fun string => string.bytes ≠ []).length ∧
        readArgs args.block (args.num + 1) 0 =
          some ((strings.filter fun string => string.bytes ≠ []).map CStr.bytes) := by
  have num : ((texts strings ++ [0]).take (texts strings).length).count 0 + 2 =
      strings.length + 2 := by
    rw [List.take_left, count_texts strings]
  have len : toInt32 ((strings.length + 2) * PTR_SIZE % 2 ^ 32) =
      (PTR_SIZE * (strings.length + 2) : Nat) := by
    rw [Nat.mul_comm]
    exact toInt32_mod_of_lt entries
  obtain ⟨front, moved, frontLen, movedEq, endedEq⟩ :=
    memmove_reallocBlock fresh (texts strings) (PTR_SIZE * (strings.length + 2))
  have size : ((((texts strings).length : Int) + (PTR_SIZE * (strings.length + 2) : Nat) + 1) %
      2 ^ 32).toNat = (texts strings).length + PTR_SIZE * (strings.length + 2) + 1 := by
    omega
  have nonneg : ¬ ((PTR_SIZE * (strings.length + 2) : Nat) : Int) < 0 := by omega
  have small : front.length + (texts strings).length + 1 < 256 ^ PTR_SIZE := by
    have pointers : 2 ^ 33 < 256 ^ PTR_SIZE := by decide
    omega
  obtain ⟨first, ptrs, filled, firstEq, filledEq, closedEq, points⟩ :=
    addArgs_texts strings frontLen small
  have count := points.length_eq
  rw [List.length_append, List.length_singleton] at count
  rw [frontLen] at firstEq filledEq points
  have nonempty : ((strings ++ [CStr.empty]).filter fun string => string.bytes ≠ []) =
      strings.filter fun string => string.bytes ≠ [] := by
    rw [List.filter_append]
    simp [CStr.empty]
  obtain ⟨kept, last, keptEq, lastEq, keptNum, read⟩ :=
    keepArgs_texts (show List.Forall₂ (Points (PTR_SIZE * (ptrs.length + 1)) _) _ _ by
      rwa [count])
  rw [nonempty] at keptNum read
  refine ⟨⟨last, kept.num⟩, ?_, keptNum, read⟩
  simp only [parseDevlist, num, len, size, if_neg nonneg, Int.toNat_natCast, movedEq,
    Option.bind_eq_bind, Option.bind_some, endedEq, firstEq, filledEq, closedEq, keptEq, lastEq]

theorem length_addArg {info i : Nat} {args added : Args}
    (addedEq : addArg info i args = some added) : added.block.length = args.block.length := by
  obtain ⟨byte, -, rest⟩ := Option.bind_eq_some_iff.mp addedEq
  split at rest
  · obtain ⟨block, stored, result⟩ := Option.bind_eq_some_iff.mp rest
    obtain rfl := Option.some.inj result
    exact (length_store stored).1
  · obtain rfl := Option.some.inj rest
    rfl

theorem length_addArgs {info count i : Nat} {args filled : Args}
    (filledEq : addArgs info count i args = some filled) :
    filled.block.length = args.block.length := by
  induction count generalizing i args with
  | zero =>
      obtain rfl := Option.some.inj filledEq
      rfl
  | succ count ih =>
      obtain ⟨added, addedEq, rest⟩ := Option.bind_eq_some_iff.mp filledEq
      exact (ih rest).trans (length_addArg addedEq)

theorem length_keepArg {i : Nat} {args kept : Args} (keptEq : keepArg i args = some kept) :
    kept.block.length = args.block.length := by
  obtain ⟨ptr, -, found⟩ := Option.bind_eq_some_iff.mp keptEq
  obtain ⟨byte, -, rest⟩ := Option.bind_eq_some_iff.mp found
  split at rest
  · obtain rfl := Option.some.inj rest
    rfl
  · split at rest
    · obtain ⟨block, stored, result⟩ := Option.bind_eq_some_iff.mp rest
      obtain rfl := Option.some.inj result
      exact (length_store stored).1
    · obtain rfl := Option.some.inj rest
      rfl

theorem length_keepArgs {count i : Nat} {args kept : Args}
    (keptEq : keepArgs count i args = some kept) :
    kept.block.length = args.block.length := by
  induction count generalizing i args with
  | zero =>
      obtain rfl := Option.some.inj keptEq
      rfl
  | succ count ih =>
      obtain ⟨one, oneEq, rest⟩ := Option.bind_eq_some_iff.mp keptEq
      exact (ih rest).trans (length_keepArg oneEq)

/-- The null pointer at the end of the array is inside of the block, whose size is computed
with the length that is left of the array's in an `int`. -/
theorem room_of_parseDevlist {fresh : Nat → UInt8} {info : List UInt8} {ilen : Nat}
    {args : Args} (parsed : parseDevlist fresh info ilen = some args) :
    let len := toInt32 (((info.take ilen).count 0 + 2) * PTR_SIZE % 2 ^ 32)
    0 ≤ len ∧ (PTR_SIZE * (args.num + 1) : Nat) ≤ ilen + len + 1 := by
  intro len
  simp only [parseDevlist] at parsed
  split at parsed
  · contradiction
  · rename_i nonneg
    obtain ⟨moved, movedEq, parsed⟩ := Option.bind_eq_some_iff.mp parsed
    obtain ⟨ended, endedEq, parsed⟩ := Option.bind_eq_some_iff.mp parsed
    obtain ⟨first, firstEq, parsed⟩ := Option.bind_eq_some_iff.mp parsed
    obtain ⟨filled, filledEq, parsed⟩ := Option.bind_eq_some_iff.mp parsed
    obtain ⟨closed, closedEq, parsed⟩ := Option.bind_eq_some_iff.mp parsed
    obtain ⟨kept, keptEq, parsed⟩ := Option.bind_eq_some_iff.mp parsed
    obtain ⟨last, lastEq, result⟩ := Option.bind_eq_some_iff.mp parsed
    obtain rfl := Option.some.inj result
    obtain ⟨data, -, storedEq⟩ := Option.bind_eq_some_iff.mp movedEq
    have moves := (length_store storedEq).1
    have ends := (length_store endedEq).1
    have firsts := (length_store firstEq).1
    have fills := length_addArgs filledEq
    have closes := (length_store closedEq).1
    have keeps := length_keepArgs keptEq
    have room := (length_store lastEq).2
    have block (size : Nat) : (reallocBlock fresh info size).length = size := by
      rw [reallocBlock, List.length_append, List.length_take, length_freshMemory]
      omega
    rw [block] at moves
    rw [length_littleEndian] at room
    dsimp only at fills keeps ⊢
    have total : PTR_SIZE * (kept.num + 1) ≤ ((ilen + len + 1) % 2 ^ 32).toNat := by
      rw [Nat.mul_succ]
      omega
    omega

/-- Each name takes up to sixteen bytes in the text, and two at least. -/
theorem length_texts_names (names : List DevName) :
    2 * names.length ≤ (texts (names.map DevName.toCStr)).length ∧
      (texts (names.map DevName.toCStr)).length ≤ IFNAMSIZ * names.length := by
  induction names with
  | nil => exact ⟨Nat.le_refl _, Nat.le_refl _⟩
  | cons name names ih =>
      have short := name.short
      have nonempty := List.length_pos_of_ne_nil name.nonempty
      rw [List.map_cons, texts_cons, List.length_append, CStr.length_terminated,
        List.length_cons]
      unfold IFNAMSIZ at *
      omega

theorem length_sentStrings (names : List DevName) :
    (sentStrings names).length ≤ names.length + 1 ∧
      (texts (sentStrings names)).length ≤
        (texts (names.map DevName.toCStr)).length + 1 := by
  unfold sentStrings
  split
  · exact ⟨Nat.le_add_left _ _, Nat.le_add_left _ _⟩
  · rw [List.length_map]
    exact ⟨Nat.le_add_right _ _, Nat.le_add_right _ _⟩

theorem filter_sentStrings (names : List DevName) :
    ((sentStrings names).filter fun string => string.bytes ≠ []) =
      names.map DevName.toCStr := by
  unfold sentStrings
  split
  · rename_i none
    simp [none, CStr.empty]
  · rw [List.filter_eq_self]
    intro string member
    obtain ⟨name, -, rfl⟩ := List.mem_map.mp member
    exact decide_eq_true name.nonempty

section
variable (family : Family) (seq pid : Nat) (request : Request)
variable (kmalloc : Kmalloc (Nat → UInt8)) (skb : Bool) (memory : Option (Nat → UInt8))
variable (stack : Int) (devices : List NetDev)

/-- The tool returns the number of devices, and its array holds their names. -/
def RoundTrip : Prop :=
  ∃ received num block,
    ldtNlGetDevlist family seq pid request kmalloc skb devices = some received ∧
      ldtGetDevlist memory received stack = some (num, block) ∧
      num = (ldtNames devices).length ∧
      readArgs block ((ldtNames devices).length + 1) 0 =
        some ((ldtNames devices).map fun name => name.bytes)

variable {kmalloc devices}

theorem roundTrip_of_grants (toolFresh : Nat → UInt8)
    (granted : kmalloc.Grants ((ldtNames devices).length * (IFNAMSIZ + 1) + 1)) :
    RoundTrip family seq pid request kmalloc true (some toolFresh) stack devices := by
  have small := granted.lt
  obtain ⟨fresh, freshEq⟩ := Option.isSome_iff_exists.mp granted
  unfold KMALLOC_LIMIT at small
  have size : kmallocSize (ldtNames devices).length =
      (ldtNames devices).length * (IFNAMSIZ + 1) + 1 := by
    rw [kmallocSize, toInt32_mod_of_lt (by omega)]
    omega
  rw [← size] at freshEq
  obtain ⟨-, fits⟩ := length_texts_names (ldtNames devices)
  obtain ⟨strings, bytes⟩ := length_sentStrings (ldtNames devices)
  unfold IFNAMSIZ at small fits size
  obtain ⟨data, len, listed, dataEq⟩ :=
    kernelLdtGetDevlist_eq freshEq (by omega) (by omega)
  obtain ⟨msg, reply, built, answered, returned⟩ :=
    ldtNlGetanswer_sendInfo family seq pid dataEq (by unfold CHUNKSZ; omega) [] stack
  have entries : PTR_SIZE * ((sentStrings (ldtNames devices)).length + 2) < 2 ^ 31 := by
    unfold PTR_SIZE
    omega
  obtain ⟨args, parsed, num, read⟩ := parseDevlist_texts toolFresh entries (by omega)
  rw [filter_sentStrings, List.length_map] at num
  rw [filter_sentStrings, num, List.map_map] at read
  refine ⟨[.ok msg], args.num, args.block, ?_, ?_, ?_, read⟩
  · simp only [ldtNlGetDevlist, listed, Option.map_some, built]
  · have success : ¬ reply.ret < 0 := by
      rw [returned.ret]
      decide
    simp only [ldtGetDevlist, answered, Option.bind_eq_bind, Option.bind_some, if_neg success,
      returned.data, returned.dlen, parsed]
  · rw [num]

/-- The tool's function fails if the answer tells a failure. -/
theorem ldtGetDevlist_failed {received : List (Except Int (List UInt8))} {reply : InfoReply}
    (answered : ldtNlGetanswer received stack = some reply) (failed : reply.ret < 0) :
    ldtGetDevlist memory received stack = some (reply.ret, []) := by
  simp only [ldtGetDevlist, answered, Option.bind_eq_bind, Option.bind_some, if_pos failed]

/-- After a failed command. -/
theorem ldtNlGetanswer_netlinkAck {error : Int} (lower : -2 ^ 31 ≤ error) (upper : error < 0) :
    ∃ reply, ldtNlGetanswer [.ok (netlinkAck seq pid error request)] stack = some reply ∧
      reply.ret < 0 := by
  have info := ldtGetinfo_netlinkAck seq pid error request true [] lower (by omega)
  have failed : (checkRval (if Netlink.errorCmd error < Netlink.NLMSGERR_LENGTH then
      plainReply RERR_SYSTEM none none
      else plainReply RERR_OK (some (-error)) (some (-error))) stack).ret < 0 := by
    split
    · simp [checkRval, plainReply, RERR_SYSTEM]
    · have nonzero : error ≠ 0 := by omega
      simp [checkRval, plainReply, RERR_OK, RERR_SYSTEM, nonzero]
  exact ⟨_, ldtNlGetanswer_of_failed info failed, failed⟩

/-- After a message whose length is negative as an `int`. -/
theorem ldtNlGetanswer_long {msg : List UInt8} (long : 2 ^ 31 ≤ msg.length)
    (fits : msg.length < 2 ^ 32) :
    ∃ reply, ldtNlGetanswer [.ok msg] stack = some reply ∧ reply.ret < 0 := by
  have negative := toInt32_mod_neg long fits
  have info : ldtGetinfo true [.ok msg] =
      some (plainReply (toInt32 (msg.length % 2 ^ 32)) none none) := by
    rw [ldtGetinfo, if_pos negative]
  have failed : (checkRval (plainReply (toInt32 (msg.length % 2 ^ 32)) none none) stack).ret <
      0 := by
    rw [checkRval, plainReply, if_pos negative]
    exact negative
  exact ⟨_, ldtNlGetanswer_of_failed info failed, failed⟩

/-- There is room for the array only if the size of the module's buffer does not wrap. -/
theorem size_of_room {names : List DevName} (small : kmallocSize names.length < KMALLOC_LIMIT)
    (fits : (texts (names.map DevName.toCStr)).length ≤ kmallocSize names.length)
    (room : (PTR_SIZE * (names.length + 1) : Nat) ≤ (texts (sentStrings names)).length +
      toInt32 (((sentStrings names).length + 2) * PTR_SIZE % 2 ^ 32) + 1) :
    kmallocSize names.length = names.length * (IFNAMSIZ + 1) + 1 := by
  by_cases none : names = []
  · rw [none]
    decide
  · have size := kmallocSize_of_lt small
    obtain ⟨least, -⟩ := length_texts_names names
    rw [sentStrings, if_neg none, List.length_map] at room
    -- the array takes up all of the block if its length has wrapped
    have slots : (names.length + 2) * PTR_SIZE < 2 ^ 31 := by
      unfold PTR_SIZE toInt32 KMALLOC_LIMIT at *
      split at room
      · omega
      · omega
    unfold PTR_SIZE at slots
    unfold KMALLOC_LIMIT IFNAMSIZ at *
    have wraps : (names.length * (16 + 1) + 1) / 2 ^ 32 = 0 ∨
        (names.length * (16 + 1) + 1) / 2 ^ 32 = 1 := by omega
    rcases wraps with zero | one
    · omega
    · omega

/-- The tool's function gets at the names in a message only if it has memory, and the module
had memory for all of them. -/
theorem size_of_ldtGetDevlist {names : List DevName} {attrs : List Attr}
    (small : kmallocSize names.length < KMALLOC_LIMIT)
    (fits : (texts (names.map DevName.toCStr)).length ≤ kmallocSize names.length)
    (carries : Carries attrs (texts (sentStrings names))) {block : List UInt8}
    (returned : ldtGetDevlist memory
      [.ok (message family seq pid LDT_CMD_SEND_INFO (retAttr 0 :: attrs))] stack =
        some ((names.length : Int), block)) :
    kmallocSize names.length = names.length * (IFNAMSIZ + 1) + 1 ∧ memory.isSome = true := by
  have failure {reply : InfoReply} (answered : ldtNlGetanswer
      [.ok (message family seq pid LDT_CMD_SEND_INFO (retAttr 0 :: attrs))] stack =
        some reply) : ¬ reply.ret < 0 := by
    intro failed
    rw [ldtGetDevlist_failed memory stack answered failed, Option.some.injEq,
      Prod.mk.injEq] at returned
    omega
  have total := carries.length_le
  obtain ⟨-, bytes⟩ := length_sentStrings names
  have size : (message family seq pid LDT_CMD_SEND_INFO (retAttr 0 :: attrs)).length <
      2 ^ 32 := by
    rw [length_message, encode_cons, List.length_append, length_retAttr]
    unfold CHUNKSZ at total
    unfold KMALLOC_LIMIT at small
    unfold NLMSG_HDRLEN GENL_HDRLEN
    omega
  by_cases long : 2 ^ 31 ≤
      (message family seq pid LDT_CMD_SEND_INFO (retAttr 0 :: attrs)).length
  · obtain ⟨reply, answered, failed⟩ := ldtNlGetanswer_long stack long size
    exact absurd failed (failure answered)
  · obtain ⟨reply, answered, carried⟩ :=
      ldtNlGetanswer_message family seq pid carries [] stack (Nat.not_le.mp long)
    simp only [ldtGetDevlist, answered, Option.bind_eq_bind, Option.bind_some,
      if_neg (failure answered), carried.data, carried.dlen] at returned
    cases memory with
    | none =>
        have refused : RERR_NOMEM < 0 := by decide
        simp only [Option.some.injEq, Prod.mk.injEq] at returned
        omega
    | some toolFresh =>
        obtain ⟨args, parsed, result⟩ := Option.bind_eq_some_iff.mp returned
        have all : args.num = names.length :=
          Int.ofNat_inj.mp (Prod.mk.inj (Option.some.inj result)).1
        obtain ⟨-, room⟩ := room_of_parseDevlist parsed
        rw [List.take_left, count_texts, all] at room
        exact ⟨size_of_room small fits room, rfl⟩

/-- The list does not get to the tool if memory is short, or is got for fewer names. -/
theorem grants_of_roundTrip
    (roundTrip : RoundTrip family seq pid request kmalloc skb memory stack devices) :
    kmalloc.Grants ((ldtNames devices).length * (IFNAMSIZ + 1) + 1) ∧ skb = true ∧
      memory.isSome = true := by
  obtain ⟨received, num, block, receivedEq, resultEq, rfl, -⟩ := roundTrip
  -- an error of the module gets to the tool as one
  have memoryLeft : received ≠ [.ok (netlinkAck seq pid (-ENOMEM) request)] := by
    rintro rfl
    obtain ⟨reply, answered, failed⟩ :=
      ldtNlGetanswer_netlinkAck seq pid request stack (show -2 ^ 31 ≤ -ENOMEM by decide)
        (by decide)
    rw [ldtGetDevlist_failed memory stack answered failed, Option.some.injEq,
      Prod.mk.injEq] at resultEq
    omega
  obtain ⟨listed, listedEq, messages⟩ := Option.map_eq_some_iff.mp receivedEq
  cases listed with
  | error ret =>
      obtain ⟨rfl, -⟩ := eq_of_kernelLdtGetDevlist_error listedEq
      dsimp only at messages
      rw [answers_of_ne family seq pid request (by decide)] at messages
      exact absurd messages.symm memoryLeft
  | ok sent =>
      obtain ⟨fresh, granted, allocated, fits⟩ := length_le_of_kernelLdtGetDevlist listedEq
      obtain ⟨data, len, sentEq, dataEq⟩ := kernelLdtGetDevlist_eq granted allocated fits
      rw [listedEq, Option.some.injEq, Except.ok.injEq] at sentEq
      subst sentEq
      dsimp only at messages
      cases skb with
      | false =>
          have unsent : sendInfo family seq pid 0 (some data) len false = .error (-ENOMEM) := by
            simp [sendInfo, genlmsgNew]
          rw [unsent] at messages
          exact absurd messages.symm memoryLeft
      | true =>
          have small := kmalloc.limited _ _ granted
          obtain ⟨-, bytes⟩ := length_sentStrings (ldtNames devices)
          obtain ⟨attrs, carries, built⟩ :=
            sendInfo_eq family seq pid 0 dataEq (by unfold CHUNKSZ KMALLOC_LIMIT at *; omega)
          rw [built] at messages
          subst messages
          obtain ⟨size, some⟩ :=
            size_of_ldtGetDevlist family seq pid memory stack small fits carries resultEq
          rw [size] at granted
          exact ⟨Option.isSome_iff_exists.mpr ⟨fresh, granted⟩, rfl, some⟩

/-- The list of devices gets to the tool if there is memory for the names of so many devices in
the module, for its answer, and for the array of the tool. -/
theorem roundTrip_iff_grants :
    RoundTrip family seq pid request kmalloc skb memory stack devices ↔
      kmalloc.Grants ((ldtNames devices).length * (IFNAMSIZ + 1) + 1) ∧ skb = true ∧
        memory.isSome = true := by
  constructor
  · exact grants_of_roundTrip family seq pid request skb memory stack
  · rintro ⟨granted, rfl, some⟩
    obtain ⟨toolFresh, rfl⟩ := Option.isSome_iff_exists.mp some
    exact roundTrip_of_grants family seq pid request stack toolFresh granted

end

/-- With so many devices the size of the buffer wraps around to 17 bytes. -/
def wrappingCount : Nat := 252645136

example : kmallocSize wrappingCount = 17 := by decide

def numberedText (number : Nat) : List UInt8 :=
  ascii "ldt" ++ numberText 10 number

theorem ne_zero_of_mem_numberedText {number : Nat} {byte : UInt8}
    (member : byte ∈ numberedText number) : byte ≠ 0 := by
  rcases List.mem_append.mp member with letter | digit
  · exact ne_zero_of_all (by decide) byte letter
  · obtain ⟨digit, inside, rfl⟩ := List.mem_map.mp digit
    exact digitByte_ne_zero (lt_of_mem_numeral (by decide) inside)

theorem length_numberedText_lt {number : Nat} (small : number < 10 ^ 9) :
    (numberedText number).length < IFNAMSIZ := by
  have digits := length_numeral_le (by decide) (by decide) small
  have letters : (ascii "ldt").length = 3 := by decide
  rw [numberedText, List.length_append, letters, numberText, List.length_map]
  unfold IFNAMSIZ
  omega

/-- The devices `ldt0`, `ldt1` and so on. -/
def numberedDevice (number : Fin wrappingCount) : NetDev where
  name :=
    { bytes := numberedText number
      nonzero := fun _ => ne_zero_of_mem_numberedText
      nonempty := List.append_ne_nil_of_left_ne_nil (by decide) _
      short := length_numberedText_lt (number.isLt.trans (by decide)) }
  isLdt := true

def wrappingDevices : List NetDev :=
  (List.finRange wrappingCount).map numberedDevice

theorem ldtNames_wrappingDevices :
    ldtNames wrappingDevices =
      (List.finRange wrappingCount).map fun number => (numberedDevice number).name := by
  have all : wrappingDevices.filter NetDev.isLdt = wrappingDevices := by
    rw [List.filter_eq_self]
    intro device member
    obtain ⟨number, -, rfl⟩ := List.mem_map.mp member
    rfl
  rw [ldtNames, all, wrappingDevices, List.map_map]
  rfl

theorem nodup_wrappingDevices :
    ((ldtNames wrappingDevices).map fun name => name.bytes).Nodup := by
  rw [ldtNames_wrappingDevices, List.map_map]
  apply (List.nodup_finRange wrappingCount).map
  intro first second same
  exact Fin.ext (numberText_injective (by decide) (by decide) (List.append_cancel_left same))

/-- So many devices with names of their own, and memory of every size below the limit: the
module gets 17 bytes and writes the names behind them. -/
theorem not_roundTrip_wrappingCount :
    ((ldtNames wrappingDevices).map fun name => name.bytes).Nodup ∧
      kernelLdtGetDevlist (.generous fun _ => 0) wrappingDevices = none ∧
      ¬ RoundTrip assignedFamily 7 1000 emptyRequest (.generous fun _ => 0) true
        (some fun _ => 0) 0 wrappingDevices := by
  have count : (ldtNames wrappingDevices).length = wrappingCount := by
    rw [ldtNames_wrappingDevices, List.length_map, List.length_finRange]
  have size : kmallocSize (ldtNames wrappingDevices).length = 17 := by
    rw [count]
    decide
  have outside : kernelLdtGetDevlist (.generous fun _ => 0) wrappingDevices = none := by
    cases listed : kernelLdtGetDevlist (.generous fun _ => 0) wrappingDevices with
    | none => rfl
    | some result =>
        cases result with
        | error ret =>
            have granted : (Kmalloc.generous fun _ : Nat => (0 : UInt8)).Grants 17 := by decide
            obtain ⟨-, refused⟩ := eq_of_kernelLdtGetDevlist_error listed
            rw [size] at refused
            exact absurd granted refused
        | ok sent =>
            obtain ⟨fresh, -, -, fits⟩ := length_le_of_kernelLdtGetDevlist listed
            obtain ⟨least, -⟩ := length_texts_names (ldtNames wrappingDevices)
            rw [count] at least
            rw [size] at fits
            unfold wrappingCount at least
            omega
  refine ⟨nodup_wrappingDevices, outside, ?_⟩
  rintro ⟨received, num, block, receivedEq, -⟩
  rw [ldtNlGetDevlist, outside] at receivedEq
  cases receivedEq

end Tunprox.DeviceList
