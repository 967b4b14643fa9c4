import Tunprox.Netlink
import Tunprox.NetlinkMessage

/-!
# Requests of the tool

The tool writes a request into a buffer whose size it estimates from the lengths of the
strings in an `int`, attribute by attribute with `fnl_putattr`, which refuses a payload that
is too long for the length field of an attribute.  `fnl_send` fills in the headers.
-/

namespace Tunprox.NetlinkRequest

open ByteBuffer NetlinkAttribute NetlinkMessage
open Netlink (RERR_INTERNAL)

def NLA_ALIGNTO : Nat := 4

def FNL_MSGMINLEN : Nat := NLMSG_HDRLEN + GENL_HDRLEN + NLA_ALIGNTO + NLA_HDRLEN + 1

def NLM_F_REQUEST : Nat := 1

/-- `malloc` and `bzero` of an `int` of bytes; a negative one is a huge one for `malloc`,
which gets no memory then. -/
def mallocZeroed (len : Nat) : Option (List UInt8) :=
  if toInt32 (len % 2 ^ 32) < 0 then none
  else some (List.replicate (toInt32 (len % 2 ^ 32)).toNat 0)

/-- The message as far as it is written: its buffer, and the pointer behind the last
attribute. -/
structure Written where
  msg : List UInt8
  ptr : Nat

/-- `fnl_setcmd` -/
def fnlSetcmd (msg : List UInt8) (cmd : Nat) : Option (List UInt8) :=
  store msg NLMSG_HDRLEN (littleEndian 1 cmd)

/-- `fnl_putdata` -/
def fnlPutdata (written : Written) (data : List UInt8) : Option Written :=
  if data = [] then some written
  else do
    let copied ← store written.msg written.ptr data
    let padded ← store copied (written.ptr + data.length) (padding data.length)
    some ⟨padded, written.ptr + nlaAlign data.length⟩

/-- `fnl_putattr`, which returns a null pointer for data that is too long.  It gives nothing
if it writes outside of the buffer. -/
def fnlPutattr (written : Written) (attrid : Nat) (data : List UInt8) :
    Option (Option Written) :=
  let dlen := toInt32 (data.length % 2 ^ 32)
  if attrid > 2 ^ 16 - 1 then some none
  else if dlen < 0 ∨ dlen + NLA_HDRLEN > 2 ^ 16 - 1 then some none
  else do
    let headed ← fnlPutdata written
      (littleEndian 2 (data.length + NLA_HDRLEN) ++ littleEndian 2 attrid)
    let full ← fnlPutdata headed data
    some (some full)

/-- `fnl_putattr` for one attribute after the other, until a null pointer is returned. -/
def putAttrs : Written → List (Nat × List UInt8) → Option (Option Written)
  | written, [] => some (some written)
  | written, entry :: entries =>
      match fnlPutattr written entry.1 entry.2 with
      | none => none
      | some none => some none
      | some (some next) => putAttrs next entries

/-- `fnl_send`: the message with its headers. -/
def fnlSend (family : Family) (seq portid : Nat) (msg : List UInt8) : List UInt8 :=
  nlmsghdr msg.length family.id NLM_F_REQUEST seq portid ++ (msg.drop NLMSG_HDRLEN).take 1 ++
    littleEndian 1 LDT_NL_VERSION ++ msg.drop (NLMSG_HDRLEN + 2)

/-- What the functions for the commands have in common.  The pointers behind `entries` are
checked, those behind `unchecked` are not: a null pointer there makes a message of any
length.  `noMem` is what is returned without memory; where that is not checked, the null
pointer is written to. -/
def request (cmd len : Nat) (noMem : Option Int) (entries unchecked : List (Nat × List UInt8)) :
    Option (Except Int (List UInt8)) :=
  match mallocZeroed len with
  | none => noMem.map .error
  | some msg =>
      match fnlSetcmd msg cmd with
      | none => none
      | some msg =>
          match putAttrs ⟨msg, fnlGetmsgdata 0⟩ entries with
          | none => none
          | some none => some (.error RERR_INTERNAL)
          | some (some written) =>
              match putAttrs written unchecked with
              | none => none
              | some none => none
              | some (some written) => some (.ok (written.msg.take written.ptr))

/-- The lengths are those of attributes. -/
def Short (entries : List (Nat × List UInt8)) : Prop :=
  ∀ entry ∈ entries, entry.2.length + NLA_HDRLEN < 2 ^ 16

instance (entries : List (Nat × List UInt8)) : Decidable (Short entries) :=
  inferInstanceAs (Decidable (∀ entry ∈ entries, entry.2.length + NLA_HDRLEN < 2 ^ 16))

/-- Data goes behind what is written, padded with zero bytes. -/
theorem fnlPutdata_eq (before : List UInt8) {rest data : List UInt8}
    (room : nlaAlign data.length ≤ rest.length) :
    fnlPutdata ⟨before ++ rest, before.length⟩ data =
      some ⟨before ++ (data ++ padding data.length) ++ rest.drop (nlaAlign data.length),
        (before ++ (data ++ padding data.length)).length⟩ := by
  have aligned := le_nlaAlign data.length
  by_cases empty : data = []
  · subst empty
    simp [fnlPutdata, padding, nlaAlign]
  · have behind : (padding data.length).length ≤ (rest.drop data.length).length := by
      rw [length_padding, List.length_drop]
      omega
    have position : before.length + data.length = (before ++ data).length := by
      rw [List.length_append]
    have whole : data.length + (padding data.length).length = nlaAlign data.length := by
      rw [length_padding]
      omega
    rw [fnlPutdata, if_neg empty]
    simp only [store_append (aligned.trans room), Option.bind_eq_bind, Option.bind_some,
      position, store_append behind, List.drop_drop, whole]
    simp only [List.append_assoc, List.length_append, whole]

/-- An attribute goes behind what is written, or its data is refused. -/
theorem fnlPutattr_eq (before : List UInt8) {rest data : List UInt8} {attrid : Nat}
    (id_lt : attrid < 2 ^ 14) (bounded : data.length < 2 ^ 31)
    (room : (attrBytes attrid data).length ≤ rest.length) :
    fnlPutattr ⟨before ++ rest, before.length⟩ attrid data =
      if data.length + NLA_HDRLEN < 2 ^ 16 then
        some (some ⟨before ++ attrBytes attrid data ++
            rest.drop (attrBytes attrid data).length,
          (before ++ attrBytes attrid data).length⟩)
      else some none := by
  have dlen := toInt32_mod_of_lt bounded
  have known : ¬ attrid > 2 ^ 16 - 1 := by omega
  have headerLen : (littleEndian 2 (data.length + NLA_HDRLEN) ++
      littleEndian 2 attrid).length = NLA_HDRLEN := by
    rw [List.length_append, length_littleEndian, length_littleEndian]
    rfl
  rw [length_attrBytes, nlaAlign_hdrlen] at room
  have headerRoom : nlaAlign (littleEndian 2 (data.length + NLA_HDRLEN) ++
      littleEndian 2 attrid).length ≤ rest.length := by
    rw [headerLen, show nlaAlign NLA_HDRLEN = NLA_HDRLEN from rfl]
    omega
  have header := fnlPutdata_eq before headerRoom
  rw [headerLen, show padding NLA_HDRLEN = [] from rfl, List.append_nil,
    show nlaAlign NLA_HDRLEN = NLA_HDRLEN from rfl] at header
  by_cases short : data.length + NLA_HDRLEN < 2 ^ 16
  · have accepted :
        ¬ ((data.length : Int) < 0 ∨ (data.length : Int) + NLA_HDRLEN > 2 ^ 16 - 1) := by
      omega
    have payload := fnlPutdata_eq
      (before ++ (littleEndian 2 (data.length + NLA_HDRLEN) ++ littleEndian 2 attrid))
      (show nlaAlign data.length ≤ (rest.drop NLA_HDRLEN).length by
        rw [List.length_drop]
        omega)
    have parts : before ++ (littleEndian 2 (data.length + NLA_HDRLEN) ++
        littleEndian 2 attrid) ++ (data ++ padding data.length) =
          before ++ attrBytes attrid data := by
      simp only [attrBytes, List.append_assoc]
    rw [parts, List.drop_drop] at payload
    rw [fnlPutattr, dlen, if_pos short, if_neg known, if_neg accepted, length_attrBytes,
      nlaAlign_hdrlen]
    simp only [header, payload, Option.bind_eq_bind, Option.bind_some]
  · have refused : (data.length : Int) < 0 ∨ (data.length : Int) + NLA_HDRLEN > 2 ^ 16 - 1 := by
      omega
    rw [fnlPutattr, dlen, if_neg short, if_neg known, if_pos refused]

/-- The attributes go behind one another, unless the data of one of them is refused. -/
theorem putAttrs_eq {entries : List (Nat × List UInt8)} (before : List UInt8)
    {rest : List UInt8}
    (bounded : ∀ entry ∈ entries, entry.1 < 2 ^ 14 ∧ entry.2.length < 2 ^ 31)
    (room : (attrsBytes entries).length ≤ rest.length) :
    putAttrs ⟨before ++ rest, before.length⟩ entries =
      if Short entries then
        some (some ⟨before ++ attrsBytes entries ++ rest.drop (attrsBytes entries).length,
          (before ++ attrsBytes entries).length⟩)
      else some none := by
  induction entries generalizing before rest with
  | nil =>
      rw [if_pos (by simp [Short])]
      simp [putAttrs, attrsBytes]
  | cons entry entries ih =>
      obtain ⟨id_lt, length_lt⟩ := bounded entry List.mem_cons_self
      rw [attrsBytes_cons, List.length_append] at room
      have put := fnlPutattr_eq before id_lt length_lt
        (show (attrBytes entry.1 entry.2).length ≤ rest.length by omega)
      have whole : Short (entry :: entries) ↔
          entry.2.length + NLA_HDRLEN < 2 ^ 16 ∧ Short entries := by
        simp [Short]
      rw [putAttrs, put]
      by_cases short : entry.2.length + NLA_HDRLEN < 2 ^ 16
      · have next := ih (before ++ attrBytes entry.1 entry.2)
          (fun other member => bounded other (List.mem_cons_of_mem _ member))
          (show _ ≤ (rest.drop (attrBytes entry.1 entry.2).length).length by
            rw [List.length_drop]
            omega)
        rw [if_pos short]
        dsimp only
        rw [next]
        simp only [whole, short, true_and, List.drop_drop, attrsBytes_cons, List.append_assoc,
          List.length_append]
      · rw [if_neg short, if_neg (fun all => short (whole.mp all).1)]

section
variable (family : Family) (seq portid cmd : Nat)

/-- The message with the attributes as it is sent. -/
def requestMessage (entries : List (Nat × List UInt8)) : List UInt8 :=
  nlmsghdr (NLMSG_HDRLEN + GENL_HDRLEN + (attrsBytes entries).length) family.id
      NLM_F_REQUEST seq portid ++
    genlmsghdr cmd LDT_NL_VERSION ++ attrsBytes entries

theorem drop_requestMessage (entries : List (Nat × List UInt8)) :
    (requestMessage family seq portid cmd entries).drop (NLMSG_HDRLEN + GENL_HDRLEN) =
      attrsBytes entries := by
  apply drop_append_of_length
  rw [List.length_append, length_nlmsghdr, length_genlmsghdr]

theorem fnlGetcmd_requestMessage (small : cmd < 256) (entries : List (Nat × List UInt8)) :
    fnlGetcmd (requestMessage family seq portid cmd entries) = some cmd := by
  simp only [fnlGetcmd, requestMessage, genlmsghdr, List.append_assoc]
  exact loadNumber_append (length_nlmsghdr ..) small

/-- The start of the buffer after `fnl_setcmd`. -/
def headerSpace : List UInt8 :=
  List.replicate NLMSG_HDRLEN 0 ++ littleEndian 1 cmd ++ List.replicate 3 0

theorem length_headerSpace : (headerSpace cmd).length = NLMSG_HDRLEN + GENL_HDRLEN := by
  simp [headerSpace, NLMSG_HDRLEN, GENL_HDRLEN]

theorem fnlSend_headerSpace (entries : List (Nat × List UInt8)) :
    fnlSend family seq portid (headerSpace cmd ++ attrsBytes entries) =
      requestMessage family seq portid cmd entries := by
  have zeros : (List.replicate NLMSG_HDRLEN (0 : UInt8)).length = NLMSG_HDRLEN :=
    List.length_replicate
  have fromCmd : (headerSpace cmd ++ attrsBytes entries).drop NLMSG_HDRLEN =
      littleEndian 1 cmd ++ ([0] ++ ([0, 0] ++ attrsBytes entries)) := by
    simp only [headerSpace, List.append_assoc]
    exact drop_append_of_length zeros
  have total : (headerSpace cmd ++ attrsBytes entries).length =
      NLMSG_HDRLEN + GENL_HDRLEN + (attrsBytes entries).length := by
    rw [List.length_append, length_headerSpace]
  have one : (littleEndian 1 cmd).length = 1 := length_littleEndian 1 cmd
  rw [fnlSend, ← List.drop_drop, fromCmd, total, List.take_left' one, ← List.append_assoc,
    drop_append_of_length (by rw [List.length_append, one]; rfl)]
  simp only [requestMessage, genlmsghdr, List.append_assoc]
  rfl

/-- The buffer of a request, with the room for its attributes. -/
theorem fnlSetcmd_mallocZeroed {len : Nat} (small : len < 2 ^ 31)
    (room : NLMSG_HDRLEN + GENL_HDRLEN ≤ len) :
    ∃ msg rest, mallocZeroed len = some msg ∧
      fnlSetcmd msg cmd = some (headerSpace cmd ++ rest) ∧
        rest.length = len - (NLMSG_HDRLEN + GENL_HDRLEN) := by
  have sizeEq := toInt32_mod_of_lt small
  have nonneg : ¬ ((len : Nat) : Int) < 0 := by omega
  generalize free : len - (NLMSG_HDRLEN + GENL_HDRLEN) = count
  have headers : len = NLMSG_HDRLEN + (1 + (3 + count)) := by
    unfold NLMSG_HDRLEN GENL_HDRLEN at *
    omega
  refine ⟨List.replicate NLMSG_HDRLEN 0 ++ ([0] ++ (List.replicate 3 0 ++
    List.replicate count 0)), List.replicate count 0, ?_, ?_, List.length_replicate⟩
  · rw [mallocZeroed, sizeEq, if_neg nonneg, Int.toNat_natCast, headers,
      List.replicate_append_replicate.symm, List.replicate_append_replicate.symm,
      List.replicate_append_replicate.symm]
    rfl
  · have stored : store (List.replicate NLMSG_HDRLEN 0 ++ ([0] ++ (List.replicate 3 0 ++
        List.replicate count 0))) (List.replicate NLMSG_HDRLEN (0 : UInt8)).length
          (littleEndian 1 cmd) = some (List.replicate NLMSG_HDRLEN 0 ++ littleEndian 1 cmd ++
            (List.replicate 3 0 ++ List.replicate count 0)) := by
      rw [← List.append_assoc (List.replicate NLMSG_HDRLEN 0) [0]]
      apply store_middle
      rw [length_littleEndian, List.length_singleton]
    rw [List.length_replicate] at stored
    rw [fnlSetcmd, stored, headerSpace]
    simp only [List.append_assoc]

/-- A request whose buffer is too large for an `int`. -/
theorem request_of_le {len : Nat} (noMem : Option Int)
    (entries unchecked : List (Nat × List UInt8)) (large : 2 ^ 31 ≤ len) (fits : len < 2 ^ 32) :
    request cmd len noMem entries unchecked = noMem.map .error := by
  rw [request, mallocZeroed, if_pos (toInt32_mod_neg large fits)]

/-- A request whose buffer is large enough: it is refused if one of the checked attributes
is too long, and sent otherwise. -/
theorem request_eq {len : Nat} (noMem : Option Int) {entries unchecked : List (Nat × List UInt8)}
    (small : len < 2 ^ 31)
    (bounded : ∀ entry ∈ entries ++ unchecked, entry.1 < 2 ^ 14 ∧ entry.2.length < 2 ^ 31)
    (room : NLMSG_HDRLEN + GENL_HDRLEN + (attrsBytes (entries ++ unchecked)).length ≤ len)
    (last : Short unchecked) :
    (request cmd len noMem entries unchecked).map (Except.map (fnlSend family seq portid)) =
      some (if Short entries then
        .ok (requestMessage family seq portid cmd (entries ++ unchecked))
      else .error RERR_INTERNAL) := by
  have parts : attrsBytes (entries ++ unchecked) = attrsBytes entries ++ attrsBytes unchecked :=
    List.flatMap_append
  rw [parts, List.length_append] at room
  obtain ⟨msg, rest, allocated, headed, free⟩ := fnlSetcmd_mallocZeroed cmd small (by omega)
  have first := putAttrs_eq (headerSpace cmd)
    (fun entry member => bounded entry (List.mem_append_left _ member))
    (show (attrsBytes entries).length ≤ rest.length by omega)
  have start : fnlGetmsgdata 0 = (headerSpace cmd).length := by
    rw [length_headerSpace]
    rfl
  rw [request, allocated]
  dsimp only
  rw [headed]
  dsimp only
  rw [start, first]
  by_cases short : Short entries
  · have second := putAttrs_eq (headerSpace cmd ++ attrsBytes entries)
      (fun entry member => bounded entry (List.mem_append_right _ member))
      (show (attrsBytes unchecked).length ≤
          (rest.drop (attrsBytes entries).length).length by
        rw [List.length_drop]
        omega)
    rw [if_pos short, if_pos short]
    dsimp only
    rw [second, if_pos last]
    dsimp only
    rw [List.take_left, List.append_assoc, ← parts, ← fnlSend_headerSpace]
    rfl
  · rw [if_neg short, if_neg short]
    rfl

end

end Tunprox.NetlinkRequest
