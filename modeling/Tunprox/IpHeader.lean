import Tunprox.TunAddr

/-!
# The lengths of packet headers

The functions of `ldt_ip.c`, which read from a packet how long it is, how long its IP header
is with the extension headers, and how long the header of the layer above is.  The packet is
a buffer of `char`, which is signed, and the pointer into it that the functions pass on is
the offset from its start, which may be negative.  A read outside of the buffer makes a
result `none`.
-/

namespace Tunprox.IpHeader

open Errno

/-- A byte as a `char`. -/
def toChar (byte : UInt8) : Int :=
  if byte.toNat < 128 then byte.toNat else byte.toNat - 256

/-- The byte of the buffer at an offset. -/
def byteAt (buffer : List UInt8) (offset : Int) : Option UInt8 :=
  if offset < 0 then none else buffer[offset.toNat]?

/-- `*(u16*)(buf+offset)` on a little-endian machine. -/
def u16At (buffer : List UInt8) (offset : Int) : Option Nat :=
  (byteAt buffer offset).bind fun first =>
    (byteAt buffer (offset + 1)).map fun second => first.toNat + 256 * second.toNat

/-- `getipv4msglen` -/
def getipv4msglen (buffer : List UInt8) : Option Int :=
  if buffer.length < 4 then some (-EMSGSIZE)
  else (u16At buffer 2).map fun word => htons word

/-- `getipv6msglen` -/
def getipv6msglen (buffer : List UInt8) : Option Int :=
  if buffer.length < 6 then some (-EMSGSIZE)
  else (u16At buffer 4).map fun word => 40 + htons word

/-- `ldt_prot1msglen` -/
def ldtProt1msglen (buffer : List UInt8) : Option Int :=
  if buffer.length < 4 then some (-EBADMSG)
  else
    (byteAt buffer 0).bind fun first =>
      if !tpIsprot1 first then some (-EBADMSG)
      else (byteAt buffer 1).map fun length => length.toNat * 4

/-- `ldt_msglen` -/
def ldtMsglen (buffer : List UInt8) : Option Int :=
  if buffer.length < 4 then some (-EMSGSIZE)
  else
    (byteAt buffer 0).bind fun first =>
      match tpGetpkttype first with
      | 4 => getipv4msglen buffer
      | 6 => getipv6msglen buffer
      | 1 => ldtProt1msglen buffer
      | _ => some (-EBADMSG)

/-- `ldt_ipv4hdrlen`: what it returns, and what it stores in `*l4prot`, if anything. -/
def ldtIpv4hdrlen (buffer : List UInt8) : Option (Int × Option Int) :=
  if buffer.length < 20 then some (buffer.length, none)
  else
    (byteAt buffer 0).bind fun first =>
      if buffer.length < first.toNat % 16 * 4 then some (buffer.length, none)
      else
        (byteAt buffer 9).map fun protocol =>
          ((first.toNat % 16 * 4 : Nat), some (protocol.toNat : Int))

/-- The arguments of `getipv6exthdrlen`. -/
structure ExtCall where
  prot : Int
  data : Int
  sz : Int
  deriving DecidableEq

/-- `(((unsigned)data[1]) << 3) + 1`, where `data[1]` is widened with its sign. -/
def extLen (second : UInt8) : Int :=
  toInt32 (((toChar second % 2 ^ 32).toNat * 8 + 1) % 2 ^ 32)

/-- What a call of `getipv6exthdrlen` comes to: a read outside of the buffer, its result, or
another call behind a header of some length. -/
inductive ExtStep where
  | outside
  | returns (ret : Int) (l4prot : Option Int)
  | nested (len : Int) (call : ExtCall)
  deriving DecidableEq

/-- The body of `getipv6exthdrlen` up to the call of itself. -/
def extStep (buffer : List UInt8) (call : ExtCall) : ExtStep :=
  if call.sz < 0 then .returns (-EINVAL) none
  else if call.prot = 0 ∨ call.prot = 43 ∨ call.prot = 60 then
    if call.sz < 2 then .returns call.sz none
    else
      match byteAt buffer (call.data + 1), byteAt buffer call.data with
      | some second, some first =>
          if call.sz < extLen second then .returns call.sz none
          else
            .nested (extLen second)
              ⟨toChar first, call.data + extLen second, call.sz - extLen second⟩
      | _, _ => .outside
  else if call.prot = 44 then
    match byteAt buffer call.data with
    | none => .outside
    | some first =>
        if call.sz < 8 then .returns call.sz none
        else .nested 8 ⟨toChar first, call.data + 8, call.sz - 8⟩
  else .returns 0 (some call.prot)

/-- The end of `getipv6exthdrlen` behind the call of itself. -/
def addLen (len : Int) (result : Int × Option Int) : Int × Option Int :=
  if result.1 < 0 then result else (len + result.1, result.2)

/-- `getipv6exthdrlen`, if it returns within that many nested calls. -/
def getipv6exthdrlen (buffer : List UInt8) : Nat → ExtCall → Option (Int × Option Int)
  | 0, _ => none
  | fuel + 1, call =>
      match extStep buffer call with
      | .outside => none
      | .returns ret l4prot => some (ret, l4prot)
      | .nested len next => (getipv6exthdrlen buffer fuel next).map (addLen len)

/-- The call that `ldt_ipv6hdrlen` makes for a next header. -/
def firstCall (buffer : List UInt8) (next : UInt8) : ExtCall :=
  ⟨toChar next, 40, buffer.length - 40⟩

/-- `ldt_ipv6hdrlen` -/
def ldtIpv6hdrlen (fuel : Nat) (buffer : List UInt8) : Option (Int × Option Int) :=
  if buffer.length < 40 then some (buffer.length, none)
  else
    (byteAt buffer 6).bind fun next =>
      (getipv6exthdrlen buffer fuel (firstCall buffer next)).map (addLen 40)

/-- `ldt_iphdrlen` -/
def ldtIphdrlen (fuel : Nat) (buffer : List UInt8) : Option (Int × Option Int) :=
  if buffer.length = 0 then some (0, none)
  else
    (byteAt buffer 0).bind fun first =>
      match tpGetpkttype first with
      | 1 => some (buffer.length, none)
      | 4 => ldtIpv4hdrlen buffer
      | 6 => ldtIpv6hdrlen fuel buffer
      | _ => some (buffer.length, none)

/-- `ldt_l4hdrlen` -/
def ldtL4hdrlen (prot : Int) (buffer : List UInt8) : Option Int :=
  if prot = 6 then
    if buffer.length < 12 then some (-EBADMSG)
    else (byteAt buffer 12).map fun byte => (byte.toNat / 16 * 4 : Nat)
  else if prot = 17 ∨ prot = 136 then some 8
  else if prot = 33 then
    if buffer.length < 4 then some (-EBADMSG)
    else (byteAt buffer 4).map fun byte => byte.toNat * 4
  else some buffer.length

theorem toChar_of_lt {byte : UInt8} (small : byte.toNat < 128) : toChar byte = byte.toNat :=
  if_pos small

theorem toChar_neg_iff (byte : UInt8) : toChar byte < 0 ↔ 128 ≤ byte.toNat := by
  have bounded := byte.toNat_lt
  unfold toChar
  split_ifs <;> omega

/-- The length is eight times the signed byte and one more, so that it is negative from 128
on. -/
theorem extLen_eq (second : UInt8) : extLen second = 8 * toChar second + 1 := by
  have bounded := second.toNat_lt
  unfold extLen
  by_cases small : second.toNat < 128
  · rw [toChar_of_lt small]
    have narrow : (((second.toNat : Int) % 2 ^ 32).toNat * 8 + 1) % 2 ^ 32 =
        second.toNat * 8 + 1 := by
      omega
    rw [narrow, toInt32, if_pos (by omega)]
    push_cast
    omega
  · have negative : toChar second = second.toNat - 256 := if_neg small
    rw [negative]
    have wrapped : ((((second.toNat : Int) - 256) % 2 ^ 32).toNat * 8 + 1) % 2 ^ 32 =
        2 ^ 32 + second.toNat * 8 + 1 - 2048 := by
      omega
    rw [wrapped, toInt32, if_neg (by omega)]
    push_cast
    omega

theorem extLen_of_lt {second : UInt8} (small : second.toNat < 128) :
    extLen second = 8 * second.toNat + 1 := by
  rw [extLen_eq, toChar_of_lt small]

theorem byteAt_isSome_iff {buffer : List UInt8} {offset : Int} :
    (byteAt buffer offset).isSome = true ↔ 0 ≤ offset ∧ offset < buffer.length := by
  unfold byteAt
  split_ifs with negative
  · simp only [Option.isSome_none, Bool.false_eq_true, false_iff]
    omega
  · rw [isSome_getElem?]
    omega

theorem exists_byteAt (buffer : List UInt8) (offset : Int) (lower : 0 ≤ offset)
    (upper : offset < buffer.length) : ∃ byte, byteAt buffer offset = some byte :=
  Option.isSome_iff_exists.mp (byteAt_isSome_iff.mpr ⟨lower, upper⟩)

theorem exists_u16At (buffer : List UInt8) (offset : Int) (lower : 0 ≤ offset)
    (upper : offset + 1 < buffer.length) : ∃ word, u16At buffer offset = some word := by
  obtain ⟨first, firstEq⟩ := exists_byteAt buffer offset lower (by omega)
  obtain ⟨second, secondEq⟩ := exists_byteAt buffer (offset + 1) (by omega) upper
  rw [u16At, firstEq, Option.bind_some, secondEq]
  exact ⟨_, rfl⟩

theorem byteAt_eq_none_iff {buffer : List UInt8} {offset : Int} :
    byteAt buffer offset = none ↔ ¬ (0 ≤ offset ∧ offset < buffer.length) := by
  rw [← byteAt_isSome_iff, Option.isSome_iff_ne_none, not_not]

/-- The number is that of a header that is walked over. -/
def IsExtension (prot : Int) : Prop :=
  prot = 0 ∨ prot = 43 ∨ prot = 60 ∨ prot = 44

/-- Everything the body of `getipv6exthdrlen` can do. -/
inductive ExtOutcome (buffer : List UInt8) (call : ExtCall) : ExtStep → Prop where
  | outside : ExtOutcome buffer call .outside
  | short (ret : Int) : ExtOutcome buffer call (.returns ret none)
  | ended (other : ¬ IsExtension call.prot) :
      ExtOutcome buffer call (.returns 0 (some call.prot))
  | options {first second : UInt8}
      (options : call.prot = 0 ∨ call.prot = 43 ∨ call.prot = 60)
      (firstEq : byteAt buffer call.data = some first)
      (secondEq : byteAt buffer (call.data + 1) = some second) :
      ExtOutcome buffer call
        (.nested (extLen second)
          ⟨toChar first, call.data + extLen second, call.sz - extLen second⟩)
  | fragment {first : UInt8} (fragment : call.prot = 44)
      (firstEq : byteAt buffer call.data = some first) :
      ExtOutcome buffer call (.nested 8 ⟨toChar first, call.data + 8, call.sz - 8⟩)

theorem extOutcome_extStep (buffer : List UInt8) (call : ExtCall) :
    ExtOutcome buffer call (extStep buffer call) := by
  unfold extStep
  split_ifs with negative options short fragment
  · exact .short _
  · exact .short _
  · split
    · rename_i second first secondEq firstEq
      split_ifs
      · exact .short _
      · exact .options options firstEq secondEq
    · exact .outside
  · split
    · exact .outside
    · exact .short _
  · split
    · exact .outside
    · rename_i first firstEq
      exact .fragment fragment firstEq
  · refine .ended ?_
    rintro (zero | routing | destination | isFragment)
    · exact options (Or.inl zero)
    · exact options (Or.inr (Or.inl routing))
    · exact options (Or.inr (Or.inr destination))
    · exact fragment isFragment

/-- Another call goes on behind the header, with the number that the header starts with. -/
theorem extStep_nested {buffer : List UInt8} {call next : ExtCall} {len : Int}
    (stepped : extStep buffer call = .nested len next) :
    ∃ first, byteAt buffer call.data = some first ∧
      next = ⟨toChar first, call.data + len, call.sz - len⟩ := by
  have outcome := extOutcome_extStep buffer call
  rw [stepped] at outcome
  cases outcome with
  | options options firstEq secondEq => exact ⟨_, firstEq, rfl⟩
  | fragment fragment firstEq => exact ⟨_, firstEq, rfl⟩

theorem toChar_lt (byte : UInt8) : toChar byte < 128 := by
  have bounded := byte.toNat_lt
  unfold toChar
  split_ifs <;> omega

/-- What stands at an offset is read there. -/
theorem byteAt_of_drop {buffer after : List UInt8} {byte : UInt8} {offset : Nat}
    (split : buffer.drop offset = byte :: after) : byteAt buffer offset = some byte := by
  have read := congrArg (fun bytes => bytes[0]?) split
  simp only [List.getElem?_drop, Nat.add_zero, List.getElem?_cons_zero] at read
  have nonneg : ¬ (offset : Int) < 0 := by omega
  rw [byteAt, if_neg nonneg, Int.toNat_natCast]
  exact read

end Tunprox.IpHeader
