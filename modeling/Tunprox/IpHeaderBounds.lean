import Tunprox.IpHeader

/-!
# Reads of the packet headers

Which packets `ldt_ip.c` reads past their end or before their beginning.  The walk over the
extension headers is the sequence of the calls of `getipv6exthdrlen`; in each of them the
pointer and the remaining size add up to the length of the packet.  The walk goes forward
and ends, unless it comes to a header whose length byte is negative as a `char`, or to a
fragment header with nothing left of the packet.  `ldt_l4hdrlen` tests for one byte less than
it reads.
-/

namespace Tunprox.IpHeaderBounds

open Errno IpHeader

/-- The calls of `getipv6exthdrlen` that `ldt_iphdrlen` gets to. -/
inductive Reached (buffer : List UInt8) : ExtCall → Prop where
  | start {first next : UInt8} (long : 40 ≤ buffer.length)
      (version : byteAt buffer 0 = some first) (isIpv6 : tpGetpkttype first = 6)
      (field : byteAt buffer 6 = some next) : Reached buffer (firstCall buffer next)
  | nested {call next : ExtCall} {len : Int} (reached : Reached buffer call)
      (stepped : extStep buffer call = .nested len next) : Reached buffer next

/-- A header that the walk cannot deal with: one with a length byte from 128 on, or a
fragment header behind the end of the packet. -/
def BadHeader (buffer : List UInt8) (call : ExtCall) : Prop :=
  ((call.prot = 0 ∨ call.prot = 43 ∨ call.prot = 60) ∧ 2 ≤ call.sz ∧
      ∃ second, byteAt buffer (call.data + 1) = some second ∧ 128 ≤ second.toNat) ∨
    (call.prot = 44 ∧ call.sz = 0)

/-- `ldt_iphdrlen` returns, without reads outside of the packet, an error or a length within
the packet, and its calls of `getipv6exthdrlen` are for ever smaller sizes. -/
structure IphdrlenSafe (buffer : List UInt8) : Prop where
  returns : ∃ fuel result, ldtIphdrlen fuel buffer = some result ∧
    (result.1 = -EINVAL ∨ 0 ≤ result.1 ∧ result.1 ≤ buffer.length)
  decreasing : ∀ call len next, Reached buffer call →
    extStep buffer call = .nested len next → next.sz < call.sz

/-- The functions read only bytes of the packet, and `ldt_iphdrlen` is safe. -/
def HeadersSafe (prot : Int) (buffer : List UInt8) : Prop :=
  ldtMsglen buffer ≠ none ∧ IphdrlenSafe buffer ∧ ldtL4hdrlen prot buffer ≠ none

/-- A call inside of the packet, with what is left of it. -/
structure Inside (buffer : List UInt8) (call : ExtCall) : Prop where
  data_nonneg : 0 ≤ call.data
  sz_nonneg : 0 ≤ call.sz
  total : call.data + call.sz = buffer.length

/-- What a call inside of the packet comes to when its header is not a bad one: a result
between zero and the size, or a call inside of the packet for a smaller size. -/
theorem extStep_cases {buffer : List UInt8} {call : ExtCall} (inside : Inside buffer call)
    (fine : ¬ BadHeader buffer call) :
    (∃ ret l4prot, extStep buffer call = .returns ret l4prot ∧ 0 ≤ ret ∧ ret ≤ call.sz) ∨
      ∃ len next, extStep buffer call = .nested len next ∧ 0 < len ∧
        next.sz = call.sz - len ∧ Inside buffer next := by
  obtain ⟨lower, size, total⟩ := inside
  have nonneg : ¬ call.sz < 0 := Int.not_lt.mpr size
  unfold extStep
  rw [if_neg nonneg]
  by_cases options : call.prot = 0 ∨ call.prot = 43 ∨ call.prot = 60
  · rw [if_pos options]
    by_cases short : call.sz < 2
    · rw [if_pos short]
      exact Or.inl ⟨_, _, rfl, size, Int.le_refl _⟩
    · obtain ⟨first, firstEq⟩ := exists_byteAt buffer call.data lower (by omega)
      obtain ⟨second, secondEq⟩ :=
        exists_byteAt buffer (call.data + 1) (by omega) (by omega)
      have small : second.toNat < 128 := by
        by_contra large
        exact fine (Or.inl ⟨options, by omega, second, secondEq, by omega⟩)
      have lenEq := extLen_of_lt small
      rw [if_neg short, firstEq, secondEq]
      simp only
      split_ifs with beyond
      · exact Or.inl ⟨_, _, rfl, size, Int.le_refl _⟩
      · refine Or.inr ⟨_, _, rfl, by omega, rfl, ⟨?_, ?_, ?_⟩⟩
        · simp only
          omega
        · simp only
          omega
        · simp only
          omega
  · rw [if_neg options]
    by_cases fragment : call.prot = 44
    · have nonempty : call.sz ≠ 0 := fun empty => fine (Or.inr ⟨fragment, empty⟩)
      obtain ⟨first, firstEq⟩ := exists_byteAt buffer call.data lower (by omega)
      rw [if_pos fragment, firstEq]
      simp only
      split_ifs with short
      · exact Or.inl ⟨_, _, rfl, size, Int.le_refl _⟩
      · refine Or.inr ⟨_, _, rfl, by omega, rfl, ⟨?_, ?_, ?_⟩⟩
        · simp only
          omega
        · simp only
          omega
        · simp only
          omega
    · rw [if_neg fragment]
      exact Or.inl ⟨_, _, rfl, Int.le_refl _, size⟩

/-- The pointer and the size add up to the length of the packet, however the walk goes. -/
theorem total_of_reached {buffer : List UInt8} {call : ExtCall}
    (reached : Reached buffer call) : call.data + call.sz = buffer.length := by
  induction reached with
  | start long version isIpv6 field =>
      simp only [firstCall]
      omega
  | nested reached stepped ih =>
      obtain ⟨first, -, rfl⟩ := extStep_nested stepped
      simp only
      omega

theorem inside_of_reached {buffer : List UInt8}
    (fine : ∀ call, Reached buffer call → ¬ BadHeader buffer call) {call : ExtCall}
    (reached : Reached buffer call) : Inside buffer call := by
  induction reached with
  | start long version isIpv6 field =>
      refine ⟨?_, ?_, ?_⟩ <;> simp only [firstCall] <;> omega
  | nested reached stepped ih =>
      rcases extStep_cases ih (fine _ reached) with
        ⟨ret, l4prot, returned, -⟩ | ⟨len, next, called, -, -, inside⟩
      · rw [stepped] at returned
        contradiction
      · rw [stepped, ExtStep.nested.injEq] at called
        rw [called.2]
        exact inside

/-- Without bad headers the walk ends, and its result is within what is left. -/
theorem getipv6exthdrlen_returns {buffer : List UInt8}
    (fine : ∀ call, Reached buffer call → ¬ BadHeader buffer call) (fuel : Nat)
    {call : ExtCall} (reached : Reached buffer call) (enough : call.sz < fuel) :
    ∃ result, getipv6exthdrlen buffer fuel call = some result ∧
      0 ≤ result.1 ∧ result.1 ≤ call.sz := by
  induction fuel generalizing call with
  | zero =>
      have size := (inside_of_reached fine reached).sz_nonneg
      exact absurd size (Int.not_le.mpr enough)
  | succ fuel ih =>
      rw [getipv6exthdrlen]
      rcases extStep_cases (inside_of_reached fine reached) (fine call reached) with
        ⟨ret, l4prot, returned, lower, upper⟩ | ⟨len, next, called, forward, szEq, -⟩
      · rw [returned]
        exact ⟨_, rfl, lower, upper⟩
      · obtain ⟨result, resultEq, lower, upper⟩ := ih (.nested reached called) (by omega)
        have nonneg : ¬ result.1 < 0 := Int.not_lt.mpr lower
        rw [called]
        simp only [resultEq, Option.map_some, addLen, if_neg nonneg]
        exact ⟨_, rfl, by simp only; omega, by simp only; omega⟩

/-- A call that returns has not read outside of the packet, and neither have the calls it
makes. -/
theorem returns_of_getipv6exthdrlen {buffer : List UInt8} {fuel : Nat} {call : ExtCall}
    {result : Int × Option Int} (returned : getipv6exthdrlen buffer fuel call = some result) :
    extStep buffer call ≠ .outside ∧
      ∀ len next, extStep buffer call = .nested len next →
        ∃ fuel result, getipv6exthdrlen buffer fuel next = some result := by
  cases fuel with
  | zero => contradiction
  | succ fuel =>
      rw [getipv6exthdrlen] at returned
      cases stepped : extStep buffer call with
      | outside =>
          rw [stepped] at returned
          contradiction
      | returns ret l4prot => exact ⟨nofun, nofun⟩
      | nested len next =>
          rw [stepped] at returned
          obtain ⟨inner, innerEq, -⟩ := Option.map_eq_some_iff.mp returned
          refine ⟨nofun, ?_⟩
          intro otherLen other same
          rw [ExtStep.nested.injEq] at same
          rw [← same.2]
          exact ⟨fuel, inner, innerEq⟩

theorem reached_returns {buffer : List UInt8} {fuel : Nat} {result : Int × Option Int}
    (returned : ldtIphdrlen fuel buffer = some result) {call : ExtCall}
    (reached : Reached buffer call) :
    ∃ fuel result, getipv6exthdrlen buffer fuel call = some result := by
  induction reached with
  | start long version isIpv6 field =>
      have nonempty : ¬ buffer.length = 0 := by omega
      have complete : ¬ buffer.length < 40 := by omega
      rw [ldtIphdrlen, if_neg nonempty, version, Option.bind_some] at returned
      simp only [isIpv6] at returned
      rw [ldtIpv6hdrlen, if_neg complete, field, Option.bind_some] at returned
      obtain ⟨inner, innerEq, -⟩ := Option.map_eq_some_iff.mp returned
      exact ⟨fuel, inner, innerEq⟩
  | nested reached stepped ih =>
      obtain ⟨fuel, result, resultEq⟩ := ih
      exact (returns_of_getipv6exthdrlen resultEq).2 _ _ stepped

/-- A bad header reads outside of the packet, or goes back. -/
theorem extStep_of_badHeader {buffer : List UInt8} {call : ExtCall}
    (reached : Reached buffer call) (bad : BadHeader buffer call) :
    extStep buffer call = .outside ∨
      ∃ len next, extStep buffer call = .nested len next ∧ call.sz < next.sz := by
  unfold extStep
  rcases bad with ⟨options, size, second, secondEq, large⟩ | ⟨fragment, empty⟩
  · have nonneg : ¬ call.sz < 0 := by omega
    have long : ¬ call.sz < 2 := by omega
    have lenEq := extLen_eq second
    have negative := (toChar_neg_iff second).mpr large
    have fits : ¬ call.sz < extLen second := by omega
    rw [if_neg nonneg, if_pos options, if_neg long, secondEq]
    cases byteAt buffer call.data with
    | none => exact Or.inl rfl
    | some first =>
        simp only [if_neg fits]
        exact Or.inr ⟨_, _, rfl, by simp only; omega⟩
  · have total := total_of_reached reached
    have nonneg : ¬ call.sz < 0 := by omega
    have noOptions : ¬ (call.prot = 0 ∨ call.prot = 43 ∨ call.prot = 60) := by omega
    have behind : byteAt buffer call.data = none := byteAt_eq_none_iff.mpr (by omega)
    rw [if_neg nonneg, if_neg noOptions, if_pos fragment, behind]
    exact Or.inl rfl

theorem ldtIpv4hdrlen_returns (buffer : List UInt8) :
    ∃ result, ldtIpv4hdrlen buffer = some result ∧
      0 ≤ result.1 ∧ result.1 ≤ buffer.length := by
  unfold ldtIpv4hdrlen
  split_ifs with short
  · exact ⟨_, rfl, Int.natCast_nonneg _, Int.le_refl _⟩
  · obtain ⟨first, firstEq⟩ := exists_byteAt buffer 0 (by omega) (by omega)
    obtain ⟨protocol, protocolEq⟩ := exists_byteAt buffer 9 (by omega) (by omega)
    rw [firstEq, Option.bind_some, protocolEq]
    split_ifs with beyond
    · exact ⟨_, rfl, Int.natCast_nonneg _, Int.le_refl _⟩
    · exact ⟨_, rfl, Int.natCast_nonneg _, by simp only; omega⟩

/-- Without bad headers `ldt_iphdrlen` returns a length within the packet. -/
theorem ldtIphdrlen_returns {buffer : List UInt8}
    (fine : ∀ call, Reached buffer call → ¬ BadHeader buffer call) :
    ∃ fuel result, ldtIphdrlen fuel buffer = some result ∧
      0 ≤ result.1 ∧ result.1 ≤ buffer.length := by
  refine ⟨buffer.length, ?_⟩
  unfold ldtIphdrlen
  split_ifs with empty
  · exact ⟨_, rfl, Int.le_refl _, Int.natCast_nonneg _⟩
  · obtain ⟨first, firstEq⟩ := exists_byteAt buffer 0 (by omega) (by omega)
    rw [firstEq, Option.bind_some]
    split
    · exact ⟨_, rfl, Int.natCast_nonneg _, Int.le_refl _⟩
    · exact ldtIpv4hdrlen_returns buffer
    · rename_i isIpv6
      unfold ldtIpv6hdrlen
      split_ifs with short
      · exact ⟨_, rfl, Int.natCast_nonneg _, Int.le_refl _⟩
      · obtain ⟨next, nextEq⟩ := exists_byteAt buffer 6 (by omega) (by omega)
        have reached : Reached buffer (firstCall buffer next) :=
          .start (by omega) firstEq isIpv6 nextEq
        obtain ⟨result, resultEq, lower, upper⟩ :=
          getipv6exthdrlen_returns fine buffer.length reached
            (by simp only [firstCall]; omega)
        have nonneg : ¬ result.1 < 0 := Int.not_lt.mpr lower
        simp only [firstCall] at upper
        rw [nextEq, Option.bind_some, resultEq, Option.map_some, addLen, if_neg nonneg]
        exact ⟨_, rfl, by simp only; omega, by simp only; omega⟩
    · exact ⟨_, rfl, Int.natCast_nonneg _, Int.le_refl _⟩

/-- `ldt_iphdrlen` is safe exactly for the packets without bad headers. -/
theorem iphdrlenSafe_iff (buffer : List UInt8) :
    IphdrlenSafe buffer ↔ ∀ call, Reached buffer call → ¬ BadHeader buffer call := by
  constructor
  · rintro ⟨⟨fuel, result, returned, -⟩, decreasing⟩ call reached bad
    obtain ⟨inner, innerResult, innerEq⟩ := reached_returns returned reached
    rcases extStep_of_badHeader reached bad with outside | ⟨len, next, stepped, larger⟩
    · exact (returns_of_getipv6exthdrlen innerEq).1 outside
    · exact absurd (decreasing call len next reached stepped) (Int.not_lt.mpr (Int.le_of_lt larger))
  · intro fine
    constructor
    · obtain ⟨fuel, result, returned, within⟩ := ldtIphdrlen_returns fine
      exact ⟨fuel, result, returned, Or.inr within⟩
    · intro call len next reached stepped
      rcases extStep_cases (inside_of_reached fine reached) (fine call reached) with
        ⟨ret, l4prot, returned, -⟩ | ⟨forward, other, called, positive, szEq, -⟩
      · rw [stepped] at returned
        contradiction
      · rw [stepped, ExtStep.nested.injEq] at called
        rw [called.2]
        omega

/-- `ldt_msglen` reads only what it has tested for. -/
theorem ldtMsglen_ne_none (buffer : List UInt8) : ldtMsglen buffer ≠ none := by
  rw [Option.ne_none_iff_isSome]
  unfold ldtMsglen
  split_ifs with short
  · rfl
  · obtain ⟨first, firstEq⟩ := exists_byteAt buffer 0 (by omega) (by omega)
    rw [firstEq, Option.bind_some]
    split
    · obtain ⟨word, wordEq⟩ := exists_u16At buffer 2 (by omega) (by omega)
      rw [getipv4msglen, if_neg short, wordEq]
      rfl
    · unfold getipv6msglen
      split_ifs with shorter
      · rfl
      · obtain ⟨word, wordEq⟩ := exists_u16At buffer 4 (by omega) (by omega)
        rw [wordEq]
        rfl
    · obtain ⟨length, lengthEq⟩ := exists_byteAt buffer 1 (by omega) (by omega)
      rw [ldtProt1msglen, if_neg short, firstEq, Option.bind_some, lengthEq]
      split_ifs <;> rfl
    · rfl

/-- The packets that `ldt_l4hdrlen` reads one byte behind. -/
def OneByteShort (prot : Int) (buffer : List UInt8) : Prop :=
  (prot = 6 ∧ buffer.length = 12) ∨ (prot = 33 ∧ buffer.length = 4)

theorem ldtL4hdrlen_ne_none_iff (prot : Int) (buffer : List UInt8) :
    ldtL4hdrlen prot buffer ≠ none ↔ ¬ OneByteShort prot buffer := by
  have reads (offset : Nat) : byteAt buffer offset ≠ none ↔ offset < buffer.length := by
    rw [ne_eq, byteAt_eq_none_iff, not_not]
    omega
  have twelve := reads 12
  have four := reads 4
  unfold ldtL4hdrlen OneByteShort
  split_ifs with tcp short udp dccp short
  · simp only [ne_eq, reduceCtorEq, not_false_eq_true, true_iff]
    omega
  · rw [ne_eq, Option.map_eq_none_iff, ← ne_eq]
    refine twelve.trans ?_
    omega
  · simp only [ne_eq, reduceCtorEq, not_false_eq_true, true_iff]
    omega
  · simp only [ne_eq, reduceCtorEq, not_false_eq_true, true_iff]
    omega
  · rw [ne_eq, Option.map_eq_none_iff, ← ne_eq]
    refine four.trans ?_
    omega
  · simp only [ne_eq, reduceCtorEq, not_false_eq_true, true_iff]
    omega

/-- The functions are safe for a packet if and only if the walk over its extension headers
comes to no bad one, and it is not one byte too short for the header of its protocol. -/
theorem headersSafe_iff (prot : Int) (buffer : List UInt8) :
    HeadersSafe prot buffer ↔
      (∀ call, Reached buffer call → ¬ BadHeader buffer call) ∧
        ¬ OneByteShort prot buffer := by
  unfold HeadersSafe
  rw [iphdrlenSafe_iff, ldtL4hdrlen_ne_none_iff]
  exact and_iff_right (ldtMsglen_ne_none buffer)

/-- An IPv6 packet with a header of hop-by-hop options whose length byte is 128. -/
def backwardPacket : List UInt8 :=
  [0x60, 0, 0, 0, 0, 8, 0, 64] ++ List.replicate 32 0 ++ [59, 0x80, 0, 0, 0, 0, 0, 0]

/-- Of a segment of twelve bytes the thirteenth is read, and the walk over the extension
headers of the packet goes back by 1023 bytes. -/
theorem not_headersSafe_short_and_backward :
    ¬ HeadersSafe 6 (List.replicate 12 0) ∧ ¬ HeadersSafe 17 backwardPacket := by
  constructor
  · intro safe
    exact safe.2.2 rfl
  · intro safe
    have reached : Reached backwardPacket (firstCall backwardPacket 0) :=
      .start (by decide) (show byteAt backwardPacket 0 = some 0x60 from rfl) rfl rfl
    have smaller := safe.2.1.decreasing _ (-1023) ⟨59, -983, 1031⟩ reached rfl
    exact absurd smaller (by decide)

end Tunprox.IpHeaderBounds
