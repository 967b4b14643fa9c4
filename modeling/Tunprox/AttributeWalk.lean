import Tunprox.Netlink
import Tunprox.NetlinkMessage

/-!
# Walks over attributes

The loops of the tool go from one attribute of a message to the next by the length that
stands in its header, which nothing has checked.  A walk collects the headers that such a
loop comes to, without running it; the loop ends within the message exactly where there is
a walk, and then with what its `switch` makes of the headers.
-/

namespace Tunprox.AttributeWalk

open ByteBuffer NetlinkAttribute NetlinkMessage
open Netlink (RERR_OK)

/-- The header of an attribute: its offset, `nla_len` and `nla_type`. -/
structure AttrHeader where
  offset : Nat
  len : Nat
  id : Nat

/-- The header stands in the message. -/
structure AttrHeader.StandsIn (buf : List UInt8) (header : AttrHeader) : Prop where
  len : loadNumber buf header.offset 2 = some header.len
  id : loadNumber buf (header.offset + 2) 2 = some header.id

/-- The end of the attribute, as its header has it, is within the message. -/
def AttrHeader.Inside (buf : List UInt8) (header : AttrHeader) : Prop :=
  NLA_HDRLEN ≤ header.len ∧ header.offset + header.len ≤ buf.length

/-- There are four bytes behind the header. -/
def AttrHeader.HoldsNumber (buf : List UInt8) (header : AttrHeader) : Prop :=
  header.offset + NLA_HDRLEN + 4 ≤ buf.length

/-- The headers from an offset on, up to the end of the message, or up to one that is
refused. -/
inductive Walk (readable refused : AttrHeader → Prop) (buf : List UInt8) :
    Nat → List AttrHeader → Bool → Prop
  | ended {ptr : Nat} (outside : buf.length ≤ ptr) : Walk readable refused buf ptr [] false
  | stopped {header : AttrHeader} (stands : header.StandsIn buf) (reads : readable header)
      (stops : refused header) : Walk readable refused buf header.offset [] true
  | attr {header : AttrHeader} {headers : List AttrHeader} {stop : Bool}
      (stands : header.StandsIn buf) (reads : readable header) (taken : ¬ refused header)
      (advances : header.len ≠ 0)
      (rest : Walk readable refused buf (header.offset + nlaAlign header.len) headers stop) :
      Walk readable refused buf header.offset (header :: headers) stop

section
variable {State : Type}

/-- A loop over the attributes, whose `switch` may return. -/
def attrLoop (one : Nat → Nat → State → Option (Int × State)) (buf : List UInt8) :
    Nat → Nat → State → Option (Int × State)
  | 0, ptr, state => if ptr < buf.length then none else some (RERR_OK, state)
  | fuel + 1, ptr, state =>
      if ptr < buf.length then do
        let id ← fnlGetattrid buf ptr
        let seen ← one ptr id state
        if seen.1 ≠ RERR_OK then some seen
        else do
          let next ← fnlGetnextattr buf ptr
          attrLoop one buf fuel next seen.2
      else some (RERR_OK, state)

/-- What the `switch` of a loop does on each header of a message. -/
structure Switch (buf : List UInt8) (one : Nat → Nat → State → Option (Int × State))
    where
  readable : AttrHeader → Prop
  refused : AttrHeader → Prop
  see : State → AttrHeader → State
  failure : Int
  failure_ne : failure ≠ RERR_OK
  unread : ∀ {header : AttrHeader} (state : State), header.StandsIn buf →
    ¬ readable header → one header.offset header.id state = none
  stops : ∀ {header : AttrHeader} (state : State), header.StandsIn buf →
    readable header → refused header →
      one header.offset header.id state = some (failure, state)
  takes : ∀ {header : AttrHeader} (state : State), header.StandsIn buf →
    readable header → ¬ refused header →
      one header.offset header.id state = some (RERR_OK, see state header)

end

theorem AttrHeader.StandsIn.length_le {buf : List UInt8} {header : AttrHeader}
    (stands : header.StandsIn buf) : header.offset + NLA_HDRLEN ≤ buf.length := by
  have inside := length_of_loadNumber stands.id
  unfold NLA_HDRLEN
  omega

/-- Two headers at one offset are the same. -/
theorem AttrHeader.StandsIn.eq {buf : List UInt8} {first second : AttrHeader}
    (firstStands : first.StandsIn buf) (secondStands : second.StandsIn buf)
    (same : first.offset = second.offset) : first = second := by
  cases first with
  | mk offset firstLen firstId =>
      cases second with
      | mk secondOffset secondLen secondId =>
          subst same
          have lens := firstStands.len.symm.trans secondStands.len
          have ids := firstStands.id.symm.trans secondStands.id
          rw [Option.some.injEq] at lens ids
          simp only at lens ids
          rw [lens, ids]

theorem fnlGetnextattr_of_stands {buf : List UInt8} {header : AttrHeader}
    (stands : header.StandsIn buf) :
    fnlGetnextattr buf header.offset = some (header.offset + nlaAlign header.len) := by
  rw [fnlGetnextattr, stands.len, Option.map_some]

theorem fnlGetattrlen_of_stands {buf : List UInt8} {header : AttrHeader}
    (stands : header.StandsIn buf) :
    fnlGetattrlen buf header.offset = some ((header.len : Int) - NLA_HDRLEN) := by
  rw [fnlGetattrlen, stands.len, Option.map_some]

theorem Walk.mem_standsIn {readable refused : AttrHeader → Prop} {buf : List UInt8}
    {ptr : Nat} {headers : List AttrHeader} {stop : Bool}
    (walk : Walk readable refused buf ptr headers stop) {header : AttrHeader}
    (member : header ∈ headers) :
    header.StandsIn buf ∧ readable header ∧ ¬ refused header ∧ ptr ≤ header.offset := by
  induction walk with
  | ended outside => contradiction
  | stopped stands reads stops => contradiction
  | attr stands reads taken advances rest ih =>
      rcases List.mem_cons.mp member with rfl | later
      · exact ⟨stands, reads, taken, Nat.le_refl _⟩
      · obtain ⟨laterStands, laterReads, laterTaken, behind⟩ := ih later
        exact ⟨laterStands, laterReads, laterTaken, Nat.le_trans (Nat.le_add_right _ _) behind⟩

/-- A walk does not stay at a header. -/
theorem Walk.len_ne_zero {readable refused : AttrHeader → Prop} {buf : List UInt8} {ptr : Nat}
    {headers : List AttrHeader} {stop : Bool}
    (walk : Walk readable refused buf ptr headers stop) {header : AttrHeader}
    (stands : header.StandsIn buf) (taken : ¬ refused header) (same : header.offset = ptr) :
    header.len ≠ 0 := by
  cases walk with
  | ended outside =>
      have inside := stands.length_le
      unfold NLA_HDRLEN at inside
      omega
  | stopped firstStands firstReads firstStops =>
      exact absurd (stands.eq firstStands same ▸ firstStops) taken
  | attr firstStands firstReads firstTaken advances rest =>
      exact stands.eq firstStands same ▸ advances

section
variable {State : Type} {buf : List UInt8}
  {one : Nat → Nat → State → Option (Int × State)} (switch : Switch buf one)

/-- One attribute of the loop. -/
theorem attrLoop_attr {header : AttrHeader} (fuel : Nat) (state : State)
    (stands : header.StandsIn buf) (reads : switch.readable header)
    (taken : ¬ switch.refused header) :
    attrLoop one buf (fuel + 1) header.offset state =
      attrLoop one buf fuel (header.offset + nlaAlign header.len) (switch.see state header) := by
  have inside := stands.length_le
  have here : header.offset < buf.length := by
    unfold NLA_HDRLEN at inside
    omega
  have idEq : fnlGetattrid buf header.offset = some header.id := stands.id
  simp only [attrLoop, if_pos here, idEq, switch.takes state stands reads taken,
    fnlGetnextattr_of_stands stands, Option.bind_eq_bind, Option.bind_some, ne_eq,
    not_true_eq_false, if_false]

/-- Where there is a walk the loop ends, with what the `switch` makes of its headers; there
is a step for each byte of the message. -/
theorem attrLoop_of_walk {ptr fuel : Nat} {headers : List AttrHeader} {stop : Bool}
    (walk : Walk switch.readable switch.refused buf ptr headers stop) (state : State)
    (enough : buf.length ≤ ptr + fuel) :
    attrLoop one buf fuel ptr state =
      some (if stop then switch.failure else RERR_OK, headers.foldl switch.see state) := by
  induction walk generalizing state fuel with
  | @ended ptr outside =>
      have outside : ¬ ptr < buf.length := Nat.not_lt.mpr outside
      cases fuel with
      | zero =>
          rw [attrLoop, if_neg outside]
          rfl
      | succ fuel =>
          rw [attrLoop, if_neg outside]
          rfl
  | @stopped header stands reads stops =>
      have inside := stands.length_le
      have here : header.offset < buf.length := by
        unfold NLA_HDRLEN at inside
        omega
      obtain ⟨steps, rfl⟩ : ∃ steps, fuel = steps + 1 := ⟨fuel - 1, by omega⟩
      have idEq : fnlGetattrid buf header.offset = some header.id := stands.id
      simp only [attrLoop, if_pos here, idEq, switch.stops state stands reads stops,
        Option.bind_eq_bind, Option.bind_some, if_pos switch.failure_ne, if_true, List.foldl_nil]
  | @attr header headers stop stands reads taken advances rest ih =>
      have inside := stands.length_le
      have aligned := le_nlaAlign header.len
      unfold NLA_HDRLEN at inside
      obtain ⟨steps, rfl⟩ : ∃ steps, fuel = steps + 1 := ⟨fuel - 1, by omega⟩
      rw [attrLoop_attr switch steps state stands reads taken]
      exact ih (switch.see state header) (by omega)

/-- A loop that ends has gone over a walk: where the length in a header is zero it would
come to the same header again. -/
theorem walk_of_attrLoop {ptr fuel : Nat} {state : State} {result : Int × State}
    (returned : attrLoop one buf fuel ptr state = some result) :
    ∃ headers stop, Walk switch.readable switch.refused buf ptr headers stop := by
  induction fuel generalizing ptr state with
  | zero =>
      by_cases inside : ptr < buf.length
      · rw [attrLoop, if_pos inside] at returned
        contradiction
      · exact ⟨[], false, .ended (Nat.not_lt.mp inside)⟩
  | succ fuel ih =>
      by_cases inside : ptr < buf.length
      · simp only [attrLoop, if_pos inside, Option.bind_eq_bind, Option.bind_eq_some_iff]
          at returned
        obtain ⟨id, idEq, seen, seenEq, rest⟩ := returned
        have bound : ptr + 2 + 2 ≤ buf.length := length_of_loadNumber idEq
        have lenBound : ptr + 2 ≤ buf.length := by omega
        let header : AttrHeader := ⟨ptr, ofLittleEndian ((buf.drop ptr).take 2), id⟩
        have stands : header.StandsIn buf := ⟨exists_loadNumber lenBound, idEq⟩
        change one header.offset header.id state = some seen at seenEq
        by_cases reads : switch.readable header
        · by_cases stops : switch.refused header
          · exact ⟨[], true, .stopped stands reads stops⟩
          · rw [switch.takes state stands reads stops] at seenEq
            obtain rfl := Option.some.inj seenEq
            have nextEq : fnlGetnextattr buf ptr = some (ptr + nlaAlign header.len) :=
              fnlGetnextattr_of_stands stands
            simp only [nextEq, ne_eq, not_true_eq_false, if_false, Option.bind_some] at rest
            obtain ⟨headers, stop, walk⟩ := ih rest
            have advances : header.len ≠ 0 := by
              intro zero
              have back : ptr + nlaAlign header.len = header.offset := by
                rw [zero]
                rfl
              rw [back] at walk
              exact walk.len_ne_zero stands stops rfl zero
            exact ⟨header :: headers, stop, .attr stands reads stops advances walk⟩
        · rw [switch.unread state stands reads] at seenEq
          contradiction
      · exact ⟨[], false, .ended (Nat.not_lt.mp inside)⟩

include switch in
/-- The bytes of the message are steps enough for a loop that ends at all. -/
theorem attrLoop_length_of_ends {ptr fuel : Nat} {state : State} {result : Int × State}
    (returned : attrLoop one buf fuel ptr state = some result) (start : State) :
    ∃ other, attrLoop one buf buf.length ptr start = some other := by
  obtain ⟨headers, stop, walk⟩ := walk_of_attrLoop switch returned
  exact ⟨_, attrLoop_of_walk switch walk start (Nat.le_add_left _ _)⟩

end

end Tunprox.AttributeWalk
