import Tunprox.IpHeader

/-!
# Chains of IPv6 extension headers

Packets with a chain of extension headers, each of which names the next one and has a length
in units of eight bytes.  `getipv6exthdrlen` takes a fragment header for what it is, but
advances by seven bytes too few over each of the others, and from then on it takes the wrong
bytes for headers.  What it ends with may be right by accident; for each form of chain with
another header than fragment headers there is a packet for which it is wrong.
-/

namespace Tunprox.ExtensionChain

open Errno IpHeader

inductive ExtKind where
  | hopByHop
  | routing
  | destination
  | fragment
  deriving DecidableEq, Repr

/-- The next header value of the kind. -/
def ExtKind.number : ExtKind → UInt8
  | .hopByHop => 0
  | .routing => 43
  | .destination => 60
  | .fragment => 44

/-- How long a header is for its second byte, which is reserved in a fragment header. -/
def ExtKind.length (kind : ExtKind) (second : UInt8) : Nat :=
  if kind = .fragment then 8 else (second.toNat + 1) * 8

/-- An extension header behind its first byte, the number of the next header. -/
structure ExtHeader where
  kind : ExtKind
  second : UInt8
  rest : List UInt8
  length_rest : rest.length + 2 = kind.length second

def ExtHeader.length (header : ExtHeader) : Nat :=
  header.kind.length header.second

/-- The number of the first header of a chain, or of what follows it. -/
def nextNumber (upper : UInt8) : List ExtHeader → UInt8
  | [] => upper
  | header :: _ => header.kind.number

def encodeChain (upper : UInt8) : List ExtHeader → List UInt8
  | [] => []
  | header :: headers =>
      nextNumber upper headers :: header.second :: header.rest ++ encodeChain upper headers

/-- An IPv6 packet: the fixed header in front of and behind its seventh byte, the chain, the
number of what follows it, and the rest. -/
structure Ipv6Packet where
  front : List UInt8
  back : List UInt8
  headers : List ExtHeader
  upper : UInt8
  payload : List UInt8
  length_front : front.length = 6
  length_back : back.length = 33
  upper_other : ∀ kind : ExtKind, upper ≠ kind.number

def Ipv6Packet.bytes (packet : Ipv6Packet) : List UInt8 :=
  packet.front ++ nextNumber packet.upper packet.headers :: packet.back ++
    (encodeChain packet.upper packet.headers ++ packet.payload)

def chainLength (headers : List ExtHeader) : Nat :=
  (headers.map ExtHeader.length).sum

/-- `ldt_ipv6hdrlen` returns the length of the fixed header and the chain and stores the
number of what follows. -/
def Measured (packet : Ipv6Packet) : Prop :=
  ∃ fuel, ldtIpv6hdrlen fuel packet.bytes =
    some (((40 + chainLength packet.headers : Nat) : Int), some (packet.upper.toNat : Int))

/-- The packets have the same chain up to the contents of the headers. -/
def SameForm (packet other : Ipv6Packet) : Prop :=
  other.upper = packet.upper ∧
    other.headers.map (fun header => (header.kind, header.length)) =
      packet.headers.map fun header => (header.kind, header.length)

def OnlyFragments (headers : List ExtHeader) : Prop :=
  ∀ header ∈ headers, header.kind = .fragment

theorem length_of_fragment {header : ExtHeader} (fragment : header.kind = .fragment) :
    header.length = 8 := by
  rw [ExtHeader.length, ExtKind.length, if_pos fragment]

theorem eight_dvd_length (header : ExtHeader) : header.length % 8 = 0 := by
  unfold ExtHeader.length ExtKind.length
  split_ifs
  · rfl
  · exact Nat.mul_mod_left _ _

theorem eight_dvd_chainLength (headers : List ExtHeader) : chainLength headers % 8 = 0 := by
  induction headers with
  | nil => rfl
  | cons header headers ih =>
      have one := eight_dvd_length header
      unfold chainLength at ih ⊢
      rw [List.map_cons, List.sum_cons]
      omega

theorem chainLength_fragments {headers : List ExtHeader} (only : OnlyFragments headers) :
    chainLength headers = 8 * headers.length := by
  induction headers with
  | nil => rfl
  | cons header headers ih =>
      have fragment := only header List.mem_cons_self
      have rest := ih fun other member => only other (List.mem_cons_of_mem _ member)
      have one := length_of_fragment fragment
      unfold chainLength at rest ⊢
      rw [List.map_cons, List.sum_cons, rest, one, List.length_cons]
      omega

theorem length_header (upper : UInt8) (header : ExtHeader) (headers : List ExtHeader) :
    (nextNumber upper headers :: header.second :: header.rest).length = header.length := by
  have rest := header.length_rest
  rw [List.length_cons, List.length_cons, ExtHeader.length, ← rest]

theorem length_encodeChain (upper : UInt8) (headers : List ExtHeader) :
    (encodeChain upper headers).length = chainLength headers := by
  induction headers with
  | nil => rfl
  | cons header headers ih =>
      rw [encodeChain, List.length_append, length_header, ih]
      rfl

theorem length_bytes (packet : Ipv6Packet) :
    packet.bytes.length = 40 + chainLength packet.headers + packet.payload.length := by
  have front := packet.length_front
  have back := packet.length_back
  simp only [Ipv6Packet.bytes, List.length_append, List.length_cons, length_encodeChain]
  omega

theorem drop_bytes (packet : Ipv6Packet) :
    packet.bytes.drop 40 = encodeChain packet.upper packet.headers ++ packet.payload := by
  have front := packet.length_front
  have back := packet.length_back
  rw [Ipv6Packet.bytes]
  apply List.drop_left'
  simp only [List.length_append, List.length_cons]
  omega

theorem byteAt_six (packet : Ipv6Packet) :
    byteAt packet.bytes 6 = some (nextNumber packet.upper packet.headers) := by
  have read : packet.bytes[6]? = some (nextNumber packet.upper packet.headers) := by
    have front := packet.length_front
    rw [Ipv6Packet.bytes, List.append_assoc, List.getElem?_append_right (by omega), front]
    rfl
  exact read

/-- `ldt_ipv6hdrlen` of a packet is the walk over its chain. -/
theorem ldtIpv6hdrlen_bytes (fuel : Nat) (packet : Ipv6Packet) :
    ldtIpv6hdrlen fuel packet.bytes =
      (getipv6exthdrlen packet.bytes fuel
        ⟨toChar (nextNumber packet.upper packet.headers), (40 : Nat),
          packet.bytes.length - (40 : Nat)⟩).map (addLen 40) := by
  have long : ¬ packet.bytes.length < 40 := by
    rw [length_bytes]
    omega
  rw [ldtIpv6hdrlen, if_neg long, byteAt_six, Option.bind_some]
  rfl

/-- A number that is not that of an extension header ends the walk. -/
theorem extStep_other (buffer : List UInt8) {prot : Int} (data : Int) {sz : Int}
    (nonneg : 0 ≤ sz)
    (other : prot ≠ 0 ∧ prot ≠ 43 ∧ prot ≠ 60 ∧ prot ≠ 44) :
    extStep buffer ⟨prot, data, sz⟩ = .returns 0 (some prot) := by
  have valid : ¬ sz < 0 := Int.not_lt.mpr nonneg
  have noOptions : ¬ (prot = 0 ∨ prot = 43 ∨ prot = 60) := by omega
  rw [extStep, if_neg valid, if_neg noOptions, if_neg other.2.2.2]

theorem toChar_upper_other (packet : Ipv6Packet) (small : packet.upper.toNat < 128) :
    toChar packet.upper ≠ 0 ∧ toChar packet.upper ≠ 43 ∧ toChar packet.upper ≠ 60 ∧
      toChar packet.upper ≠ 44 := by
  have differs (kind : ExtKind) : packet.upper.toNat ≠ kind.number.toNat := fun same =>
    packet.upper_other kind (UInt8.toNat_inj.mp same)
  have hopByHop : packet.upper.toNat ≠ 0 := differs .hopByHop
  have routing : packet.upper.toNat ≠ 43 := differs .routing
  have destination : packet.upper.toNat ≠ 60 := differs .destination
  have fragment : packet.upper.toNat ≠ 44 := differs .fragment
  rw [toChar_of_lt small]
  omega

/-- The step over a fragment header. -/
theorem extStep_fragment {buffer after : List UInt8} {offset : Nat} {next : UInt8}
    (split : buffer.drop offset = next :: after)
    (room : offset + 8 ≤ buffer.length) :
    extStep buffer ⟨44, offset, buffer.length - offset⟩ =
      .nested 8 ⟨toChar next, (offset + 8 : Nat), buffer.length - (offset + 8 : Nat)⟩ := by
  have valid : ¬ (buffer.length : Int) - offset < 0 := by omega
  have long : ¬ (buffer.length : Int) - offset < 8 := by omega
  have sizes : (buffer.length : Int) - offset - 8 = buffer.length - (offset + 8 : Nat) := by
    omega
  have noOptions : ¬ ((44 : Int) = 0 ∨ (44 : Int) = 43 ∨ (44 : Int) = 60) := by decide
  rw [extStep, if_neg valid, if_neg noOptions, if_pos rfl, byteAt_of_drop split]
  simp only [if_neg long, sizes, Nat.cast_add, Nat.cast_ofNat]

/-- The walk over a chain of fragment headers ends behind it. -/
theorem getipv6exthdrlen_fragments (packet : Ipv6Packet) (small : packet.upper.toNat < 128)
    {headers : List ExtHeader} (only : OnlyFragments headers) {offset : Nat}
    {after : List UInt8} (inside : offset ≤ packet.bytes.length)
    (split : packet.bytes.drop offset = encodeChain packet.upper headers ++ after) :
    getipv6exthdrlen packet.bytes (headers.length + 1)
        ⟨toChar (nextNumber packet.upper headers), offset, packet.bytes.length - offset⟩ =
      some (((8 * headers.length : Nat) : Int), some (packet.upper.toNat : Int)) := by
  induction headers generalizing offset with
  | nil =>
      have ends := extStep_other packet.bytes offset
        (show (0 : Int) ≤ packet.bytes.length - offset by omega)
        (toChar_upper_other packet small)
      rw [getipv6exthdrlen, nextNumber, ends, toChar_of_lt small]
      rfl
  | cons header headers ih =>
      have fragment := only header List.mem_cons_self
      have rest : OnlyFragments headers := fun other member =>
        only other (List.mem_cons_of_mem _ member)
      have eight := length_of_fragment fragment
      have lengths := congrArg List.length split
      rw [List.length_drop, encodeChain, List.append_assoc, List.length_append, length_header,
        eight] at lengths
      have room : offset + 8 ≤ packet.bytes.length := by omega
      have behind : packet.bytes.drop (offset + 8) = encodeChain packet.upper headers ++ after := by
        rw [← List.drop_drop, split, encodeChain, List.append_assoc]
        apply List.drop_left'
        rw [length_header, eight]
      have number : toChar (nextNumber packet.upper (header :: headers)) = 44 := by
        rw [nextNumber, fragment]
        rfl
      have stepped := extStep_fragment split room
      rw [List.length_cons, getipv6exthdrlen, number, stepped]
      simp only [ih rest room behind, Option.map_some, addLen]
      rw [if_neg (by omega)]
      congr 2
      omega

/-- A packet with fragment headers only, and a number below 128 behind them, is measured. -/
theorem measured_of_onlyFragments {packet : Ipv6Packet} (only : OnlyFragments packet.headers)
    (small : packet.upper.toNat < 128) : Measured packet := by
  have inside : 40 ≤ packet.bytes.length := by
    rw [length_bytes]
    omega
  refine ⟨packet.headers.length + 1, ?_⟩
  rw [ldtIpv6hdrlen_bytes, getipv6exthdrlen_fragments packet small only inside
    (drop_bytes packet), chainLength_fragments only, Option.map_some, addLen]
  simp only
  rw [if_neg (by omega)]
  congr 2

/-- What is stored for the layer above is a `char`. -/
theorem l4prot_lt {buffer : List UInt8} {fuel : Nat} {call : ExtCall}
    (isChar : call.prot < 128) {ret l4prot : Int}
    (returned : getipv6exthdrlen buffer fuel call = some (ret, some l4prot)) :
    l4prot < 128 := by
  induction fuel generalizing call ret with
  | zero => contradiction
  | succ fuel ih =>
      rw [getipv6exthdrlen] at returned
      cases stepped : extStep buffer call with
      | outside =>
          rw [stepped] at returned
          contradiction
      | returns other stored =>
          have outcome := extOutcome_extStep buffer call
          rw [stepped, Option.some.injEq, Prod.mk.injEq] at returned
          rw [stepped, returned.2] at outcome
          cases outcome with
          | ended other => exact isChar
      | nested len next =>
          rw [stepped] at returned
          obtain ⟨inner, innerEq, addedEq⟩ := Option.map_eq_some_iff.mp returned
          obtain ⟨first, -, rfl⟩ := extStep_nested stepped
          have stored : inner.2 = some l4prot := by
            rw [addLen] at addedEq
            split_ifs at addedEq
            · exact congrArg Prod.snd addedEq
            · exact (Prod.mk.inj addedEq).2
          exact @ih ⟨toChar first, call.data + len, call.sz - len⟩ (toChar_lt first) inner.1
            (innerEq.trans (congrArg some (Prod.ext rfl stored)))

/-! ## Packets that are not measured -/

/-- A result that no chain of headers can have from the offset on. -/
def WrongAt (offset : Int) (result : Int × Option Int) : Prop :=
  result.2 = none ∨ result.1 < 0 ∨ (offset + result.1) % 8 ≠ 0

theorem wrongAt_addLen {offset len : Int} {result : Int × Option Int}
    (wrong : WrongAt (offset + len) result) : WrongAt offset (addLen len result) := by
  unfold addLen
  split_ifs with negative
  · exact Or.inr (Or.inl negative)
  · rcases wrong with unset | impossible | unaligned
    · exact Or.inl unset
    · exact absurd impossible negative
    · refine Or.inr (Or.inr ?_)
      rw [← Int.add_assoc]
      exact unaligned

/-- A call is wrong if what it returns itself is, and what the call it makes returns. -/
theorem wrongAt_of_step {buffer : List UInt8} {fuel : Nat} {call : ExtCall}
    {result : Int × Option Int} (returned : getipv6exthdrlen buffer fuel call = some result)
    (own : ∀ ret l4prot, extStep buffer call = .returns ret l4prot →
      WrongAt call.data (ret, l4prot))
    (behind : ∀ len next, extStep buffer call = .nested len next → ∀ fuel inner,
      getipv6exthdrlen buffer fuel next = some inner → WrongAt next.data inner) :
    WrongAt call.data result := by
  cases fuel with
  | zero => contradiction
  | succ fuel =>
      rw [getipv6exthdrlen] at returned
      cases stepped : extStep buffer call with
      | outside =>
          rw [stepped] at returned
          contradiction
      | returns ret l4prot =>
          rw [stepped, Option.some.injEq] at returned
          rw [← returned]
          exact own ret l4prot stepped
      | nested len next =>
          rw [stepped] at returned
          obtain ⟨inner, innerEq, rfl⟩ := Option.map_eq_some_iff.mp returned
          obtain ⟨first, -, nextEq⟩ := extStep_nested stepped
          have dataEq : next.data = call.data + len := by rw [nextEq]
          exact wrongAt_addLen (dataEq ▸ behind len next stepped fuel inner innerEq)

/-- A number that ends the walk is wrong where no header starts. -/
theorem wrongAt_of_other {buffer : List UInt8} {fuel : Nat} {call : ExtCall}
    {result : Int × Option Int} (returned : getipv6exthdrlen buffer fuel call = some result)
    (other : ¬ IsExtension call.prot) (unaligned : call.data % 8 ≠ 0) :
    WrongAt call.data result := by
  refine wrongAt_of_step returned ?_ ?_
  · intro ret l4prot stepped
    have outcome := extOutcome_extStep buffer call
    rw [stepped] at outcome
    cases outcome with
    | short => exact Or.inl rfl
    | ended => exact Or.inr (Or.inr (by simpa using unaligned))
  · intro len next stepped
    have outcome := extOutcome_extStep buffer call
    rw [stepped] at outcome
    cases outcome with
    | options options => exact absurd (by unfold IsExtension; omega) other
    | fragment fragment => exact absurd (by unfold IsExtension; omega) other

/-- The number that ends a chain without anything behind it. -/
def noNext : UInt8 := 59

/-- A byte that stands where no header starts and names no next header leads nowhere. -/
theorem wrongAt_of_noNext {buffer : List UInt8} {fuel : Nat} {call : ExtCall}
    {result : Int × Option Int} (returned : getipv6exthdrlen buffer fuel call = some result)
    (extension : IsExtension call.prot)
    (filled : ∀ byte, byteAt buffer call.data = some byte → byte = noNext)
    (residue : call.data % 8 = 1 ∨ call.data % 8 = 2) : WrongAt call.data result := by
  have ends : ¬ IsExtension (toChar noNext) := by
    unfold IsExtension
    decide
  refine wrongAt_of_step returned ?_ ?_
  · intro ret l4prot stepped
    have outcome := extOutcome_extStep buffer call
    rw [stepped] at outcome
    cases outcome with
    | short => exact Or.inl rfl
    | ended other => exact absurd extension other
  · intro len next stepped fuel inner innerEq
    have outcome := extOutcome_extStep buffer call
    rw [stepped] at outcome
    cases outcome with
    | @options first second options firstEq secondEq =>
        have lenEq := extLen_eq second
        obtain rfl := filled _ firstEq
        refine wrongAt_of_other innerEq ends ?_
        simp only
        omega
    | fragment fragment firstEq =>
        obtain rfl := filled _ firstEq
        refine wrongAt_of_other innerEq ends ?_
        simp only
        omega

/-- At the positions with the residue modulo eight the bytes name no next header. -/
def FillAt (residue : Nat) (bytes : List UInt8) : Prop :=
  ∀ index byte, index % 8 = residue → bytes[index]? = some byte → byte = noNext

theorem fillAt_append {residue : Nat} {first second : List UInt8}
    (aligned : first.length % 8 = 0) (firstFill : FillAt residue first)
    (secondFill : FillAt residue second) : FillAt residue (first ++ second) := by
  intro index byte position read
  by_cases inFirst : index < first.length
  · rw [List.getElem?_append_left inFirst] at read
    exact firstFill index byte position read
  · rw [List.getElem?_append_right (by omega)] at read
    exact secondFill (index - first.length) byte (by omega) read

theorem fillAt_replicate (residue count : Nat) :
    FillAt residue (List.replicate count noNext) := by
  intro index byte _ read
  exact List.eq_of_mem_replicate (List.mem_of_getElem? read)

theorem fillAt_byteAt {residue : Nat} {bytes : List UInt8} (fill : FillAt residue bytes)
    {offset : Int} (position : offset % 8 = residue) {byte : UInt8}
    (read : byteAt bytes offset = some byte) : byte = noNext := by
  unfold byteAt at read
  split_ifs at read with negative
  exact fill offset.toNat byte (by omega) read

/-- The contents of a header name no next header. -/
structure IsFilled (header : ExtHeader) : Prop where
  reserved : header.kind = .fragment → header.second = noNext
  rest : ∀ byte ∈ header.rest, byte = noNext

/-- The third byte of a header belongs to its contents. -/
theorem fillAt_two_encodeChain (upper : UInt8) {headers : List ExtHeader}
    (filled : ∀ header ∈ headers, IsFilled header) : FillAt 2 (encodeChain upper headers) := by
  induction headers with
  | nil =>
      intro index byte _ read
      simp [encodeChain] at read
  | cons header headers ih =>
      have rest := ih fun other member => filled other (List.mem_cons_of_mem _ member)
      have contents := (filled header List.mem_cons_self).rest
      refine fillAt_append ?_ ?_ rest
      · rw [length_header]
        exact eight_dvd_length header
      · intro index byte position read
        match index, position with
        | index + 2, _ =>
            rw [List.getElem?_cons_succ, List.getElem?_cons_succ] at read
            exact contents byte (List.mem_of_getElem? read)

theorem isExtension_number (kind : ExtKind) : IsExtension (toChar kind.number) := by
  unfold IsExtension
  cases kind <;> decide

theorem eq_fragment_of_number {kind : ExtKind} (number : toChar kind.number = 44) :
    kind = .fragment := by
  cases kind with
  | fragment => rfl
  | hopByHop => exact absurd number (by decide)
  | routing => exact absurd number (by decide)
  | destination => exact absurd number (by decide)

/-- What stands in a packet from the start of a header on. -/
structure StartsAt (buffer payload : List UInt8) (upper : UInt8) (header : ExtHeader)
    (headers : List ExtHeader) (offset : Nat) : Prop where
  split : buffer.drop offset = nextNumber upper headers :: header.second ::
    (header.rest ++ (encodeChain upper headers ++ payload))

namespace StartsAt

variable {buffer payload : List UInt8} {upper : UInt8} {header : ExtHeader}
  {headers : List ExtHeader} {offset : Nat}

theorem of_drop (split : buffer.drop offset =
    encodeChain upper (header :: headers) ++ payload) :
    StartsAt buffer payload upper header headers offset := by
  constructor
  rw [split, encodeChain, List.append_assoc, List.cons_append, List.cons_append]

theorem first (starts : StartsAt buffer payload upper header headers offset) :
    byteAt buffer offset = some (nextNumber upper headers) :=
  byteAt_of_drop starts.split

theorem second (starts : StartsAt buffer payload upper header headers offset) :
    byteAt buffer ((offset : Int) + 1) = some header.second := by
  have behind : buffer.drop (offset + 1) =
      header.second :: (header.rest ++ (encodeChain upper headers ++ payload)) := by
    rw [← List.drop_drop, starts.split]
    rfl
  exact byteAt_of_drop behind

theorem rest (starts : StartsAt buffer payload upper header headers offset) {index : Nat}
    {byte : UInt8} (inside : index < header.rest.length)
    (read : byteAt buffer ((offset : Int) + (index + 2 : Nat)) = some byte) :
    byte ∈ header.rest := by
  have behind : buffer.drop (offset + 2) =
      header.rest ++ (encodeChain upper headers ++ payload) := by
    rw [← List.drop_drop, starts.split]
    rfl
  have nonneg : ¬ (offset : Int) + (index + 2 : Nat) < 0 := by omega
  have position : ((offset : Int) + (index + 2 : Nat)).toNat = offset + 2 + index := by omega
  rw [byteAt, if_neg nonneg, position, ← List.getElem?_drop, behind,
    List.getElem?_append_left inside] at read
  exact List.mem_of_getElem? read

theorem next (starts : StartsAt buffer payload upper header headers offset) :
    buffer.drop (offset + header.length) = encodeChain upper headers ++ payload := by
  rw [← List.drop_drop, starts.split, ← length_header upper header headers]
  exact List.drop_left

end StartsAt

section Filled

variable {buffer payload : List UInt8} {upper : UInt8} {header : ExtHeader}
  {headers : List ExtHeader} {offset fuel : Nat} {sz : Int} {inner : Int × Option Int}

/-- Behind a header of eight bytes the length byte, which is zero, is taken for the first
byte of a header. -/
theorem wrongAt_behind_short {follower : ExtHeader}
    (starts : StartsAt buffer payload upper header (follower :: headers) offset)
    (filled : IsFilled follower) (twos : FillAt 2 buffer) (aligned : offset % 8 = 0)
    (options : header.kind ≠ .fragment) (zero : header.second = 0)
    (returned : getipv6exthdrlen buffer fuel
      ⟨toChar follower.kind.number, (offset : Int) + 1, sz⟩ = some inner) :
    WrongAt ((offset : Int) + 1) inner := by
  have secondEq := starts.second
  rw [zero] at secondEq
  refine wrongAt_of_step returned ?_ ?_
  · intro ret l4prot stepped
    have outcome := extOutcome_extStep buffer
      ⟨toChar follower.kind.number, (offset : Int) + 1, sz⟩
    rw [stepped] at outcome
    cases outcome with
    | short => exact Or.inl rfl
    | ended ends => exact absurd (isExtension_number follower.kind) ends
  · intro len next stepped fuel innermost innermostEq
    have outcome := extOutcome_extStep buffer
      ⟨toChar follower.kind.number, (offset : Int) + 1, sz⟩
    rw [stepped] at outcome
    cases outcome with
    | @options first third _ firstEq thirdEq =>
        obtain rfl : 0 = first := Option.some.inj (secondEq.symm.trans firstEq)
        have lenEq := extLen_eq third
        refine wrongAt_of_noNext innermostEq (Or.inl rfl) ?_ (by simp only; omega)
        intro byte read
        exact fillAt_byteAt twos (by simp only; omega) read
    | @fragment first isFragment firstEq =>
        obtain rfl : 0 = first := Option.some.inj (secondEq.symm.trans firstEq)
        have kind := eq_fragment_of_number isFragment
        have eight : header.length = 8 := by
          rw [ExtHeader.length, ExtKind.length, if_neg options, zero]
          rfl
        have behind := (StartsAt.of_drop starts.next).second
        rw [eight, filled.reserved kind] at behind
        refine wrongAt_of_noNext innermostEq (Or.inl rfl) ?_ (by simp only; omega)
        intro byte read
        have position : ((offset + 8 : Nat) : Int) + 1 = (offset : Int) + 1 + 8 := by omega
        rw [position] at behind
        exact Option.some.inj (read.symm.trans behind)

/-- Behind a header that is no fragment header the walk is wrong. -/
theorem wrongAt_behind_options
    (starts : StartsAt buffer payload upper header headers offset)
    (own : IsFilled header) (filled : ∀ other ∈ headers, IsFilled other)
    (twos : FillAt 2 buffer) (other : ¬ IsExtension (toChar upper)) (aligned : offset % 8 = 0)
    (before : ∀ (position : Int) byte, position < offset → position % 8 = 1 →
      byteAt buffer position = some byte → byte = noNext)
    (options : header.kind ≠ .fragment)
    (returned : getipv6exthdrlen buffer fuel
      ⟨toChar (nextNumber upper headers), (offset : Int) + extLen header.second, sz⟩ =
        some inner) :
    WrongAt ((offset : Int) + extLen header.second) inner := by
  have lenEq := extLen_eq header.second
  cases headers with
  | nil => exact wrongAt_of_other returned other (by simp only; omega)
  | cons follower headers =>
      by_cases zero : header.second = 0
      · have one : extLen header.second = 1 := by
          rw [zero]
          decide
        rw [one] at returned ⊢
        exact wrongAt_behind_short starts (filled follower List.mem_cons_self) twos aligned
          options zero returned
      · refine wrongAt_of_noNext returned (isExtension_number follower.kind) ?_
          (by simp only; omega)
        intro byte read
        by_cases small : header.second.toNat < 128
        · -- seven bytes before the end of the header
          have nonzero : header.second.toNat ≠ 0 := fun none =>
            zero (UInt8.toNat_inj.mp none)
          have length := header.length_rest
          rw [ExtKind.length, if_neg options] at length
          have position : (offset : Int) + extLen header.second =
              offset + (8 * header.second.toNat - 1 + 2 : Nat) := by
            rw [extLen_of_lt small]
            omega
          simp only [position] at read
          exact own.rest byte (starts.rest (by omega) read)
        · have negative := (toChar_neg_iff header.second).mpr (Nat.not_lt.mp small)
          exact before _ byte (by simp only; omega) (by simp only; omega) read

/-- In filled packets the walk is wrong from the first header on that is no fragment header. -/
theorem wrongAt_of_options (filled : ∀ header ∈ headers, IsFilled header)
    (mixed : ¬ OnlyFragments headers) (twos : FillAt 2 buffer)
    (other : ¬ IsExtension (toChar upper))
    (split : buffer.drop offset = encodeChain upper headers ++ payload)
    (aligned : offset % 8 = 0)
    (before : ∀ (position : Int) byte, position < offset → position % 8 = 1 →
      byteAt buffer position = some byte → byte = noNext)
    {result : Int × Option Int}
    (returned : getipv6exthdrlen buffer fuel
      ⟨toChar (nextNumber upper headers), offset, sz⟩ = some result) :
    WrongAt offset result := by
  induction headers generalizing offset fuel sz result with
  | nil => exact absurd (fun header member => nomatch member) mixed
  | cons header headers ih =>
      have own := filled header List.mem_cons_self
      have rest : ∀ other ∈ headers, IsFilled other := fun other member =>
        filled other (List.mem_cons_of_mem _ member)
      have starts := StartsAt.of_drop split
      have outcome := extOutcome_extStep buffer
        ⟨toChar (nextNumber upper (header :: headers)), offset, sz⟩
      refine wrongAt_of_step returned ?_ ?_
      · intro ret l4prot stepped
        rw [stepped] at outcome
        cases outcome with
        | short => exact Or.inl rfl
        | ended ends => exact absurd (isExtension_number header.kind) ends
      · intro len next stepped fuel inner innerEq
        rw [stepped] at outcome
        cases outcome with
        | @options first second options firstEq secondEq =>
            obtain rfl := Option.some.inj (starts.first.symm.trans firstEq)
            obtain rfl := Option.some.inj (starts.second.symm.trans secondEq)
            have noOptions : ¬ (toChar ExtKind.fragment.number = 0 ∨
                toChar ExtKind.fragment.number = 43 ∨
                toChar ExtKind.fragment.number = 60) := by decide
            have kind : header.kind ≠ .fragment := by
              intro fragment
              rw [nextNumber, fragment] at options
              exact noOptions options
            exact wrongAt_behind_options starts own rest twos other aligned before kind innerEq
        | @fragment first fragment firstEq =>
            obtain rfl := Option.some.inj (starts.first.symm.trans firstEq)
            have kind := eq_fragment_of_number fragment
            have eight := length_of_fragment kind
            have restMixed : ¬ OnlyFragments headers := fun only => mixed fun other member => by
              rcases List.mem_cons.mp member with rfl | behind
              · exact kind
              · exact only other behind
            have behind := starts.next
            rw [eight] at behind
            refine ih rest restMixed behind (by omega) ?_ innerEq
            intro position byte below residue read
            by_cases earlier : position < offset
            · exact before position byte earlier residue read
            · have reserved : position = offset + 1 := by omega
              rw [reserved, starts.second, own.reserved kind] at read
              exact (Option.some.inj read).symm

end Filled

/-- The header with contents that name no next header. -/
def filledHeader (header : ExtHeader) : ExtHeader where
  kind := header.kind
  second := if header.kind = .fragment then noNext else header.second
  rest := List.replicate header.rest.length noNext
  length_rest := by
    rw [List.length_replicate, header.length_rest]
    unfold ExtKind.length
    split_ifs <;> rfl

/-- The packet with contents that name no next header. -/
def filledPacket (packet : Ipv6Packet) : Ipv6Packet where
  front := 0x60 :: List.replicate 5 noNext
  back := List.replicate 33 noNext
  headers := packet.headers.map filledHeader
  upper := packet.upper
  payload := List.replicate packet.payload.length noNext
  length_front := rfl
  length_back := rfl
  upper_other := packet.upper_other

theorem length_filledHeader (header : ExtHeader) :
    (filledHeader header).length = header.length := by
  unfold ExtHeader.length ExtKind.length filledHeader
  split_ifs <;> rfl

theorem isFilled_filledHeader (header : ExtHeader) : IsFilled (filledHeader header) where
  reserved := by
    intro fragment
    exact if_pos fragment
  rest := by
    intro byte member
    exact List.eq_of_mem_replicate member

theorem isFilled_filledPacket (packet : Ipv6Packet) :
    ∀ header ∈ (filledPacket packet).headers, IsFilled header := by
  intro header member
  obtain ⟨original, -, rfl⟩ := List.mem_map.mp member
  exact isFilled_filledHeader original

theorem sameForm_filledPacket (packet : Ipv6Packet) : SameForm packet (filledPacket packet) := by
  refine ⟨rfl, ?_⟩
  simp only [filledPacket, List.map_map]
  apply List.map_congr_left
  intro header _
  simp only [Function.comp_apply, length_filledHeader]
  rfl

/-- The fixed header of a filled packet. -/
theorem fillAt_fixed (packet : Ipv6Packet) {residue : Nat} (contents : residue = 1 ∨ residue = 2) :
    FillAt residue ((filledPacket packet).front ++
      nextNumber packet.upper (filledPacket packet).headers :: (filledPacket packet).back) := by
  have blocks : (filledPacket packet).front ++
      nextNumber packet.upper (filledPacket packet).headers :: (filledPacket packet).back =
      [0x60, noNext, noNext, noNext, noNext, noNext,
        nextNumber packet.upper (filledPacket packet).headers, noNext] ++
        List.replicate 32 noNext := rfl
  rw [blocks]
  refine fillAt_append (by simp) ?_ (fillAt_replicate residue 32)
  intro index byte position read
  have below : index < 8 := (List.getElem?_eq_some_iff.mp read).1
  obtain rfl : index = residue := by omega
  rcases contents with rfl | rfl
  · exact (Option.some.inj read).symm
  · exact (Option.some.inj read).symm

theorem fillAt_two_filledPacket (packet : Ipv6Packet) :
    FillAt 2 (filledPacket packet).bytes := by
  have chain := fillAt_two_encodeChain packet.upper (isFilled_filledPacket packet)
  refine fillAt_append (by simp [filledPacket]) (fillAt_fixed packet (Or.inr rfl)) ?_
  refine fillAt_append ?_ chain (fillAt_replicate 2 _)
  rw [length_encodeChain]
  exact eight_dvd_chainLength _

/-- The filled packet is not measured if it has another header than fragment headers. -/
theorem not_measured_filledPacket {packet : Ipv6Packet} (small : packet.upper.toNat < 128)
    (mixed : ¬ OnlyFragments packet.headers) : ¬ Measured (filledPacket packet) := by
  rintro ⟨fuel, measured⟩
  rw [ldtIpv6hdrlen_bytes] at measured
  obtain ⟨result, returned, addedEq⟩ := Option.map_eq_some_iff.mp measured
  have filledMixed : ¬ OnlyFragments (filledPacket packet).headers := by
    intro only
    apply mixed
    intro header member
    exact only (filledHeader header) (List.mem_map_of_mem member)
  have upperOther := toChar_upper_other packet small
  have other : ¬ IsExtension (toChar packet.upper) := by
    unfold IsExtension
    omega
  have wrong : WrongAt (40 : Nat) result := by
    refine wrongAt_of_options (isFilled_filledPacket packet) filledMixed
      (fillAt_two_filledPacket packet) other (drop_bytes (filledPacket packet)) rfl ?_ returned
    intro position byte below residue read
    have inFixed := fillAt_fixed packet (Or.inl rfl)
    unfold byteAt at read
    split_ifs at read with negative
    rw [Ipv6Packet.bytes, List.getElem?_append_left] at read
    · exact inFixed position.toNat byte (by omega) read
    · have fixed : ((filledPacket packet).front ++ nextNumber (filledPacket packet).upper
          (filledPacket packet).headers :: (filledPacket packet).back).length = 40 := rfl
      rw [fixed]
      omega
  have multiple := eight_dvd_chainLength (filledPacket packet).headers
  unfold addLen at addedEq
  rcases wrong with unset | negative | unaligned
  · split_ifs at addedEq
    · rw [addedEq] at unset
      contradiction
    · have stored := congrArg Prod.snd addedEq
      rw [unset] at stored
      contradiction
  · rw [if_pos negative] at addedEq
    rw [addedEq] at negative
    simp only at negative
    omega
  · split_ifs at addedEq with negative
    · rw [addedEq] at negative
      simp only at negative
      omega
    · have total := congrArg Prod.fst addedEq
      simp only at total
      omega

/-- A number from 128 on is stored with its sign. -/
theorem not_measured_of_large {packet : Ipv6Packet} (large : 128 ≤ packet.upper.toNat) :
    ¬ Measured packet := by
  rintro ⟨fuel, measured⟩
  rw [ldtIpv6hdrlen_bytes] at measured
  obtain ⟨result, returned, addedEq⟩ := Option.map_eq_some_iff.mp measured
  have stored : result.2 = some (packet.upper.toNat : Int) := by
    unfold addLen at addedEq
    split_ifs at addedEq
    · exact congrArg Prod.snd addedEq
    · exact congrArg Prod.snd addedEq
  have bounded := l4prot_lt (toChar_lt _)
    (returned.trans (congrArg some (Prod.ext rfl stored)))
  omega

theorem onlyFragments_of_sameForm {packet other : Ipv6Packet} (same : SameForm packet other)
    (only : OnlyFragments packet.headers) : OnlyFragments other.headers := by
  intro header member
  have form := List.mem_map_of_mem (f := fun header : ExtHeader =>
    (header.kind, header.length)) member
  rw [same.2] at form
  obtain ⟨original, originalMem, formEq⟩ := List.mem_map.mp form
  rw [← (Prod.mk.inj formEq).1]
  exact only original originalMem

/-- The packets of a form are all measured if and only if the chain consists of fragment
headers and the number behind it is below 128. -/
theorem measured_sameForm_iff (packet : Ipv6Packet) :
    (∀ other, SameForm packet other → Measured other) ↔
      OnlyFragments packet.headers ∧ packet.upper.toNat < 128 := by
  constructor
  · intro measured
    have small : packet.upper.toNat < 128 := by
      by_contra large
      exact not_measured_of_large (Nat.not_lt.mp large) (measured packet ⟨rfl, rfl⟩)
    refine ⟨?_, small⟩
    by_contra mixed
    exact not_measured_filledPacket small mixed (measured _ (sameForm_filledPacket packet))
  · rintro ⟨only, small⟩ other same
    refine measured_of_onlyFragments (onlyFragments_of_sameForm same only) ?_
    rw [same.1]
    exact small

/-- A packet with eight bytes of hop-by-hop options in front of an empty UDP datagram. -/
def hopByHopPacket : Ipv6Packet where
  front := [0x60, 0, 0, 0, 0, 16]
  back := 64 :: List.replicate 32 0
  headers := [⟨.hopByHop, 0, [1, 4, 0, 0, 0, 0], by decide⟩]
  upper := 17
  payload := [0, 7, 0, 7, 0, 8, 0, 0]
  length_front := rfl
  length_back := rfl
  upper_other := by
    intro kind
    cases kind <;> decide

/-- Its length is returned as 41, not 48. -/
theorem not_measured_hopByHopPacket : ¬ Measured hopByHopPacket := by
  rintro ⟨fuel, measured⟩
  match fuel with
  | 0 => exact absurd measured (by decide)
  | 1 => exact absurd measured (by decide)
  | fuel + 2 =>
      have short : ldtIpv6hdrlen (fuel + 2) hopByHopPacket.bytes = some (41, some 17) := rfl
      rw [short] at measured
      exact absurd measured (by decide)

end Tunprox.ExtensionChain
