import Tunprox.Receive

/-!
# The headers of a received packet

`mpdccptun_needrcvcpy` looks at the DCCP header and at the first byte of the payload of a
fragmented packet and decides from its total length whether the packet is copied.  What
it reads, and what it lets its callers read, has to lie in the linear area.  On kernels
before 4.7 `rcv_prepare_skb` then removes the DCCP header, for which it reads the length of
the header twice, the second time through the data pointer it has moved.
-/

namespace Tunprox.ReceiveHeader

open Receive

/-- `ptr - skb->data` in `mpdccptun_needrcvcpy` -/
def payloadOffset (env : RcvEnv) (skb : SkBuff) : Nat :=
  if env.keepsHeader then dccphDoff4 skb else 0

/-- `len` in `mpdccptun_needrcvcpy` -/
def payloadLen (env : RcvEnv) (skb : SkBuff) : Int :=
  toInt32 ((skb.len + 2 ^ 32 - payloadOffset env skb) % 2 ^ 32)

/-- All data are in the linear area. -/
def Unfragmented (skb : SkBuff) : Prop :=
  skb.nrFrags = 0 ∧ skb.fragList = false

instance (skb : SkBuff) : Decidable (Unfragmented skb) :=
  inferInstanceAs (Decidable (_ ∧ _))

/-- The switch of `mpdccptun_needrcvcpy` over the type of the payload. -/
def copiesPayload (first : UInt8) (len : Int) : Bool :=
  match tpGetpkttype first with
  | 2 => true
  | 4 => if 0 ≤ len ∧ len < 20 then true else decide (len < (first.toNat % 16 * 4 : Nat))
  | 6 => decide (len < 1260)
  | _ => true

theorem mpdccptunNeedrcvcpy_eq (env : RcvEnv) (skb : SkBuff) :
    mpdccptunNeedrcvcpy env skb =
      if Unfragmented skb then false
      else if skb.len < 12 + 4 then true
      else copiesPayload (skb.byte (payloadOffset env skb)) (payloadLen env skb) :=
  rfl

/-- A byte of the linear area. -/
def linearByte (skb : SkBuff) (index : Nat) : Option UInt8 :=
  if index < skb.headlen then some (skb.byte index) else none

/-- The offset of the payload, if the length of the header in front of it can be read. -/
def linearOffset (env : RcvEnv) (skb : SkBuff) : Option Nat :=
  if env.keepsHeader then (linearByte skb 4).map fun doff => doff.toNat * 4 else some 0

/-- `mpdccptun_needrcvcpy` that fails at a read outside of the linear area. -/
def checkedNeedrcvcpy (env : RcvEnv) (skb : SkBuff) : Option Bool :=
  if Unfragmented skb then some false
  else if skb.len < 12 + 4 then some true
  else
    (linearOffset env skb).bind fun offset =>
      (linearByte skb offset).map fun first =>
        copiesPayload first (toInt32 ((skb.len + 2 ^ 32 - offset) % 2 ^ 32))

/-- The length of the IP header that starts with the byte, and zero for other packets. -/
def ipHeaderLen (first : UInt8) : Nat :=
  match tpGetpkttype first with
  | 4 => first.toNat % 16 * 4
  | 6 => 40
  | _ => 0

/-- The first byte of the payload and the whole IP header lie in the linear area. -/
def HeaderLinear (env : RcvEnv) (skb : SkBuff) : Prop :=
  ∃ offset first, linearOffset env skb = some offset ∧ linearByte skb offset = some first ∧
    offset + ipHeaderLen first ≤ skb.headlen

/-- The decision reads linear bytes only, and a packet that is used without copying has
its header in the linear area. -/
def SafeDecision (env : RcvEnv) (skb : SkBuff) : Prop :=
  ∃ copies, checkedNeedrcvcpy env skb = some copies ∧
    (copies = false → HeaderLinear env skb)

/-- How far the linear area has to reach for the first byte of the payload to be read. -/
def firstEnd (env : RcvEnv) (skb : SkBuff) : Nat :=
  max (if env.keepsHeader then 5 else 0) (payloadOffset env skb + 1)

/-- How far it has to reach for the IP header. -/
def headerEnd (env : RcvEnv) (skb : SkBuff) : Nat :=
  max (firstEnd env skb)
    (payloadOffset env skb + ipHeaderLen (skb.byte (payloadOffset env skb)))

/-- The total length of the payload is that of a packet which is used without copying. -/
def LongPayload (first : UInt8) (len : Int) : Prop :=
  (tpGetpkttype first = 4 ∧ 20 ≤ len ∧ (ipHeaderLen first : Int) ≤ len) ∨
    (tpGetpkttype first = 6 ∧ 1260 ≤ len)

instance (first : UInt8) (len : Int) : Decidable (LongPayload first len) :=
  inferInstanceAs (Decidable (_ ∨ _))

/-- How long the linear area has to be. -/
def linearNeeded (env : RcvEnv) (skb : SkBuff) : Nat :=
  if Unfragmented skb then headerEnd env skb
  else if skb.len < 12 + 4 then 0
  else if LongPayload (skb.byte (payloadOffset env skb)) (payloadLen env skb) then
    headerEnd env skb
  else firstEnd env skb

theorem copiesPayload_eq_false_iff (first : UInt8) (len : Int) :
    copiesPayload first len = false ↔ LongPayload first len := by
  unfold copiesPayload LongPayload
  split
  · rename_i two
    simp [two]
  · rename_i four
    have header : ipHeaderLen first = first.toNat % 16 * 4 := by
      simp only [ipHeaderLen, four]
    rw [four, header]
    split_ifs with short
    · simp only [false_iff]
      omega
    · rw [decide_eq_false_iff_not]
      omega
  · rename_i six
    simp [six]
  · rename_i two four six
    simp only [Bool.true_eq_false, false_iff]
    rintro (⟨isFour, -⟩ | ⟨isSix, -⟩)
    · exact four isFour
    · exact six isSix

theorem linearByte_eq_some_iff {skb : SkBuff} {index : Nat} {byte : UInt8} :
    linearByte skb index = some byte ↔ index < skb.headlen ∧ skb.byte index = byte := by
  rw [linearByte, Option.ite_none_right_eq_some, Option.some.injEq]

/-- The first byte of the payload is read exactly if the linear area reaches behind it. -/
theorem linear_iff {env : RcvEnv} {skb : SkBuff} {offset : Nat} {first : UInt8} :
    linearOffset env skb = some offset ∧ linearByte skb offset = some first ↔
      firstEnd env skb ≤ skb.headlen ∧ offset = payloadOffset env skb ∧
        first = skb.byte (payloadOffset env skb) := by
  rw [linearByte_eq_some_iff]
  unfold linearOffset firstEnd payloadOffset
  cases env.keepsHeader with
  | true =>
      simp only [if_true, Option.map_eq_some_iff, linearByte_eq_some_iff, dccphDoff4]
      constructor
      · rintro ⟨⟨doff, ⟨readable, rfl⟩, rfl⟩, inside, rfl⟩
        exact ⟨by omega, rfl, rfl⟩
      · rintro ⟨reaches, rfl, rfl⟩
        exact ⟨⟨_, ⟨by omega, rfl⟩, rfl⟩, by omega, rfl⟩
  | false =>
      simp only [Bool.false_eq_true, if_false, Option.some.injEq]
      constructor
      · rintro ⟨rfl, inside, rfl⟩
        exact ⟨by omega, rfl, rfl⟩
      · rintro ⟨reaches, rfl, rfl⟩
        exact ⟨rfl, by omega, rfl⟩

theorem headerLinear_iff (env : RcvEnv) (skb : SkBuff) :
    HeaderLinear env skb ↔ headerEnd env skb ≤ skb.headlen := by
  unfold HeaderLinear headerEnd
  rw [Nat.max_le]
  constructor
  · rintro ⟨offset, first, offsetEq, firstEq, reaches⟩
    obtain ⟨readable, rfl, rfl⟩ := linear_iff.mp ⟨offsetEq, firstEq⟩
    exact ⟨readable, reaches⟩
  · rintro ⟨readable, reaches⟩
    obtain ⟨offsetEq, firstEq⟩ := linear_iff.mpr ⟨readable, rfl, rfl⟩
    exact ⟨_, _, offsetEq, firstEq, reaches⟩

/-- Where it reads linear bytes only, the decision is the one of the code. -/
theorem checkedNeedrcvcpy_eq_some_iff {env : RcvEnv} {skb : SkBuff} {copies : Bool} :
    checkedNeedrcvcpy env skb = some copies ↔
      (¬ Unfragmented skb → 12 + 4 ≤ skb.len → firstEnd env skb ≤ skb.headlen) ∧
        mpdccptunNeedrcvcpy env skb = copies := by
  rw [mpdccptunNeedrcvcpy_eq]
  unfold checkedNeedrcvcpy
  by_cases whole : Unfragmented skb
  · simp [whole]
  by_cases short : skb.len < 12 + 4
  · have noReads : ¬ 12 + 4 ≤ skb.len := Nat.not_le.mpr short
    simp only [whole, if_false, short, if_true, Option.some.injEq, noReads, false_implies,
      implies_true, true_and]
  · have reads : 12 + 4 ≤ skb.len := Nat.not_lt.mp short
    simp only [whole, if_false, short, Option.bind_eq_some_iff, Option.map_eq_some_iff,
      not_false_eq_true, reads, forall_const]
    constructor
    · rintro ⟨offset, offsetEq, first, firstEq, rfl⟩
      obtain ⟨readable, rfl, rfl⟩ := linear_iff.mp ⟨offsetEq, firstEq⟩
      exact ⟨readable, rfl⟩
    · rintro ⟨readable, rfl⟩
      obtain ⟨offsetEq, firstEq⟩ := linear_iff.mpr ⟨readable, rfl, rfl⟩
      exact ⟨_, offsetEq, _, firstEq, rfl⟩

/-- The decision is safe for a packet if and only if its linear area reaches as far as the
decision reads and, for a packet that is used without copying, to the end of its header.
The total length that the decision looks at says nothing about that. -/
theorem safeDecision_iff_reaches (env : RcvEnv) (skb : SkBuff) :
    SafeDecision env skb ↔ linearNeeded env skb ≤ skb.headlen := by
  have firstLe : firstEnd env skb ≤ headerEnd env skb := Nat.le_max_left _ _
  unfold SafeDecision linearNeeded
  simp only [checkedNeedrcvcpy_eq_some_iff, headerLinear_iff, mpdccptunNeedrcvcpy_eq]
  by_cases whole : Unfragmented skb
  · simp [whole]
  by_cases short : skb.len < 12 + 4
  · have noReads : ¬ 12 + 4 ≤ skb.len := Nat.not_le.mpr short
    simp [whole, short, noReads]
  · have reads : 12 + 4 ≤ skb.len := Nat.not_lt.mp short
    have long := copiesPayload_eq_false_iff (skb.byte (payloadOffset env skb))
      (payloadLen env skb)
    simp only [whole, if_false, short, not_false_eq_true, reads, forall_const]
    split_ifs with inPlace
    · rw [← long] at inPlace
      constructor
      · rintro ⟨copies, ⟨-, copiesEq⟩, safe⟩
        exact safe (copiesEq.symm.trans inPlace)
      · intro reaches
        exact ⟨_, ⟨Nat.le_trans firstLe reaches, rfl⟩, fun _ => reaches⟩
    · rw [← long] at inPlace
      constructor
      · rintro ⟨copies, ⟨readable, -⟩, -⟩
        exact readable
      · intro readable
        exact ⟨_, ⟨readable, rfl⟩, fun copied => absurd copied inPlace⟩

/-- An IPv4 packet of 40 bytes with only its first byte in the linear area. -/
def splitSkb : SkBuff where
  id := .buffer 0
  mem := fun _ => 0x45
  data := 0
  headlen := 1
  frags := List.replicate 39 0
  nrFrags := 1
  fragList := false
  len := 40
  len_lt := by decide

/-- The packet is used without copying although its header lies in the fragment. -/
theorem not_safeDecision_splitSkb :
    splitSkb.len = splitSkb.headlen + splitSkb.frags.length ∧
      mpdccptunNeedrcvcpy env414 splitSkb = false ∧ ¬ SafeDecision env414 splitSkb := by
  have tooFar : ¬ linearNeeded env414 splitSkb ≤ splitSkb.headlen := by decide
  have inPlace : mpdccptunNeedrcvcpy env414 splitSkb = false := by decide +kernel
  refine ⟨by simp [splitSkb], inPlace, ?_⟩
  rintro ⟨copies, decision, safe⟩
  obtain ⟨-, copiesEq⟩ := checkedNeedrcvcpy_eq_some_iff.mp decision
  exact tooFar ((headerLinear_iff _ _).mp (safe (copiesEq.symm.trans inPlace)))

/-! ## The removal of the DCCP header -/

/-- The buffer that `rcv_prepare_skb` goes on with: the one it was given, or a copy. -/
def preparedSkb (env : RcvEnv) (skb : SkBuff) : Option SkBuff :=
  if mpdccptunNeedrcvcpy env skb then (env.skbCopy skb.id).map skb.copied else some skb

/-- The buffer that comes out of `rcv_prepare_skb`, if one does, holds the payload that
`mpdccptun_needrcvcpy` has computed. -/
def LeavesPayload (env : RcvEnv) (skb : SkBuff) (state : RcvState) : Prop :=
  ∀ working, (rcvPrepareSkb env skb state).2.1 = some working →
    working.data = skb.data + payloadOffset env skb ∧
      working.len = skb.len - dccphDoff4 skb ∧ toInt32 working.len = payloadLen env skb

/-- Both reads of the length of the header find the one it was declared with: the first in
byte 4 of the buffer, the second in byte 4 of what is then taken for the header. -/
def DoffRepeated (env : RcvEnv) (skb : SkBuff) : Prop :=
  ∀ base, preparedSkb env skb = some base →
    base.byte 4 = skb.byte 4 ∧ base.byte (4 + dccphDoff4 skb) = skb.byte 4

theorem rcvPrepareSkb_skbuf (env : RcvEnv) (skb : SkBuff) (state : RcvState) :
    (rcvPrepareSkb env skb state).2.1 = (preparedSkb env skb).map (pullHeader env) := by
  unfold rcvPrepareSkb preparedSkb
  by_cases copies : mpdccptunNeedrcvcpy env skb = true
  · simp only [copies, if_true]
    cases env.skbCopy skb.id with
    | none => rfl
    | some fill => rfl
  · simp only [copies, if_false, Option.map_some, Bool.false_eq_true]

/-- The prepared buffer starts and ends where the given one does. -/
theorem preparedSkb_frame {env : RcvEnv} {skb base : SkBuff}
    (prepared : preparedSkb env skb = some base) :
    base.data = skb.data ∧ base.len = skb.len := by
  unfold preparedSkb at prepared
  split at prepared
  · obtain ⟨fill, -, rfl⟩ := Option.map_eq_some_iff.mp prepared
    exact ⟨rfl, rfl⟩
  · obtain rfl := Option.some.inj prepared
    exact ⟨rfl, rfl⟩

theorem pullHeader_of_keepsHeader {env : RcvEnv} (keeps : env.keepsHeader = true)
    (skb : SkBuff) :
    (pullHeader env skb).data = skb.data + dccphDoff4 skb ∧
      (pullHeader env skb).len =
        (skb.len + 2 ^ 32 - (skb.byte (4 + dccphDoff4 skb)).toNat * 4) % 2 ^ 32 := by
  have moved : skb.data + (4 + dccphDoff4 skb) = skb.data + dccphDoff4 skb + 4 := by omega
  unfold pullHeader
  rw [keeps]
  simp only [if_true]
  refine ⟨trivial, ?_⟩
  rw [SkBuff.byte, moved]
  rfl

/-- The length shrinks by the declared length of the header exactly if the second read
finds that length. -/
theorem shrunk_iff {len doff second : Nat} (bounded : len < 2 ^ 32) (declared : doff * 4 ≤ len)
    (doffByte : doff < 256) (secondByte : second < 256) :
    (len + 2 ^ 32 - second * 4) % 2 ^ 32 = len - doff * 4 ↔ second = doff := by
  omega

theorem toInt32_payloadLen {env : RcvEnv} (keeps : env.keepsHeader = true) {skb : SkBuff}
    (declared : dccphDoff4 skb ≤ skb.len) :
    payloadLen env skb = toInt32 (skb.len - dccphDoff4 skb) := by
  have bounded := skb.len_lt
  have exact : (skb.len + 2 ^ 32 - dccphDoff4 skb) % 2 ^ 32 = skb.len - dccphDoff4 skb := by
    omega
  rw [payloadLen, payloadOffset, if_pos keeps, exact]

/-- Where buffers start with the DCCP header, `rcv_prepare_skb` leaves the payload if and
only if the payload holds the length of the header where the header did. -/
theorem leavesPayload_iff_doffRepeated {env : RcvEnv} (keeps : env.keepsHeader = true)
    {skb : SkBuff} (declared : dccphDoff4 skb ≤ skb.len) (state : RcvState) :
    LeavesPayload env skb state ↔ DoffRepeated env skb := by
  unfold LeavesPayload DoffRepeated
  rw [rcvPrepareSkb_skbuf]
  have one (base : SkBuff) (prepared : preparedSkb env skb = some base) :
      ((pullHeader env base).data = skb.data + payloadOffset env skb ∧
        (pullHeader env base).len = skb.len - dccphDoff4 skb ∧
          toInt32 (pullHeader env base).len = payloadLen env skb) ↔
        base.byte 4 = skb.byte 4 ∧ base.byte (4 + dccphDoff4 skb) = skb.byte 4 := by
    obtain ⟨dataEq, lenEq⟩ := preparedSkb_frame prepared
    obtain ⟨pulledData, pulledLen⟩ := pullHeader_of_keepsHeader keeps base
    have offset : payloadOffset env skb = dccphDoff4 skb := if_pos keeps
    have doffs : dccphDoff4 base = dccphDoff4 skb ↔ base.byte 4 = skb.byte 4 := by
      unfold dccphDoff4
      rw [← UInt8.toNat_inj]
      omega
    have seconds := shrunk_iff skb.len_lt
      (show (skb.byte 4).toNat * 4 ≤ skb.len from declared)
      (skb.byte 4).toNat_lt (base.byte (4 + dccphDoff4 skb)).toNat_lt
    rw [toInt32_payloadLen keeps declared, pulledData, pulledLen, dataEq, lenEq, offset,
      Nat.add_left_cancel_iff, doffs]
    constructor
    · rintro ⟨first, second, -⟩
      refine ⟨first, ?_⟩
      rw [doffs.mpr first] at second
      exact UInt8.toNat_inj.mp (seconds.mp second)
    · rintro ⟨first, second⟩
      rw [doffs.mpr first]
      have shrunk := seconds.mpr (congrArg UInt8.toNat second)
      exact ⟨first, shrunk, congrArg toInt32 shrunk⟩
  constructor
  · intro leaves base prepared
    refine (one base prepared).mp (leaves _ ?_)
    rw [prepared, Option.map_some]
  · intro repeated working workingEq
    obtain ⟨base, prepared, rfl⟩ := Option.map_eq_some_iff.mp workingEq
    exact (one base prepared).mpr (repeated base prepared)

/-- A build for kernel 4.4 in which copies are made into cleared memory. -/
def env44 : RcvEnv where
  linuxVersionCode := kernelVersion 4 4 0
  skbCopy := fun _ => some fun _ => 0

/-- A linear buffer with a DCCP header of 16 bytes and an IPv4 header of 20 whose fifth
byte, the first of the identification, is the given one. -/
def dccpSkb (identification : UInt8) : SkBuff :=
  linearSkb 0
    ([0, 80, 0, 80, 4, 0, 0, 0, 0, 0, 0, 0, 0, 0, 0, 0] ++
      [0x45, 0, 0, 20, identification, 0, 0, 0, 64, 17, 0, 0, 10, 0, 0, 1, 10, 0, 0, 2])
    (by simp)

def received : RcvState :=
  ⟨[], [], 0, 0, 0⟩

/-- With 4 in that byte the payload is left. -/
theorem leavesPayload_dccpSkb : LeavesPayload env44 (dccpSkb 4) received :=
  (leavesPayload_iff_doffRepeated (by decide) (by decide) received).mpr (by
    intro base prepared
    obtain rfl : dccpSkb 4 = base := Option.some.inj prepared
    exact ⟨rfl, by decide⟩)

/-- With 0 in that byte the length of the buffer still counts the header. -/
theorem not_leavesPayload_dccpSkb :
    env44.keepsHeader = true ∧ dccphDoff4 (dccpSkb 0) ≤ (dccpSkb 0).len ∧
      ¬ LeavesPayload env44 (dccpSkb 0) received := by
  refine ⟨by decide, by decide, ?_⟩
  intro leaves
  have length := (leaves (pullHeader env44 (dccpSkb 0)) rfl).2.1
  have kept : (pullHeader env44 (dccpSkb 0)).len = 36 := by decide +kernel
  have payload : (dccpSkb 0).len - dccphDoff4 (dccpSkb 0) = 20 := by decide
  rw [kept, payload] at length
  contradiction

end Tunprox.ReceiveHeader
