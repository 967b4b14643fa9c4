import Tunprox.SkBuff

/-!
# The receive path of the tunnel

`mpdccptun_dorcv2` takes one datagram from a socket, linearises it when its
headers lie in fragments, and delivers it to the device or to the prot-1
handler.  The functions follow `ldt_mpdccp.c` and `ldt_prot1.c`; every free
and every delivery is recorded in a log, so that the ownership conventions of
the four functions can be compared with the buffers they were given.
-/

namespace Tunprox.Receive

open Errno

/-- What the receive path depends on besides the datagram: the kernel it is
built for and, for each buffer, whether `skb_copy` finds memory for its copy
and what that memory holds behind the data. -/
structure RcvEnv where
  linuxVersionCode : Nat
  skbCopy : BufId → Option (Nat → UInt8)

/-- The receive queue of the socket, the buffer log and the receive counters
of the device. -/
structure RcvState where
  rcvQueue : List SkBuff
  log : List SkbEvent
  rxPackets : Nat
  rxBytes : Nat
  rxErrors : Nat

/-- Append an event to the buffer log. -/
def RcvState.record (state : RcvState) (event : SkbEvent) : RcvState :=
  { state with log := state.log ++ [event] }

/-- Received buffers still start with the DCCP header. -/
def RcvEnv.keepsHeader (env : RcvEnv) : Bool :=
  decide (env.linuxVersionCode < kernelVersion 4 7 0)

/-- `((struct dccp_hdr*)(skb->data))->dccph_doff * 4` -/
def dccphDoff4 (skb : SkBuff) : Nat :=
  (skb.byte 4).toNat * 4

/-- `mpdccptun_needrcvcpy` -/
def mpdccptunNeedrcvcpy (env : RcvEnv) (skb : SkBuff) : Bool :=
  if skb.nrFrags = 0 ∧ skb.fragList = false then false
  else if skb.len < 12 + 4 then true
  else
    let offset := if env.keepsHeader then dccphDoff4 skb else 0
    let len := toInt32 ((skb.len + 2 ^ 32 - offset) % 2 ^ 32)
    match tpGetpkttype (skb.byte offset) with
    | 2 => true
    | 4 =>
        if 0 ≤ len ∧ len < 20 then true
        else decide (len < ((skb.byte offset).toNat % 16 * 4 : Nat))
    | 6 => decide (len < 1260)
    | _ => true

/-- The header removal at the end of `rcv_prepare_skb`.  The second read of
`dccph_doff` goes through the data pointer that was already advanced. -/
def pullHeader (env : RcvEnv) (skb : SkBuff) : SkBuff :=
  if env.keepsHeader then
    let advanced :=
      { skb with
        data := skb.data + dccphDoff4 skb
        headlen := skb.headlen - dccphDoff4 skb }
    { advanced with
      len := (skb.len + 2 ^ 32 - dccphDoff4 advanced) % 2 ^ 32
      len_lt := Nat.mod_lt _ (by decide) }
  else skb

/-- `rcv_prepare_skb`: the return value, `*skbuf` and the new state. -/
def rcvPrepareSkb (env : RcvEnv) (skb : SkBuff) (state : RcvState) :
    Int × Option SkBuff × RcvState :=
  if mpdccptunNeedrcvcpy env skb then
    match env.skbCopy skb.id with
    | none => (-ENOMEM, none, state)
    | some fill =>
        let nskb := pullHeader env (skb.copied fill)
        (toInt32 nskb.len, some nskb,
          (state.record (.allocated (.copy skb.id))).record (.kfreeSkb skb.id))
  else
    let pulled := pullHeader env skb
    (toInt32 pulled.len, some pulled, state)

/-- `dorcv_datagram` with `MSG_DONTWAIT`.  On an error it frees the buffer it
took from the socket. -/
def dorcvDatagram (env : RcvEnv) (state : RcvState) :
    Int × Option SkBuff × RcvState :=
  match state.rcvQueue with
  | [] => (-EAGAIN, none, state)
  | skb :: rest =>
      let taken := { state with rcvQueue := rest }.record (.taken skb.id)
      match rcvPrepareSkb env skb taken with
      | (ret, skbuf, prepared) =>
          if ret < 0 then (ret, skbuf, prepared.record (.kfreeSkb skb.id))
          else (ret, skbuf, prepared)

/-- `tp_prot1_recv`.  All message types are ignored. -/
def tpProt1Recv (skb : SkBuff) (len : Int) : Int :=
  if len < 4 then -EBADMSG
  else if !tpIsprot1 (skb.byte 0) then -EBADMSG
  else if len < ((skb.byte 1).toNat * 4 : Nat) then -EBADMSG
  else 0

/-- `ldt_prot1_recv`, which always frees the buffer. -/
def ldtProt1Recv (skb : SkBuff) (state : RcvState) : Int × RcvState :=
  let ret := tpProt1Recv skb (toInt32 skb.len)
  let freed := state.record (.kfreeSkb skb.id)
  if ret < 0 then (ret, freed) else (0, freed)

/-- `mpdccptun_elab_recv` -/
def mpdccptunElabRecv (skb : SkBuff) (state : RcvState) : Int × RcvState :=
  if tpSkbisprot1 skb then ldtProt1Recv skb state
  else if tpGetpkttype (skb.byte 0) = 4 ∨ tpGetpkttype (skb.byte 0) = 6 then
    let delivered := state.record (.netifRx skb.id)
    (0, { delivered with
      rxPackets := state.rxPackets + 1
      rxBytes := state.rxBytes + skb.len })
  else (-EBADMSG, state)

/-- `mpdccptun_dorcv2` -/
def mpdccptunDorcv2 (env : RcvEnv) (state : RcvState) : Int × RcvState :=
  match dorcvDatagram env state with
  | (ret, skbuf, received) =>
      if ret = -EAGAIN then (ret, received)
      else if ret < 0 then (ret, received)
      else
        match skbuf with
        | none => (0, received)
        | some skb =>
            if ret = 0 ∨ skb.len = 0 then (0, received)
            else
              match mpdccptunElabRecv skb received with
              | (ret, elaborated) =>
                  if ret < 0 then (ret, elaborated.record (.kfreeSkb skb.id))
                  else (0, elaborated)

/-- The buffer the datagram is worked on in, with the header pulled: the
buffer itself or its copy, and none when the copy could not be allocated. -/
def workingSkb (env : RcvEnv) (skb : SkBuff) : Option SkBuff :=
  if mpdccptunNeedrcvcpy env skb then
    (env.skbCopy skb.id).map fun fill => pullHeader env (skb.copied fill)
  else some (pullHeader env skb)

/-- A prot-1 message is long enough for its header and for the length its
header declares. -/
def Prot1Complete (skb : SkBuff) : Prop :=
  4 ≤ skb.len ∧ (skb.byte 1).toNat * 4 ≤ skb.len

instance (skb : SkBuff) : Decidable (Prot1Complete skb) :=
  inferInstanceAs (Decidable (_ ∧ _))

/-- The datagrams whose buffer is released exactly once: those without memory
for the copy that is needed, those whose length is negative as an `int` and
that were not copied, and those that are not empty and, if they are prot-1
messages, complete. -/
def ReleasedCleanly (env : RcvEnv) (skb : SkBuff) : Prop :=
  match workingSkb env skb with
  | none => True
  | some working =>
      if toInt32 working.len < 0 then mpdccptunNeedrcvcpy env skb = false
      else working.len ≠ 0 ∧ (tpSkbisprot1 working = true → Prot1Complete working)

instance (env : RcvEnv) (skb : SkBuff) : Decidable (ReleasedCleanly env skb) :=
  match workingEq : workingSkb env skb with
  | none => .isTrue (by simp [ReleasedCleanly, workingEq])
  | some working =>
      decidable_of_iff
        (if toInt32 working.len < 0 then mpdccptunNeedrcvcpy env skb = false
          else working.len ≠ 0 ∧ (tpSkbisprot1 working = true → Prot1Complete working))
        (by simp [ReleasedCleanly, workingEq])

theorem toInt32_nonneg_eq {value : Nat} (nonneg : ¬ toInt32 value < 0)
    (bounded : value < 2 ^ 32) : toInt32 value = value := by
  unfold toInt32 at nonneg ⊢
  split
  · rfl
  · rename_i large
    rw [if_neg large] at nonneg
    omega

/-- The code `tp_prot1_recv` returns for a prot-1 message is an error exactly
when the message is incomplete. -/
theorem tpProt1Recv_neg_iff {skb : SkBuff} (prot1 : tpSkbisprot1 skb = true) :
    tpProt1Recv skb skb.len < 0 ↔ ¬ Prot1Complete skb := by
  have isProt1 : tpIsprot1 (skb.byte 0) = true := by
    simp only [tpSkbisprot1, Bool.and_eq_true] at prot1
    exact prot1.2
  unfold tpProt1Recv Prot1Complete
  rw [isProt1]
  simp only [Bool.not_true, Bool.false_eq_true, if_false, EBADMSG]
  split_ifs with short truncated <;> omega

/-- The events recorded from `mpdccptun_elab_recv` on for a datagram that is
neither empty nor a receive error. -/
def elabEvents (skb : SkBuff) : List SkbEvent :=
  if tpSkbisprot1 skb = true then
    if Prot1Complete skb then [.kfreeSkb skb.id]
    else [.kfreeSkb skb.id, .kfreeSkb skb.id]
  else if tpGetpkttype (skb.byte 0) = 4 ∨ tpGetpkttype (skb.byte 0) = 6 then
    [.netifRx skb.id]
  else [.kfreeSkb skb.id]

theorem mpdccptunElabRecv_log {skb : SkBuff} (state : RcvState)
    (nonneg : ¬ toInt32 skb.len < 0) :
    (if (mpdccptunElabRecv skb state).1 < 0 then
        ((mpdccptunElabRecv skb state).1,
          (mpdccptunElabRecv skb state).2.record (.kfreeSkb skb.id))
      else (0, (mpdccptunElabRecv skb state).2)).2.log =
      state.log ++ elabEvents skb := by
  have lenEq := toInt32_nonneg_eq nonneg skb.len_lt
  unfold mpdccptunElabRecv elabEvents
  by_cases prot1 : tpSkbisprot1 skb = true
  · have negIff := tpProt1Recv_neg_iff prot1
    simp only [prot1, if_true, ldtProt1Recv, lenEq]
    by_cases complete : Prot1Complete skb
    · have accepted : ¬ tpProt1Recv skb skb.len < 0 := by simpa [complete] using negIff
      simp [complete, accepted, RcvState.record]
    · have failed : tpProt1Recv skb skb.len < 0 := negIff.mpr complete
      simp [complete, failed, RcvState.record]
  · simp only [prot1, if_false, Bool.false_eq_true]
    split <;> simp [RcvState.record, EBADMSG]

/-- The events `mpdccptun_dorcv2` records for one datagram. -/
def dorcv2Events (env : RcvEnv) (skb : SkBuff) : List SkbEvent :=
  match workingSkb env skb with
  | none => [.taken skb.id, .kfreeSkb skb.id]
  | some working =>
      .taken skb.id ::
        (if mpdccptunNeedrcvcpy env skb then
            [.allocated (.copy skb.id), .kfreeSkb skb.id]
          else []) ++
        (if toInt32 working.len < 0 then [.kfreeSkb skb.id]
          else if working.len = 0 then []
          else elabEvents working)

/-- Only a copy that is needed and cannot be allocated leaves nothing to work on. -/
theorem noCopy_of_workingSkb {env : RcvEnv} {skb : SkBuff}
    (workingEq : workingSkb env skb = none) :
    mpdccptunNeedrcvcpy env skb = true ∧ env.skbCopy skb.id = none := by
  unfold workingSkb at workingEq
  split at workingEq
  · rename_i copies
    exact ⟨copies, Option.map_eq_none_iff.mp workingEq⟩
  · contradiction

theorem rcvPrepareSkb_of_working {env : RcvEnv} {skb working : SkBuff}
    (workingEq : workingSkb env skb = some working) (state : RcvState) :
    rcvPrepareSkb env skb state =
      (toInt32 working.len, some working,
        if mpdccptunNeedrcvcpy env skb then
          (state.record (.allocated (.copy skb.id))).record (.kfreeSkb skb.id)
        else state) := by
  unfold workingSkb at workingEq
  unfold rcvPrepareSkb
  by_cases copies : mpdccptunNeedrcvcpy env skb = true
  · simp only [copies, if_true, Option.map_eq_some_iff] at workingEq ⊢
    obtain ⟨fill, fillEq, rfl⟩ := workingEq
    simp [fillEq]
  · simp only [copies, if_false, Option.some.injEq, Bool.false_eq_true] at workingEq ⊢
    subst workingEq
    rfl

theorem mpdccptunDorcv2_log (env : RcvEnv) (state : RcvState) (skb : SkBuff)
    (rest : List SkBuff) (queued : state.rcvQueue = skb :: rest) :
    (mpdccptunDorcv2 env state).2.log = state.log ++ dorcv2Events env skb := by
  unfold mpdccptunDorcv2 dorcvDatagram dorcv2Events
  simp only [queued]
  cases workingEq : workingSkb env skb with
  | none =>
      have noCopy := noCopy_of_workingSkb workingEq
      simp [rcvPrepareSkb, noCopy, ENOMEM, EAGAIN, RcvState.record]
  | some working =>
      simp only [rcvPrepareSkb_of_working workingEq]
      generalize preparedEq : (if mpdccptunNeedrcvcpy env skb = true then _ else _) = prepared
      have preparedLog : prepared.log = state.log ++ .taken skb.id ::
          (if mpdccptunNeedrcvcpy env skb then
            [.allocated (.copy skb.id), .kfreeSkb skb.id] else []) := by
        rw [← preparedEq]
        split <;> simp [RcvState.record]
      by_cases negative : toInt32 working.len < 0
      · simp only [negative, if_true, ite_self, RcvState.record, preparedLog]
        simp
      · have lenEq := toInt32_nonneg_eq negative working.len_lt
        have notAgain : ¬ toInt32 working.len = -EAGAIN := by
          unfold EAGAIN
          omega
        simp only [negative, if_false, notAgain]
        by_cases empty : working.len = 0
        · simp [empty, preparedLog]
        · have nonzero : ¬ (toInt32 working.len = 0 ∨ working.len = 0) := by omega
          rw [if_neg nonzero, if_neg empty, mpdccptunElabRecv_log prepared negative,
            preparedLog]
          simp

@[simp]
theorem pullHeader_id (env : RcvEnv) (skb : SkBuff) :
    (pullHeader env skb).id = skb.id := by
  unfold pullHeader
  split <;> rfl

theorem workingSkb_id {env : RcvEnv} {skb working : SkBuff}
    (workingEq : workingSkb env skb = some working) :
    working.id = if mpdccptunNeedrcvcpy env skb then .copy skb.id else skb.id := by
  unfold workingSkb at workingEq
  split at workingEq <;> rename_i copies
  · obtain ⟨fill, -, rfl⟩ := Option.map_eq_some_iff.mp workingEq
    simp [copies]
  · obtain rfl := Option.some.inj workingEq
    simp [copies]

theorem acquisitions_elabEvents (id : BufId) (skb : SkBuff) :
    acquisitions id (elabEvents skb) = 0 := by
  unfold elabEvents
  split_ifs <;> simp [acquisitions, SkbEvent.acquires]

/-- A datagram that is worked on is released once, except for an incomplete
prot-1 message, which is released twice. -/
theorem releases_elabEvents (id : BufId) (skb : SkBuff) :
    releases id (elabEvents skb) =
      if skb.id = id then
        (if tpSkbisprot1 skb = true ∧ ¬ Prot1Complete skb then 2 else 1)
      else 0 := by
  unfold elabEvents
  by_cases same : skb.id = id
  · split_ifs <;> simp_all [releases, SkbEvent.releases]
  · split_ifs <;> simp_all [releases, SkbEvent.releases]

/-- Two buffers come into the hands of `mpdccptun_dorcv2` for a datagram that
is copied and one for every other datagram. -/
theorem acquisitions_dorcv2Events (env : RcvEnv) (id : BufId) (skb : SkBuff) :
    acquisitions id (dorcv2Events env skb) =
      (if skb.id = id then 1 else 0) +
        (if (workingSkb env skb).isSome ∧ mpdccptunNeedrcvcpy env skb = true ∧
            .copy skb.id = id then 1 else 0) := by
  unfold dorcv2Events
  cases workingEq : workingSkb env skb with
  | none =>
      by_cases same : skb.id = id <;> simp [acquisitions, SkbEvent.acquires, same]
  | some working =>
      have tail : acquisitions id
          (if toInt32 working.len < 0 then [.kfreeSkb skb.id]
            else if working.len = 0 then [] else elabEvents working) = 0 := by
        split_ifs
        · simp [acquisitions, SkbEvent.acquires]
        · simp [acquisitions]
        · exact acquisitions_elabEvents id working
      simp only [acquisitions_append, tail, Option.isSome_some, true_and, Nat.add_zero]
      by_cases copies : mpdccptunNeedrcvcpy env skb = true <;>
        by_cases same : skb.id = id <;>
        by_cases ofCopy : BufId.copy skb.id = id <;>
        simp_all [acquisitions, SkbEvent.acquires]

theorem releases_dorcv2Events {env : RcvEnv} {skb working : SkBuff}
    (workingEq : workingSkb env skb = some working) (id : BufId) :
    releases id (dorcv2Events env skb) =
      (if mpdccptunNeedrcvcpy env skb = true ∧ skb.id = id then 1 else 0) +
        (if toInt32 working.len < 0 then (if skb.id = id then 1 else 0)
          else if working.len = 0 then 0
          else releases id (elabEvents working)) := by
  unfold dorcv2Events
  simp only [workingEq, releases_append]
  congr 1
  · by_cases copies : mpdccptunNeedrcvcpy env skb = true <;>
      by_cases same : skb.id = id <;> simp [releases, SkbEvent.releases, copies, same]
  · split_ifs <;> simp_all [releases, SkbEvent.releases]

/-- Over one datagram the functions of the receive path release the buffers
they took and allocated exactly once each, if and only if the datagram is one
of those `ReleasedCleanly` describes. -/
theorem mpdccptunDorcv2_releases_iff (env : RcvEnv) (state : RcvState)
    (skb : SkBuff) (rest : List SkBuff) :
    ReleasedExactlyOnce
        ((mpdccptunDorcv2 env { state with rcvQueue := skb :: rest }).2.log.drop
          state.log.length) ↔
      ReleasedCleanly env skb := by
  rw [mpdccptunDorcv2_log env _ skb rest rfl, List.drop_left]
  unfold ReleasedExactlyOnce ReleasedCleanly
  simp only [acquisitions_dorcv2Events]
  cases workingEq : workingSkb env skb with
  | none =>
      simp only [Option.isSome_none, iff_true]
      intro id
      by_cases same : skb.id = id <;>
        simp [dorcv2Events, workingEq, releases, SkbEvent.releases, same]
  | some working =>
      have workingId := workingSkb_id workingEq
      simp only [releases_dorcv2Events workingEq, releases_elabEvents,
        Option.isSome_some, true_and]
      by_cases negative : toInt32 working.len < 0
      · simp only [negative, if_true]
        cases copies : mpdccptunNeedrcvcpy env skb with
        | true =>
            simp only [Bool.true_eq_false, iff_false]
            intro once
            simpa using (once skb.id).1
        | false =>
            simp only [iff_true]
            intro id
            by_cases same : skb.id = id <;> simp [same]
      · simp only [negative, if_false]
        by_cases empty : working.len = 0
        · simp only [empty, if_true, ne_eq, not_true_eq_false, false_and, iff_false]
          intro once
          have onceWorking := (once working.id).1
          split_ifs at workingId <;> simp_all
        · simp only [empty, if_false, ne_eq, not_false_eq_true, true_and]
          by_cases incomplete : tpSkbisprot1 working = true ∧ ¬ Prot1Complete working
          · refine iff_of_false ?_ fun complete => incomplete.2 (complete incomplete.1)
            intro once
            have onceWorking := (once working.id).1
            split_ifs at workingId <;> simp_all
          · refine iff_of_true ?_ fun prot1 => by_contra fun bad => incomplete ⟨prot1, bad⟩
            intro id
            simp only [incomplete, if_false]
            by_cases same : skb.id = id <;>
              by_cases ofCopy : BufId.copy skb.id = id <;>
              split_ifs at workingId <;> simp_all

/-- A linear buffer as a kernel from 4.7 on delivers it. -/
def linearSkb (number : Nat) (bytes : List UInt8) (fits : bytes.length < 2 ^ 32) :
    SkBuff where
  id := .buffer number
  mem := fun index => bytes.getD index 0
  data := 0
  headlen := bytes.length
  frags := []
  nrFrags := 0
  fragList := false
  len := bytes.length
  len_lt := fits

/-- A build for kernel 4.14 in which no copy can be allocated. -/
def env414 : RcvEnv where
  linuxVersionCode := kernelVersion 4 14 0
  skbCopy := fun _ => none

/-- A prot-1 message of four bytes that declares a length of 1020 bytes is
freed twice, and an empty datagram is not freed at all. -/
theorem mpdccptunDorcv2_truncated_and_empty :
    ¬ ReleasedExactlyOnce
        (mpdccptunDorcv2 env414
          ⟨[linearSkb 0 [0x10, 0xff, 0, 1] (by decide)], [], 0, 0, 0⟩).2.log ∧
      ¬ ReleasedExactlyOnce
        (mpdccptunDorcv2 env414 ⟨[linearSkb 0 [] (by decide)], [], 0, 0, 0⟩).2.log := by
  constructor
  · intro once
    exact absurd ((once (.buffer 0)).1 (by decide)) (by decide)
  · intro once
    exact absurd ((once (.buffer 0)).1 (by decide)) (by decide)

end Tunprox.Receive
