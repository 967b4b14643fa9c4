import Tunprox.ConnectionOutcome
import Tunprox.Receive

/-!
# The datagrams queued before a connection is accepted

A socket that is accepted may hold datagrams for which no callback has been called.
`mpdccptun_elab_accept` takes them in a loop, which leaves off at the first datagram whose
processing fails, whatever is queued behind it.  From then on every callback takes one
datagram, for the one that has arrived, so that what the loop leaves is never caught up on.
-/

namespace Tunprox.AcceptDrain

open Errno Receive Connection ConnectionOutcome

/-- The code `mpdccptun_dorcv` and `mpdccptun_dorcv_all` return, and the error counter. -/
def reportRcv : Int × RcvState → Int × RcvState
  | (ret, state) =>
      if ret = -EAGAIN then (0, state)
      else if ret < 0 then (ret, { state with rxErrors := state.rxErrors + 1 })
      else (ret, state)

/-- `mpdccptun_dorcv` -/
def mpdccptunDorcv (env : RcvEnv) (tdat : Mpdccptun) (state : RcvState) : Int × RcvState :=
  if tdat.tostop then (0, state) else reportRcv (mpdccptunDorcv2 env state)

/-- The loop of `mpdccptun_dorcv_all`, as far as the fuel goes. -/
def dorcvLoop (env : RcvEnv) (tdat : Mpdccptun) : Nat → RcvState → Option (Int × RcvState)
  | 0, _ => none
  | fuel + 1, state =>
      if tdat.tostop then some (0, state)
      else
        match mpdccptunDorcv2 env state with
        | (ret, received) =>
            if ret = 0 then dorcvLoop env tdat fuel received else some (ret, received)

/-- `mpdccptun_dorcv_all`.  Each round takes a datagram, so that one round more than there
are datagrams ends the loop. -/
def mpdccptunDorcvAll (env : RcvEnv) (tdat : Mpdccptun) (state : RcvState) :
    Option (Int × RcvState) :=
  (dorcvLoop env tdat (state.rcvQueue.length + 1) state).map reportRcv

/-- `mpdccptun_elab_accept` with what it receives from the accepted socket, unless reading
through a null `tdat->sock` ends it. -/
def elabAcceptReceive (env : RcvEnv) (state : ConnState) (kernelAccept : Int)
    (rcv : RcvState) : Option (Int × ConnState × RcvState) :=
  match mpdccptunElabAccept state kernelAccept with
  | (ret, next) =>
      if ret < 0 ∨ state.tdat.sock = none then some (ret, next, rcv)
      else (mpdccptunDorcvAll env next.tdat rcv).map fun drained => (ret, next, drained.2)

/-- `tp_elab_data_ready` for a datagram that has arrived on the active socket. -/
def tpElabDataReady (env : RcvEnv) (tdat : Mpdccptun) (state : RcvState) (skb : SkBuff) :
    RcvState :=
  (mpdccptunDorcv env tdat { state with rcvQueue := state.rcvQueue ++ [skb] }).2

/-- `mpdccptun_elab_recv` accepts what is in the buffer: a complete prot-1 message or an IP
packet. -/
def elaborated (skb : SkBuff) : Bool :=
  if tpSkbisprot1 skb then decide (Prot1Complete skb)
  else tpGetpkttype (skb.byte 0) == 4 || tpGetpkttype (skb.byte 0) == 6

/-- The datagrams after which the loop goes on: there is memory for the copy if one is
needed, the length is not negative as an `int`, and the contents are empty or accepted. -/
def consumed (env : RcvEnv) (skb : SkBuff) : Bool :=
  match workingSkb env skb with
  | none => false
  | some working =>
      decide (0 ≤ toInt32 working.len) && (working.len == 0 || elaborated working)

/-- An error of `mpdccptun_elab_recv` is a negative code, and the queue is not its concern. -/
theorem mpdccptunElabRecv_spec {skb : SkBuff} (state : RcvState)
    (nonneg : ¬ toInt32 skb.len < 0) :
    ((mpdccptunElabRecv skb state).1 < 0 ↔ elaborated skb = false) ∧
      (mpdccptunElabRecv skb state).2.rcvQueue = state.rcvQueue := by
  have lenEq := toInt32_nonneg_eq nonneg skb.len_lt
  unfold mpdccptunElabRecv elaborated
  by_cases prot1 : tpSkbisprot1 skb = true
  · have negIff := tpProt1Recv_neg_iff prot1
    simp only [prot1, if_true, ldtProt1Recv, lenEq, decide_eq_false_iff_not]
    split_ifs with failed
    · exact ⟨by simpa [failed] using negIff, rfl⟩
    · exact ⟨by simpa [failed] using negIff, rfl⟩
  · simp only [prot1, if_false, Bool.false_eq_true]
    split_ifs with ip
    · have accepted : (tpGetpkttype (skb.byte 0) == 4 || tpGetpkttype (skb.byte 0) == 6) =
          true := by
        simpa using ip
      rw [accepted]
      exact ⟨by simp, rfl⟩
    · have refused : (tpGetpkttype (skb.byte 0) == 4 || tpGetpkttype (skb.byte 0) == 6) =
          false := by
        simpa using ip
      rw [refused]
      exact ⟨by simp [EBADMSG], rfl⟩

/-- One round takes the first datagram, and returns zero exactly for a consumed one. -/
theorem mpdccptunDorcv2_cons (env : RcvEnv) {state : RcvState} {skb : SkBuff}
    {rest : List SkBuff} (queued : state.rcvQueue = skb :: rest) :
    ((mpdccptunDorcv2 env state).1 = 0 ↔ consumed env skb = true) ∧
      (mpdccptunDorcv2 env state).2.rcvQueue = rest := by
  unfold mpdccptunDorcv2 dorcvDatagram consumed
  simp only [queued]
  cases workingEq : workingSkb env skb with
  | none =>
      have noCopy := noCopy_of_workingSkb workingEq
      simp [rcvPrepareSkb, noCopy, ENOMEM, EAGAIN, RcvState.record]
  | some working =>
      simp only [rcvPrepareSkb_of_working workingEq]
      generalize preparedEq : (if mpdccptunNeedrcvcpy env skb = true then _ else _) = prepared
      have preparedQueue : prepared.rcvQueue = rest := by
        rw [← preparedEq]
        split <;> rfl
      by_cases negative : toInt32 working.len < 0
      · have nonzero : toInt32 working.len ≠ 0 := Int.ne_of_lt negative
        have notNonneg : ¬ 0 ≤ toInt32 working.len := Int.not_le.mpr negative
        simp only [negative, if_true, ite_self, nonzero, notNonneg, decide_false,
          Bool.false_and, Bool.false_eq_true]
        exact ⟨trivial, preparedQueue⟩
      · have lenEq := toInt32_nonneg_eq negative working.len_lt
        have notAgain : ¬ toInt32 working.len = -EAGAIN := by
          unfold EAGAIN
          omega
        have nonneg : 0 ≤ toInt32 working.len := Int.not_lt.mp negative
        simp only [negative, if_false, notAgain, nonneg, decide_true, Bool.true_and]
        by_cases empty : working.len = 0
        · simp [empty, preparedQueue]
        · have nonzero : ¬ (toInt32 working.len = 0 ∨ working.len = 0) := by omega
          obtain ⟨failedIff, queueEq⟩ := mpdccptunElabRecv_spec prepared negative
          simp only [if_neg nonzero, beq_eq_false_iff_ne.mpr empty, Bool.false_or]
          split_ifs with failed
          · have refused := failedIff.mp failed
            simp only [refused, Bool.false_eq_true, iff_false]
            exact ⟨Int.ne_of_lt failed, queueEq.trans preparedQueue⟩
          · have accepted : elaborated working = true := by
              rw [← Bool.not_eq_false, ← failedIff]
              exact failed
            exact ⟨iff_of_true rfl accepted, queueEq.trans preparedQueue⟩

theorem mpdccptunDorcv2_nil (env : RcvEnv) {state : RcvState} (empty : state.rcvQueue = []) :
    mpdccptunDorcv2 env state = (-EAGAIN, state) := by
  unfold mpdccptunDorcv2 dorcvDatagram
  rw [empty]
  rfl

/-- With more fuel than there are datagrams the loop ends.  It leaves what is queued behind
the first datagram that is not consumed. -/
theorem dorcvLoop_queue (env : RcvEnv) {tdat : Mpdccptun} (live : tdat.tostop = false)
    {fuel : Nat} {state : RcvState} (enough : state.rcvQueue.length < fuel) :
    ∃ result, dorcvLoop env tdat fuel state = some result ∧
      result.2.rcvQueue = (state.rcvQueue.dropWhile (consumed env)).tail := by
  induction fuel generalizing state with
  | zero => exact absurd enough (Nat.not_lt_zero _)
  | succ fuel ih =>
      rw [dorcvLoop, live]
      simp only [Bool.false_eq_true, if_false]
      cases queued : state.rcvQueue with
      | nil =>
          rw [mpdccptunDorcv2_nil env queued]
          exact ⟨_, rfl, queued⟩
      | cons skb rest =>
          obtain ⟨zeroIff, queueEq⟩ := mpdccptunDorcv2_cons env queued
          generalize mpdccptunDorcv2 env state = received at zeroIff queueEq ⊢
          by_cases goesOn : consumed env skb = true
          · have shorter : received.2.rcvQueue.length < fuel := by
              rw [queued, List.length_cons] at enough
              rw [queueEq]
              omega
            obtain ⟨result, resultEq, left⟩ := ih shorter
            rw [List.dropWhile_cons_of_pos goesOn, ← queueEq]
            exact ⟨result, by rw [if_pos (zeroIff.mpr goesOn), resultEq], left⟩
          · have failed : ¬ received.1 = 0 := fun zero => goesOn (zeroIff.mp zero)
            rw [List.dropWhile_cons_of_neg goesOn]
            exact ⟨received, by rw [if_neg failed], queueEq⟩

theorem reportRcv_rcvQueue (result : Int × RcvState) :
    (reportRcv result).2.rcvQueue = result.2.rcvQueue := by
  obtain ⟨ret, state⟩ := result
  simp only [reportRcv]
  split_ifs <;> rfl

theorem mpdccptunDorcvAll_queue (env : RcvEnv) {tdat : Mpdccptun}
    (live : tdat.tostop = false) (state : RcvState) :
    ∃ result, mpdccptunDorcvAll env tdat state = some result ∧
      result.2.rcvQueue = (state.rcvQueue.dropWhile (consumed env)).tail := by
  obtain ⟨result, ended, left⟩ := dorcvLoop_queue env live (Nat.lt_succ_self _)
  refine ⟨reportRcv result, ?_, (reportRcv_rcvQueue result).trans left⟩
  rw [mpdccptunDorcvAll, ended, Option.map_some]

/-- Nothing is left behind the first entry that fails a test exactly if only the last one
may fail it. -/
theorem tail_dropWhile_eq_nil_iff {α : Type} (test : α → Bool) (entries : List α) :
    (entries.dropWhile test).tail = [] ↔ ∀ entry ∈ entries.dropLast, test entry = true := by
  induction entries with
  | nil => simp
  | cons entry entries ih =>
      cases entries with
      | nil =>
          by_cases passes : test entry = true
          · simp [passes]
          · simp [passes]
      | cons second rest =>
          rw [List.dropLast_cons_cons, List.forall_mem_cons]
          by_cases passes : test entry = true
          · rw [List.dropWhile_cons_of_pos passes, ih]
            simp [passes]
          · rw [List.dropWhile_cons_of_neg passes]
            simp [passes]

/-- Taking a connection does not stop the tunnel. -/
theorem mpdccptunElabAccept_tostop {state : ConnState} {kernelAccept : Int}
    {listenSock : SockId} (sockEq : state.tdat.sock = some listenSock)
    (accepted : 0 ≤ kernelAccept) :
    (mpdccptunElabAccept state kernelAccept).1 = 0 ∧
      (mpdccptunElabAccept state kernelAccept).2.tdat.tostop = state.tdat.tostop := by
  unfold mpdccptunElabAccept
  simp only [sockEq, Int.not_lt.mpr accepted, if_false, ConnectionClose.myclose_eq, becomeActive]
  cases state.tdat.active with
  | none => exact ⟨trivial, rfl⟩
  | some active => exact ⟨trivial, rfl⟩

/-- After a run that takes a connection on a live tunnel the receive queue of the socket is
empty if and only if every datagram in it, except for the last one, was consumed. -/
theorem elabAcceptReceive_drains_iff (env : RcvEnv) {state : ConnState} {listenSock : SockId}
    (sockEq : state.tdat.sock = some listenSock) (live : state.tdat.tostop = false)
    {kernelAccept : Int} (accepted : 0 ≤ kernelAccept) (rcv : RcvState) :
    ∃ next drained, elabAcceptReceive env state kernelAccept rcv = some (0, next, drained) ∧
      (drained.rcvQueue = [] ↔ ∀ skb ∈ rcv.rcvQueue.dropLast, consumed env skb = true) := by
  obtain ⟨ret, tostop⟩ := mpdccptunElabAccept_tostop sockEq accepted
  obtain ⟨drained, ended, left⟩ := mpdccptunDorcvAll_queue env (tostop.trans live) rcv
  have continues : ¬ ((0 : Int) < 0 ∨ state.tdat.sock = none) := by
    rw [sockEq]
    simp
  refine ⟨(mpdccptunElabAccept state kernelAccept).2, drained.2, ?_, ?_⟩
  · unfold elabAcceptReceive
    simp only [ret, if_neg continues, ended, Option.map_some]
  · rw [left]
    exact tail_dropWhile_eq_nil_iff (consumed env) rcv.rcvQueue

/-- A callback takes the first datagram of the queue for the one that has arrived. -/
theorem length_tpElabDataReady (env : RcvEnv) {tdat : Mpdccptun}
    (live : tdat.tostop = false) (state : RcvState) (skb : SkBuff) :
    (tpElabDataReady env tdat state skb).rcvQueue.length = state.rcvQueue.length := by
  unfold tpElabDataReady mpdccptunDorcv
  rw [live]
  simp only [Bool.false_eq_true, if_false, reportRcv_rcvQueue]
  cases queued : state.rcvQueue ++ [skb] with
  | nil => simp at queued
  | cons first rest =>
      have lengths := congrArg List.length queued
      rw [List.length_append, List.length_singleton, List.length_cons] at lengths
      have taken := (mpdccptunDorcv2_cons env
        (show ({ state with rcvQueue := first :: rest } : RcvState).rcvQueue = first :: rest
          from rfl)).2
      rw [taken]
      omega

/-- However many datagrams arrive later, what the loop has left stays in the queue as a
backlog of the same length. -/
theorem length_arrivals (env : RcvEnv) {tdat : Mpdccptun} (live : tdat.tostop = false)
    (arrivals : List SkBuff) (state : RcvState) :
    (arrivals.foldl (tpElabDataReady env tdat) state).rcvQueue.length =
      state.rcvQueue.length := by
  induction arrivals generalizing state with
  | nil => rfl
  | cons skb arrivals ih =>
      rw [List.foldl_cons, ih]
      exact length_tpElabDataReady env live state skb

/-- A listening tunnel. -/
def listeningState : ConnState :=
  { Connection.initial false true with
    tdat := { mpdccptunNew false true with
      bound := true
      listening := true
      isserver := true
      sock := some 0 }
    nextSock := 1 }

/-- A received datagram of one byte. -/
def byteSkb (number : Nat) (byte : UInt8) : SkBuff :=
  linearSkb number [byte] (by simp)

/-- With an IPv4 packet in front, both datagrams are taken. -/
theorem elabAcceptReceive_drained :
    ∃ next drained,
      elabAcceptReceive env414 listeningState 0
        ⟨[byteSkb 0 0x45, byteSkb 1 0x90], [], 0, 0, 0⟩ = some (0, next, drained) ∧
      drained.rcvQueue = [] := by
  obtain ⟨next, drained, ended, iff⟩ := elabAcceptReceive_drains_iff env414
    (show listeningState.tdat.sock = some 0 from rfl) rfl (Int.le_refl 0)
    ⟨[byteSkb 0 0x45, byteSkb 1 0x90], [], 0, 0, 0⟩
  refine ⟨next, drained, ended, iff.mpr ?_⟩
  intro skb queued
  obtain rfl : skb = byteSkb 0 0x45 := by simpa using queued
  decide

/-- A datagram of an unknown type in front keeps the other one in the queue. -/
theorem elabAcceptReceive_not_drained :
    ∃ next drained,
      elabAcceptReceive env414 listeningState 0
        ⟨[byteSkb 0 0x90, byteSkb 1 0x45], [], 0, 0, 0⟩ = some (0, next, drained) ∧
      drained.rcvQueue ≠ [] :=
  ⟨_, _, rfl, List.cons_ne_nil (byteSkb 1 0x45) []⟩

end Tunprox.AcceptDrain
