import Tunprox.QueueSetting

/-!
# Queue settings that a socket refuses

`mpdccptun_setqueue` stores the length and the policy before it passes them to the socket of
a bound tunnel.  Either of the two calls may fail, and then the request is reported as
failed, but what it has stored stays.
-/

namespace Tunprox.SetqueueFailure

open Errno Queue QueueSetting
open Connection (ConnState setQueuePolicy storeTxqlen limitQueue setSocketQueue
  mpdccptunSetqueue LDT_CMD_SETQUEUE_QPOLICY_DROP_NEWEST LDT_CMD_SETQUEUE_QPOLICY_DROP_OLDEST)

/-- The members of a tunnel and of its packet queue that `mpdccptun_setqueue` sets. -/
structure QueueFields where
  txQlen : Nat
  qpolicy : DccpqPolicy
  policy : Int
  qMaxlen : Int
  deriving DecidableEq

def queueFields (tdat : Mpdccptun) : QueueFields where
  txQlen := tdat.txQlen
  qpolicy := tdat.qpolicy
  policy := tdat.xmitQueue.policy
  qMaxlen := tdat.xmitQueue.qMaxlen

/-- The members with the requested values, as far as values are requested.  The packet queue
takes no length below one. -/
def requestedFields (fields : QueueFields) (txqlen qpolicy : Int) : QueueFields where
  txQlen := if 0 ≤ txqlen then (txqlen % 2 ^ 16).toNat else fields.txQlen
  qpolicy := if 0 ≤ qpolicy then (policyPair qpolicy).2 else fields.qpolicy
  policy := if 0 ≤ qpolicy then (policyPair qpolicy).1 else fields.policy
  qMaxlen := if 1 ≤ txqlen then txqlen else fields.qMaxlen

/-- A request that returns an error leaves the settings as they were. -/
def AtomicOnFailure (state : ConnState) (txqlen qpolicy : Int) (calls : SetqueueCalls) : Prop :=
  (mpdccptunSetqueue state txqlen qpolicy calls.txqlen calls.qpolicy).1 < 0 →
    queueFields (mpdccptunSetqueue state txqlen qpolicy calls.txqlen calls.qpolicy).2.tdat =
      queueFields state.tdat

/-- The request gets to the socket of a bound tunnel, and the socket refuses a value. -/
structure SocketRefuses (state : ConnState) (txqlen qpolicy : Int)
    (calls : SetqueueCalls) : Prop where
  live : state.tdat.tostop = false
  supported : qpolicy ≤ LDT_CMD_SETQUEUE_QPOLICY_MAX
  bound : state.tdat.bound = true
  backed : state.tdat.sock ≠ none
  refused : 0 ≤ txqlen ∧ calls.txqlen < 0 ∨ 0 ≤ qpolicy ∧ calls.qpolicy < 0

/-- The calls fail exactly if one of them is made and refused. -/
theorem setSocketQueue_neg_iff (state : ConnState) (txqlen qpolicy : Int)
    (calls : SetqueueCalls) :
    (setSocketQueue state txqlen qpolicy calls.txqlen calls.qpolicy).1 < 0 ↔
      state.tdat.sock ≠ none ∧
        (0 ≤ txqlen ∧ calls.txqlen < 0 ∨ 0 ≤ qpolicy ∧ calls.qpolicy < 0) := by
  unfold setSocketQueue
  by_cases absent : state.tdat.sock = none
  · simp only [absent, and_true, if_true, ne_eq, not_true_eq_false, false_and, iff_false]
    split_ifs <;> omega
  · simp only [absent, and_false, if_false, ne_eq, not_false_eq_true, true_and]
    split_ifs <;> simp only <;> omega

/-- The error of a request is that of a stopped tunnel or that of the socket. -/
theorem mpdccptunSetqueue_neg_iff (state : ConnState) (txqlen qpolicy : Int)
    (calls : SetqueueCalls) :
    (mpdccptunSetqueue state txqlen qpolicy calls.txqlen calls.qpolicy).1 < 0 ↔
      state.tdat.tostop = true ∨ SocketRefuses state txqlen qpolicy calls := by
  unfold mpdccptunSetqueue
  by_cases stopped : state.tdat.tostop = true
  · simp [stopped, EPERM]
  · have live : state.tdat.tostop = false := Bool.eq_false_iff.mpr stopped
    obtain ⟨boundEq, sockEq, -⟩ := storeTxqlen_frame state.tdat txqlen
    simp only [live, Bool.false_eq_true, if_false, false_or]
    rcases setQueuePolicy_cases (storeTxqlen state.tdat txqlen) qpolicy with
      ⟨unsupported, ended⟩ | ⟨supported, set⟩
    · rw [ended]
      simp only [Int.lt_irrefl, false_iff]
      intro refuses
      exact absurd refuses.supported (Int.not_le.mpr unsupported)
    · rw [set]
      simp only [apply_ite Mpdccptun.bound, boundEq, ite_self]
      by_cases bound : state.tdat.bound = true
      · rw [if_pos bound, setSocketQueue_neg_iff]
        simp only [apply_ite Mpdccptun.sock, sockEq, ite_self]
        constructor
        · rintro ⟨backed, refused⟩
          exact ⟨live, supported, bound, backed, refused⟩
        · intro refuses
          exact ⟨refuses.backed, refuses.refused⟩
      · rw [if_neg bound]
        simp only [Int.lt_irrefl, false_iff]
        intro refuses
        exact bound refuses.bound

/-- What a request that gets to the socket has stored. -/
theorem queueFields_of_bound {state : ConnState} {txqlen qpolicy : Int}
    (calls : SetqueueCalls) (live : state.tdat.tostop = false)
    (supported : qpolicy ≤ LDT_CMD_SETQUEUE_QPOLICY_MAX) (bound : state.tdat.bound = true) :
    queueFields (mpdccptunSetqueue state txqlen qpolicy calls.txqlen calls.qpolicy).2.tdat =
      requestedFields (queueFields state.tdat) txqlen qpolicy := by
  obtain ⟨boundEq, -⟩ := storeTxqlen_frame state.tdat txqlen
  rcases setQueuePolicy_cases (storeTxqlen state.tdat txqlen) qpolicy with
    ⟨unsupported, -⟩ | ⟨-, set⟩
  · exact absurd supported (Int.not_le.mpr unsupported)
  · unfold mpdccptunSetqueue
    rw [live, set]
    simp only [Bool.false_eq_true, if_false, apply_ite Mpdccptun.bound, boundEq, bound, ite_self,
      if_true, setSocketQueue_tdat]
    unfold limitQueue storeTxqlen requestedFields queueFields tpqSetMaxlen
    by_cases given : 0 ≤ txqlen
    · by_cases small : txqlen < 1
      · have noLength : ¬ 1 ≤ txqlen := Int.not_le.mpr small
        simp only [given, small, noLength, if_true, if_false]
        split_ifs <;> rfl
      · have length : 1 ≤ txqlen := Int.not_lt.mp small
        simp only [given, small, length, if_true, if_false]
        split_ifs <;> rfl
    · have noLength : ¬ 1 ≤ txqlen := by omega
      simp only [given, noLength, if_false]
      split_ifs <;> rfl

/-- A failed request leaves the settings as they were if and only if the socket refused
nothing, or everything requested had been stored before. -/
theorem atomicOnFailure_iff (state : ConnState) (txqlen qpolicy : Int)
    (calls : SetqueueCalls) :
    AtomicOnFailure state txqlen qpolicy calls ↔
      (SocketRefuses state txqlen qpolicy calls →
        requestedFields (queueFields state.tdat) txqlen qpolicy = queueFields state.tdat) := by
  unfold AtomicOnFailure
  rw [mpdccptunSetqueue_neg_iff]
  constructor
  · intro atomic refuses
    rw [← queueFields_of_bound calls refuses.live refuses.supported refuses.bound]
    exact atomic (Or.inr refuses)
  · rintro same (stopped | refuses)
    · rw [mpdccptunSetqueue, if_pos stopped]
    · rw [queueFields_of_bound calls refuses.live refuses.supported refuses.bound]
      exact same refuses

/-- A bound client with the default settings. -/
def boundState : ConnState :=
  { Connection.initial false true with
    tdat := { mpdccptunNew false true with bound := true, sock := some 0 }
    nextSock := 1 }

/-- The socket refuses a length, which stays in the tunnel and its packet queue. -/
theorem not_atomicOnFailure_txqlen : ¬ AtomicOnFailure boundState 50 (-1) ⟨-EINVAL, 0⟩ := by
  intro atomic
  have failed : (mpdccptunSetqueue boundState 50 (-1) (-EINVAL) 0).1 < 0 := by decide
  exact absurd (atomic failed) (by decide)

end Tunprox.SetqueueFailure
