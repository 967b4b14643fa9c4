import Mathlib.Data.List.Count
import Tunprox.LabelledRun
import Tunprox.Queue

/-!
# Histories of the packet queue

A queue is driven by any mixture of calls, with the policy and the limit
changing at any point.  The history of a queue lists the packets in the order
in which they were enqueued, the packets that were handed out and not requeued,
the packets that were freed, and those that `tpq_init` has found in the queue.  No
other packet is lost, the packets come out in order, and each policy frees the packet
it names.  The limit is another matter: an enqueue frees one packet at most, so a
queue that is beyond its limit stays there.
-/

namespace Tunprox.QueueHistory

open Queue LabelledRun

variable {Packet : Type*}

/-- The functions of `ldt_queue.h` with their arguments. -/
inductive Call (Packet : Type*) where
  | init (policy maxlen : Int)
  | enqueue (skb : Packet)
  | dequeue
  | requeue (skb : Packet)
  | setPolicy (policy : Int)
  | setMaxlen (maxlen : Int)

structure History (Packet : Type*) where
  queue : TpQueue Packet
  put : List Packet
  handed : List Packet
  dropped : List Packet
  lost : List Packet

/-- The queue after `tpq_init` on new memory. -/
def initial (policy maxlen : Int) : History Packet where
  queue := tpqInit policy maxlen
  put := []
  handed := []
  dropped := []
  lost := []

/-- One call.  Only the packet most recently dequeued and not yet requeued is
requeued. -/
def step [DecidableEq Packet] (history : History Packet) :
    Call Packet → Option (History Packet)
  | .init policy maxlen =>
      some { history with
        queue := tpqInit policy maxlen
        lost := history.lost ++ history.queue.queue }
  | .enqueue skb =>
      match tpqEnqueue history.queue skb with
      | (queue, freed) =>
          some { history with
            queue := queue
            put := history.put ++ [skb]
            dropped := history.dropped ++ freed }
  | .dequeue =>
      match tpqDequeue history.queue with
      | (skb, queue) =>
          some { history with queue := queue, handed := history.handed ++ skb.toList }
  | .requeue skb =>
      if history.handed.getLast? = some skb then
        some { history with
          queue := tpqRequeue history.queue skb
          handed := history.handed.dropLast }
      else none
  | .setPolicy policy =>
      some { history with queue := tpqSetPolicy history.queue policy }
  | .setMaxlen maxlen =>
      some { history with queue := tpqSetMaxlen history.queue maxlen }

/-- The policy is one of the table, and the limit is positive. -/
def InRange (queue : TpQueue Packet) : Prop :=
  ValidPolicy queue ∧ 1 ≤ queue.qMaxlen

/-- Every packet is as often in the queue, handed out or freed as it was
enqueued. -/
def Accounted [DecidableEq Packet] (history : History Packet) : Prop :=
  ∀ skb, history.queue.queue.count skb + history.handed.count skb +
    history.dropped.count skb = history.put.count skb

/-- `tpq_init` is not called on a queue that holds packets. -/
def InitsEmpty (history : History Packet) : Call Packet → Prop
  | .init .. => history.queue.queue = []
  | _ => True

instance [DecidableEq Packet] (history : History Packet) :
    (label : Call Packet) → Decidable (InitsEmpty history label)
  | .init .. => inferInstanceAs (Decidable (history.queue.queue = []))
  | .enqueue _ | .dequeue | .requeue _ | .setPolicy _ | .setMaxlen _ =>
      inferInstanceAs (Decidable True)

/-- What an enqueue frees under each policy: nothing, the packet itself, or the
packet that would have been dequeued next while the new one is kept. -/
def DropsAsNamed (queue : TpQueue Packet) : Prop :=
  ∀ skb,
    ((queue.policy = TP_QUEUE_INF ∨ queue.policy = TP_QUEUE_LIMIT) →
      (tpqEnqueue queue skb).2 = []) ∧
    (queue.policy = TP_QUEUE_DROP_NEWEST →
      (tpqEnqueue queue skb).2 = [] ∨
        (tpqEnqueue queue skb).2 = [skb] ∧ (tpqEnqueue queue skb).1 = queue) ∧
    (queue.policy = TP_QUEUE_DROP_OLDEST →
      skb ∈ (tpqEnqueue queue skb).1.queue ∧
        ((tpqEnqueue queue skb).2 = [] ∨
          ∃ next, (tpqDequeue queue).1 = some next ∧ (tpqEnqueue queue skb).2 = [next]))

theorem inRange_tpqSetPolicy {queue : TpQueue Packet} (inRange : InRange queue)
    (policy : Int) : InRange (tpqSetPolicy queue policy) := by
  refine ⟨validPolicy_tpqSetPolicy inRange.1 policy, ?_⟩
  have limit := inRange.2
  unfold tpqSetPolicy
  split
  · exact limit
  · exact limit

theorem inRange_tpqSetMaxlen {queue : TpQueue Packet} (inRange : InRange queue)
    (maxlen : Int) : InRange (tpqSetMaxlen queue maxlen) := by
  refine ⟨validPolicy_tpqSetMaxlen inRange.1 maxlen, ?_⟩
  have limit := inRange.2
  unfold tpqSetMaxlen
  split
  · exact limit
  · rename_i positive
    simp only
    omega

theorem inRange_tpqInit (policy maxlen : Int) :
    InRange (tpqInit policy maxlen : TpQueue Packet) := by
  have fresh : InRange ({ queue := [], qMaxlen := 1, policy := 0 } : TpQueue Packet) := by
    simp [InRange, ValidPolicy, TP_QUEUE_MAX]
  exact inRange_tpqSetMaxlen (inRange_tpqSetPolicy fresh policy) maxlen

/-- Storing and taking packets leaves the policy and the limit. -/
theorem InRange.of_queue {queue : TpQueue Packet} (inRange : InRange queue)
    (packets : List Packet) : InRange { queue with queue := packets } :=
  inRange

theorem inRange_tpqEnqueue {queue : TpQueue Packet} (inRange : InRange queue)
    (skb : Packet) : InRange (tpqEnqueue queue skb).1 := by
  rcases tpqEnqueue_cases inRange.1 skb with stored | ⟨rest, oldest, -, replaced⟩ | refused
  · rw [stored]
    exact inRange.of_queue _
  · rw [replaced]
    exact inRange.of_queue _
  · rw [refused]
    exact inRange

theorem inRange_tpqDequeue {queue : TpQueue Packet} (inRange : InRange queue) :
    InRange (tpqDequeue queue).2 := by
  rcases tpqDequeue_cases inRange.1 with ⟨-, nothing⟩ | ⟨rest, skb, -, taken⟩
  · rw [nothing]
    exact inRange
  · rw [taken]
    exact inRange.of_queue _

theorem inRange_tpqRequeue {queue : TpQueue Packet} (inRange : InRange queue)
    (skb : Packet) : InRange (tpqRequeue queue skb) := by
  rw [tpqRequeue_eq inRange.1]
  exact inRange.of_queue _

/-- The packets that were handed out, followed by those in the queue from the
oldest to the newest. -/
def timeline (history : History Packet) : List Packet :=
  history.handed ++ history.queue.queue.reverse

structure Ordered [DecidableEq Packet] (history : History Packet) : Prop where
  inRange : InRange history.queue
  accounted : ∀ skb, history.queue.queue.count skb + history.handed.count skb +
    history.dropped.count skb + history.lost.count skb = history.put.count skb
  order : (timeline history).Sublist history.put

section
variable [DecidableEq Packet]

theorem ordered_initial (policy maxlen : Int) :
    Ordered (initial policy maxlen : History Packet) where
  inRange := inRange_tpqInit policy maxlen
  accounted := by
    intro skb
    simp [initial]
  order := by
    simp [timeline, initial]

theorem ordered_enqueue {history next : History Packet} {skb : Packet}
    (ordered : Ordered history) (stepped : step history (.enqueue skb) = some next) :
    Ordered next := by
  have inRange := inRange_tpqEnqueue ordered.inRange skb
  have accounted := ordered.accounted
  have order := ordered.order
  rcases tpqEnqueue_cases ordered.inRange.1 skb with
    stored | ⟨rest, oldest, split, replaced⟩ | refused
  · rw [stored] at inRange
    simp only [step, stored, Option.some.injEq] at stepped
    subst stepped
    refine ⟨inRange, ?_, ?_⟩
    · intro other
      have before := accounted other
      simp only [List.count_cons, List.append_nil, List.count_append, List.count_nil]
      omega
    · simp only [timeline, List.reverse_cons, ← List.append_assoc]
      exact order.append_right [skb]
  · rw [replaced] at inRange
    simp only [step, replaced, Option.some.injEq] at stepped
    subst stepped
    refine ⟨inRange, ?_, ?_⟩
    · intro other
      have before := accounted other
      simp only [split, List.count_append] at before
      simp only [List.count_cons, List.count_append, List.count_nil] at before ⊢
      omega
    · simp only [timeline, split, List.reverse_append, List.reverse_singleton,
        List.singleton_append] at order
      have shorter : (history.handed ++ rest.reverse).Sublist
          (history.handed ++ oldest :: rest.reverse) :=
        (List.Sublist.refl _).append (List.sublist_cons_self _ _)
      simp only [timeline, List.reverse_cons, ← List.append_assoc]
      exact (shorter.trans order).append_right [skb]
  · rw [refused] at inRange
    simp only [step, refused, Option.some.injEq] at stepped
    subst stepped
    refine ⟨inRange, ?_, ?_⟩
    · intro other
      have before := accounted other
      simp only [List.count_append]
      omega
    · exact order.trans (List.sublist_append_left _ _)

theorem ordered_dequeue {history next : History Packet}
    (ordered : Ordered history) (stepped : step history .dequeue = some next) :
    Ordered next := by
  have inRange := inRange_tpqDequeue ordered.inRange
  have accounted := ordered.accounted
  have order := ordered.order
  rcases tpqDequeue_cases ordered.inRange.1 with ⟨-, nothing⟩ | ⟨rest, skb, split, taken⟩
  · rw [nothing] at inRange
    simp only [step, nothing, Option.some.injEq] at stepped
    subst stepped
    simp only [Option.toList_none, List.append_nil]
    exact ordered
  · rw [taken] at inRange
    simp only [step, taken, Option.some.injEq] at stepped
    subst stepped
    refine ⟨inRange, ?_, ?_⟩
    · intro other
      have before := accounted other
      simp only [split, List.count_append] at before
      simp only [Option.toList_some, List.count_append]
      omega
    · simpa [timeline, split] using order

theorem ordered_requeue {history next : History Packet} {skb : Packet}
    (ordered : Ordered history) (stepped : step history (.requeue skb) = some next) :
    Ordered next := by
  simp only [step] at stepped
  split at stepped
  · rename_i last
    obtain rfl := Option.some.inj stepped
    have inRange := inRange_tpqRequeue ordered.inRange skb
    have accounted := ordered.accounted
    have order := ordered.order
    have split : history.handed = history.handed.dropLast ++ [skb] :=
      (List.dropLast_append_getLast? skb last).symm
    rw [tpqRequeue_eq ordered.inRange.1] at inRange ⊢
    refine ⟨inRange, ?_, ?_⟩
    · intro other
      have before := accounted other
      rw [split, List.count_append] at before
      simp only [tpqInfRequeue, List.count_append]
      omega
    · have same : timeline history = history.handed.dropLast ++
          (history.queue.queue ++ [skb]).reverse := by
        rw [timeline]
        nth_rewrite 1 [split]
        simp
      rw [same] at order
      exact order
  · contradiction

theorem ordered_of_step {history next : History Packet} {label : Call Packet}
    (ordered : Ordered history) (stepped : step history label = some next) :
    Ordered next := by
  cases label with
  | init policy maxlen =>
      obtain rfl := Option.some.inj stepped
      refine ⟨inRange_tpqInit policy maxlen, ?_, ?_⟩
      · intro skb
        have before := ordered.accounted skb
        simp only [tpqInit_queue, List.count_nil, List.count_append]
        omega
      · have handed : history.handed.Sublist history.put :=
          (List.sublist_append_left _ _).trans ordered.order
        simpa [timeline] using handed
  | enqueue skb => exact ordered_enqueue ordered stepped
  | dequeue => exact ordered_dequeue ordered stepped
  | requeue skb => exact ordered_requeue ordered stepped
  | setPolicy policy =>
      obtain rfl := Option.some.inj stepped
      refine ⟨inRange_tpqSetPolicy ordered.inRange policy, ?_, ?_⟩
      · intro skb
        simpa using ordered.accounted skb
      · simpa [timeline] using ordered.order
  | setMaxlen maxlen =>
      obtain rfl := Option.some.inj stepped
      refine ⟨inRange_tpqSetMaxlen ordered.inRange maxlen, ?_, ?_⟩
      · intro skb
        simpa using ordered.accounted skb
      · simpa [timeline] using ordered.order

def NoneLost (history : History Packet) : Prop :=
  history.lost = []

theorem noneLost_of_step {history next : History Packet} {label : Call Packet}
    (initsEmpty : InitsEmpty history label) (lost : NoneLost history)
    (stepped : step history label = some next) : NoneLost next := by
  cases label with
  | init policy maxlen =>
      obtain rfl := Option.some.inj stepped
      have empty : history.queue.queue = [] := initsEmpty
      have before : history.lost = [] := lost
      simp [NoneLost, before, empty]
  | requeue skb =>
      simp only [step] at stepped
      split at stepped
      · obtain rfl := Option.some.inj stepped
        exact lost
      · contradiction
  | enqueue skb =>
      obtain rfl := Option.some.inj stepped
      exact lost
  | dequeue =>
      obtain rfl := Option.some.inj stepped
      exact lost
  | setPolicy policy =>
      obtain rfl := Option.some.inj stepped
      exact lost
  | setMaxlen maxlen =>
      obtain rfl := Option.some.inj stepped
      exact lost

theorem Ordered.accounts {history : History Packet} (ordered : Ordered history)
    (lost : NoneLost history) : Accounted history := by
  intro skb
  have before := ordered.accounted skb
  rwa [lost, List.count_nil, Nat.add_zero] at before

end

theorem tpqEnqueue_of_dropNewest {queue : TpQueue Packet} (skb : Packet)
    (policy : queue.policy = TP_QUEUE_DROP_NEWEST) :
    tpqEnqueue queue skb = tpqDropNewestEnqueue queue skb := by
  unfold tpqEnqueue
  rw [policy]
  rfl

theorem tpqEnqueue_of_dropOldest {queue : TpQueue Packet} (skb : Packet)
    (policy : queue.policy = TP_QUEUE_DROP_OLDEST) :
    tpqEnqueue queue skb = tpqDropOldestEnqueue queue skb := by
  unfold tpqEnqueue
  rw [policy]
  rfl

theorem dropsAsNamed {queue : TpQueue Packet} (valid : ValidPolicy queue) :
    DropsAsNamed queue := by
  intro skb
  refine ⟨?_, ?_, ?_⟩
  · intro unlimited
    unfold tpqEnqueue
    rcases unlimited with policy | policy
    · rw [policy]
      rfl
    · rw [policy]
      rfl
  · intro policy
    rw [tpqEnqueue_of_dropNewest skb policy]
    unfold tpqDropNewestEnqueue
    split
    · exact Or.inr ⟨rfl, rfl⟩
    · exact Or.inl rfl
  · intro policy
    rw [tpqEnqueue_of_dropOldest skb policy, tpqDequeue_eq valid]
    unfold tpqDropOldestEnqueue
    split
    · rcases tpqInfDequeue_cases queue with ⟨-, nothing⟩ | ⟨rest, next, -, taken⟩
      · rw [nothing]
        exact ⟨List.mem_cons_self, Or.inl rfl⟩
      · rw [taken]
        exact ⟨List.mem_cons_self, Or.inr ⟨next, rfl, rfl⟩⟩
    · exact ⟨List.mem_cons_self, Or.inl rfl⟩

/-- For every mixture of calls: no packet is lost or doubled unless `tpq_init` finds it
in the queue, what was handed out comes in the order of the enqueues, each policy frees
the packet it names, and policy and limit stay in range. -/
theorem history_of_run [DecidableEq Packet] (policy maxlen : Int)
    (labels : List (Call Packet)) (history : History Packet)
    (ran : run step (initial policy maxlen) labels = some history) :
    (Guarded step InitsEmpty (initial policy maxlen) labels → Accounted history) ∧
      history.handed.Sublist history.put ∧ DropsAsNamed history.queue ∧
      InRange history.queue := by
  have ordered : Ordered history :=
    invariant_of_run ordered_of_step (ordered_initial policy maxlen) ran
  refine ⟨fun initsEmpty => ordered.accounts ?_, ?_, dropsAsNamed ordered.inRange.1,
    ordered.inRange⟩
  · have start : NoneLost (initial policy maxlen : History Packet) := rfl
    exact invariant_of_guarded noneLost_of_step initsEmpty start ran
  · exact (List.sublist_append_left _ _).trans ordered.order

/-- The limit is lowered, a packet is requeued and a packet is dropped under each
policy. -/
def mixedCalls : List (Call Nat) :=
  [.enqueue 1, .enqueue 2, .dequeue, .setPolicy TP_QUEUE_DROP_OLDEST, .setMaxlen 1,
    .enqueue 3, .requeue 1, .setPolicy TP_QUEUE_DROP_NEWEST, .enqueue 4, .dequeue, .dequeue]

theorem history_mixedCalls :
    ∃ history, run step (initial TP_QUEUE_INF 0) mixedCalls = some history ∧
      history.handed = [1, 3] ∧ history.dropped = [2, 4] ∧ Accounted history ∧
      history.handed.Sublist history.put := by
  refine ⟨_, rfl, rfl, rfl, ?_⟩
  have held := history_of_run TP_QUEUE_INF 0 mixedCalls _ rfl
  exact ⟨held.1 (by decide), held.2.1⟩

/-- A packet that `tpq_init` finds in the queue is in none of the three lists. -/
theorem not_accounted_initialized_again :
    ∃ history, run step (initial TP_QUEUE_INF 0) [.enqueue 1, .init TP_QUEUE_INF 0] =
      some history ∧ ¬ Accounted history := by
  refine ⟨_, rfl, fun accounted => ?_⟩
  have count := accounted 1
  revert count
  decide

/-- The queue after a call, whatever packet is requeued. -/
def call (queue : TpQueue Packet) : Call Packet → Option (TpQueue Packet)
  | .init policy maxlen => some (tpqInit policy maxlen)
  | .enqueue skb => some (tpqEnqueue queue skb).1
  | .dequeue => some (tpqDequeue queue).2
  | .requeue skb => some (tpqRequeue queue skb)
  | .setPolicy policy => some (tpqSetPolicy queue policy)
  | .setMaxlen maxlen => some (tpqSetMaxlen queue maxlen)

/-- The policy is `TP_QUEUE_DROP_OLDEST` or `TP_QUEUE_DROP_NEWEST`. -/
def Drops (queue : TpQueue Packet) : Prop :=
  queue.policy = TP_QUEUE_DROP_OLDEST ∨ queue.policy = TP_QUEUE_DROP_NEWEST

instance (queue : TpQueue Packet) : Decidable (Drops queue) :=
  inferInstanceAs (Decidable (_ ∨ _))

/-- The queue holds at most `q_maxlen` packets. -/
def Within (queue : TpQueue Packet) : Prop :=
  (queue.queue.length : Int) ≤ queue.qMaxlen

instance (queue : TpQueue Packet) : Decidable (Within queue) :=
  inferInstanceAs (Decidable (_ ≤ _))

/-- An enqueue under one of the two policies leaves the queue within its limit. -/
def EndsWithin (queue : TpQueue Packet) : Call Packet → Prop
  | .enqueue skb => Drops queue → Within (tpqEnqueue queue skb).1
  | _ => True

/-- An enqueue under one of the two policies finds the queue within its limit. -/
def StartsWithin (queue : TpQueue Packet) : Call Packet → Prop
  | .enqueue _ => Drops queue → Within queue
  | _ => True

/-- The limit is not lowered below the number of packets in the queue, and
nothing is requeued into a full queue. -/
def NotOverfilled (queue : TpQueue Packet) : Call Packet → Prop
  | .setMaxlen maxlen => 1 ≤ maxlen → (queue.queue.length : Int) ≤ maxlen
  | .requeue _ => (queue.queue.length : Int) < queue.qMaxlen
  | .enqueue _ => Drops queue ∨ (queue.queue.length : Int) < queue.qMaxlen
  | _ => True

theorem lt_qMaxlen_of_not_full {queue : TpQueue Packet}
    (notFull : ¬ tpqLimitIsfull queue = true) (positive : 1 ≤ queue.qMaxlen) :
    (queue.queue.length : Int) < queue.qMaxlen := by
  simp only [tpqLimitIsfull, decide_eq_true_eq] at notFull
  omega

/-- An enqueue that finds the queue within its limit leaves it there, and one
that finds it beyond leaves it beyond. -/
theorem within_tpqEnqueue_iff {queue : TpQueue Packet} (drops : Drops queue)
    (positive : 1 ≤ queue.qMaxlen) (skb : Packet) :
    Within (tpqEnqueue queue skb).1 ↔ Within queue := by
  rcases drops with policy | policy
  · rw [tpqEnqueue_of_dropOldest skb policy]
    unfold tpqDropOldestEnqueue
    split
    · rcases tpqInfDequeue_cases queue with ⟨empty, nothing⟩ | ⟨rest, next, split, taken⟩
      · rw [nothing]
        simp only [Within, tpqInfEnqueue, empty, List.length_cons, List.length_nil]
        omega
      · rw [taken]
        simp only [Within, tpqInfEnqueue, split, List.length_cons, List.length_append,
          List.length_nil]
    · rename_i notFull
      have below := lt_qMaxlen_of_not_full notFull positive
      simp only [Within, tpqInfEnqueue, List.length_cons]
      omega
  · rw [tpqEnqueue_of_dropNewest skb policy]
    unfold tpqDropNewestEnqueue
    split
    · exact Iff.rfl
    · rename_i notFull
      have below := lt_qMaxlen_of_not_full notFull positive
      simp only [Within, tpqInfEnqueue, List.length_cons]
      omega

theorem endsWithin_iff {queue : TpQueue Packet} (inRange : InRange queue)
    (label : Call Packet) : EndsWithin queue label ↔ StartsWithin queue label := by
  cases label with
  | enqueue skb =>
      constructor
      · intro ends drops
        exact (within_tpqEnqueue_iff drops inRange.2 skb).mp (ends drops)
      · intro starts drops
        exact (within_tpqEnqueue_iff drops inRange.2 skb).mpr (starts drops)
  | init policy maxlen => exact Iff.rfl
  | dequeue => exact Iff.rfl
  | requeue skb => exact Iff.rfl
  | setPolicy policy => exact Iff.rfl
  | setMaxlen maxlen => exact Iff.rfl

theorem inRange_of_call {queue next : TpQueue Packet} {label : Call Packet}
    (inRange : InRange queue) (called : call queue label = some next) : InRange next := by
  cases label with
  | init policy maxlen =>
      obtain rfl := Option.some.inj called
      exact inRange_tpqInit policy maxlen
  | enqueue skb =>
      obtain rfl := Option.some.inj called
      exact inRange_tpqEnqueue inRange skb
  | dequeue =>
      obtain rfl := Option.some.inj called
      exact inRange_tpqDequeue inRange
  | requeue skb =>
      obtain rfl := Option.some.inj called
      exact inRange_tpqRequeue inRange skb
  | setPolicy policy =>
      obtain rfl := Option.some.inj called
      exact inRange_tpqSetPolicy inRange policy
  | setMaxlen maxlen =>
      obtain rfl := Option.some.inj called
      exact inRange_tpqSetMaxlen inRange maxlen

theorem guarded_endsWithin_iff {queue : TpQueue Packet} (inRange : InRange queue)
    (labels : List (Call Packet)) :
    Guarded call EndsWithin queue labels ↔ Guarded call StartsWithin queue labels := by
  induction labels generalizing queue with
  | nil => exact Iff.rfl
  | cons label labels ih =>
      cases called : call queue label with
      | none => simp only [Guarded, called, endsWithin_iff inRange label]
      | some next =>
          simp only [Guarded, called, endsWithin_iff inRange label,
            ih (inRange_of_call inRange called)]

theorem within_tpqInit (policy maxlen : Int) :
    Within (tpqInit policy maxlen : TpQueue Packet) := by
  have inRange : InRange (tpqInit policy maxlen : TpQueue Packet) :=
    inRange_tpqInit policy maxlen
  have positive := inRange.2
  simp only [Within, tpqInit_queue, List.length_nil]
  omega

theorem within_of_call {queue next : TpQueue Packet} {label : Call Packet}
    (inRange : InRange queue) (notOverfilled : NotOverfilled queue label)
    (within : Within queue) (called : call queue label = some next) : Within next := by
  cases label with
  | init policy maxlen =>
      obtain rfl := Option.some.inj called
      exact within_tpqInit policy maxlen
  | enqueue skb =>
      obtain rfl := Option.some.inj called
      by_cases drops : Drops queue
      · exact (within_tpqEnqueue_iff drops inRange.2 skb).mpr within
      · have below := notOverfilled.resolve_left drops
        rcases tpqEnqueue_cases inRange.1 skb with
          stored | ⟨rest, oldest, split, replaced⟩ | refused
        · rw [stored]
          simp only [Within, List.length_cons]
          omega
        · rw [replaced]
          simp only [split, List.length_append] at below
          simp only [Within, List.length_cons] at below ⊢
          omega
        · rw [refused]
          exact within
  | dequeue =>
      obtain rfl := Option.some.inj called
      rcases tpqDequeue_cases inRange.1 with ⟨-, nothing⟩ | ⟨rest, skb, split, taken⟩
      · rw [nothing]
        exact within
      · rw [taken]
        simp only [Within, split, List.length_append] at within ⊢
        omega
  | requeue skb =>
      obtain rfl := Option.some.inj called
      have below : (queue.queue.length : Int) < queue.qMaxlen := notOverfilled
      rw [tpqRequeue_eq inRange.1]
      simp only [Within, tpqInfRequeue, List.length_append, List.length_singleton]
      omega
  | setPolicy policy =>
      obtain rfl := Option.some.inj called
      unfold tpqSetPolicy
      split
      · exact within
      · exact within
  | setMaxlen maxlen =>
      obtain rfl := Option.some.inj called
      unfold tpqSetMaxlen
      split
      · exact within
      · rename_i positive
        exact notOverfilled (by omega)

theorem startsWithin_of_notOverfilled {queue : TpQueue Packet} (inRange : InRange queue)
    (within : Within queue) {labels : List (Call Packet)}
    (notOverfilled : Guarded call NotOverfilled queue labels) :
    Guarded call StartsWithin queue labels := by
  induction labels generalizing queue with
  | nil => trivial
  | cons label labels ih =>
      obtain ⟨here, later⟩ := notOverfilled
      refine ⟨?_, ?_⟩
      · cases label with
        | enqueue skb => exact fun _ => within
        | init policy maxlen => trivial
        | dequeue => trivial
        | requeue skb => trivial
        | setPolicy policy => trivial
        | setMaxlen maxlen => trivial
      · cases called : call queue label with
        | none => trivial
        | some next =>
            rw [called] at later
            exact ih (inRange_of_call inRange called)
              (within_of_call inRange here within called) later

/-- In every run the enqueues leave the queue within its limit exactly when they
find it there, which is so when the limit is never lowered below the number of
packets and nothing is requeued into a full queue. -/
theorem endsWithin_iff_startsWithin (policy maxlen : Int) (labels : List (Call Packet)) :
    (Guarded call EndsWithin (tpqInit policy maxlen) labels ↔
        Guarded call StartsWithin (tpqInit policy maxlen) labels) ∧
      (Guarded call NotOverfilled (tpqInit policy maxlen) labels →
        Guarded call EndsWithin (tpqInit policy maxlen) labels) := by
  have inRange : InRange (tpqInit policy maxlen : TpQueue Packet) :=
    inRange_tpqInit policy maxlen
  refine ⟨guarded_endsWithin_iff inRange labels, fun notOverfilled => ?_⟩
  rw [guarded_endsWithin_iff inRange labels]
  exact startsWithin_of_notOverfilled inRange (within_tpqInit policy maxlen) notOverfilled

/-- Lowering the limit below the number of packets, or requeueing a packet after the
queue has filled up behind it, leaves the queue beyond its limit after the next
enqueue under either policy. -/
theorem not_endsWithin_lowered_or_requeued :
    ¬ Guarded call EndsWithin (tpqInit TP_QUEUE_DROP_OLDEST 3)
        [.enqueue 1, .enqueue 2, .enqueue 3, .setMaxlen 1, .enqueue 4] ∧
      ¬ Guarded call EndsWithin (tpqInit TP_QUEUE_DROP_NEWEST 2)
        [.enqueue 1, .enqueue 2, .dequeue, .enqueue 3, .requeue 1, .enqueue 4] := by
  constructor
  · rintro ⟨-, -, -, -, ends, -⟩
    have within := ends (Or.inl rfl)
    revert within
    decide
  · rintro ⟨-, -, -, -, -, ends, -⟩
    have within := ends (Or.inr rfl)
    revert within
    decide

end Tunprox.QueueHistory
