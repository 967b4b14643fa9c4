import Mathlib.Algebra.Ring.Int.Defs
import Mathlib.Algebra.Ring.Nat
import Mathlib.Data.List.Basic

/-!
# The packet queue

`struct tp_queue` of `ldt_queue.c`: a list whose head is the newest packet, a
limit and a policy that selects the operations from a table.  Enqueueing
returns the packets it frees besides the new queue.  The lemmas describe what
each operation does to the list once the policy is one of the table's.
-/

namespace Tunprox.Queue

variable {Packet : Type*}

def TP_QUEUE_INF : Int := 0
def TP_QUEUE_LIMIT : Int := 1
def TP_QUEUE_DROP_OLDEST : Int := 2
def TP_QUEUE_DROP_NEWEST : Int := 3
def TP_QUEUE_MAX : Int := 3

/-- `struct tp_queue`; `queue` lists the buffers from the head of the
`sk_buff_head` to its tail. -/
structure TpQueue (Packet : Type*) where
  queue : List Packet
  qMaxlen : Int
  policy : Int
  deriving DecidableEq

/-- `tpq_set_policy` -/
def tpqSetPolicy (queue : TpQueue Packet) (policy : Int) : TpQueue Packet :=
  if policy < 0 ∨ policy > TP_QUEUE_MAX then queue else { queue with policy := policy }

/-- `tpq_set_maxlen` -/
def tpqSetMaxlen (queue : TpQueue Packet) (maxlen : Int) : TpQueue Packet :=
  if maxlen < 1 then queue else { queue with qMaxlen := maxlen }

/-- `tpq_init` -/
def tpqInit (policy maxlen : Int) : TpQueue Packet :=
  tpqSetMaxlen (tpqSetPolicy { queue := [], qMaxlen := 1, policy := 0 } policy) maxlen

/-- `tpq_inf_enqueue` -/
def tpqInfEnqueue (queue : TpQueue Packet) (skb : Packet) : TpQueue Packet :=
  { queue with queue := skb :: queue.queue }

/-- `tpq_inf_dequeue` -/
def tpqInfDequeue (queue : TpQueue Packet) : Option Packet × TpQueue Packet :=
  match queue.queue.getLast? with
  | none => (none, queue)
  | some skb => (some skb, { queue with queue := queue.queue.dropLast })

/-- `tpq_destroy`: the cleared queue and the packets that were freed. -/
def tpqDestroy (queue : TpQueue Packet) : TpQueue Packet × List Packet :=
  ({ queue := [], qMaxlen := 0, policy := 0 }, queue.queue.reverse)

/-- `tpq_inf_requeue` -/
def tpqInfRequeue (queue : TpQueue Packet) (skb : Packet) : TpQueue Packet :=
  { queue with queue := queue.queue ++ [skb] }

/-- `tpq_limit_isfull`.  The limit is converted to the unsigned type of
`qlen`. -/
def tpqLimitIsfull (queue : TpQueue Packet) : Bool :=
  decide (queue.qMaxlen % 2 ^ 32 ≤ queue.queue.length)

/-- `tpq_drop_oldest_enqueue` -/
def tpqDropOldestEnqueue (queue : TpQueue Packet) (skb : Packet) :
    TpQueue Packet × List Packet :=
  if tpqLimitIsfull queue then
    match tpqInfDequeue queue with
    | (none, rest) => (tpqInfEnqueue rest skb, [])
    | (some oskb, rest) => (tpqInfEnqueue rest skb, [oskb])
  else (tpqInfEnqueue queue skb, [])

/-- `tpq_drop_newest_enqueue` -/
def tpqDropNewestEnqueue (queue : TpQueue Packet) (skb : Packet) :
    TpQueue Packet × List Packet :=
  if tpqLimitIsfull queue then (queue, [skb])
  else (tpqInfEnqueue queue skb, [])

/-- `struct tp_queue_ops` -/
structure TpQueueOps (Packet : Type*) where
  enqueue : TpQueue Packet → Packet → TpQueue Packet × List Packet
  dequeue : TpQueue Packet → Option Packet × TpQueue Packet
  requeue : TpQueue Packet → Packet → TpQueue Packet
  isfull : Option (TpQueue Packet → Bool)

/-- `queue_tbl`, with no entry outside `0..TP_QUEUE_MAX`. -/
def queueTbl (policy : Int) : Option (TpQueueOps Packet) :=
  if policy = TP_QUEUE_INF then
    some
      { enqueue := fun queue skb => (tpqInfEnqueue queue skb, [])
        dequeue := tpqInfDequeue
        requeue := tpqInfRequeue
        isfull := none }
  else if policy = TP_QUEUE_LIMIT then
    some
      { enqueue := fun queue skb => (tpqInfEnqueue queue skb, [])
        dequeue := tpqInfDequeue
        requeue := tpqInfRequeue
        isfull := some tpqLimitIsfull }
  else if policy = TP_QUEUE_DROP_OLDEST then
    some
      { enqueue := tpqDropOldestEnqueue
        dequeue := tpqInfDequeue
        requeue := tpqInfRequeue
        isfull := none }
  else if policy = TP_QUEUE_DROP_NEWEST then
    some
      { enqueue := tpqDropNewestEnqueue
        dequeue := tpqInfDequeue
        requeue := tpqInfRequeue
        isfull := none }
  else none

/-- `tpq_enqueue`: the new queue and the packets that were freed. -/
def tpqEnqueue (queue : TpQueue Packet) (skb : Packet) :
    TpQueue Packet × List Packet :=
  match queueTbl queue.policy with
  | none => (queue, [])
  | some ops => ops.enqueue queue skb

/-- `tpq_dequeue` -/
def tpqDequeue (queue : TpQueue Packet) : Option Packet × TpQueue Packet :=
  match queueTbl queue.policy with
  | none => (none, queue)
  | some ops => ops.dequeue queue

/-- `tpq_requeue` -/
def tpqRequeue (queue : TpQueue Packet) (skb : Packet) : TpQueue Packet :=
  match queueTbl queue.policy with
  | none => queue
  | some ops => ops.requeue queue skb

/-- `tpq_isfull` -/
def tpqIsfull (queue : TpQueue Packet) : Bool :=
  match queueTbl queue.policy with
  | none => false
  | some ops =>
      match ops.isfull with
      | none => false
      | some isfull => isfull queue

/-- The policy selects an entry of the table. -/
def ValidPolicy (queue : TpQueue Packet) : Prop :=
  0 ≤ queue.policy ∧ queue.policy ≤ TP_QUEUE_MAX

theorem validPolicy_tpqSetPolicy {queue : TpQueue Packet}
    (valid : ValidPolicy queue) (policy : Int) :
    ValidPolicy (tpqSetPolicy queue policy) := by
  unfold tpqSetPolicy
  split <;> rename_i range
  · exact valid
  · unfold ValidPolicy
    simp only
    omega

@[simp]
theorem tpqSetPolicy_queue (queue : TpQueue Packet) (policy : Int) :
    (tpqSetPolicy queue policy).queue = queue.queue := by
  unfold tpqSetPolicy
  split <;> rfl

@[simp]
theorem tpqSetMaxlen_queue (queue : TpQueue Packet) (maxlen : Int) :
    (tpqSetMaxlen queue maxlen).queue = queue.queue := by
  unfold tpqSetMaxlen
  split <;> rfl

@[simp]
theorem tpqSetMaxlen_policy (queue : TpQueue Packet) (maxlen : Int) :
    (tpqSetMaxlen queue maxlen).policy = queue.policy := by
  unfold tpqSetMaxlen
  split <;> rfl

@[simp]
theorem tpqInit_queue (policy maxlen : Int) :
    (tpqInit policy maxlen : TpQueue Packet).queue = [] := by
  simp [tpqInit]

theorem validPolicy_tpqInit (policy maxlen : Int) :
    ValidPolicy (tpqInit policy maxlen : TpQueue Packet) := by
  have start : ValidPolicy ({ queue := [], qMaxlen := 1, policy := 0 } : TpQueue Packet) := by
    simp [ValidPolicy, TP_QUEUE_MAX]
  simpa [tpqInit, ValidPolicy] using validPolicy_tpqSetPolicy start policy

theorem exists_queueTbl {queue : TpQueue Packet} (valid : ValidPolicy queue) :
    ∃ ops : TpQueueOps Packet, queueTbl queue.policy = some ops ∧
      ops.dequeue = tpqInfDequeue ∧ ops.requeue = tpqInfRequeue ∧
      (ops.enqueue = (fun queue skb => (tpqInfEnqueue queue skb, [])) ∨
        ops.enqueue = tpqDropOldestEnqueue ∨ ops.enqueue = tpqDropNewestEnqueue) := by
  obtain ⟨lower, upper⟩ := valid
  unfold TP_QUEUE_MAX at upper
  have choices : queue.policy = 0 ∨ queue.policy = 1 ∨ queue.policy = 2 ∨
      queue.policy = 3 := by omega
  rcases choices with policy | policy | policy | policy <;> rw [policy]
  · exact ⟨_, rfl, rfl, rfl, Or.inl rfl⟩
  · exact ⟨_, rfl, rfl, rfl, Or.inl rfl⟩
  · exact ⟨_, rfl, rfl, rfl, Or.inr (Or.inl rfl)⟩
  · exact ⟨_, rfl, rfl, rfl, Or.inr (Or.inr rfl)⟩

theorem tpqDequeue_eq {queue : TpQueue Packet} (valid : ValidPolicy queue) :
    tpqDequeue queue = tpqInfDequeue queue := by
  obtain ⟨ops, opsEq, dequeueEq, -, -⟩ := exists_queueTbl valid
  simp [tpqDequeue, opsEq, dequeueEq]

theorem tpqRequeue_eq {queue : TpQueue Packet} (valid : ValidPolicy queue)
    (skb : Packet) : tpqRequeue queue skb = tpqInfRequeue queue skb := by
  obtain ⟨ops, opsEq, -, requeueEq, -⟩ := exists_queueTbl valid
  simp [tpqRequeue, opsEq, requeueEq]

theorem tpqInfDequeue_cases (queue : TpQueue Packet) :
    (queue.queue = [] ∧ tpqInfDequeue queue = (none, queue)) ∨
      ∃ rest skb, queue.queue = rest ++ [skb] ∧
        tpqInfDequeue queue = (some skb, { queue with queue := rest }) := by
  unfold tpqInfDequeue
  rcases List.eq_nil_or_concat queue.queue with empty | ⟨rest, skb, split⟩
  · exact Or.inl ⟨empty, by simp [empty]⟩
  · rw [List.concat_eq_append] at split
    exact Or.inr ⟨rest, skb, split, by simp [split]⟩

/-- Everything `tpq_dequeue` can do. -/
theorem tpqDequeue_cases {queue : TpQueue Packet} (valid : ValidPolicy queue) :
    (queue.queue = [] ∧ tpqDequeue queue = (none, queue)) ∨
      ∃ rest skb, queue.queue = rest ++ [skb] ∧
        tpqDequeue queue = (some skb, { queue with queue := rest }) := by
  rw [tpqDequeue_eq valid]
  exact tpqInfDequeue_cases queue

/-- Everything `tpq_enqueue` can do: store the packet, store it and free the
one that would have been dequeued next, or free the packet itself. -/
theorem tpqEnqueue_cases {queue : TpQueue Packet} (valid : ValidPolicy queue)
    (skb : Packet) :
    tpqEnqueue queue skb = ({ queue with queue := skb :: queue.queue }, []) ∨
      (∃ rest oldest, queue.queue = rest ++ [oldest] ∧
        tpqEnqueue queue skb = ({ queue with queue := skb :: rest }, [oldest])) ∨
      tpqEnqueue queue skb = (queue, [skb]) := by
  obtain ⟨ops, opsEq, -, -, inf | oldest | newest⟩ := exists_queueTbl valid
  · left
    simp [tpqEnqueue, opsEq, inf, tpqInfEnqueue]
  · simp only [tpqEnqueue, opsEq, oldest, tpqDropOldestEnqueue]
    split
    · rcases tpqInfDequeue_cases queue with ⟨empty, eq⟩ | ⟨rest, last, split, eq⟩
      · left
        rw [eq]
        rfl
      · right
        left
        refine ⟨rest, last, split, ?_⟩
        rw [eq]
        rfl
    · exact Or.inl rfl
  · simp only [tpqEnqueue, opsEq, newest, tpqDropNewestEnqueue]
    split
    · exact Or.inr (Or.inr rfl)
    · exact Or.inl rfl

theorem tpqEnqueue_policy {queue : TpQueue Packet} (valid : ValidPolicy queue)
    (skb : Packet) : (tpqEnqueue queue skb).1.policy = queue.policy := by
  rcases tpqEnqueue_cases valid skb with eq | ⟨rest, oldest, -, eq⟩ | eq <;> rw [eq]

theorem validPolicy_tpqEnqueue {queue : TpQueue Packet} (valid : ValidPolicy queue)
    (skb : Packet) : ValidPolicy (tpqEnqueue queue skb).1 := by
  unfold ValidPolicy
  rw [tpqEnqueue_policy valid skb]
  exact valid

theorem validPolicy_tpqSetMaxlen {queue : TpQueue Packet} (valid : ValidPolicy queue)
    (maxlen : Int) : ValidPolicy (tpqSetMaxlen queue maxlen) := by
  unfold ValidPolicy
  rw [tpqSetMaxlen_policy]
  exact valid

end Tunprox.Queue
