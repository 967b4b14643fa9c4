import Tunprox.Transmit

/-!
# No packet is stranded

A submitter does not queue `work_xmit` while `has_delayed_work` is set, and
either handler run clears the flag when it starts and sets it when it fails.
The invariant says who stands behind the flag, and that somebody is about to
look at a queue that is not empty.
-/

namespace Tunprox.TransmitProgress

open Transmit Queue LabelledRun

/-- The steps by which a handler run dequeues or queues work. -/
def Acts (work : Work) : Label → Prop
  | .dequeue actor | .queueNext actor | .queueDelayed actor => actor = work
  | _ => False

/-- A handler run is in progress, and it will dequeue or queue work before it
ends. -/
def InProgress (hz : Nat) (state : XmitState) (work : Work) : Prop :=
  state.handler work ≠ .idle ∧
    ∀ labels final, run (step hz) state labels = some final →
      final.handler work = .idle → ∃ label ∈ labels, Acts work label

/-- A queue that is not empty has somebody who takes care of it. -/
def NotStranded (hz : Nat) (state : XmitState) : Prop :=
  state.tdat.xmitQueue.queue ≠ [] →
    (∃ work, state.pending work = true) ∨ (∃ work, InProgress hz state work) ∨
      ∃ slot, state.submit slot ≠ .idle

/-- The positions of a handler run between setting the flag and queueing the
delayed work, and between leaving the work queue and clearing the flag. -/
def KeepsFlag : HandlerPc → Prop
  | .started | .queueDelayed => True
  | _ => False

/-- Somebody stands behind the flag `has_delayed_work`. -/
def FlagBacked (state : XmitState) : Prop :=
  state.pending .delayed = true ∨ ∃ work, KeepsFlag (state.handler work)

/-- Somebody will look at the queue. -/
def Attended (state : XmitState) : Prop :=
  (∃ work, state.pending work = true) ∨ (∃ work, state.handler work ≠ .idle) ∨
    ∃ slot, state.submit slot ≠ .idle

/-- The inductive invariant over submitters and both handlers. -/
structure Scheduled (state : XmitState) : Prop where
  policy : ValidPolicy state.tdat.xmitQueue
  flag : state.tdat.hasDelayedWork = true → FlagBacked state
  queue : state.tdat.xmitQueue.queue ≠ [] → Attended state

theorem attended_of_flagBacked {state : XmitState} (backed : FlagBacked state) :
    Attended state := by
  rcases backed with queued | ⟨work, keeps⟩
  · exact Or.inl ⟨.delayed, queued⟩
  · refine Or.inr (Or.inl ⟨work, ?_⟩)
    intro idle
    simp [idle, KeepsFlag] at keeps

/-- A handler that did not stand behind the flag may move. -/
theorem flagBacked_atPc {state : XmitState} {work : Work} {pc : HandlerPc}
    (free : ¬ KeepsFlag (state.handler work)) (backed : FlagBacked state) :
    FlagBacked (atPc state work pc) := by
  rcases backed with queued | ⟨other, keeps⟩
  · exact Or.inl queued
  · have different : other ≠ work := by
      rintro rfl
      exact free keeps
    refine Or.inr ⟨other, ?_⟩
    simpa [atPc, different] using keeps

theorem attended_atPc {state : XmitState} {work : Work} {pc : HandlerPc}
    (busy : pc ≠ .idle) : Attended (atPc state work pc) :=
  Or.inr (Or.inl ⟨work, by simpa [atPc] using busy⟩)

theorem afterSent_ne_idle (cnt : Nat) : afterSent cnt ≠ .idle := by
  unfold afterSent
  split <;> simp

/-- A move of a handler run that goes on, from a position that does not stand
behind the flag. -/
theorem scheduled_atPc {state next : XmitState} {work : Work} {pc : HandlerPc}
    (scheduled : Scheduled state) (free : ¬ KeepsFlag (state.handler work))
    (policy : ValidPolicy next.tdat.xmitQueue)
    (flagEq : next.tdat.hasDelayedWork = state.tdat.hasDelayedWork)
    (pendingEq : next.pending = state.pending) (handlerEq : next.handler = state.handler)
    (busy : pc ≠ .idle) : Scheduled (atPc next work pc) where
  policy := policy
  flag := by
    intro set
    have setBefore : state.tdat.hasDelayedWork = true := by
      rw [← flagEq]
      exact set
    refine flagBacked_atPc (by rwa [handlerEq]) ?_
    simpa only [FlagBacked, pendingEq, handlerEq] using scheduled.flag setBefore
  queue := fun _ => attended_atPc busy

theorem scheduled_readFlag {state : XmitState} {slot : Nat} (scheduled : Scheduled state) :
    Scheduled { state with
      submit := Function.update state.submit slot
        (if state.tdat.hasDelayedWork then .idle else .queueing) } where
  policy := scheduled.policy
  flag := scheduled.flag
  queue := by
    intro _
    by_cases set : state.tdat.hasDelayedWork = true
    · exact attended_of_flagBacked (scheduled.flag set)
    · refine Or.inr (Or.inr ⟨slot, ?_⟩)
      simp [set]

/-- Every transition keeps somebody in charge of the flag and of the queue. -/
theorem scheduled_of_moves {state next : XmitState} {label : Label}
    (scheduled : Scheduled state) (moves : Moves state label next) : Scheduled next := by
  cases moves with
  | refused slot skb taken submission idle fresh buffers =>
      have unchanged : Function.update state.submit slot .idle = state.submit := by
        rw [← idle, Function.update_eq_self]
      simp only [unchanged]
      exact ⟨scheduled.policy, scheduled.flag, scheduled.queue⟩
  | put slot skb packet taken freed submission idle fresh prepared =>
      refine ⟨validPolicy_tpqEnqueue scheduled.policy packet, scheduled.flag, fun _ => ?_⟩
      exact Or.inr (Or.inr ⟨slot, by simp⟩)
  | noMemory submission =>
      exact scheduled
  | readFlag slot put =>
      exact scheduled_readFlag scheduled
  | queueXmit slot queueing =>
      refine ⟨scheduled.policy, ?_, fun _ => Or.inl ⟨.xmit, by simp⟩⟩
      intro set
      simpa [FlagBacked] using scheduled.flag set
  | start work idle queued =>
      refine ⟨scheduled.policy, fun _ => Or.inr ⟨work, ?_⟩, fun _ => attended_atPc (by simp)⟩
      simp [atPc, KeepsFlag]
  | clearFlag work started =>
      refine ⟨scheduled.policy, ?_, fun _ => attended_atPc (by simp)⟩
      simp [atPc]
  | dequeueNone work cnt looping empty =>
      refine ⟨scheduled.policy, fun set => flagBacked_atPc (by simp [looping, KeepsFlag])
        (scheduled.flag set), ?_⟩
      intro nonempty
      rcases tpqDequeue_cases scheduled.policy with ⟨isEmpty, -⟩ | ⟨rest, skb, -, eq⟩
      · exact absurd isEmpty nonempty
      · simp [eq] at empty
  | dequeueSome work cnt skb queue looping dequeued =>
      have policy : ValidPolicy queue := by
        rcases tpqDequeue_cases scheduled.policy with ⟨-, eq⟩ | ⟨rest, last, -, eq⟩
        · simp [eq] at dequeued
        · rw [eq] at dequeued
          exact (Prod.mk.inj dequeued).2 ▸ scheduled.policy
      exact scheduled_atPc scheduled (by simp [looping, KeepsFlag]) policy rfl rfl rfl
        (by simp)
  | sendAgain work sendmsg cnt skb holding refused =>
      exact scheduled_atPc scheduled (by simp [holding, KeepsFlag]) scheduled.policy
        rfl rfl rfl (by simp)
  | sendFailed work sendmsg cnt skb holding refused =>
      exact scheduled_atPc scheduled (by simp [holding, KeepsFlag]) scheduled.policy
        rfl rfl rfl (by simp)
  | sent work sendmsg cnt skb holding nonneg called =>
      exact scheduled_atPc scheduled (by simp [holding, KeepsFlag]) scheduled.policy
        rfl rfl rfl (afterSent_ne_idle cnt)
  | requeue work skb requeueing =>
      have policy : ValidPolicy (tpqRequeue state.tdat.xmitQueue skb) := by
        rw [tpqRequeue_eq scheduled.policy]
        exact scheduled.policy
      exact scheduled_atPc scheduled (by simp [requeueing, KeepsFlag]) policy rfl rfl rfl
        (by simp)
  | queueNext work atEnd =>
      refine ⟨scheduled.policy, ?_, fun _ => Or.inl ⟨.xmit, by simp [atPc]⟩⟩
      intro set
      refine flagBacked_atPc (by simp [atEnd, KeepsFlag]) ?_
      simpa [FlagBacked] using scheduled.flag set
  | setFlag work failed =>
      refine ⟨scheduled.policy, fun _ => Or.inr ⟨work, ?_⟩, fun _ => attended_atPc (by simp)⟩
      simp [atPc, KeepsFlag]
  | queueDelayed work flagged =>
      refine ⟨scheduled.policy, fun _ => Or.inl ?_, fun _ => Or.inl ⟨.delayed, ?_⟩⟩ <;>
        simp [atPc]
  | connection members =>
      exact ⟨scheduled.policy, scheduled.flag, scheduled.queue⟩
  | setPolicy policy =>
      refine ⟨validPolicy_tpqSetPolicy scheduled.policy policy, scheduled.flag, ?_⟩
      intro nonempty
      exact scheduled.queue (by simpa using nonempty)
  | setMaxlen maxlen =>
      refine ⟨validPolicy_tpqSetMaxlen scheduled.policy maxlen, scheduled.flag, ?_⟩
      intro nonempty
      exact scheduled.queue (by simpa using nonempty)

theorem scheduled_initial (ipv6 ismpdccp : Bool) : Scheduled (initial ipv6 ismpdccp) where
  policy := validPolicy_tpqInit TP_QUEUE_DROP_NEWEST 1000
  flag := by simp [initial, mpdccptunNew]
  queue := by simp [initial, mpdccptunNew]

/-- A handler run ends only with a step that dequeues or queues work. -/
theorem acts_of_moves {state next : XmitState} {label : Label} {work : Work}
    (moves : Moves state label next) (busy : state.handler work ≠ .idle)
    (idle : next.handler work = .idle) : Acts work label := by
  have unmoved {other : Work} {pc : HandlerPc} (goesOn : pc ≠ .idle)
      (idleAfter : Function.update state.handler other pc work = .idle) : False := by
    by_cases same : work = other
    · subst same
      exact goesOn (by simpa using idleAfter)
    · exact busy (by simpa [same] using idleAfter)
  have moved {other : Work} {pc : HandlerPc}
      (idleAfter : Function.update state.handler other pc work = .idle) : other = work := by
    by_contra different
    exact busy (by simpa [Ne.symm different] using idleAfter)
  cases moves with
  | refused slot skb taken submission idleSlot fresh buffers =>
      exact absurd idle busy
  | put slot skb packet taken freed submission idleSlot fresh prepared =>
      exact absurd idle busy
  | noMemory submission =>
      exact absurd idle busy
  | readFlag slot put =>
      exact absurd idle busy
  | queueXmit slot queueing =>
      exact absurd idle busy
  | dequeueNone other cnt looping empty =>
      exact moved idle
  | dequeueSome other cnt skb queue looping dequeued =>
      exact moved idle
  | queueNext other atEnd =>
      exact moved idle
  | queueDelayed other flagged =>
      exact moved idle
  | sent other sendmsg cnt skb holding nonneg called =>
      exact (unmoved (afterSent_ne_idle cnt) idle).elim
  | connection members =>
      exact absurd idle busy
  | setPolicy policy =>
      exact absurd idle busy
  | setMaxlen maxlen =>
      exact absurd idle busy
  | _ =>
      exact (unmoved (by simp) idle).elim

theorem inProgress_of_ne_idle {hz : Nat} {state : XmitState} {work : Work}
    (busy : state.handler work ≠ .idle) : InProgress hz state work := by
  refine ⟨busy, fun labels => ?_⟩
  induction labels generalizing state with
  | nil =>
      intro final ran idle
      obtain rfl := Option.some.inj ran
      exact absurd idle busy
  | cons label labels ih =>
      intro final ran idle
      obtain ⟨next, stepped, rest⟩ := run_cons_eq_some_iff.mp ran
      by_cases ended : next.handler work = .idle
      · exact ⟨label, List.mem_cons_self, acts_of_moves (moves_of_step stepped) busy ended⟩
      · obtain ⟨later, member, acts⟩ := ih ended final rest idle
        exact ⟨later, List.mem_cons_of_mem label member, acts⟩

/-- In every reachable state with a packet in the queue, work is queued, or a
handler run is in progress that will still dequeue or queue work, or a
submitter has not yet decided whether to queue work. -/
theorem notStranded_of_run (hz : Nat) (ipv6 ismpdccp : Bool) (labels : List Label)
    (state : XmitState)
    (ran : run (step hz) (initial ipv6 ismpdccp) labels = some state) :
    NotStranded hz state := by
  have scheduled : Scheduled state :=
    invariant_of_run
      (fun scheduled stepped => scheduled_of_moves scheduled (moves_of_step stepped))
      (scheduled_initial ipv6 ismpdccp) ran
  intro nonempty
  rcases scheduled.queue nonempty with queued | ⟨work, busy⟩ | submitting
  · exact Or.inl queued
  · exact Or.inr (Or.inl ⟨work, inProgress_of_ne_idle busy⟩)
  · exact Or.inr (Or.inr submitting)

/-- A message for which `kernel_sendmsg` was busy is back in the queue, and the
submitter of a second one sees the flag. -/
def submitBehindFlag : List Label :=
  [.connection connectedClient,
    .mpdccptunXmit 0 (some (.buffer 0)) message 0 true,
    .readFlag 0, .queueXmit 0, .start .xmit, .clearFlag .xmit, .dequeue .xmit,
    .send .xmit (-11), .requeue .xmit, .setFlag .xmit,
    .mpdccptunXmit 1 (some (.buffer 1)) message 0 true,
    .readFlag 1]

theorem notStranded_submitBehindFlag :
    ∃ state, run (step 100) (initial false false) submitBehindFlag = some state ∧
      state.tdat.xmitQueue.queue.length = 2 ∧ NotStranded 100 state :=
  ⟨_, rfl, rfl, notStranded_of_run 100 false false submitBehindFlag _ rfl⟩

end Tunprox.TransmitProgress
