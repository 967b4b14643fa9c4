import Tunprox.Transmit

/-!
# The order in which packets are sent

A packet leaves `xmit_queue` at the end it is requeued to, so the packets not
yet sent stay in the order in which they were put in as long as at most one
handler run holds a packet.  The two work items may run at the same time, and
then a later packet can be sent first.
-/

namespace Tunprox.TransmitOrder

open Transmit Queue LabelledRun

/-- The packets are sent in the order in which they were put into the queue. -/
def InOrder (state : XmitState) : Prop :=
  (state.accepted.map Prod.fst).Sublist state.put

/-- A handler run takes a packet only while the other one holds none. -/
def TakesAlone (state : XmitState) : Label → Prop
  | .dequeue work =>
      state.tdat.xmitQueue.queue = [] ∨ (state.handler work.other).held = []
  | _ => True

instance (state : XmitState) : (label : Label) → Decidable (TakesAlone state label)
  | .dequeue work =>
      inferInstanceAs (Decidable
        (state.tdat.xmitQueue.queue = [] ∨ (state.handler work.other).held = []))
  | .ldtMpdccptunXmit .. | .mpdccptunXmit .. | .readFlag _ | .queueXmit _ | .start _
  | .clearFlag _ | .send .. | .requeue _ | .queueNext _ | .setFlag _ | .queueDelayed _
  | .connection _ | .setPolicy _ | .setMaxlen _ =>
      inferInstanceAs (Decidable True)

/-- The packets sent, the one being sent and those waiting, from the oldest to
the newest. -/
def timeline (state : XmitState) : List BufId :=
  state.accepted.map Prod.fst ++
    (heldBy state.handler ++ (state.tdat.xmitQueue.queue.map SkBuff.id).reverse)

/-- At most one handler run holds a packet, and no packet has overtaken another. -/
structure Ordered (state : XmitState) : Prop where
  policy : ValidPolicy state.tdat.xmitQueue
  alone : ∀ work, (state.handler work).held = [] ∨ (state.handler work.other).held = []
  order : (timeline state).Sublist state.put

/-- A state in which the queue, the sent packets and what each handler holds
are the same is ordered, too. -/
theorem Ordered.of_same {state next : XmitState} (ordered : Ordered state)
    (policy : ValidPolicy next.tdat.xmitQueue)
    (queueEq : next.tdat.xmitQueue.queue = state.tdat.xmitQueue.queue)
    (heldEq : ∀ work, (next.handler work).held = (state.handler work).held)
    (acceptedEq : next.accepted = state.accepted) (putEq : next.put = state.put) :
    Ordered next where
  policy := policy
  alone := by
    intro work
    rw [heldEq, heldEq]
    exact ordered.alone work
  order := by
    have timelineEq : timeline next = timeline state := by
      simp only [timeline, heldBy, heldEq, acceptedEq, queueEq]
    rw [timelineEq, putEq]
    exact ordered.order

theorem held_atPc {state : XmitState} {work : Work} {pc : HandlerPc}
    (same : (state.handler work).held = pc.held) (other : Work) :
    ((atPc state work pc).handler other).held = (state.handler other).held := by
  by_cases eq : other = work
  · subst eq
    simp [atPc, same]
  · simp [atPc, eq]

/-- A handler that holds a packet is the only one. -/
theorem Ordered.other_nil {state : XmitState} (ordered : Ordered state) {work : Work}
    {id : BufId} (holds : (state.handler work).held = [id]) :
    (state.handler work.other).held = [] := by
  rcases ordered.alone work with nothing | other
  · simp [nothing] at holds
  · exact other

/-- After a move of one handler while the other holds nothing, still at most one
holds a packet. -/
theorem alone_update {handler : Work → HandlerPc} {work : Work}
    (other : (handler work.other).held = []) (pc : HandlerPc) (any : Work) :
    (Function.update handler work pc any).held = [] ∨
      (Function.update handler work pc any.other).held = [] := by
  cases work <;> cases any <;> simp_all [Work.other]

theorem ordered_put {state : XmitState} {submit : Nat → SubmitPc} {packet : SkBuff}
    {acquired freed : List BufId} (ordered : Ordered state) :
    Ordered { state with
      tdat := { state.tdat with
        xmitQueue := (tpqEnqueue state.tdat.xmitQueue packet).1 }
      submit := submit
      acquired := acquired
      freed := freed
      put := state.put ++ [packet.id] } where
  policy := validPolicy_tpqEnqueue ordered.policy packet
  alone := ordered.alone
  order := by
    have order := ordered.order
    unfold timeline at order ⊢
    rcases tpqEnqueue_cases ordered.policy packet with eq | ⟨rest, oldest, split, eq⟩ | eq
    · simp only [eq, List.map_cons, List.reverse_cons]
      simpa only [List.append_assoc] using order.append (List.Sublist.refl [packet.id])
    · simp only [eq, List.map_cons, List.reverse_cons]
      simp only [split, List.map_append, List.map_cons, List.map_nil, List.reverse_append,
        List.reverse_cons, List.reverse_nil, List.nil_append] at order
      have withoutOldest :
          (state.accepted.map Prod.fst ++
            (heldBy state.handler ++ (rest.map SkBuff.id).reverse)).Sublist state.put :=
        List.Sublist.trans
          ((List.Sublist.refl _).append
            ((List.Sublist.refl _).append (List.sublist_append_right _ _))) order
      simpa only [List.append_assoc] using
        withoutOldest.append (List.Sublist.refl [packet.id])
    · simp only [eq]
      exact order.trans (List.sublist_append_left _ _)

theorem ordered_dequeue {state : XmitState} {work : Work} {cnt : Nat} {skb : SkBuff}
    {queue : TpQueue SkBuff} (ordered : Ordered state)
    (takesAlone : TakesAlone state (.dequeue work))
    (looping : state.handler work = .loop cnt)
    (dequeued : tpqDequeue state.tdat.xmitQueue = (some skb, queue)) :
    Ordered (atPc { state with tdat := { state.tdat with xmitQueue := queue } }
      work (.holding cnt skb)) := by
  rcases tpqDequeue_cases ordered.policy with ⟨-, eq⟩ | ⟨rest, last, split, eq⟩
  · simp [eq] at dequeued
  · rw [eq] at dequeued
    obtain ⟨rfl, rfl⟩ : last = skb ∧ { state.tdat.xmitQueue with queue := rest } = queue := by
      simpa using dequeued
    have other : (state.handler work.other).held = [] := by
      rcases takesAlone with empty | other
      · simp [split] at empty
      · exact other
    have order := ordered.order
    unfold timeline at order
    rw [heldBy_eq_of_other_nil other, looping] at order
    simp only [split, HandlerPc.held, List.map_append, List.map_cons, List.map_nil,
      List.reverse_append, List.reverse_cons, List.reverse_nil, List.nil_append] at order
    refine ⟨ordered.policy, alone_update other _, ?_⟩
    simp only [timeline, atPc, heldBy_update_of_other_nil other, HandlerPc.held]
    exact order

theorem ordered_requeue {state : XmitState} {work : Work} {skb : SkBuff}
    (ordered : Ordered state) (requeueing : state.handler work = .requeueing skb) :
    Ordered (atPc { state with
      tdat := { state.tdat with xmitQueue := tpqRequeue state.tdat.xmitQueue skb } }
      work .setFlag) := by
  rw [tpqRequeue_eq ordered.policy]
  have holds : (state.handler work).held = [skb.id] := by rw [requeueing]; rfl
  have other := ordered.other_nil holds
  have order := ordered.order
  unfold timeline at order
  rw [heldBy_eq_of_other_nil other, holds] at order
  refine ⟨ordered.policy, alone_update other _, ?_⟩
  simp only [timeline, atPc, heldBy_update_of_other_nil other, HandlerPc.held, tpqInfRequeue,
    List.map_append, List.map_cons, List.map_nil, List.reverse_append, List.reverse_cons,
    List.reverse_nil, List.nil_append]
  exact order

theorem ordered_sendFailed {state : XmitState} {work : Work} {cnt : Nat} {skb : SkBuff}
    {stats : TxStats} {freed : List BufId} (ordered : Ordered state)
    (holding : state.handler work = .holding cnt skb) :
    Ordered (atPc { state with
      tdat := { state.tdat with stats := stats }
      freed := freed } work .setFlag) := by
  have holds : (state.handler work).held = [skb.id] := by rw [holding]; rfl
  have other := ordered.other_nil holds
  have order := ordered.order
  unfold timeline at order
  rw [heldBy_eq_of_other_nil other, holds] at order
  refine ⟨ordered.policy, alone_update other _, ?_⟩
  simp only [timeline, atPc, heldBy_update_of_other_nil other, HandlerPc.held,
    List.nil_append]
  exact List.Sublist.trans
    ((List.Sublist.refl _).append (List.sublist_append_right [skb.id] _)) order

theorem ordered_sent {state : XmitState} {work : Work} {cnt : Nat} {skb : SkBuff}
    {stats : TxStats} {sendmsg : Int} {freed : List BufId} (ordered : Ordered state)
    (holding : state.handler work = .holding cnt skb) :
    Ordered (atPc { state with
      tdat := { state.tdat with stats := stats }
      freed := freed
      accepted := state.accepted ++ [(skb.id, sendmsg)] } work (afterSent cnt)) := by
  have holds : (state.handler work).held = [skb.id] := by rw [holding]; rfl
  have other := ordered.other_nil holds
  have order := ordered.order
  unfold timeline at order
  rw [heldBy_eq_of_other_nil other, holds] at order
  refine ⟨ordered.policy, alone_update other _, ?_⟩
  simp only [timeline, atPc, heldBy_update_of_other_nil other, afterSent_held,
    List.nil_append, List.map_append, List.map_cons, List.map_nil, List.append_assoc]
  exact order

/-- A transition keeps the order if a handler takes a packet only while the
other holds none. -/
theorem ordered_of_moves {state next : XmitState} {label : Label}
    (takesAlone : TakesAlone state label) (ordered : Ordered state)
    (moves : Moves state label next) : Ordered next := by
  cases moves with
  | refused slot skb taken submission idle fresh buffers =>
      exact ordered.of_same ordered.policy rfl (fun _ => rfl) rfl rfl
  | put slot skb packet taken freed submission idle fresh prepared =>
      exact ordered_put ordered
  | noMemory submission =>
      exact ordered
  | readFlag slot put =>
      exact ordered.of_same ordered.policy rfl (fun _ => rfl) rfl rfl
  | queueXmit slot queueing =>
      exact ordered.of_same ordered.policy rfl (fun _ => rfl) rfl rfl
  | start work idle queued =>
      exact ordered.of_same ordered.policy rfl
        (held_atPc (by simp only [idle, HandlerPc.held])) rfl rfl
  | clearFlag work started =>
      exact ordered.of_same ordered.policy rfl
        (held_atPc (by simp only [started, HandlerPc.held])) rfl rfl
  | dequeueNone work cnt looping empty =>
      exact ordered.of_same ordered.policy rfl
        (held_atPc (by simp only [looping, HandlerPc.held])) rfl rfl
  | dequeueSome work cnt skb queue looping dequeued =>
      exact ordered_dequeue ordered takesAlone looping dequeued
  | sendAgain work sendmsg cnt skb holding refused =>
      exact ordered.of_same ordered.policy rfl
        (held_atPc (by simp only [holding, HandlerPc.held])) rfl rfl
  | sendFailed work sendmsg cnt skb holding refused =>
      exact ordered_sendFailed ordered holding
  | sent work sendmsg cnt skb holding nonneg called =>
      exact ordered_sent ordered holding
  | requeue work skb requeueing =>
      exact ordered_requeue ordered requeueing
  | queueNext work atEnd =>
      exact ordered.of_same ordered.policy rfl
        (held_atPc (by simp only [atEnd, HandlerPc.held])) rfl rfl
  | setFlag work failed =>
      exact ordered.of_same ordered.policy rfl
        (held_atPc (by simp only [failed, HandlerPc.held])) rfl rfl
  | queueDelayed work flagged =>
      exact ordered.of_same ordered.policy rfl
        (held_atPc (by simp only [flagged, HandlerPc.held])) rfl rfl
  | connection members =>
      exact ordered.of_same ordered.policy rfl (fun _ => rfl) rfl rfl
  | setPolicy policy =>
      exact ordered.of_same (validPolicy_tpqSetPolicy ordered.policy policy)
        (by simp) (fun _ => rfl) rfl rfl
  | setMaxlen maxlen =>
      exact ordered.of_same (validPolicy_tpqSetMaxlen ordered.policy maxlen)
        (by simp) (fun _ => rfl) rfl rfl

theorem ordered_initial (ipv6 ismpdccp : Bool) : Ordered (initial ipv6 ismpdccp) where
  policy := validPolicy_tpqInit TP_QUEUE_DROP_NEWEST 1000
  alone := fun _ => Or.inl rfl
  order := by
    simp [timeline, initial, mpdccptunNew, heldBy, HandlerPc.held]

/-- In every run in which a handler takes a packet only while the other holds
none, the packets are accepted in the order in which they were put into the
queue. -/
theorem inOrder_of_takesAlone (hz : Nat) (ipv6 ismpdccp : Bool) (labels : List Label)
    (state : XmitState)
    (takesAlone : Guarded (step hz) TakesAlone (initial ipv6 ismpdccp) labels)
    (ran : run (step hz) (initial ipv6 ismpdccp) labels = some state) :
    InOrder state := by
  have ordered : Ordered state :=
    invariant_of_guarded
      (fun alone ordered stepped => ordered_of_moves alone ordered (moves_of_step stepped))
      takesAlone (ordered_initial ipv6 ismpdccp) ran
  exact List.Sublist.trans (List.sublist_append_left _ _) ordered.order

/-- A message is submitted and the transmit work is queued for it. -/
def submitMessage (number : Nat) : List Label :=
  [.mpdccptunXmit number (some (.buffer number)) message 0 true,
    .readFlag number, .queueXmit number]

/-- A tunnel that is connected as a client gets a message, `kernel_sendmsg` is
busy, and the message is left to the delayed work. -/
def busyMessage : List Label :=
  .connection connectedClient ::
    submitMessage 0 ++
    [.start .xmit, .clearFlag .xmit, .dequeue .xmit, .send .xmit (-11), .requeue .xmit,
      .setFlag .xmit, .queueDelayed .xmit, .start .delayed, .clearFlag .delayed] ++
    submitMessage 1 ++ [.start .xmit, .clearFlag .xmit]

theorem inOrder_one_after_the_other :
    ∃ state, run (step 100) (initial false false) (busyMessage ++
        [.dequeue .delayed, .send .delayed 4, .dequeue .xmit, .send .xmit 4]) = some state ∧
      state.accepted.length = 2 ∧ InOrder state := by
  refine ⟨_, rfl, rfl, ?_⟩
  refine inOrder_of_takesAlone 100 false false (busyMessage ++
    [.dequeue .delayed, .send .delayed 4, .dequeue .xmit, .send .xmit 4]) _ ?_ rfl
  decide

/-- The delayed work has taken the first message, and the other handler takes
the second one and sends it first. -/
theorem not_inOrder_both_at_once :
    ∃ state, run (step 100) (initial false false) (busyMessage ++
        [.dequeue .delayed, .dequeue .xmit, .send .xmit 4, .send .delayed 4]) = some state ∧
      state.put = [.buffer 0, .buffer 1] ∧
      state.accepted.map Prod.fst = [.buffer 1, .buffer 0] ∧ ¬ InOrder state := by
  refine ⟨_, rfl, rfl, rfl, ?_⟩
  unfold InOrder
  decide

end Tunprox.TransmitOrder
