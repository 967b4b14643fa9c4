import Mathlib.Data.List.Induction
import Mathlib.Data.List.Nodup
import Tunprox.Transmit

/-!
# Who owns a transmitted packet

A buffer that came into the hands of the tunnel is in `xmit_queue`, held by a
handler run, or freed.  `do_xmit_skb` frees a packet only when
`kernel_sendmsg` returns zero, so a packet that was sent with a positive byte
count is in none of these places.  The invariant counts those packets
separately, which gives the exact condition on a run.
-/

namespace Tunprox.TransmitOwnership

open Transmit Queue LabelledRun

/-- In how many places a buffer is: in the queue, with a handler run, freed. -/
def places (state : XmitState) (id : BufId) : Nat :=
  (state.tdat.xmitQueue.queue.map SkBuff.id).count id + (heldBy state.handler).count id +
    state.freed.count id

/-- The packets that were sent and not freed. -/
def forgotten (state : XmitState) : List BufId :=
  (state.accepted.filter fun sent => 0 < sent.2).map Prod.fst

/-- Every buffer the tunnel has taken is in exactly one place, or freed once,
and a packet that was sent is freed. -/
def Conserved (state : XmitState) : Prop :=
  (∀ id ∈ state.acquired, places state id = 1) ∧
    ∀ sent ∈ state.accepted, state.freed.count sent.1 = 1

/-- A step does not send a packet with a positive byte count. -/
def SendsNothing (state : XmitState) : Label → Prop
  | .send _ sendmsg => sendmsgCalled state.tdat = true → sendmsg ≤ 0
  | _ => True

instance (state : XmitState) : (label : Label) → Decidable (SendsNothing state label)
  | .send _ sendmsg =>
      inferInstanceAs (Decidable (sendmsgCalled state.tdat = true → sendmsg ≤ 0))
  | .ldtMpdccptunXmit .. | .mpdccptunXmit .. | .readFlag _ | .queueXmit _ | .start _
  | .clearFlag _ | .dequeue _ | .requeue _ | .queueNext _ | .setFlag _ | .queueDelayed _
  | .connection _ | .setPolicy _ | .setMaxlen _ =>
      inferInstanceAs (Decidable True)

/-- The books balance: a buffer taken is in one of the places or forgotten, and
an empty packet that was sent is freed. -/
structure Accounted (state : XmitState) : Prop where
  policy : ValidPolicy state.tdat.xmitQueue
  nodup : state.acquired.Nodup
  balance : ∀ id, places state id + (forgotten state).count id = state.acquired.count id
  emptyFreed : ∀ sent ∈ state.accepted, 0 < sent.2 ∨ sent.1 ∈ state.freed

theorem nodup_append_taken {state : XmitState} {id : BufId} {taken : List BufId}
    (nodup : state.acquired.Nodup) (fresh : Fresh state id)
    (buffers : taken = [] ∨ taken = [id] ∨ taken = [id, .copy id]) :
    (state.acquired ++ taken).Nodup := by
  obtain ⟨idFresh, copyFresh⟩ := fresh
  rcases buffers with rfl | rfl | rfl
  · simpa using nodup
  · simp only [List.nodup_append, List.mem_singleton]
    refine ⟨nodup, by simp, ?_⟩
    rintro known knownIn _ rfl rfl
    exact idFresh knownIn
  · simp only [List.nodup_append, List.mem_cons, List.not_mem_nil, or_false]
    refine ⟨nodup, by simp, ?_⟩
    rintro known knownIn _ (rfl | rfl) rfl
    · exact idFresh knownIn
    · exact copyFresh knownIn

/-- `tpq_enqueue` neither loses nor duplicates a packet. -/
theorem count_tpqEnqueue {queue : TpQueue SkBuff} (valid : ValidPolicy queue)
    (packet : SkBuff) (id : BufId) :
    ((tpqEnqueue queue packet).1.queue.map SkBuff.id).count id +
        ((tpqEnqueue queue packet).2.map SkBuff.id).count id =
      (queue.queue.map SkBuff.id).count id + [packet.id].count id := by
  rcases tpqEnqueue_cases valid packet with eq | ⟨rest, oldest, split, eq⟩ | eq
  · simp [eq, List.count_cons]
  · simp [eq, split, List.count_cons, List.count_append]
    omega
  · simp [eq]

/-- The account of a state that differs from an accounted one only in what
leaves every place as it was. -/
theorem Accounted.of_same {state next : XmitState} (accounted : Accounted state)
    (policy : ValidPolicy next.tdat.xmitQueue)
    (placesEq : ∀ id, places next id = places state id)
    (acquiredEq : next.acquired = state.acquired)
    (acceptedEq : next.accepted = state.accepted)
    (freedSubset : state.freed ⊆ next.freed) : Accounted next where
  policy := policy
  nodup := acquiredEq ▸ accounted.nodup
  balance := by
    intro id
    have balance := accounted.balance id
    rw [placesEq, acquiredEq]
    simpa only [forgotten, acceptedEq] using balance
  emptyFreed := by
    intro sent member
    rw [acceptedEq] at member
    exact (accounted.emptyFreed sent member).imp id fun freed => freedSubset freed

/-- A handler that moves between two positions in which it holds the same
packet changes no place. -/
theorem places_atPc {state : XmitState} {work : Work} {pc : HandlerPc}
    (same : (state.handler work).held = pc.held) (id : BufId) :
    places (atPc state work pc) id = places state id := by
  have exchange := count_heldBy_update state.handler work pc id
  rw [same] at exchange
  simp only [places, atPc]
  omega

theorem accounted_refused {state : XmitState} {slot : Nat} {skb : SkBuff}
    {taken : List BufId} (accounted : Accounted state) (fresh : Fresh state skb.id)
    (buffers : taken = [] ∨ taken = [skb.id] ∨ taken = [skb.id, .copy skb.id]) :
    Accounted { state with
      submit := Function.update state.submit slot .idle
      acquired := state.acquired ++ taken
      freed := state.freed ++ taken } where
  policy := accounted.policy
  nodup := nodup_append_taken accounted.nodup fresh buffers
  balance := by
    intro id
    have balance := accounted.balance id
    simp only [places, forgotten, List.count_append] at balance ⊢
    omega
  emptyFreed := by
    intro sent member
    exact (accounted.emptyFreed sent member).imp_right fun freed =>
      List.mem_append_left taken freed

theorem Prepared.count {skb packet : SkBuff} {taken freed : List BufId}
    (prepared : Prepared skb packet taken freed) (id : BufId) :
    taken.count id = freed.count id + [packet.id].count id := by
  cases prepared with
  | same =>
      simp
  | copied headroom =>
      simp [List.count_cons]
      omega

theorem Prepared.buffers {skb packet : SkBuff} {taken freed : List BufId}
    (prepared : Prepared skb packet taken freed) :
    taken = [] ∨ taken = [skb.id] ∨ taken = [skb.id, .copy skb.id] := by
  cases prepared with
  | same =>
      exact Or.inr (Or.inl rfl)
  | copied headroom =>
      exact Or.inr (Or.inr rfl)

theorem accounted_put {state : XmitState} {slot : Nat} {skb packet : SkBuff}
    {taken freed : List BufId} (accounted : Accounted state)
    (fresh : Fresh state skb.id) (prepared : Prepared skb packet taken freed) :
    Accounted { state with
      tdat := { state.tdat with
        xmitQueue := (tpqEnqueue state.tdat.xmitQueue packet).1 }
      submit := Function.update state.submit slot .put
      acquired := state.acquired ++ taken
      freed := state.freed ++
        (freed ++ (tpqEnqueue state.tdat.xmitQueue packet).2.map SkBuff.id)
      put := state.put ++ [packet.id] } where
  policy := validPolicy_tpqEnqueue accounted.policy packet
  nodup := nodup_append_taken accounted.nodup fresh (Prepared.buffers prepared)
  balance := by
    intro id
    have balance := accounted.balance id
    have queued := count_tpqEnqueue accounted.policy packet id
    have counted := Prepared.count prepared id
    simp only [places, forgotten, List.count_append] at balance ⊢
    omega
  emptyFreed := by
    intro sent member
    exact (accounted.emptyFreed sent member).imp_right fun freedBefore =>
      List.mem_append_left _ freedBefore

theorem accounted_dequeue {state : XmitState} {work : Work} {cnt : Nat} {skb : SkBuff}
    {queue : TpQueue SkBuff} (accounted : Accounted state)
    (looping : state.handler work = .loop cnt)
    (dequeued : tpqDequeue state.tdat.xmitQueue = (some skb, queue)) :
    Accounted (atPc { state with tdat := { state.tdat with xmitQueue := queue } }
      work (.holding cnt skb)) := by
  rcases tpqDequeue_cases accounted.policy with ⟨-, eq⟩ | ⟨rest, last, split, eq⟩
  · simp [eq] at dequeued
  · rw [eq] at dequeued
    obtain ⟨rfl, rfl⟩ : last = skb ∧ { state.tdat.xmitQueue with queue := rest } = queue := by
      simpa using dequeued
    refine accounted.of_same accounted.policy ?_ rfl rfl (fun _ member => member)
    intro id
    have exchange := count_heldBy_update state.handler work (.holding cnt last) id
    simp only [looping, HandlerPc.held, List.count_nil] at exchange
    simp only [places, atPc, split, List.map_append, List.map_cons, List.map_nil,
      List.count_append]
    omega

theorem accounted_requeue {state : XmitState} {work : Work} {skb : SkBuff}
    (accounted : Accounted state) (requeueing : state.handler work = .requeueing skb) :
    Accounted (atPc { state with
      tdat := { state.tdat with xmitQueue := tpqRequeue state.tdat.xmitQueue skb } }
      work .setFlag) := by
  rw [tpqRequeue_eq accounted.policy]
  refine accounted.of_same accounted.policy ?_ rfl rfl (fun _ member => member)
  intro id
  have exchange := count_heldBy_update state.handler work .setFlag id
  simp only [requeueing, HandlerPc.held, List.count_nil] at exchange
  simp only [places, atPc, tpqInfRequeue, List.map_append, List.map_cons, List.map_nil,
    List.count_append]
  omega

theorem accounted_sendFailed {state : XmitState} {work : Work} {cnt : Nat} {skb : SkBuff}
    {stats : TxStats} (accounted : Accounted state)
    (holding : state.handler work = .holding cnt skb) :
    Accounted (atPc { state with
      tdat := { state.tdat with stats := stats }
      freed := state.freed ++ [skb.id] } work .setFlag) := by
  refine accounted.of_same accounted.policy ?_ rfl rfl
    (fun _ member => List.mem_append_left _ member)
  intro id
  have exchange := count_heldBy_update state.handler work .setFlag id
  simp only [holding, HandlerPc.held, List.count_nil] at exchange
  simp only [places, atPc, List.count_append]
  omega

theorem accounted_sent {state : XmitState} {work : Work} {cnt : Nat} {skb : SkBuff}
    {stats : TxStats} {sendmsg : Int} (accounted : Accounted state)
    (holding : state.handler work = .holding cnt skb) (nonneg : 0 ≤ sendmsg) :
    Accounted (atPc { state with
      tdat := { state.tdat with stats := stats }
      freed := state.freed ++ if sendmsg = 0 then [skb.id] else []
      accepted := state.accepted ++ [(skb.id, sendmsg)] } work (afterSent cnt)) where
  policy := accounted.policy
  nodup := accounted.nodup
  balance := by
    intro id
    have balance := accounted.balance id
    have exchange := count_heldBy_update state.handler work (afterSent cnt) id
    rw [holding, afterSent_held] at exchange
    simp only [HandlerPc.held, List.count_nil] at exchange
    simp only [places, forgotten, atPc, List.count_append, List.filter_append,
      List.map_append] at balance ⊢
    by_cases empty : sendmsg = 0
    · simp only [empty, if_true, Int.lt_irrefl, decide_false, Bool.false_eq_true,
        not_false_eq_true, List.filter_cons_of_neg, List.filter_nil, List.map_nil,
        List.count_nil]
      omega
    · have positive : 0 < sendmsg := by omega
      simp only [empty, if_false, positive, decide_true, List.filter_cons_of_pos,
        List.filter_nil, List.map_cons, List.map_nil, List.count_nil]
      omega
  emptyFreed := by
    intro sent member
    rcases List.mem_append.mp member with before | now
    · exact (accounted.emptyFreed sent before).imp_right fun freed =>
        List.mem_append_left _ freed
    · obtain rfl := List.mem_singleton.mp now
      by_cases empty : sendmsg = 0
      · right
        simp [atPc, empty]
      · left
        simp only
        omega

/-- Every transition keeps the books balanced. -/
theorem accounted_of_moves {state next : XmitState} {label : Label}
    (accounted : Accounted state) (moves : Moves state label next) : Accounted next := by
  cases moves with
  | refused slot skb taken submission idle fresh buffers =>
      exact accounted_refused accounted fresh buffers
  | put slot skb packet taken freed submission idle fresh prepared =>
      exact accounted_put accounted fresh prepared
  | noMemory submission =>
      exact accounted
  | readFlag slot put =>
      exact accounted.of_same accounted.policy (fun _ => rfl) rfl rfl (fun _ => id)
  | queueXmit slot queueing =>
      exact accounted.of_same accounted.policy (fun _ => rfl) rfl rfl (fun _ => id)
  | start work idle queued =>
      exact accounted.of_same accounted.policy
        (places_atPc (by simp only [idle, HandlerPc.held])) rfl rfl (fun _ => id)
  | clearFlag work started =>
      exact accounted.of_same accounted.policy
        (places_atPc (by simp only [started, HandlerPc.held])) rfl rfl (fun _ => id)
  | dequeueNone work cnt looping empty =>
      exact accounted.of_same accounted.policy
        (places_atPc (by simp only [looping, HandlerPc.held])) rfl rfl (fun _ => id)
  | dequeueSome work cnt skb queue looping dequeued =>
      exact accounted_dequeue accounted looping dequeued
  | sendAgain work sendmsg cnt skb holding refused =>
      exact accounted.of_same accounted.policy
        (places_atPc (by simp only [holding, HandlerPc.held])) rfl rfl (fun _ => id)
  | sendFailed work sendmsg cnt skb holding refused =>
      exact accounted_sendFailed accounted holding
  | sent work sendmsg cnt skb holding nonneg called =>
      exact accounted_sent accounted holding nonneg
  | requeue work skb requeueing =>
      exact accounted_requeue accounted requeueing
  | queueNext work atEnd =>
      exact accounted.of_same accounted.policy
        (places_atPc (by simp only [atEnd, HandlerPc.held])) rfl rfl (fun _ => id)
  | setFlag work failed =>
      exact accounted.of_same accounted.policy
        (places_atPc (by simp only [failed, HandlerPc.held])) rfl rfl (fun _ => id)
  | queueDelayed work flagged =>
      exact accounted.of_same accounted.policy
        (places_atPc (by simp only [flagged, HandlerPc.held])) rfl rfl (fun _ => id)
  | connection members =>
      exact accounted.of_same accounted.policy (fun _ => rfl) rfl rfl (fun _ => id)
  | setPolicy policy =>
      exact accounted.of_same (validPolicy_tpqSetPolicy accounted.policy policy)
        (fun _ => by simp [places]) rfl rfl (fun _ => id)
  | setMaxlen maxlen =>
      exact accounted.of_same (validPolicy_tpqSetMaxlen accounted.policy maxlen)
        (fun _ => by simp [places]) rfl rfl (fun _ => id)

theorem accounted_initial (ipv6 ismpdccp : Bool) : Accounted (initial ipv6 ismpdccp) where
  policy := validPolicy_tpqInit TP_QUEUE_DROP_NEWEST 1000
  nodup := List.nodup_nil
  balance := by
    intro id
    simp [places, forgotten, initial, mpdccptunNew, heldBy, HandlerPc.held]
  emptyFreed := by
    intro sent member
    simp [initial] at member

theorem accounted_of_run {hz : Nat} {ipv6 ismpdccp : Bool} {labels : List Label}
    {state : XmitState}
    (ran : run (step hz) (initial ipv6 ismpdccp) labels = some state) :
    Accounted state :=
  invariant_of_run (fun accounted stepped => accounted_of_moves accounted (moves_of_step stepped))
    (accounted_initial ipv6 ismpdccp) ran

/-- With balanced books, the packets are conserved unless one was forgotten. -/
theorem Accounted.conserved_iff {state : XmitState} (accounted : Accounted state) :
    Conserved state ↔ forgotten state = [] := by
  constructor
  · rintro ⟨inOnePlace, -⟩
    refine List.eq_nil_iff_forall_not_mem.mpr fun id member => ?_
    have balance := accounted.balance id
    have lost : 0 < (forgotten state).count id := List.count_pos_iff.mpr member
    have bound : state.acquired.count id ≤ 1 := List.nodup_iff_count_le_one.mp accounted.nodup id
    have known : id ∈ state.acquired := List.count_pos_iff.mp (by omega)
    have one := inOnePlace id known
    omega
  · intro none
    have onePlace : ∀ id ∈ state.acquired, places state id = 1 := by
      intro id known
      have balance := accounted.balance id
      rw [none, List.count_nil, List.count_eq_one_of_mem accounted.nodup known] at balance
      exact balance
    refine ⟨onePlace, ?_⟩
    intro sent member
    have freed : sent.1 ∈ state.freed := by
      rcases accounted.emptyFreed sent member with positive | freed
      · have lost : sent.1 ∈ forgotten state :=
          List.mem_map.mpr ⟨sent, List.mem_filter.mpr ⟨member, by simpa using positive⟩, rfl⟩
        simp [none] at lost
      · exact freed
    have balance := accounted.balance sent.1
    have bound : state.acquired.count sent.1 ≤ 1 :=
      List.nodup_iff_count_le_one.mp accounted.nodup sent.1
    have counted : 0 < state.freed.count sent.1 := List.count_pos_iff.mpr freed
    simp only [places] at balance
    omega

/-- A transition forgets a packet exactly when it sends one. -/
theorem forgotten_eq_nil_iff_of_moves {state next : XmitState} {label : Label}
    (moves : Moves state label next) :
    forgotten next = [] ↔ forgotten state = [] ∧ SendsNothing state label := by
  cases moves with
  | refused slot skb taken submission idle fresh buffers =>
      cases label <;> simp_all [Label.IsSubmission, SendsNothing, forgotten]
  | put slot skb packet taken freed submission idle fresh prepared =>
      cases label <;> simp_all [Label.IsSubmission, SendsNothing, forgotten]
  | noMemory submission =>
      cases label <;> simp_all [Label.IsSubmission, SendsNothing, forgotten]
  | sendAgain work sendmsg cnt skb holding refused =>
      have harmless : SendsNothing state (.send work sendmsg) :=
        fun called => Int.le_of_lt (refused called)
      exact (and_iff_left harmless).symm
  | sendFailed work sendmsg cnt skb holding refused =>
      have harmless : SendsNothing state (.send work sendmsg) :=
        fun called => Int.le_of_lt (refused called)
      exact (and_iff_left harmless).symm
  | sent work sendmsg cnt skb holding nonneg called =>
      have harmlessIff : SendsNothing state (.send work sendmsg) ↔ ¬ 0 < sendmsg :=
        ⟨fun harmless => Int.not_lt.mpr (harmless called), fun zero _ => Int.not_lt.mp zero⟩
      rw [harmlessIff]
      by_cases positive : 0 < sendmsg <;>
        simp [forgotten, atPc, List.filter_append, positive]
  | _ =>
      exact (and_iff_left trivial).symm

theorem forgotten_eq_nil_iff_guarded {hz : Nat} {ipv6 ismpdccp : Bool}
    {labels : List Label} {state : XmitState}
    (ran : run (step hz) (initial ipv6 ismpdccp) labels = some state) :
    forgotten state = [] ↔
      Guarded (step hz) SendsNothing (initial ipv6 ismpdccp) labels := by
  induction labels using List.reverseRecOn generalizing state with
  | nil =>
      obtain rfl := Option.some.inj ran
      simp [forgotten, initial, Guarded]
  | append_singleton labels label ih =>
      obtain ⟨middle, before, stepped⟩ := run_append_singleton_eq_some_iff.mp ran
      rw [guarded_append_singleton_iff before, ← ih before]
      exact forgotten_eq_nil_iff_of_moves (moves_of_step stepped)

/-- At the end of a run every packet is in exactly one place or freed once, and
every packet sent is freed, exactly when no step of the run has sent a packet
with a positive byte count. -/
theorem conserved_iff_sendsNothing (hz : Nat) (ipv6 ismpdccp : Bool)
    (labels : List Label) (state : XmitState)
    (ran : run (step hz) (initial ipv6 ismpdccp) labels = some state) :
    Conserved state ↔
      Guarded (step hz) SendsNothing (initial ipv6 ismpdccp) labels := by
  rw [(accounted_of_run ran).conserved_iff, forgotten_eq_nil_iff_guarded ran]

/-- A tunnel that is connected as a client gets a four byte message to send, and
`kernel_sendmsg` returns `sendmsg` for it. -/
def sendMessage (sendmsg : Int) : List Label :=
  [.connection connectedClient,
    .mpdccptunXmit 0 (some (.buffer 0)) message 0 true,
    .readFlag 0, .queueXmit 0, .start .xmit, .clearFlag .xmit, .dequeue .xmit,
    .send .xmit sendmsg]

theorem conserved_refused_message :
    ∃ state, run (step 100) (initial false false) (sendMessage (-32)) = some state ∧
      Conserved state := by
  refine ⟨_, rfl, ?_⟩
  refine (conserved_iff_sendsNothing 100 false false (sendMessage (-32)) _ rfl).mpr ?_
  decide

/-- The handler run that sent the message is over, and nobody has it. -/
theorem not_conserved_sent_message :
    ∃ state, run (step 100) (initial false false)
        (sendMessage 4 ++ [.dequeue .xmit]) = some state ∧
      (∀ work, state.handler work = .idle) ∧
      BufId.buffer 0 ∈ state.acquired ∧ places state (.buffer 0) = 0 ∧
      ¬ Conserved state := by
  refine ⟨_, rfl, ?_, ?_, ?_, ?_⟩
  · intro work
    cases work <;> rfl
  · decide
  · decide
  · rintro ⟨inOnePlace, -⟩
    exact absurd (inOnePlace (.buffer 0) (by decide)) (by decide)

end Tunprox.TransmitOwnership
