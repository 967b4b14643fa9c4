import Mathlib.Data.List.Perm.Subperm
import Tunprox.TransmitAccount
import Tunprox.TransmitOrder

/-!
# The packets of a tunnel in a line

The packets that a tunnel still has to send, with what they contain: those that the handler
runs hold, and behind them those in the queue from the oldest to the newest.  A step of the
transmit system puts a packet at the end of the line, sends or drops one, or moves one between
the queue and a handler.
-/

namespace Tunprox.PacketLine

open Queue Transmit
open TransmitAccount (validPolicy_of_moves)

section Content

/-- All bytes of a packet. -/
def content (skb : SkBuff) : List UInt8 :=
  (List.range skb.headlen).map skb.byte ++ skb.frags

/-- What `do_xmit_skb` hands to the socket: `skb->len` bytes from `skb->data` on. -/
def sentBytes (skb : SkBuff) : List UInt8 :=
  (List.range skb.len).map skb.byte

/-- All bytes of the packet are in its linear area. -/
structure Linear (skb : SkBuff) : Prop where
  frags : skb.frags = []
  headlen : skb.headlen = skb.len

instance (skb : SkBuff) : Decidable (Linear skb) :=
  decidable_of_iff (skb.frags = [] ∧ skb.headlen = skb.len)
    ⟨fun ⟨frags, headlen⟩ => ⟨frags, headlen⟩, fun linear => ⟨linear.frags, linear.headlen⟩⟩

theorem Linear.sentBytes_eq {skb : SkBuff} (linear : Linear skb) :
    sentBytes skb = content skb := by
  rw [sentBytes, content, linear.frags, linear.headlen, List.append_nil]

/-- The packet that is put into the queue contains what the given one does. -/
theorem content_of_prepared {skb packet : SkBuff} {taken freed : List BufId}
    (prepared : Prepared skb packet taken freed) :
    content packet = content skb ∧ (Linear skb → Linear packet) := by
  cases prepared with
  | same => exact ⟨rfl, id⟩
  | copied headroom =>
      constructor
      · have bytes : (skb.reallocHeadroom headroom).byte = skb.byte :=
          funext (TransmitAccount.reallocHeadroom_byte skb headroom)
        rw [content, bytes]
        rfl
      · exact fun linear => ⟨linear.frags, linear.headlen⟩

theorem byte_devAllocSkb {id : BufId} {room : Nat} {data : List UInt8}
    (fits : data.length < 2 ^ 32) (index : Nat) :
    (devAllocSkb id room data fits).byte index = data.getD index 0 := by
  have behind : ¬ room + index < room := by omega
  simp only [SkBuff.byte, devAllocSkb, behind, if_false, Nat.add_sub_cancel_left]

theorem linear_devAllocSkb {id : BufId} {room : Nat} {data : List UInt8}
    (fits : data.length < 2 ^ 32) : Linear (devAllocSkb id room data fits) :=
  ⟨rfl, rfl⟩

theorem content_devAllocSkb {id : BufId} {room : Nat} {data : List UInt8}
    (fits : data.length < 2 ^ 32) : content (devAllocSkb id room data fits) = data := by
  have bytes : (devAllocSkb id room data fits).byte = fun index => data.getD index 0 :=
    funext (byte_devAllocSkb fits)
  rw [content, bytes]
  apply List.ext_getElem
  · simp [devAllocSkb]
  · intro index inside _
    simp_all [devAllocSkb]

end Content

section Line

/-- The packet that a handler run holds. -/
def carried : HandlerPc → List SkBuff
  | .holding _ skb | .requeueing skb => [skb]
  | _ => []

/-- The packets that are still to be sent. -/
def senderLine (state : XmitState) : List SkBuff :=
  carried (state.handler .xmit) ++ carried (state.handler .delayed) ++
    state.tdat.xmitQueue.queue.reverse

/-- What the tunnel takes of its caller.  A packet that is answered with `NETDEV_TX_BUSY` stays
with the caller. -/
def taken (hz : Nat) (state : XmitState) : Label → List (List UInt8)
  | .ldtMpdccptunXmit _ skb jiffies realloc =>
      if (mpdccptunDoEnqueue hz state.tdat skb jiffies realloc).ret = -Errno.EAGAIN then []
      else [content skb]
  | .mpdccptunXmit _ (some _) data _ _ => [data.1]
  | _ => []

/-- What the socket accepts in a step. -/
def sends (state : XmitState) : Label → List (List UInt8)
  | .send work sendmsg =>
      if sendmsgCalled state.tdat = true ∧ 0 ≤ sendmsg then
        (carried (state.handler work)).map sentBytes
      else []
  | _ => []

/-- The network stack gives linear packets to a device that does not have `NETIF_F_SG`. -/
def GivesLinear : Label → Prop
  | .ldtMpdccptunXmit _ skb _ _ => Linear skb
  | _ => True

instance : (label : Label) → Decidable (GivesLinear label)
  | .ldtMpdccptunXmit _ skb _ _ => inferInstanceAs (Decidable (Linear skb))
  | .mpdccptunXmit .. | .readFlag _ | .queueXmit _ | .start _ | .clearFlag _ | .dequeue _
  | .send .. | .requeue _ | .queueNext _ | .setFlag _ | .queueDelayed _ | .connection _
  | .setPolicy _ | .setMaxlen _ => inferInstanceAs (Decidable True)

/-- What a step can do to the line, with what is taken and what is sent in it. -/
inductive LineMoves (state : XmitState) :
    List (List UInt8) → List (List UInt8) → XmitState → Prop
  | keeps {given : List (List UInt8)} {next : XmitState}
      (queueEq : next.tdat.xmitQueue.queue = state.tdat.xmitQueue.queue)
      (carriedEq : ∀ work, carried (next.handler work) = carried (state.handler work)) :
      LineMoves state given [] next
  | put {next : XmitState} (packet : SkBuff) (linear : Linear packet)
      (queueEq : next.tdat.xmitQueue = (tpqEnqueue state.tdat.xmitQueue packet).1)
      (carriedEq : ∀ work, carried (next.handler work) = carried (state.handler work)) :
      LineMoves state [content packet] [] next
  | dequeue {next : XmitState} (work : Work) (pc : HandlerPc) (rest : List SkBuff) (skb : SkBuff)
      (queueEq : state.tdat.xmitQueue.queue = rest ++ [skb])
      (nextQueueEq : next.tdat.xmitQueue.queue = rest)
      (empty : carried (state.handler work) = []) (holds : carried pc = [skb])
      (handlerEq : next.handler = Function.update state.handler work pc) :
      LineMoves state [] [] next
  | drop {next : XmitState} (work : Work) (pc : HandlerPc) (skb : SkBuff)
      (sent : List (List UInt8)) (bytes : sent = [] ∨ sent = [sentBytes skb])
      (queueEq : next.tdat.xmitQueue.queue = state.tdat.xmitQueue.queue)
      (holds : carried (state.handler work) = [skb]) (empty : carried pc = [])
      (handlerEq : next.handler = Function.update state.handler work pc) :
      LineMoves state [] sent next
  | requeue {next : XmitState} (work : Work) (pc : HandlerPc) (skb : SkBuff)
      (queueEq : next.tdat.xmitQueue.queue = state.tdat.xmitQueue.queue ++ [skb])
      (holds : carried (state.handler work) = [skb]) (empty : carried pc = [])
      (handlerEq : next.handler = Function.update state.handler work pc) :
      LineMoves state [] [] next

/-- A handler that moves without packets. -/
theorem lineMoves_atPc {state changed : XmitState} {work : Work} {pc : HandlerPc}
    (queueEq : changed.tdat.xmitQueue.queue = state.tdat.xmitQueue.queue)
    (handlerEq : changed.handler = state.handler)
    (same : carried pc = carried (state.handler work)) :
    LineMoves state [] [] (atPc changed work pc) := by
  refine .keeps queueEq ?_
  intro other
  simp only [atPc, handlerEq]
  by_cases eq : other = work
  · rw [eq, Function.update_self, same]
  · rw [Function.update_of_ne eq]

/-- What a submitter does with a packet that contains `bytes`, if these are all that is taken
of the caller unless the queue is full. -/
theorem lineMoves_submitted {state : XmitState} {slot : Nat} {skb : SkBuff}
    {given : List BufId} {outcome : EnqueueOutcome} {all : List (List UInt8)}
    (linear : Linear skb) (enqueued : Enqueued state.tdat skb outcome)
    (allEq : outcome.ret ≠ -Errno.EAGAIN → all = [content skb]) (freed : List BufId) :
    LineMoves state all [] (submitted state slot given { outcome with freed := freed }) := by
  cases enqueued with
  | again => exact .keeps rfl fun _ => rfl
  | dropped ret allocated notAgain packet => exact .keeps rfl fun _ => rfl
  | put packet allocated dropped prepared =>
      obtain ⟨same, keepsLinear⟩ := content_of_prepared prepared
      rw [allEq (show (0 : Int) ≠ -Errno.EAGAIN by decide), ← same]
      exact .put packet (keepsLinear linear) rfl fun _ => rfl

theorem carried_afterSent (cnt : Nat) : carried (afterSent cnt) = [] := by
  unfold afterSent
  split <;> rfl

/-- The steps that are no submissions. -/
theorem lineMoves_of_moves {state next : XmitState} {label : Label}
    (valid : ValidPolicy state.tdat.xmitQueue) (other : ¬ label.IsSubmission)
    (moves : Moves state label next) : LineMoves state [] (sends state label) next := by
  cases moves with
  | refused slot skb taken submission | put slot skb packet taken freed submission
  | noMemory submission =>
      exact absurd submission other
  | readFlag slot put | queueXmit slot queueing | connection members =>
      exact .keeps rfl fun _ => rfl
  | start work idle queued =>
      exact lineMoves_atPc rfl rfl (by rw [idle]; rfl)
  | clearFlag work started =>
      exact lineMoves_atPc rfl rfl (by rw [started]; rfl)
  | dequeueNone work cnt looping empty =>
      exact lineMoves_atPc rfl rfl (by rw [looping]; rfl)
  | dequeueSome work cnt skb queue looping dequeued =>
      rcases tpqDequeue_cases valid with ⟨-, eq⟩ | ⟨rest, last, split, eq⟩
      · rw [eq] at dequeued
        cases dequeued
      · rw [eq] at dequeued
        cases dequeued
        exact .dequeue work _ rest skb split rfl (by rw [looping]; rfl) rfl rfl
  | sendAgain work sendmsg cnt skb holding refused =>
      have nothing : sends state (.send work sendmsg) = [] :=
        if_neg fun accepted => Int.not_le.mpr (refused accepted.1) accepted.2
      rw [nothing]
      exact lineMoves_atPc rfl rfl (by rw [holding]; rfl)
  | sendFailed work sendmsg cnt skb holding refused =>
      have nothing : sends state (.send work sendmsg) = [] :=
        if_neg fun accepted => Int.not_le.mpr (refused accepted.1) accepted.2
      exact .drop work .setFlag skb _ (.inl nothing) rfl (by rw [holding]; rfl) rfl rfl
  | sent work sendmsg cnt skb holding nonneg called =>
      have all : sends state (.send work sendmsg) = [sentBytes skb] := by
        rw [sends, if_pos ⟨called, nonneg⟩, holding]
        rfl
      exact .drop work (afterSent cnt) skb _ (.inr all) rfl (by rw [holding]; rfl)
        (carried_afterSent cnt) rfl
  | requeue work skb requeueing =>
      refine .requeue work .setFlag skb ?_ (by rw [requeueing]; rfl) rfl rfl
      simp only [atPc, tpqRequeue_eq valid, tpqInfRequeue]
  | queueNext work atEnd =>
      exact lineMoves_atPc rfl rfl (by rw [atEnd]; rfl)
  | setFlag work failed =>
      exact lineMoves_atPc rfl rfl (by rw [failed]; rfl)
  | queueDelayed work flagged =>
      exact lineMoves_atPc rfl rfl (by rw [flagged]; rfl)
  | setPolicy policy =>
      exact .keeps (tpqSetPolicy_queue _ policy) fun _ => rfl
  | setMaxlen maxlen =>
      exact .keeps (tpqSetMaxlen_queue _ maxlen) fun _ => rfl

/-- Every step of the transmit system is a move of the line. -/
theorem lineMoves_of_step {hz : Nat} {state next : XmitState} {label : Label}
    (valid : ValidPolicy state.tdat.xmitQueue) (linear : GivesLinear label)
    (stepped : step hz state label = some next) :
    LineMoves state (taken hz state label) (sends state label) next := by
  cases label with
  | ldtMpdccptunXmit slot skb jiffies realloc =>
      simp only [step, stepLdtMpdccptunXmit, Option.ite_none_right_eq_some,
        Option.some.injEq] at stepped
      obtain ⟨-, rfl⟩ := stepped
      exact lineMoves_submitted linear
        (enqueued_mpdccptunDoEnqueue hz state.tdat skb jiffies realloc) (fun notAgain =>
          if_neg notAgain) _
  | mpdccptunXmit slot alloc data jiffies realloc =>
      cases alloc with
      | none =>
          cases stepped
          exact .keeps rfl fun _ => rfl
      | some id =>
          simp only [step, stepMpdccptunXmit, Option.ite_none_right_eq_some,
            Option.some.injEq] at stepped
          obtain ⟨-, rfl⟩ := stepped
          exact lineMoves_submitted (linear_devAllocSkb data.2)
            (enqueued_mpdccptunDoEnqueue hz state.tdat _ jiffies realloc) (fun _ => by
              rw [content_devAllocSkb]
              rfl) _
  | _ => exact lineMoves_of_moves valid id (moves_of_step stepped)

end Line

section Conserved

variable {state next : XmitState} {given sent : List (List UInt8)}

/-- What the packets in the line contain. -/
def lineContents (state : XmitState) : List (List UInt8) :=
  (senderLine state).map content

/-- The queue is one of the table's, and all packets in the line are linear. -/
structure LineLinear (state : XmitState) : Prop where
  policy : ValidPolicy state.tdat.xmitQueue
  linear : ∀ skb ∈ senderLine state, Linear skb

theorem mem_senderLine {skb : SkBuff} :
    skb ∈ senderLine state ↔
      (∃ work, skb ∈ carried (state.handler work)) ∨ skb ∈ state.tdat.xmitQueue.queue := by
  simp only [senderLine, List.mem_append, List.mem_reverse]
  constructor
  · rintro ((xmit | delayed) | queued)
    · exact .inl ⟨.xmit, xmit⟩
    · exact .inl ⟨.delayed, delayed⟩
    · exact .inr queued
  · rintro (⟨work, held⟩ | queued)
    · cases work with
      | xmit => exact .inl (.inl held)
      | delayed => exact .inl (.inr held)
    · exact .inr queued

theorem carried_subset_of_update {work other : Work} {pc : HandlerPc}
    (handlerEq : next.handler = Function.update state.handler work pc) {skb : SkBuff}
    (held : skb ∈ carried (next.handler other)) :
    skb ∈ carried pc ∨ skb ∈ carried (state.handler other) := by
  rw [handlerEq] at held
  by_cases eq : other = work
  · rw [eq, Function.update_self] at held
    exact .inl held
  · rw [Function.update_of_ne eq] at held
    exact .inr held

theorem mem_of_mem_tpqEnqueue {queue : TpQueue SkBuff} (valid : ValidPolicy queue)
    {packet skb : SkBuff} (member : skb ∈ (tpqEnqueue queue packet).1.queue) :
    skb = packet ∨ skb ∈ queue.queue := by
  rcases tpqEnqueue_cases valid packet with eq | ⟨rest, oldest, split, eq⟩ | eq
  · rw [eq] at member
    exact List.mem_cons.mp member
  · rw [eq] at member
    rw [split]
    exact (List.mem_cons.mp member).imp_right fun before => List.mem_append_left _ before
  · rw [eq] at member
    exact .inr member

/-- A step puts no other packet into the line than the one that is given. -/
theorem LineMoves.mem_line (valid : ValidPolicy state.tdat.xmitQueue)
    (moves : LineMoves state given sent next) {skb : SkBuff} (member : skb ∈ senderLine next) :
    skb ∈ senderLine state ∨ Linear skb := by
  rw [mem_senderLine] at member ⊢
  cases moves with
  | keeps queueEq carriedEq =>
      simp only [queueEq, carriedEq] at member
      exact .inl member
  | put packet linear queueEq carriedEq =>
      simp only [queueEq, carriedEq] at member
      rcases member with held | queued
      · exact .inl (.inl held)
      · rcases mem_of_mem_tpqEnqueue valid queued with here | before
        · rw [here]
          exact .inr linear
        · exact .inl (.inr before)
  | dequeue work pc rest last queueEq nextQueueEq empty holds handlerEq =>
      rcases member with ⟨other, held⟩ | queued
      · rcases carried_subset_of_update handlerEq held with here | before
        · rw [holds] at here
          exact .inl (.inr (by rw [queueEq]; exact List.mem_append_right _ here))
        · exact .inl (.inl ⟨other, before⟩)
      · rw [nextQueueEq] at queued
        exact .inl (.inr (by rw [queueEq]; exact List.mem_append_left _ queued))
  | drop work pc last sent bytes queueEq holds empty handlerEq =>
      rcases member with ⟨other, held⟩ | queued
      · rcases carried_subset_of_update handlerEq held with here | before
        · rw [empty] at here
          cases here
        · exact .inl (.inl ⟨other, before⟩)
      · rw [queueEq] at queued
        exact .inl (.inr queued)
  | requeue work pc last queueEq holds empty handlerEq =>
      rcases member with ⟨other, held⟩ | queued
      · rcases carried_subset_of_update handlerEq held with here | before
        · rw [empty] at here
          cases here
        · exact .inl (.inl ⟨other, before⟩)
      · rw [queueEq, List.mem_append] at queued
        rcases queued with before | here
        · exact .inl (.inr before)
        · exact .inl (.inl ⟨work, by rw [holds]; exact here⟩)

theorem lineLinear_of_step {hz : Nat} {label : Label} (line : LineLinear state)
    (linear : GivesLinear label) (stepped : step hz state label = some next) :
    LineLinear next where
  policy := validPolicy_of_moves line.policy (moves_of_step stepped)
  linear := by
    intro skb member
    rcases (lineMoves_of_step line.policy linear stepped).mem_line line.policy member with
      before | here
    · exact line.linear skb before
    · exact here

/-- Moving a handler run exchanges the contents it held for those it holds now. -/
theorem count_lineContents_update (handler : Work → HandlerPc) (work : Work) (pc : HandlerPc)
    (bytes : List UInt8) :
    ((carried (Function.update handler work pc .xmit)).map content).count bytes +
        ((carried (Function.update handler work pc .delayed)).map content).count bytes +
        ((carried (handler work)).map content).count bytes =
      ((carried (handler .xmit)).map content).count bytes +
        ((carried (handler .delayed)).map content).count bytes +
        ((carried pc).map content).count bytes := by
  cases work with
  | xmit =>
      simp only [Function.update_self, ne_eq, reduceCtorEq, not_false_eq_true,
        Function.update_of_ne]
      omega
  | delayed =>
      simp only [Function.update_self, ne_eq, reduceCtorEq, not_false_eq_true,
        Function.update_of_ne]
      omega

theorem count_lineContents (state : XmitState) (bytes : List UInt8) :
    (lineContents state).count bytes =
      ((carried (state.handler .xmit)).map content).count bytes +
        ((carried (state.handler .delayed)).map content).count bytes +
        (state.tdat.xmitQueue.queue.map content).count bytes := by
  simp only [lineContents, senderLine, List.map_append, List.map_reverse, List.count_append,
    List.count_reverse]

theorem count_tpqEnqueue_le {queue : TpQueue SkBuff} (valid : ValidPolicy queue)
    (packet : SkBuff) (bytes : List UInt8) :
    ((tpqEnqueue queue packet).1.queue.map content).count bytes ≤
      (queue.queue.map content).count bytes + [content packet].count bytes := by
  rcases tpqEnqueue_cases valid packet with eq | ⟨rest, oldest, split, eq⟩ | eq
  · rw [eq, List.map_cons, List.count_cons, List.count_singleton]
  · rw [eq, split, List.map_cons, List.map_append, List.count_cons, List.count_append,
      List.count_singleton]
    omega
  · rw [eq]
    exact Nat.le_add_right _ _

/-- No step sends or keeps a packet more often than it was in the line or given. -/
theorem LineMoves.count_le (line : LineLinear state) (moves : LineMoves state given sent next)
    (bytes : List UInt8) :
    sent.count bytes + (lineContents next).count bytes ≤
      (lineContents state).count bytes + given.count bytes := by
  rw [count_lineContents, count_lineContents]
  cases moves with
  | keeps queueEq carriedEq =>
      simp only [queueEq, carriedEq, List.count_nil]
      omega
  | put packet linear queueEq carriedEq =>
      have enqueued := count_tpqEnqueue_le line.policy packet bytes
      simp only [queueEq, carriedEq, List.count_nil]
      omega
  | dequeue work pc rest skb queueEq nextQueueEq empty holds handlerEq =>
      have exchange := count_lineContents_update state.handler work pc bytes
      rw [empty, holds] at exchange
      simp only [handlerEq, queueEq, nextQueueEq, List.map_append, List.count_append,
        List.map_nil, List.count_nil] at exchange ⊢
      omega
  | drop work pc skb sent sentEq queueEq holds empty handlerEq =>
      have exchange := count_lineContents_update state.handler work pc bytes
      have member : skb ∈ senderLine state :=
        mem_senderLine.mpr (.inl ⟨work, by rw [holds]; exact List.mem_singleton_self skb⟩)
      have same := (line.linear skb member).sentBytes_eq
      have atMost : sent.count bytes ≤ [content skb].count bytes := by
        rcases sentEq with rfl | rfl
        · exact Nat.zero_le _
        · rw [same]
      rw [empty, holds] at exchange
      simp only [handlerEq, queueEq, List.map_cons, List.map_nil, List.count_nil] at exchange ⊢
      omega
  | requeue work pc skb queueEq holds empty handlerEq =>
      have exchange := count_lineContents_update state.handler work pc bytes
      rw [empty, holds] at exchange
      simp only [handlerEq, queueEq, List.map_append, List.count_append, List.map_nil,
        List.count_nil] at exchange ⊢
      omega

end Conserved

section Order

variable {state next : XmitState} {given sent : List (List UInt8)}

/-- At most one handler run holds a packet. -/
def Alone (state : XmitState) : Prop :=
  ∀ work, carried (state.handler work) = [] ∨ carried (state.handler work.other) = []

theorem map_id_carried (pc : HandlerPc) : (carried pc).map SkBuff.id = pc.held := by
  cases pc <;> rfl

theorem carried_eq_nil_iff (pc : HandlerPc) : carried pc = [] ↔ pc.held = [] := by
  rw [← map_id_carried, List.map_eq_nil_iff]

theorem senderLine_of_other_nil {work : Work}
    (other : carried (state.handler work.other) = []) :
    senderLine state =
      carried (state.handler work) ++ state.tdat.xmitQueue.queue.reverse := by
  cases work with
  | xmit =>
      have delayed : carried (state.handler .delayed) = [] := other
      rw [senderLine, delayed, List.append_nil]
  | delayed =>
      have xmit : carried (state.handler .xmit) = [] := other
      rw [senderLine, xmit, List.nil_append]

theorem carried_update_other {handler : Work → HandlerPc} {work : Work} {pc : HandlerPc} :
    carried (Function.update handler work pc work.other) = carried (handler work.other) := by
  cases work <;> rfl

/-- A handler that holds a packet is the only one. -/
theorem Alone.other_nil (alone : Alone state) {work : Work} {skb : SkBuff}
    (holds : carried (state.handler work) = [skb]) :
    carried (state.handler work.other) = [] := by
  rcases alone work with nothing | other
  · rw [holds] at nothing
    cases nothing
  · exact other

theorem alone_of_ordered (ordered : TransmitOrder.Ordered state) : Alone state := by
  intro work
  rw [carried_eq_nil_iff, carried_eq_nil_iff]
  exact ordered.alone work

/-- As long as only one handler holds a packet, the packets that are sent and those that stay
in the line come in the order in which they were given. -/
theorem LineMoves.sublist (line : LineLinear state) (alone : Alone state)
    (aloneNext : Alone next) (moves : LineMoves state given sent next) :
    (sent ++ lineContents next).Sublist (lineContents state ++ given) := by
  rw [lineContents, lineContents]
  cases moves with
  | keeps queueEq carriedEq =>
      have same : senderLine next = senderLine state := by
        rw [senderLine, senderLine, queueEq, carriedEq, carriedEq]
      rw [same]
      exact List.sublist_append_left _ _
  | put packet linear queueEq carriedEq =>
      have kept : (senderLine next).Sublist (senderLine state ++ [packet]) := by
        rw [senderLine, senderLine, queueEq, carriedEq, carriedEq, List.append_assoc _ _ [packet]]
        apply (List.Sublist.refl _).append
        rw [← List.reverse_cons]
        apply List.Sublist.reverse
        rcases tpqEnqueue_cases line.policy packet with eq | ⟨rest, oldest, split, eq⟩ | eq
        · rw [eq]
        · rw [eq, split]
          exact (List.sublist_append_left rest [oldest]).cons_cons packet
        · rw [eq]
          exact List.sublist_cons_self packet _
      simpa using kept.map content
  | dequeue work pc rest skb queueEq nextQueueEq empty holds handlerEq =>
      have holdsNext : carried (next.handler work) = [skb] := by
        rw [handlerEq, Function.update_self, holds]
      have otherNext := aloneNext.other_nil holdsNext
      have other : carried (state.handler work.other) = [] := by
        rw [handlerEq, carried_update_other] at otherNext
        exact otherNext
      rw [senderLine_of_other_nil other, senderLine_of_other_nil otherNext, empty, holdsNext,
        queueEq, nextQueueEq]
      simp
  | drop work pc skb sent sentEq queueEq holds empty handlerEq =>
      have other := alone.other_nil holds
      have otherNext : carried (next.handler work.other) = [] := by
        rw [handlerEq, carried_update_other, other]
      have emptyNext : carried (next.handler work) = [] := by
        rw [handlerEq, Function.update_self, empty]
      have member : skb ∈ senderLine state :=
        mem_senderLine.mpr (.inl ⟨work, by rw [holds]; exact List.mem_singleton_self skb⟩)
      have atMost : sent.Sublist [content skb] := by
        rcases sentEq with rfl | rfl
        · exact List.nil_sublist _
        · rw [(line.linear skb member).sentBytes_eq]
      rw [senderLine_of_other_nil other, senderLine_of_other_nil otherNext, emptyNext, holds,
        queueEq, List.append_nil, List.nil_append, List.map_append]
      exact atMost.append (List.Sublist.refl _)
  | requeue work pc skb queueEq holds empty handlerEq =>
      have other := alone.other_nil holds
      have otherNext : carried (next.handler work.other) = [] := by
        rw [handlerEq, carried_update_other, other]
      have emptyNext : carried (next.handler work) = [] := by
        rw [handlerEq, Function.update_self, empty]
      rw [senderLine_of_other_nil other, senderLine_of_other_nil otherNext, emptyNext, holds,
        queueEq]
      simp

end Order

end Tunprox.PacketLine
