import Tunprox.QueueHistory
import Tunprox.Transmit

/-!
# The account of transmitted packets

A packet that `ldt_mpdccptun_xmit` answers with `NETDEV_TX_OK` belongs to the tunnel.  It is in
the queue or with a handler run until it is sent or dropped, and the counters of the device are
to say which of the two.  They are changed in `mpdccptun_elab_xmit2` only: a packet that is
discarded earlier is not counted, and one that is put back into the queue is counted as dropped
each time.
-/

namespace Tunprox.TransmitAccount

open Errno Queue Transmit LabelledRun

/-- `netdev_tx_t` -/
inductive NetdevTx where
  | ok
  | busy
  deriving DecidableEq, Repr

/-- The answer of `ldt_mpdccptun_xmit`, which is settled when `mpdccptun_do_enqueue` is through
with the packet. -/
def ldtMpdccptunXmit (hz : Nat) (tdat : Mpdccptun) (skb : SkBuff) (jiffies : Nat)
    (realloc : Bool) : NetdevTx :=
  if (mpdccptunDoEnqueue hz tdat skb jiffies realloc).ret = -EAGAIN then .busy else .ok

/-- The state, and the number of packets answered with `NETDEV_TX_OK`. -/
structure Book where
  state : XmitState
  answered : Nat

/-- How many packets a step answers with `NETDEV_TX_OK`. -/
def answers (hz : Nat) (state : XmitState) : Label → Nat
  | .ldtMpdccptunXmit _ skb jiffies realloc =>
      if ldtMpdccptunXmit hz state.tdat skb jiffies realloc = .ok then 1 else 0
  | _ => 0

/-- A message that the tunnel makes itself. -/
def IsOwnMessage : Label → Prop
  | .mpdccptunXmit .. => True
  | _ => False

instance : (label : Label) → Decidable (IsOwnMessage label)
  | .mpdccptunXmit .. => inferInstanceAs (Decidable True)
  | .ldtMpdccptunXmit .. | .readFlag _ | .queueXmit _ | .start _ | .clearFlag _ | .dequeue _
  | .send .. | .requeue _ | .queueNext _ | .setFlag _ | .queueDelayed _ | .connection _
  | .setPolicy _ | .setMaxlen _ =>
      inferInstanceAs (Decidable False)

/-- The steps of the packets given to `ldt_mpdccptun_xmit` and of the handler runs, while the
connection and the settings of the queue change.  The messages of the tunnel itself are none of
these packets. -/
def step (hz : Nat) (book : Book) (label : Label) : Option Book :=
  if IsOwnMessage label then none
  else
    (Transmit.step hz book.state label).map fun next =>
      { state := next, answered := book.answered + answers hz book.state label }

/-- The packets that are counted, in the queue, or with a handler run. -/
def accountedFor (state : XmitState) : Nat :=
  state.tdat.stats.txPackets + state.tdat.stats.txDropped + state.tdat.xmitQueue.queue.length +
    (heldBy state.handler).length

/-- Each packet answered with `NETDEV_TX_OK` is in the queue or with a handler run, or has been
counted once as sent or dropped since `start`. -/
def Accounts (start : XmitState) (book : Book) : Prop :=
  (book.answered : Int) =
    (book.state.tdat.stats.txPackets - start.tdat.stats.txPackets) +
      (book.state.tdat.stats.txDropped - start.tdat.stats.txDropped) +
        book.state.tdat.xmitQueue.queue.length + (heldBy book.state.handler).length

instance (start : XmitState) (book : Book) : Decidable (Accounts start book) :=
  inferInstanceAs (Decidable (_ = _))

/-- A tunnel in which no packet is on its way, with any counters and settings. -/
structure Opened (state : XmitState) : Prop where
  policy : ValidPolicy state.tdat.xmitQueue
  queue : state.tdat.xmitQueue.queue = []
  held : heldBy state.handler = []

/-- The account is right after every step. -/
def AccountsAlways (hz : Nat) (start : XmitState) (labels : List Label) : Prop :=
  ∀ earlier, earlier <+: labels → ∀ book, run (step hz) ⟨start, 0⟩ earlier = some book →
    Accounts start book

/-- The packet is not to be forwarded any more. -/
def TtlExpired (skb : SkBuff) : Prop :=
  tpGetpkttype (skb.byte 0) = 4 ∧ skb.byte 8 ≤ 1 ∨
    tpGetpkttype (skb.byte 0) = 6 ∧ skb.byte 7 ≤ 1

/-- An enqueue discards a packet. -/
def Discards (queue : TpQueue SkBuff) : Prop :=
  tpqLimitIsfull queue = true ∧
    (queue.policy = TP_QUEUE_DROP_NEWEST ∨
      queue.policy = TP_QUEUE_DROP_OLDEST ∧ queue.queue ≠ [])

/-- The packet stays with the caller because the tunnel is busy, or nothing is discarded for
it. -/
def Keeps (hz : Nat) (tdat : Mpdccptun) (skb : SkBuff) (jiffies : Nat) (realloc : Bool) : Prop :=
  mpdccptunCheckEnqueue hz tdat skb jiffies = -EAGAIN ∨
    0 ≤ mpdccptunCheckEnqueue hz tdat skb jiffies ∧
      (tpHdrlen tdat.ipv6 ≤ skb.headroom ∨ realloc = true) ∧ ¬ TtlExpired skb ∧
        ¬ Discards tdat.xmitQueue

instance (skb : SkBuff) : Decidable (TtlExpired skb) :=
  inferInstanceAs (Decidable (_ ∨ _))

instance (queue : TpQueue SkBuff) : Decidable (Discards queue) :=
  inferInstanceAs (Decidable (_ ∧ _))

instance (hz : Nat) (tdat : Mpdccptun) (skb : SkBuff) (jiffies : Nat) (realloc : Bool) :
    Decidable (Keeps hz tdat skb jiffies realloc) :=
  inferInstanceAs (Decidable (_ ∨ _))

/-- A step does not discard a packet before `mpdccptun_elab_xmit2` can count it, and does not
count one that is put back into the queue. -/
def KeepsAccount (hz : Nat) (book : Book) : Label → Prop
  | .ldtMpdccptunXmit _ skb jiffies realloc =>
      Keeps hz book.state.tdat skb jiffies realloc
  | .send _ sendmsg => ¬ (sendmsgCalled book.state.tdat = true ∧ sendmsg = -EAGAIN)
  | _ => True

instance (hz : Nat) (book : Book) : (label : Label) → Decidable (KeepsAccount hz book label)
  | .ldtMpdccptunXmit _ skb jiffies realloc =>
      inferInstanceAs (Decidable (Keeps hz book.state.tdat skb jiffies realloc))
  | .send _ sendmsg =>
      inferInstanceAs (Decidable
        (¬ (sendmsgCalled book.state.tdat = true ∧ sendmsg = -EAGAIN)))
  | .mpdccptunXmit .. | .readFlag _ | .queueXmit _ | .start _ | .clearFlag _ | .dequeue _
  | .requeue _ | .queueNext _ | .setFlag _ | .queueDelayed _ | .connection _ | .setPolicy _
  | .setMaxlen _ =>
      inferInstanceAs (Decidable True)

@[simp]
theorem reallocHeadroom_byte (skb : SkBuff) (room index : Nat) :
    (skb.reallocHeadroom room).byte index = skb.byte index := by
  have behind : ¬ room + index < room := by omega
  simp [SkBuff.byte, SkBuff.reallocHeadroom, behind]

theorem mpdccptunPrepareSkb_expired (skb : SkBuff) :
    (mpdccptunPrepareSkb skb).2 = true ↔ TtlExpired skb := by
  unfold mpdccptunPrepareSkb TtlExpired
  split
  · rename_i four
    simp [four]
  · rename_i six
    simp [six]
  · rename_i notFour notSix
    constructor
    · intro expired
      contradiction
    · rintro (⟨four, -⟩ | ⟨six, -⟩)
      · exact absurd four notFour
      · exact absurd six notSix

/-- The queue grows by the packet unless one is discarded. -/
theorem length_tpqEnqueue {queue : TpQueue SkBuff} (valid : ValidPolicy queue) (packet : SkBuff) :
    (tpqEnqueue queue packet).1.queue.length =
      queue.queue.length + if Discards queue then 0 else 1 := by
  obtain ⟨lower, upper⟩ := valid
  unfold TP_QUEUE_MAX at upper
  have choices : queue.policy = TP_QUEUE_INF ∨ queue.policy = TP_QUEUE_LIMIT ∨
      queue.policy = TP_QUEUE_DROP_OLDEST ∨ queue.policy = TP_QUEUE_DROP_NEWEST := by
    unfold TP_QUEUE_INF TP_QUEUE_LIMIT TP_QUEUE_DROP_OLDEST TP_QUEUE_DROP_NEWEST
    omega
  rcases choices with policy | policy | policy | policy
  · have kept : ¬ Discards queue := by
      simp [Discards, policy, TP_QUEUE_INF, TP_QUEUE_DROP_NEWEST, TP_QUEUE_DROP_OLDEST]
    rw [if_neg kept, tpqEnqueue, policy]
    rfl
  · have kept : ¬ Discards queue := by
      simp [Discards, policy, TP_QUEUE_LIMIT, TP_QUEUE_DROP_NEWEST, TP_QUEUE_DROP_OLDEST]
    rw [if_neg kept, tpqEnqueue, policy]
    rfl
  · have other : TP_QUEUE_DROP_OLDEST ≠ TP_QUEUE_DROP_NEWEST := by decide
    rw [QueueHistory.tpqEnqueue_of_dropOldest packet policy, tpqDropOldestEnqueue]
    split
    · rename_i full
      rcases tpqInfDequeue_cases queue with ⟨empty, nothing⟩ | ⟨rest, oldest, stored, taken⟩
      · rw [nothing]
        simp [Discards, policy, other, empty, tpqInfEnqueue]
      · rw [taken]
        simp [Discards, policy, stored, full, tpqInfEnqueue]
    · rename_i notFull
      simp [Discards, notFull, tpqInfEnqueue]
  · rw [QueueHistory.tpqEnqueue_of_dropNewest packet policy, tpqDropNewestEnqueue]
    split
    · rename_i full
      simp [Discards, policy, full]
    · rename_i notFull
      simp [Discards, notFull, tpqInfEnqueue]

/-- What the last part of `mpdccptun_do_enqueue` adds to the queue. -/
theorem length_enqueuePrepared {tdat : Mpdccptun} (valid : ValidPolicy tdat.xmitQueue)
    (packet : SkBuff) (allocated freed : List BufId) :
    (enqueuePrepared tdat packet allocated freed).tdat.xmitQueue.queue.length =
      tdat.xmitQueue.queue.length +
        if ¬ TtlExpired packet ∧ ¬ Discards tdat.xmitQueue then 1 else 0 := by
  have expiredIff := mpdccptunPrepareSkb_expired packet
  have retEq := mpdccptunPrepareSkb_ret packet
  unfold enqueuePrepared
  rcases outcome : mpdccptunPrepareSkb packet with ⟨ret, expired⟩
  rw [outcome] at expiredIff retEq
  simp only at expiredIff retEq
  subst retEq
  simp only [Int.lt_irrefl, if_false]
  by_cases late : TtlExpired packet
  · simp [expiredIff.mpr late, late]
  · have inTime : ¬ expired = true := fun set => late (expiredIff.mp set)
    simp only [inTime, Bool.false_eq_true, if_false, late, not_false_eq_true, true_and]
    rw [length_tpqEnqueue valid]
    by_cases discards : Discards tdat.xmitQueue
    · simp [discards]
    · simp [discards]

theorem enqueuePrepared_frame (tdat : Mpdccptun) (packet : SkBuff) (allocated freed : List BufId) :
    (enqueuePrepared tdat packet allocated freed).ret = 0 ∧
      (enqueuePrepared tdat packet allocated freed).tdat.stats = tdat.stats := by
  have retEq := mpdccptunPrepareSkb_ret packet
  unfold enqueuePrepared
  rcases outcome : mpdccptunPrepareSkb packet with ⟨ret, expired⟩
  rw [outcome] at retEq
  simp only at retEq
  subst retEq
  simp only [Int.lt_irrefl, if_false]
  split
  · exact ⟨rfl, rfl⟩
  · exact ⟨rfl, rfl⟩

@[simp]
theorem ttlExpired_reallocHeadroom (skb : SkBuff) (room : Nat) :
    TtlExpired (skb.reallocHeadroom room) ↔ TtlExpired skb := by
  simp [TtlExpired]

/-- What `mpdccptun_do_enqueue` adds to the queue. -/
theorem length_mpdccptunDoEnqueue {hz : Nat} {tdat : Mpdccptun}
    (valid : ValidPolicy tdat.xmitQueue) (skb : SkBuff) (jiffies : Nat) (realloc : Bool) :
    (mpdccptunDoEnqueue hz tdat skb jiffies realloc).tdat.xmitQueue.queue.length =
      tdat.xmitQueue.queue.length +
        if 0 ≤ mpdccptunCheckEnqueue hz tdat skb jiffies ∧
            (tpHdrlen tdat.ipv6 ≤ skb.headroom ∨ realloc = true) ∧ ¬ TtlExpired skb ∧
              ¬ Discards tdat.xmitQueue then 1
        else 0 := by
  unfold mpdccptunDoEnqueue
  simp only
  split
  · rename_i refused
    simp [Int.not_le.mpr refused]
  · rename_i admitted
    rw [Int.not_lt] at admitted
    split
    · rename_i short
      cases realloc with
      | false => simp [Nat.not_le.mpr short]
      | true =>
          simp only [if_true, length_enqueuePrepared valid, ttlExpired_reallocHeadroom, admitted,
            or_true, true_and]
    · rename_i enough
      simp only [length_enqueuePrepared valid, admitted, Nat.not_lt.mp enough, true_or, true_and]

theorem mpdccptunDoEnqueue_stats (hz : Nat) (tdat : Mpdccptun) (skb : SkBuff) (jiffies : Nat)
    (realloc : Bool) :
    (mpdccptunDoEnqueue hz tdat skb jiffies realloc).tdat.stats = tdat.stats := by
  unfold mpdccptunDoEnqueue
  simp only
  split
  · rfl
  · split
    · split
      · exact (enqueuePrepared_frame tdat _ _ _).2
      · rfl
    · exact (enqueuePrepared_frame tdat _ _ _).2

/-- The tunnel is busy only because the check says so. -/
theorem mpdccptunDoEnqueue_again_iff (hz : Nat) (tdat : Mpdccptun) (skb : SkBuff)
    (jiffies : Nat) (realloc : Bool) :
    (mpdccptunDoEnqueue hz tdat skb jiffies realloc).ret = -EAGAIN ↔
      mpdccptunCheckEnqueue hz tdat skb jiffies = -EAGAIN := by
  have zero : (0 : Int) ≠ -EAGAIN := by decide
  have noMemory : -ENOMEM ≠ -EAGAIN := by decide
  unfold mpdccptunDoEnqueue
  simp only
  split
  · exact Iff.rfl
  · rename_i admitted
    have different : mpdccptunCheckEnqueue hz tdat skb jiffies ≠ -EAGAIN := by
      intro again
      rw [again] at admitted
      exact admitted (by decide)
    refine iff_of_false ?_ different
    split
    · split
      · rw [(enqueuePrepared_frame tdat _ _ _).1]
        exact zero
      · exact noMemory
    · rw [(enqueuePrepared_frame tdat _ _ _).1]
      exact zero

/-- The queue grows by as many packets as are answered with `NETDEV_TX_OK`, unless one is
discarded. -/
theorem length_mpdccptunDoEnqueue_eq_iff {hz : Nat} {tdat : Mpdccptun}
    (valid : ValidPolicy tdat.xmitQueue) (skb : SkBuff) (jiffies : Nat) (realloc : Bool) :
    (mpdccptunDoEnqueue hz tdat skb jiffies realloc).tdat.xmitQueue.queue.length =
        tdat.xmitQueue.queue.length +
          (if ldtMpdccptunXmit hz tdat skb jiffies realloc = .ok then 1 else 0) ↔
      Keeps hz tdat skb jiffies realloc := by
  rw [length_mpdccptunDoEnqueue valid, Nat.add_left_cancel_iff]
  unfold ldtMpdccptunXmit Keeps
  by_cases again : mpdccptunCheckEnqueue hz tdat skb jiffies = -EAGAIN
  · have refused : ¬ EAGAIN ≤ 0 := by decide
    simp [mpdccptunDoEnqueue_again_iff, again, refused]
  · simp [mpdccptunDoEnqueue_again_iff, again]

theorem mpdccptunElabXmit2_ret (tdat : Mpdccptun) (skb : SkBuff) (sendmsg : Int) :
    (mpdccptunElabXmit2 tdat skb sendmsg).1 = -EAGAIN ↔
      (mpdccptunXmitSkb tdat skb sendmsg).1 = -EAGAIN := by
  have zero : (0 : Int) ≠ -EAGAIN := by decide
  unfold mpdccptunElabXmit2
  rcases mpdccptunXmitSkb tdat skb sendmsg with ⟨ret, called, freed⟩
  simp only
  split
  · split
    · exact Iff.rfl
    · exact Iff.rfl
  · rename_i nonneg
    refine iff_of_false zero ?_
    rintro rfl
    exact nonneg (by decide)

/-- The packet is to be put back only if the socket is busy. -/
theorem mpdccptunXmitSkb_again_iff (tdat : Mpdccptun) {skb : SkBuff} {sendmsg : Int}
    (result : SendmsgResult skb sendmsg) :
    (mpdccptunXmitSkb tdat skb sendmsg).1 = -EAGAIN ↔
      sendmsgCalled tdat = true ∧ sendmsg = -EAGAIN := by
  have stop : -EPERM ≠ -EAGAIN := by decide
  have noSocket : -ENOTCONN ≠ -EAGAIN := by decide
  unfold mpdccptunXmitSkb doXmitSkb sendmsgCalled
  by_cases stopped : tdat.tostop = true
  · simp only [stopped, if_true]
    exact iff_of_false stop (by simp)
  rw [if_neg stopped]
  cases socket : xmitSock tdat with
  | none => exact iff_of_false noSocket (by simp)
  | some sock =>
      by_cases negative : sendmsg < 0
      · simp [negative, stopped]
      · have bounded : skb.len < 2 ^ 31 := by
          rcases result with isError | accepted
          · exact absurd isError negative
          · exact accepted.1
        have sent : toInt32 skb.len ≠ -EAGAIN := by
          simp only [toInt32, bounded, if_true, EAGAIN]
          omega
        have other : sendmsg ≠ -EAGAIN := by
          rintro rfl
          exact negative (by decide)
        simp only [negative, if_false, Int.lt_irrefl]
        exact iff_of_false sent fun both => other both.2

theorem length_heldBy_update (handler : Work → HandlerPc) (work : Work) (pc : HandlerPc) :
    (heldBy (Function.update handler work pc)).length + (handler work).held.length =
      (heldBy handler).length + pc.held.length := by
  cases work <;> simp [heldBy] <;> omega

/-- A handler run that moves on with the same packet leaves the account. -/
theorem accountedFor_atPc {state : XmitState} {work : Work} {pc : HandlerPc}
    (same : (state.handler work).held = pc.held) :
    accountedFor (atPc state work pc) = accountedFor state := by
  have exchange := length_heldBy_update state.handler work pc
  rw [same] at exchange
  simp only [accountedFor, atPc]
  omega

/-- A handler run has to put its packet back exactly if the socket was busy. -/
theorem requeueing_iff_of_stepSend {state next : XmitState} {work : Work} {sendmsg : Int}
    {cnt : Nat} {skb : SkBuff} (stepped : stepSend state work sendmsg cnt skb = some next) :
    (∃ packet, next.handler work = .requeueing packet) ↔
      sendmsgCalled state.tdat = true ∧ sendmsg = -EAGAIN := by
  unfold stepSend at stepped
  split at stepped
  · rename_i result
    rw [← mpdccptunXmitSkb_again_iff state.tdat result, ← mpdccptunElabXmit2_ret]
    rcases outcome : mpdccptunElabXmit2 state.tdat skb sendmsg with ⟨ret, tdat, called, freed⟩
    rw [outcome] at stepped
    obtain rfl := Option.some.inj stepped
    simp only [atPc, Function.update_self]
    by_cases again : ret = -EAGAIN
    · simp [again]
    · simp only [again, if_false, iff_false]
      split
      · simp
      · simp [afterSent]
        split <;> simp
  · exact absurd stepped (by simp)

/-- A handler run has a packet to put back after a call of `kernel_sendmsg`. -/
def PutsBack (next : XmitState) : Label → Prop
  | .send work _ => ∃ skb, next.handler work = .requeueing skb
  | _ => False

theorem accountedFor_dequeue {state : XmitState} {work : Work} {cnt : Nat} {skb : SkBuff}
    {queue : TpQueue SkBuff} (valid : ValidPolicy state.tdat.xmitQueue)
    (looping : state.handler work = .loop cnt)
    (dequeued : tpqDequeue state.tdat.xmitQueue = (some skb, queue)) :
    accountedFor (atPc { state with tdat := { state.tdat with xmitQueue := queue } }
      work (.holding cnt skb)) = accountedFor state := by
  rcases tpqDequeue_cases valid with ⟨-, nothing⟩ | ⟨rest, last, stored, taken⟩
  · simp [nothing] at dequeued
  · rw [taken] at dequeued
    obtain rfl := (Prod.mk.inj dequeued).2
    have exchange := length_heldBy_update state.handler work (.holding cnt skb)
    simp only [looping, HandlerPc.held, List.length_nil, List.length_singleton] at exchange
    simp only [accountedFor, atPc, stored, List.length_append, List.length_singleton]
    omega

theorem accountedFor_requeue {state : XmitState} {work : Work} {skb : SkBuff}
    (valid : ValidPolicy state.tdat.xmitQueue)
    (requeueing : state.handler work = .requeueing skb) :
    accountedFor (atPc { state with
      tdat := { state.tdat with xmitQueue := tpqRequeue state.tdat.xmitQueue skb } }
      work .setFlag) = accountedFor state := by
  have exchange := length_heldBy_update state.handler work .setFlag
  simp only [requeueing, HandlerPc.held, List.length_nil, List.length_singleton] at exchange
  rw [tpqRequeue_eq valid]
  simp only [accountedFor, atPc, tpqInfRequeue, List.length_append, List.length_singleton]
  omega

/-- A packet that is sent or dropped goes from the handler run to one of the counters. -/
theorem accountedFor_counted {state : XmitState} {work : Work} {cnt : Nat} {skb : SkBuff}
    {stats : TxStats} {pc : HandlerPc} {freed : List BufId} {accepted : List (BufId × Int)}
    (holding : state.handler work = .holding cnt skb) (nothing : pc.held = [])
    (counted : stats.txPackets + stats.txDropped =
      state.tdat.stats.txPackets + state.tdat.stats.txDropped + 1) :
    accountedFor (atPc { state with
      tdat := { state.tdat with stats := stats }
      freed := freed
      accepted := accepted } work pc) = accountedFor state := by
  have exchange := length_heldBy_update state.handler work pc
  rw [nothing, holding] at exchange
  simp only [HandlerPc.held, List.length_nil, List.length_singleton] at exchange
  simp only [accountedFor, atPc]
  omega

/-- A step that gives the tunnel no packet leaves the account, but a packet that is put back is
counted, and stays. -/
theorem accountedFor_of_moves {state next : XmitState} {label : Label}
    (valid : ValidPolicy state.tdat.xmitQueue) (internal : ¬ label.IsSubmission)
    (moves : Moves state label next) :
    PutsBack next label ∧ accountedFor next = accountedFor state + 1 ∨
      ¬ PutsBack next label ∧ accountedFor next = accountedFor state := by
  cases moves with
  | refused slot skb taken submission idle fresh buffers =>
      exact absurd submission internal
  | put slot skb packet taken freed submission idle fresh prepared =>
      exact absurd submission internal
  | noMemory submission =>
      exact absurd submission internal
  | readFlag slot put =>
      exact .inr ⟨id, rfl⟩
  | queueXmit slot queueing =>
      exact .inr ⟨id, rfl⟩
  | start work idle queued =>
      exact .inr ⟨id, accountedFor_atPc (by simp only [idle, HandlerPc.held])⟩
  | clearFlag work started =>
      exact .inr ⟨id, accountedFor_atPc (by simp only [started, HandlerPc.held])⟩
  | dequeueNone work cnt looping empty =>
      exact .inr ⟨id, accountedFor_atPc (by simp only [looping, HandlerPc.held])⟩
  | dequeueSome work cnt skb queue looping dequeued =>
      exact .inr ⟨id, accountedFor_dequeue valid looping dequeued⟩
  | sendAgain work sendmsg cnt skb holding refused =>
      have exchange := length_heldBy_update state.handler work (.requeueing skb)
      simp only [holding, HandlerPc.held] at exchange
      refine .inl ⟨⟨skb, by simp [atPc]⟩, ?_⟩
      simp only [accountedFor, atPc]
      omega
  | sendFailed work sendmsg cnt skb holding refused =>
      refine .inr ⟨by simp [PutsBack, atPc], accountedFor_counted holding rfl ?_⟩
      simp only
      omega
  | sent work sendmsg cnt skb holding nonneg called =>
      refine .inr ⟨?_, accountedFor_counted holding (afterSent_held cnt) ?_⟩
      · simp only [PutsBack, atPc, Function.update_self, afterSent]
        split <;> simp
      · simp only
        omega
  | requeue work skb requeueing =>
      exact .inr ⟨id, accountedFor_requeue valid requeueing⟩
  | queueNext work atEnd =>
      exact .inr ⟨id, accountedFor_atPc (by simp only [atEnd, HandlerPc.held])⟩
  | setFlag work failed =>
      exact .inr ⟨id, accountedFor_atPc (by simp only [failed, HandlerPc.held])⟩
  | queueDelayed work flagged =>
      exact .inr ⟨id, accountedFor_atPc (by simp only [flagged, HandlerPc.held])⟩
  | connection members =>
      exact .inr ⟨id, rfl⟩
  | setPolicy policy =>
      exact .inr ⟨id, by simp [accountedFor]⟩
  | setMaxlen maxlen =>
      exact .inr ⟨id, by simp [accountedFor]⟩

/-- The table has an entry for the policy at all times. -/
theorem validPolicy_of_moves {state next : XmitState} {label : Label}
    (valid : ValidPolicy state.tdat.xmitQueue) (moves : Moves state label next) :
    ValidPolicy next.tdat.xmitQueue := by
  cases moves with
  | put slot skb packet taken freed submission idle fresh prepared =>
      exact validPolicy_tpqEnqueue valid packet
  | dequeueSome work cnt skb queue looping dequeued =>
      rcases tpqDequeue_cases valid with ⟨-, nothing⟩ | ⟨rest, last, -, taken⟩
      · simp [nothing] at dequeued
      · rw [taken] at dequeued
        exact (Prod.mk.inj dequeued).2 ▸ valid
  | requeue work skb requeueing =>
      simp only [atPc, tpqRequeue_eq valid]
      exact valid
  | setPolicy policy =>
      exact validPolicy_tpqSetPolicy valid policy
  | setMaxlen maxlen =>
      exact validPolicy_tpqSetMaxlen valid maxlen
  | _ =>
      exact valid

/-- A packet given to the tunnel is accounted for if it is answered with `NETDEV_TX_OK`, unless
a packet is discarded for it. -/
theorem accountedFor_submitted_iff {hz : Nat} {state : XmitState} (slot : Nat)
    (given : List BufId) (skb : SkBuff) (jiffies : Nat) (realloc : Bool)
    (valid : ValidPolicy state.tdat.xmitQueue) :
    accountedFor (submitted state slot given
          (mpdccptunDoEnqueue hz state.tdat skb jiffies realloc)) =
        accountedFor state +
          (if ldtMpdccptunXmit hz state.tdat skb jiffies realloc = .ok then 1 else 0) ↔
      Keeps hz state.tdat skb jiffies realloc := by
  rw [← length_mpdccptunDoEnqueue_eq_iff valid]
  simp only [accountedFor, submitted, mpdccptunDoEnqueue_stats]
  omega

/-- The packets accounted for are more by those answered exactly if the step keeps the
account. -/
theorem accountedFor_of_step_iff {hz : Nat} {book next : Book} {label : Label}
    (valid : ValidPolicy book.state.tdat.xmitQueue) (stepped : step hz book label = some next) :
    accountedFor next.state = accountedFor book.state + answers hz book.state label ↔
      KeepsAccount hz book label := by
  unfold step at stepped
  split at stepped
  · contradiction
  rename_i foreign
  obtain ⟨after, moved, rfl⟩ := Option.map_eq_some_iff.mp stepped
  have moves := moves_of_step moved
  cases label with
  | ldtMpdccptunXmit slot skb jiffies realloc =>
      simp only [Transmit.step, stepLdtMpdccptunXmit] at moved
      split at moved
      · obtain rfl := Option.some.inj moved
        exact accountedFor_submitted_iff slot _ skb jiffies realloc valid
      · contradiction
  | mpdccptunXmit slot alloc data jiffies realloc =>
      exact absurd trivial foreign
  | send work sendmsg =>
      simp only [Transmit.step] at moved
      split at moved
      · rename_i cnt skb holding
        have putsBack : PutsBack after (.send work sendmsg) ↔ _ :=
          requeueing_iff_of_stepSend moved
        simp only [answers, KeepsAccount, ← putsBack]
        rcases accountedFor_of_moves valid id moves with ⟨back, counted⟩ | ⟨notBack, same⟩
        · exact iff_of_false (by omega) (not_not_intro back)
        · exact iff_of_true same notBack
      · contradiction
  | _ =>
      rcases accountedFor_of_moves valid id moves with ⟨back, -⟩ | ⟨-, same⟩
      · exact back.elim
      · exact iff_of_true same trivial

/-- The account in terms of the packets that are accounted for. -/
theorem accounts_iff {start : XmitState} (opened : Opened start) (book : Book) :
    Accounts start book ↔ accountedFor book.state = accountedFor start + book.answered := by
  simp only [Accounts, accountedFor, opened.queue, opened.held, List.length_nil]
  omega

theorem accounts_of_step_iff {hz : Nat} {start : XmitState} {book next : Book} {label : Label}
    (opened : Opened start) (valid : ValidPolicy book.state.tdat.xmitQueue)
    (right : Accounts start book) (stepped : step hz book label = some next) :
    Accounts start next ↔ KeepsAccount hz book label := by
  have counted : next.answered = book.answered + answers hz book.state label := by
    unfold step at stepped
    split at stepped
    · contradiction
    · obtain ⟨after, -, rfl⟩ := Option.map_eq_some_iff.mp stepped
      rfl
  rw [accounts_iff opened] at right ⊢
  rw [← accountedFor_of_step_iff valid stepped, counted, right]
  omega

theorem validPolicy_of_step {hz : Nat} {book next : Book} {label : Label}
    (valid : ValidPolicy book.state.tdat.xmitQueue) (stepped : step hz book label = some next) :
    ValidPolicy next.state.tdat.xmitQueue := by
  unfold step at stepped
  split at stepped
  · contradiction
  · obtain ⟨after, moved, rfl⟩ := Option.map_eq_some_iff.mp stepped
    exact validPolicy_of_moves valid (moves_of_step moved)

/-- The account is right after every step of a run if and only if no step discards a packet that
is not counted, or counts a packet that is put back. -/
theorem accountsAlways_iff_keepsAccount (hz : Nat) (start : XmitState) (opened : Opened start)
    (labels : List Label) (final : Book)
    (ran : run (step hz) ⟨start, 0⟩ labels = some final) :
    AccountsAlways hz start labels ↔
      Guarded (step hz) (KeepsAccount hz) ⟨start, 0⟩ labels := by
  have first : Accounts start ⟨start, 0⟩ := by
    rw [accounts_iff opened]
    rfl
  have agree : Guarded (step hz)
        (fun book label => ∀ next, step hz book label = some next → Accounts start next)
        ⟨start, 0⟩ labels ↔
      Guarded (step hz) (KeepsAccount hz) ⟨start, 0⟩ labels := by
    have preserved : ∀ {book : Book} {label : Label} {next : Book},
        (∀ next, step hz book label = some next → Accounts start next) →
          Accounts start book ∧ ValidPolicy book.state.tdat.xmitQueue →
            step hz book label = some next →
              Accounts start next ∧ ValidPolicy next.state.tdat.xmitQueue := by
      rintro book label next kept ⟨-, valid⟩ stepped
      exact ⟨kept next stepped, validPolicy_of_step valid stepped⟩
    apply guarded_iff_of_run preserved ?_ ⟨first, opened.policy⟩ ran
    rintro book label next ⟨right, valid⟩ stepped
    rw [← accounts_of_step_iff opened valid right stepped]
    simp [stepped]
  unfold AccountsAlways
  rw [forall_reached_iff, agree]
  exact and_iff_right first

/-- A packet of version 4 that may be forwarded. -/
def ipPacket : SkBuff where
  id := .buffer 0
  mem := fun _ => 0x45
  data := 0
  headlen := 20
  frags := []
  nrFrags := 0
  fragList := false
  len := 20
  len_lt := by decide

/-- A tunnel that is connected as a client gets a packet, and `kernel_sendmsg` returns `sendmsg`
for it. -/
def sendPacket (sendmsg : Int) : List Label :=
  [.connection connectedClient,
    .ldtMpdccptunXmit 0 ipPacket 0 true,
    .readFlag 0, .queueXmit 0, .start .xmit, .clearFlag .xmit, .dequeue .xmit,
    .send .xmit sendmsg]

theorem opened_initial (ipv6 ismpdccp : Bool) : Opened (initial ipv6 ismpdccp) where
  policy := validPolicy_tpqInit _ _
  queue := rfl
  held := rfl

theorem accountsAlways_sent_packet :
    ∃ final, run (step 100) ⟨initial false false, 0⟩ (sendPacket 20) = some final ∧
      final.answered = 1 ∧ final.state.tdat.stats.txPackets = 1 ∧
      AccountsAlways 100 (initial false false) (sendPacket 20) := by
  refine ⟨_, rfl, rfl, rfl, ?_⟩
  apply (accountsAlways_iff_keepsAccount 100 (initial false false) (opened_initial false false)
    (sendPacket 20) _ rfl).mpr
  decide

/-- A packet for which the socket is busy is counted as dropped while it is to be put back, and
a packet that is discarded because the tunnel was never connected is not counted. -/
theorem not_accountsAlways_busy_or_unconnected :
    (∃ final, run (step 100) ⟨initial false false, 0⟩ (sendPacket (-11)) = some final ∧
        final.answered = 1 ∧ final.state.tdat.stats.txDropped = 1 ∧
        heldBy final.state.handler = [.copy (.buffer 0)] ∧
        ¬ AccountsAlways 100 (initial false false) (sendPacket (-11))) ∧
      ∃ final, run (step 100) ⟨initial false false, 0⟩
          [.ldtMpdccptunXmit 0 ipPacket 0 true] = some final ∧
        final.answered = 1 ∧ final.state.freed = [.buffer 0] ∧
        final.state.tdat.stats.txDropped = 0 ∧
        ¬ AccountsAlways 100 (initial false false) [.ldtMpdccptunXmit 0 ipPacket 0 true] := by
  constructor
  · refine ⟨_, rfl, rfl, rfl, rfl, ?_⟩
    intro always
    exact absurd (always _ List.prefix_rfl _ rfl) (by decide)
  · refine ⟨_, rfl, rfl, rfl, rfl, ?_⟩
    intro always
    exact absurd (always _ List.prefix_rfl _ rfl) (by decide)

end Tunprox.TransmitAccount
