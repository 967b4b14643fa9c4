import Mathlib.Data.List.Count
import Mathlib.Logic.Function.Basic
import Tunprox.LabelledRun
import Tunprox.Mpdccptun

/-!
# The transmit path of the tunnel

A packet given to the tunnel is checked, gets a headroom for the outer
headers, is put into `xmit_queue`, and one of two work items sends it.  The
first half of the file follows the functions of `ldt_mpdccp.c`.  The second
half is the transition system of submitters and the two work items: a label is
one of the steps between which other contexts may run, and it carries the
outcome of the kernel call made in that step.
-/

namespace Tunprox.Transmit

open Errno Queue

/-- `mpdccptun_check_enqueue` at the given value of the `jiffies` counter,
which is 64 bits wide and advances by `hz` in a second. -/
def mpdccptunCheckEnqueue (hz : Nat) (tdat : Mpdccptun) (skb : SkBuff)
    (jiffies : Nat) : Int :=
  if !tdat.wasconnected then -ENOTCONN
  else if !tdat.isconnected ∧
      jiffies > (tdat.lastUnconnect + 60 * hz) % 2 ^ 64 then -ENOTCONN
  else if !tdat.isconnected ∧ tpIsprot1 (skb.byte 0) then -ENOTCONN
  else if tpqIsfull tdat.xmitQueue then
    if tdat.isconnected then -EAGAIN else -ENOTCONN
  else if !tdat.isconnected ∧ tdat.xmitQueue.policy = TP_QUEUE_INF ∧
      10000 ≤ tdat.xmitQueue.queue.length then -ENOTCONN
  else 0

/-- `mpdccptun_prepare_skb`: the return value and `*expired`. -/
def mpdccptunPrepareSkb (skb : SkBuff) : Int × Bool :=
  match tpGetpkttype (skb.byte 0) with
  | 4 => (0, decide (skb.byte 8 ≤ 1))
  | 6 => (0, decide (skb.byte 7 ≤ 1))
  | _ => (0, false)

/-- What `mpdccptun_do_enqueue` did up to the point where the packet is in the
queue: the return value, the tunnel, the buffers it allocated and freed, the
packet it handed to `tpq_enqueue`, and whether it got that far. -/
structure EnqueueOutcome where
  ret : Int
  tdat : Mpdccptun
  allocated : List BufId
  freed : List BufId
  put : List BufId
  reached : Bool

/-- The last part of `mpdccptun_do_enqueue`, after the headroom is there. -/
def enqueuePrepared (tdat : Mpdccptun) (skb : SkBuff) (allocated freed : List BufId) :
    EnqueueOutcome :=
  match mpdccptunPrepareSkb skb with
  | (ret, expired) =>
      if ret < 0 then
        { ret := if ret = -EAGAIN then -EINVAL else ret
          tdat := tdat
          allocated := allocated
          freed := freed ++ [skb.id]
          put := []
          reached := false }
      else if expired then
        { ret := 0
          tdat := tdat
          allocated := allocated
          freed := freed ++ [skb.id]
          put := []
          reached := false }
      else
        match tpqEnqueue tdat.xmitQueue skb with
        | (queue, dropped) =>
            { ret := 0
              tdat := { tdat with xmitQueue := queue }
              allocated := allocated
              freed := freed ++ dropped.map SkBuff.id
              put := [skb.id]
              reached := true }

/-- `mpdccptun_do_enqueue` up to and including `tpq_enqueue`.  `realloc` tells
whether `skb_realloc_headroom` finds memory. -/
def mpdccptunDoEnqueue (hz : Nat) (tdat : Mpdccptun) (skb : SkBuff) (jiffies : Nat)
    (realloc : Bool) : EnqueueOutcome :=
  let ret := mpdccptunCheckEnqueue hz tdat skb jiffies
  if ret < 0 then
    { ret := ret
      tdat := tdat
      allocated := []
      freed := if ret ≠ -EAGAIN then [skb.id] else []
      put := []
      reached := false }
  else if skb.headroom < tpHdrlen tdat.ipv6 then
    if realloc then
      enqueuePrepared tdat (skb.reallocHeadroom (mpdccptunNeedheadroom tdat))
        [.copy skb.id] [skb.id]
    else
      { ret := -ENOMEM
        tdat := tdat
        allocated := []
        freed := [skb.id]
        put := []
        reached := false }
  else enqueuePrepared tdat skb [] []

/-- The buffer `mpdccptun_xmit` fills with a message of its own. -/
def devAllocSkb (id : BufId) (room : Nat) (data : List UInt8)
    (fits : data.length < 2 ^ 32) : SkBuff where
  id := id
  mem := fun index => if index < room then 0 else data.getD (index - room) 0
  data := room
  headlen := data.length
  frags := []
  nrFrags := 0
  fragList := false
  len := data.length
  len_lt := fits

/-- The socket `do_xmit_skb` chooses. -/
def xmitSock (tdat : Mpdccptun) : Option SockId :=
  if !tdat.listening then tdat.sock else tdat.active

/-- Whether `mpdccptun_xmit_skb` gets as far as calling `kernel_sendmsg`. -/
def sendmsgCalled (tdat : Mpdccptun) : Bool :=
  !tdat.tostop && (xmitSock tdat).isSome

/-- `do_xmit_skb`, with the result of `kernel_sendmsg`: the return value, the
result if the call was made, and the buffers freed. -/
def doXmitSkb (tdat : Mpdccptun) (skb : SkBuff) (sendmsg : Int) :
    Int × Option Int × List BufId :=
  match xmitSock tdat with
  | none => (-ENOTCONN, none, [])
  | some _ =>
      let freed := if sendmsg = 0 then [skb.id] else []
      if sendmsg < 0 then (sendmsg, some sendmsg, freed)
      else (0, some sendmsg, freed)

/-- `mpdccptun_xmit_skb` -/
def mpdccptunXmitSkb (tdat : Mpdccptun) (skb : SkBuff) (sendmsg : Int) :
    Int × Option Int × List BufId :=
  if tdat.tostop then (-EPERM, none, [])
  else
    match doXmitSkb tdat skb sendmsg with
    | (ret, called, freed) =>
        if ret < 0 then (ret, called, freed)
        else (toInt32 skb.len, called, freed)

/-- `mpdccptun_elab_xmit2`: the return value, the tunnel, the result of
`kernel_sendmsg` if it was called, and the buffers freed. -/
def mpdccptunElabXmit2 (tdat : Mpdccptun) (skb : SkBuff) (sendmsg : Int) :
    Int × Mpdccptun × Option Int × List BufId :=
  match mpdccptunXmitSkb tdat skb sendmsg with
  | (ret, called, freed) =>
      if ret < 0 then
        if ret = -EAGAIN then
          (ret, { tdat with
            stats := { tdat.stats with txDropped := tdat.stats.txDropped + 1 } },
            called, freed)
        else
          (ret, { tdat with
            stats := { tdat.stats with
              txDropped := tdat.stats.txDropped + 1
              txErrors := tdat.stats.txErrors + 1 } },
            called, freed ++ [skb.id])
      else
        (0, { tdat with
          stats := { tdat.stats with
            txPackets := tdat.stats.txPackets + 1
            txBytes := tdat.stats.txBytes + skb.len } },
          called, freed)

/-- The two work items that run `do_xmit_handler`. -/
inductive Work where
  | xmit
  | delayed
  deriving DecidableEq, Repr

/-- The other work item. -/
def Work.other : Work → Work
  | .xmit => .delayed
  | .delayed => .xmit

/-- Where a submitter stands in `mpdccptun_do_enqueue`. -/
inductive SubmitPc where
  | idle
  | put
  | queueing
  deriving DecidableEq, Repr

/-- Where a run of `do_xmit_handler` stands.  `cnt` is its loop counter. -/
inductive HandlerPc where
  | idle
  | started
  | loop (cnt : Nat)
  | holding (cnt : Nat) (skb : SkBuff)
  | requeueing (skb : SkBuff)
  | queueNext
  | setFlag
  | queueDelayed

/-- The buffer a handler run holds. -/
def HandlerPc.held : HandlerPc → List BufId
  | .holding _ skb | .requeueing skb => [skb.id]
  | _ => []

/-- The buffers held by the two handler runs. -/
def heldBy (handler : Work → HandlerPc) : List BufId :=
  (handler .xmit).held ++ (handler .delayed).held

/-- The state of the transmit system.  The lists are a history: the buffers
that came into the hands of the tunnel, those it freed, the packets in the
order in which they were given to `tpq_enqueue`, and the results of
`kernel_sendmsg` for the packets it accepted. -/
structure XmitState where
  tdat : Mpdccptun
  submit : Nat → SubmitPc
  pending : Work → Bool
  handler : Work → HandlerPc
  acquired : List BufId
  freed : List BufId
  put : List BufId
  accepted : List (BufId × Int)

/-- The connection members of the tunnel, which other operations change at any
time. -/
structure ConnMembers where
  wasconnected : Bool
  isconnected : Bool
  listening : Bool
  lastUnconnect : Nat
  sock : Option SockId
  active : Option SockId

/-- The steps of the transmit system. -/
inductive Label where
  | ldtMpdccptunXmit (slot : Nat) (skb : SkBuff) (jiffies : Nat) (realloc : Bool)
  | mpdccptunXmit (slot : Nat) (alloc : Option BufId)
      (data : { bytes : List UInt8 // bytes.length < 2 ^ 32 }) (jiffies : Nat)
      (realloc : Bool)
  | readFlag (slot : Nat)
  | queueXmit (slot : Nat)
  | start (work : Work)
  | clearFlag (work : Work)
  | dequeue (work : Work)
  | send (work : Work) (sendmsg : Int)
  | requeue (work : Work)
  | queueNext (work : Work)
  | setFlag (work : Work)
  | queueDelayed (work : Work)
  | connection (members : ConnMembers)
  | setPolicy (policy : Int)
  | setMaxlen (maxlen : Int)

/-- The label hands a packet to the tunnel. -/
def Label.IsSubmission : Label → Prop
  | .ldtMpdccptunXmit .. | .mpdccptunXmit .. => True
  | _ => False

/-- Neither the buffer nor a copy of it is known to the tunnel. -/
def Fresh (state : XmitState) (id : BufId) : Prop :=
  id ∉ state.acquired ∧ .copy id ∉ state.acquired

instance (state : XmitState) (id : BufId) : Decidable (Fresh state id) :=
  inferInstanceAs (Decidable (_ ∧ _))

/-- The state after a submitter got as far as `outcome` tells, with the
buffers in `given` handed over to the tunnel. -/
def submitted (state : XmitState) (slot : Nat) (given : List BufId)
    (outcome : EnqueueOutcome) : XmitState :=
  { state with
    tdat := outcome.tdat
    submit := Function.update state.submit slot (if outcome.reached then .put else .idle)
    acquired := state.acquired ++ given ++ outcome.allocated
    freed := state.freed ++ outcome.freed
    put := state.put ++ outcome.put }

/-- `ldt_mpdccptun_xmit`.  A packet answered with `NETDEV_TX_BUSY` stays with
the caller. -/
def stepLdtMpdccptunXmit (hz : Nat) (state : XmitState) (slot : Nat) (skb : SkBuff)
    (jiffies : Nat) (realloc : Bool) : Option XmitState :=
  if state.submit slot = .idle ∧ Fresh state skb.id then
    let outcome := mpdccptunDoEnqueue hz state.tdat skb jiffies realloc
    some (submitted state slot (if outcome.ret = -EAGAIN then [] else [skb.id]) outcome)
  else none

/-- `mpdccptun_xmit`.  It frees the buffer itself when the queue is busy. -/
def stepMpdccptunXmit (hz : Nat) (state : XmitState) (slot : Nat)
    (alloc : Option BufId) (data : { bytes : List UInt8 // bytes.length < 2 ^ 32 })
    (jiffies : Nat) (realloc : Bool) : Option XmitState :=
  match alloc with
  | none => some state
  | some id =>
      if state.submit slot = .idle ∧ Fresh state id then
        let skb := devAllocSkb id (mpdccptunNeedheadroom state.tdat) data.1 data.2
        let outcome := mpdccptunDoEnqueue hz state.tdat skb jiffies realloc
        some (submitted state slot [skb.id]
          { outcome with
            freed := outcome.freed ++ (if outcome.ret = -EAGAIN then [skb.id] else []) })
      else none

/-- The state with the handler run of `work` at `pc`. -/
def atPc (state : XmitState) (work : Work) (pc : HandlerPc) : XmitState :=
  { state with handler := Function.update state.handler work pc }

/-- What `kernel_sendmsg` returns for a packet: a negative error, or a byte
count that is positive unless the packet is empty.  A packet it accepts is not
longer than an `int` can count. -/
def SendmsgResult (skb : SkBuff) (sendmsg : Int) : Prop :=
  sendmsg < 0 ∨ (skb.len < 2 ^ 31 ∧
    ((sendmsg = 0 ∧ skb.len = 0) ∨ (0 < sendmsg ∧ 0 < skb.len)))

instance (skb : SkBuff) (sendmsg : Int) : Decidable (SendmsgResult skb sendmsg) :=
  inferInstanceAs (Decidable (_ ∨ _))

/-- The handler's position after a packet was sent: the loop ends after the
sixth. -/
def afterSent (cnt : Nat) : HandlerPc :=
  if 5 < cnt + 1 then .queueNext else .loop (cnt + 1)

/-- One turn of the loop in `do_xmit_handler` after the packet was given to
`mpdccptun_elab_xmit2`. -/
def stepSend (state : XmitState) (work : Work) (sendmsg : Int) (cnt : Nat)
    (skb : SkBuff) : Option XmitState :=
  if SendmsgResult skb sendmsg then
    match mpdccptunElabXmit2 state.tdat skb sendmsg with
    | (ret, tdat, called, freed) =>
        let sent :=
          { state with
            tdat := tdat
            freed := state.freed ++ freed
            accepted := state.accepted ++
              match called with
              | some result => if 0 ≤ result then [(skb.id, result)] else []
              | none => [] }
        some (atPc sent work
          (if ret = -EAGAIN then .requeueing skb
            else if ret < 0 then .setFlag
            else afterSent cnt))
  else none

/-- The transition function of submitters and handlers. -/
def step (hz : Nat) (state : XmitState) : Label → Option XmitState
  | .ldtMpdccptunXmit slot skb jiffies realloc =>
      stepLdtMpdccptunXmit hz state slot skb jiffies realloc
  | .mpdccptunXmit slot alloc data jiffies realloc =>
      stepMpdccptunXmit hz state slot alloc data jiffies realloc
  | .readFlag slot =>
      if state.submit slot = .put then
        some { state with
          submit := Function.update state.submit slot
            (if state.tdat.hasDelayedWork then .idle else .queueing) }
      else none
  | .queueXmit slot =>
      if state.submit slot = .queueing then
        some { state with
          submit := Function.update state.submit slot .idle
          pending := Function.update state.pending .xmit true }
      else none
  | .start work =>
      match state.handler work, state.pending work with
      | .idle, true =>
          some (atPc { state with pending := Function.update state.pending work false }
            work .started)
      | _, _ => none
  | .clearFlag work =>
      match state.handler work with
      | .started =>
          some (atPc { state with tdat := { state.tdat with hasDelayedWork := false } }
            work (.loop 0))
      | _ => none
  | .dequeue work =>
      match state.handler work with
      | .loop cnt =>
          match tpqDequeue state.tdat.xmitQueue with
          | (none, _) => some (atPc state work .idle)
          | (some skb, queue) =>
              some (atPc { state with tdat := { state.tdat with xmitQueue := queue } }
                work (.holding cnt skb))
      | _ => none
  | .send work sendmsg =>
      match state.handler work with
      | .holding cnt skb => stepSend state work sendmsg cnt skb
      | _ => none
  | .requeue work =>
      match state.handler work with
      | .requeueing skb =>
          some (atPc { state with
            tdat := { state.tdat with xmitQueue := tpqRequeue state.tdat.xmitQueue skb } }
            work .setFlag)
      | _ => none
  | .queueNext work =>
      match state.handler work with
      | .queueNext =>
          some (atPc { state with pending := Function.update state.pending .xmit true }
            work .idle)
      | _ => none
  | .setFlag work =>
      match state.handler work with
      | .setFlag =>
          some (atPc { state with tdat := { state.tdat with hasDelayedWork := true } }
            work .queueDelayed)
      | _ => none
  | .queueDelayed work =>
      match state.handler work with
      | .queueDelayed =>
          some (atPc { state with pending := Function.update state.pending .delayed true }
            work .idle)
      | _ => none
  | .connection members =>
      some { state with
        tdat := { state.tdat with
          wasconnected := members.wasconnected
          isconnected := members.isconnected
          listening := members.listening
          lastUnconnect := members.lastUnconnect
          sock := members.sock
          active := members.active } }
  | .setPolicy policy =>
      some { state with
        tdat := { state.tdat with xmitQueue := tpqSetPolicy state.tdat.xmitQueue policy } }
  | .setMaxlen maxlen =>
      some { state with
        tdat := { state.tdat with xmitQueue := tpqSetMaxlen state.tdat.xmitQueue maxlen } }

/-- A tunnel that has just been created. -/
def initial (ipv6 ismpdccp : Bool) : XmitState where
  tdat := mpdccptunNew ipv6 ismpdccp
  submit := fun _ => .idle
  pending := fun _ => false
  handler := fun _ => .idle
  acquired := []
  freed := []
  put := []
  accepted := []

/-- The members of a client that is connected. -/
def connectedClient : ConnMembers where
  wasconnected := true
  isconnected := true
  listening := false
  lastUnconnect := 0
  sock := some 0
  active := none

/-- A message of protocol 1 with four bytes. -/
def message : { bytes : List UInt8 // bytes.length < 2 ^ 32 } :=
  ⟨[0x10, 1, 0, 4], by decide⟩

/-- Moving a handler run exchanges what it held for what it holds now. -/
theorem count_heldBy_update (handler : Work → HandlerPc) (work : Work) (pc : HandlerPc)
    (id : BufId) :
    (heldBy (Function.update handler work pc)).count id + (handler work).held.count id =
      (heldBy handler).count id + pc.held.count id := by
  cases work <;> simp [heldBy, List.count_append] <;> omega

theorem heldBy_eq_of_other_nil {handler : Work → HandlerPc} {work : Work}
    (alone : (handler work.other).held = []) :
    heldBy handler = (handler work).held := by
  cases work <;> simp_all [heldBy, Work.other]

theorem heldBy_update_of_other_nil {handler : Work → HandlerPc} {work : Work}
    (alone : (handler work.other).held = []) (pc : HandlerPc) :
    heldBy (Function.update handler work pc) = pc.held := by
  cases work <;> simp_all [heldBy, Work.other]

@[simp]
theorem afterSent_held (cnt : Nat) : (afterSent cnt).held = [] := by
  unfold afterSent
  split <;> rfl

/-- The packet that `mpdccptun_do_enqueue` goes on with, besides the buffers the
tunnel then has to account for and those it has freed: the packet itself, or a
copy with more headroom. -/
inductive Prepared (skb : SkBuff) : SkBuff → List BufId → List BufId → Prop
  | same : Prepared skb skb [skb.id] []
  | copied (headroom : Nat) :
      Prepared skb (skb.reallocHeadroom headroom) [skb.id, .copy skb.id] [skb.id]

/-- Everything `mpdccptun_do_enqueue` can do with a packet: leave it to the
caller, free it, or put it into the queue. -/
inductive Enqueued (tdat : Mpdccptun) (skb : SkBuff) : EnqueueOutcome → Prop
  | again :
      Enqueued tdat skb
        { ret := -EAGAIN
          tdat := tdat
          allocated := []
          freed := []
          put := []
          reached := false }
  | dropped (ret : Int) (allocated : List BufId) (notAgain : ret ≠ -EAGAIN)
      (packet : allocated = [] ∨ allocated = [.copy skb.id]) :
      Enqueued tdat skb
        { ret := ret
          tdat := tdat
          allocated := allocated
          freed := skb.id :: allocated
          put := []
          reached := false }
  | put (packet : SkBuff) (allocated freed : List BufId)
      (prepared : Prepared skb packet (skb.id :: allocated) freed) :
      Enqueued tdat skb
        { ret := 0
          tdat := { tdat with xmitQueue := (tpqEnqueue tdat.xmitQueue packet).1 }
          allocated := allocated
          freed := freed ++ (tpqEnqueue tdat.xmitQueue packet).2.map SkBuff.id
          put := [packet.id]
          reached := true }

theorem mpdccptunPrepareSkb_ret (skb : SkBuff) : (mpdccptunPrepareSkb skb).1 = 0 := by
  unfold mpdccptunPrepareSkb
  split <;> rfl

theorem enqueued_enqueuePrepared {tdat : Mpdccptun} {skb packet : SkBuff}
    {allocated freed : List BufId}
    (prepared : Prepared skb packet (skb.id :: allocated) freed) :
    Enqueued tdat skb (enqueuePrepared tdat packet allocated freed) := by
  have retEq := mpdccptunPrepareSkb_ret packet
  unfold enqueuePrepared
  rcases outcome : mpdccptunPrepareSkb packet with ⟨ret, expired⟩
  rw [outcome] at retEq
  simp only at retEq
  subst retEq
  simp only [Int.lt_irrefl, if_false]
  cases expired with
  | false =>
      exact .put packet allocated freed prepared
  | true =>
      cases prepared with
      | same =>
          exact .dropped 0 [] (by decide) (Or.inl rfl)
      | copied headroom =>
          exact .dropped 0 [.copy skb.id] (by decide) (Or.inr rfl)

theorem enqueued_mpdccptunDoEnqueue (hz : Nat) (tdat : Mpdccptun) (skb : SkBuff)
    (jiffies : Nat) (realloc : Bool) :
    Enqueued tdat skb (mpdccptunDoEnqueue hz tdat skb jiffies realloc) := by
  unfold mpdccptunDoEnqueue
  simp only
  split
  · by_cases again : mpdccptunCheckEnqueue hz tdat skb jiffies = -EAGAIN
    · simp only [again, ne_eq, not_true_eq_false, if_false]
      exact .again
    · simp only [ne_eq, again, not_false_eq_true, if_true]
      exact .dropped _ [] again (Or.inl rfl)
  · split
    · split
      · exact enqueued_enqueuePrepared (.copied _)
      · exact .dropped (-ENOMEM) [] (by decide) (Or.inl rfl)
    · exact enqueued_enqueuePrepared .same

/-- `mpdccptun_xmit_skb` either fails without freeing the packet, or
`kernel_sendmsg` has accepted it and the packet is freed if it was empty. -/
theorem mpdccptunXmitSkb_cases (tdat : Mpdccptun) {skb : SkBuff} {sendmsg : Int}
    (result : SendmsgResult skb sendmsg) :
    (∃ ret called, ret < 0 ∧ (∀ value, called = some value → value < 0) ∧
        (sendmsgCalled tdat = true → sendmsg < 0) ∧
        mpdccptunXmitSkb tdat skb sendmsg = (ret, called, [])) ∨
      (0 ≤ sendmsg ∧ sendmsgCalled tdat = true ∧ ∃ ret, 0 ≤ ret ∧
        mpdccptunXmitSkb tdat skb sendmsg =
          (ret, some sendmsg, if sendmsg = 0 then [skb.id] else [])) := by
  unfold mpdccptunXmitSkb doXmitSkb
  by_cases stopped : tdat.tostop = true
  · exact Or.inl ⟨-EPERM, none, by decide, by simp, by simp [sendmsgCalled, stopped],
      if_pos stopped⟩
  rw [if_neg stopped]
  cases socket : xmitSock tdat with
  | none =>
      exact Or.inl ⟨-ENOTCONN, none, by decide, by simp, by simp [sendmsgCalled, socket],
        rfl⟩
  | some sock =>
      by_cases negative : sendmsg < 0
      · have nonzero : sendmsg ≠ 0 := by omega
        refine Or.inl ⟨sendmsg, some sendmsg, negative, ?_, fun _ => negative, ?_⟩
        · intro value valueEq
          obtain rfl := Option.some.inj valueEq
          exact negative
        · simp [negative, nonzero]
      · have bounded : skb.len < 2 ^ 31 := by
          rcases result with isError | accepted
          · exact absurd isError negative
          · exact accepted.1
        have nonneg : 0 ≤ toInt32 skb.len := by
          simp only [toInt32, bounded, if_true]
          omega
        exact Or.inr ⟨by omega, by simp [sendmsgCalled, stopped, socket], toInt32 skb.len,
          nonneg, by simp [negative]⟩

/-- Everything `mpdccptun_elab_xmit2` can do with a packet: leave it to be
requeued, free it on an error, free it when it was empty and sent, or forget
it when it was sent. -/
theorem mpdccptunElabXmit2_cases (tdat : Mpdccptun) {skb : SkBuff} {sendmsg : Int}
    (result : SendmsgResult skb sendmsg) :
    (∃ called, (∀ value, called = some value → value < 0) ∧
        (sendmsgCalled tdat = true → sendmsg < 0) ∧
        mpdccptunElabXmit2 tdat skb sendmsg =
          (-EAGAIN, { tdat with
            stats := { tdat.stats with txDropped := tdat.stats.txDropped + 1 } },
            called, [])) ∨
      (∃ ret called, ret < 0 ∧ ret ≠ -EAGAIN ∧
        (∀ value, called = some value → value < 0) ∧
        (sendmsgCalled tdat = true → sendmsg < 0) ∧
        mpdccptunElabXmit2 tdat skb sendmsg =
          (ret, { tdat with
            stats := { tdat.stats with
              txDropped := tdat.stats.txDropped + 1
              txErrors := tdat.stats.txErrors + 1 } },
            called, [skb.id])) ∨
      (0 ≤ sendmsg ∧ sendmsgCalled tdat = true ∧
        mpdccptunElabXmit2 tdat skb sendmsg =
          (0, { tdat with
            stats := { tdat.stats with
              txPackets := tdat.stats.txPackets + 1
              txBytes := tdat.stats.txBytes + skb.len } },
            some sendmsg, if sendmsg = 0 then [skb.id] else [])) := by
  unfold mpdccptunElabXmit2
  rcases mpdccptunXmitSkb_cases tdat result with
    ⟨ret, called, negative, unaccepted, refused, eq⟩ | ⟨nonneg, socket, ret, retNonneg, eq⟩
  · by_cases again : ret = -EAGAIN
    · left
      refine ⟨called, unaccepted, refused, ?_⟩
      subst again
      rw [eq]
      rfl
    · right
      left
      refine ⟨ret, called, negative, again, unaccepted, refused, ?_⟩
      rw [eq]
      simp only [negative, again, if_true, if_false, List.nil_append]
  · right
    right
    refine ⟨nonneg, socket, ?_⟩
    rw [eq]
    simp only [Int.not_lt.mpr retNonneg, if_false]

/-- The transitions of the system, one constructor for each way a step can go,
with what it requires and the state it leads to. -/
inductive Moves (state : XmitState) : Label → XmitState → Prop
  | refused {label : Label} (slot : Nat) (skb : SkBuff) (taken : List BufId)
      (submission : label.IsSubmission) (idle : state.submit slot = .idle)
      (fresh : Fresh state skb.id)
      (buffers : taken = [] ∨ taken = [skb.id] ∨ taken = [skb.id, .copy skb.id]) :
      Moves state label
        { state with
          submit := Function.update state.submit slot .idle
          acquired := state.acquired ++ taken
          freed := state.freed ++ taken }
  | put {label : Label} (slot : Nat) (skb packet : SkBuff) (taken freed : List BufId)
      (submission : label.IsSubmission) (idle : state.submit slot = .idle)
      (fresh : Fresh state skb.id) (prepared : Prepared skb packet taken freed) :
      Moves state label
        { state with
          tdat := { state.tdat with
            xmitQueue := (tpqEnqueue state.tdat.xmitQueue packet).1 }
          submit := Function.update state.submit slot .put
          acquired := state.acquired ++ taken
          freed := state.freed ++
            (freed ++ (tpqEnqueue state.tdat.xmitQueue packet).2.map SkBuff.id)
          put := state.put ++ [packet.id] }
  | noMemory {label : Label} (submission : label.IsSubmission) : Moves state label state
  | readFlag (slot : Nat) (put : state.submit slot = .put) :
      Moves state (.readFlag slot)
        { state with
          submit := Function.update state.submit slot
            (if state.tdat.hasDelayedWork then .idle else .queueing) }
  | queueXmit (slot : Nat) (queueing : state.submit slot = .queueing) :
      Moves state (.queueXmit slot)
        { state with
          submit := Function.update state.submit slot .idle
          pending := Function.update state.pending .xmit true }
  | start (work : Work) (idle : state.handler work = .idle)
      (queued : state.pending work = true) :
      Moves state (.start work)
        (atPc { state with pending := Function.update state.pending work false }
          work .started)
  | clearFlag (work : Work) (started : state.handler work = .started) :
      Moves state (.clearFlag work)
        (atPc { state with tdat := { state.tdat with hasDelayedWork := false } }
          work (.loop 0))
  | dequeueNone (work : Work) (cnt : Nat) (looping : state.handler work = .loop cnt)
      (empty : (tpqDequeue state.tdat.xmitQueue).1 = none) :
      Moves state (.dequeue work) (atPc state work .idle)
  | dequeueSome (work : Work) (cnt : Nat) (skb : SkBuff) (queue : TpQueue SkBuff)
      (looping : state.handler work = .loop cnt)
      (dequeued : tpqDequeue state.tdat.xmitQueue = (some skb, queue)) :
      Moves state (.dequeue work)
        (atPc { state with tdat := { state.tdat with xmitQueue := queue } }
          work (.holding cnt skb))
  | sendAgain (work : Work) (sendmsg : Int) (cnt : Nat) (skb : SkBuff)
      (holding : state.handler work = .holding cnt skb)
      (refused : sendmsgCalled state.tdat = true → sendmsg < 0) :
      Moves state (.send work sendmsg)
        (atPc { state with
          tdat := { state.tdat with
            stats := { state.tdat.stats with
              txDropped := state.tdat.stats.txDropped + 1 } } }
          work (.requeueing skb))
  | sendFailed (work : Work) (sendmsg : Int) (cnt : Nat) (skb : SkBuff)
      (holding : state.handler work = .holding cnt skb)
      (refused : sendmsgCalled state.tdat = true → sendmsg < 0) :
      Moves state (.send work sendmsg)
        (atPc { state with
          tdat := { state.tdat with
            stats := { state.tdat.stats with
              txDropped := state.tdat.stats.txDropped + 1
              txErrors := state.tdat.stats.txErrors + 1 } }
          freed := state.freed ++ [skb.id] }
          work .setFlag)
  | sent (work : Work) (sendmsg : Int) (cnt : Nat) (skb : SkBuff)
      (holding : state.handler work = .holding cnt skb) (nonneg : 0 ≤ sendmsg)
      (called : sendmsgCalled state.tdat = true) :
      Moves state (.send work sendmsg)
        (atPc { state with
          tdat := { state.tdat with
            stats := { state.tdat.stats with
              txPackets := state.tdat.stats.txPackets + 1
              txBytes := state.tdat.stats.txBytes + skb.len } }
          freed := state.freed ++ if sendmsg = 0 then [skb.id] else []
          accepted := state.accepted ++ [(skb.id, sendmsg)] }
          work (afterSent cnt))
  | requeue (work : Work) (skb : SkBuff)
      (requeueing : state.handler work = .requeueing skb) :
      Moves state (.requeue work)
        (atPc { state with
          tdat := { state.tdat with xmitQueue := tpqRequeue state.tdat.xmitQueue skb } }
          work .setFlag)
  | queueNext (work : Work) (atEnd : state.handler work = .queueNext) :
      Moves state (.queueNext work)
        (atPc { state with pending := Function.update state.pending .xmit true }
          work .idle)
  | setFlag (work : Work) (failed : state.handler work = .setFlag) :
      Moves state (.setFlag work)
        (atPc { state with tdat := { state.tdat with hasDelayedWork := true } }
          work .queueDelayed)
  | queueDelayed (work : Work) (flagged : state.handler work = .queueDelayed) :
      Moves state (.queueDelayed work)
        (atPc { state with pending := Function.update state.pending .delayed true }
          work .idle)
  | connection (members : ConnMembers) :
      Moves state (.connection members)
        { state with
          tdat := { state.tdat with
            wasconnected := members.wasconnected
            isconnected := members.isconnected
            listening := members.listening
            lastUnconnect := members.lastUnconnect
            sock := members.sock
            active := members.active } }
  | setPolicy (policy : Int) :
      Moves state (.setPolicy policy)
        { state with
          tdat := { state.tdat with xmitQueue := tpqSetPolicy state.tdat.xmitQueue policy } }
  | setMaxlen (maxlen : Int) :
      Moves state (.setMaxlen maxlen)
        { state with
          tdat := { state.tdat with xmitQueue := tpqSetMaxlen state.tdat.xmitQueue maxlen } }

theorem moves_of_dropped {state : XmitState} {label : Label} {slot : Nat} {skb : SkBuff}
    {ret : Int} {allocated : List BufId} (submission : label.IsSubmission)
    (idle : state.submit slot = .idle) (fresh : Fresh state skb.id)
    (packet : allocated = [] ∨ allocated = [.copy skb.id]) :
    Moves state label
      (submitted state slot [skb.id]
        { ret := ret
          tdat := state.tdat
          allocated := allocated
          freed := skb.id :: allocated
          put := []
          reached := false }) := by
  have buffers : skb.id :: allocated = [] ∨ skb.id :: allocated = [skb.id] ∨
      skb.id :: allocated = [skb.id, .copy skb.id] := by
    rcases packet with rfl | rfl
    · exact Or.inr (Or.inl rfl)
    · exact Or.inr (Or.inr rfl)
  simpa [submitted] using Moves.refused slot skb (skb.id :: allocated) submission
    idle fresh buffers

theorem moves_of_put {state : XmitState} {label : Label} {slot : Nat} {skb packet : SkBuff}
    {allocated freed : List BufId} (submission : label.IsSubmission)
    (idle : state.submit slot = .idle) (fresh : Fresh state skb.id)
    (prepared : Prepared skb packet (skb.id :: allocated) freed) :
    Moves state label
      (submitted state slot [skb.id]
        { ret := 0
          tdat := { state.tdat with
            xmitQueue := (tpqEnqueue state.tdat.xmitQueue packet).1 }
          allocated := allocated
          freed := freed ++ (tpqEnqueue state.tdat.xmitQueue packet).2.map SkBuff.id
          put := [packet.id]
          reached := true }) := by
  simpa [submitted] using Moves.put slot skb packet (skb.id :: allocated) freed
    submission idle fresh prepared

/-- A packet handed over by the network stack. -/
theorem moves_of_given {state : XmitState} {label : Label} {slot : Nat} {skb : SkBuff}
    {outcome : EnqueueOutcome} (submission : label.IsSubmission)
    (idle : state.submit slot = .idle) (fresh : Fresh state skb.id)
    (enqueued : Enqueued state.tdat skb outcome) :
    Moves state label
      (submitted state slot (if outcome.ret = -EAGAIN then [] else [skb.id]) outcome) := by
  cases enqueued with
  | again =>
      simpa [submitted] using Moves.refused slot skb [] submission idle fresh
        (Or.inl rfl)
  | dropped ret allocated notAgain packet =>
      simp only [notAgain, if_false]
      exact moves_of_dropped submission idle fresh packet
  | put packet allocated freed prepared =>
      exact moves_of_put submission idle fresh prepared

/-- A packet that the tunnel has allocated itself. -/
theorem moves_of_allocated {state : XmitState} {label : Label} {slot : Nat} {skb : SkBuff}
    {outcome : EnqueueOutcome} (submission : label.IsSubmission)
    (idle : state.submit slot = .idle) (fresh : Fresh state skb.id)
    (enqueued : Enqueued state.tdat skb outcome) :
    Moves state label
      (submitted state slot [skb.id]
        { outcome with
          freed := outcome.freed ++ (if outcome.ret = -EAGAIN then [skb.id] else []) }) := by
  cases enqueued with
  | again =>
      simpa [submitted] using Moves.refused slot skb [skb.id] submission idle fresh
        (Or.inr (Or.inl rfl))
  | dropped ret allocated notAgain packet =>
      simp only [notAgain, if_false, List.append_nil]
      exact moves_of_dropped submission idle fresh packet
  | put packet allocated freed prepared =>
      have notAgain : ¬ (0 : Int) = -EAGAIN := by decide
      simp only [notAgain, if_false, List.append_nil]
      exact moves_of_put submission idle fresh prepared

/-- A call that the socket refuses, or that is not made, is not recorded. -/
theorem recorded_eq_nil {called : Option Int} (id : BufId)
    (unaccepted : ∀ value, called = some value → value < 0) :
    (match called with
      | some result => if 0 ≤ result then [(id, result)] else []
      | none => []) = [] := by
  cases called with
  | none => rfl
  | some value =>
      have negative : ¬0 ≤ value := Int.not_le.mpr (unaccepted value rfl)
      simp only [negative, if_false]

theorem moves_of_stepSend {state next : XmitState} {work : Work}
    {sendmsg : Int} {cnt : Nat} {skb : SkBuff}
    (holding : state.handler work = .holding cnt skb)
    (stepped : stepSend state work sendmsg cnt skb = some next) :
    Moves state (.send work sendmsg) next := by
  unfold stepSend at stepped
  split at stepped
  · rename_i result
    rcases mpdccptunElabXmit2_cases state.tdat result with
      ⟨called, unaccepted, refused, eq⟩ |
        ⟨ret, called, negative, notAgain, unaccepted, refused, eq⟩ |
        ⟨nonneg, socket, eq⟩
    · rw [eq] at stepped
      have recorded := recorded_eq_nil skb.id unaccepted
      simp only [recorded, List.append_nil, if_true, Option.some.injEq] at stepped
      subst stepped
      exact .sendAgain work sendmsg cnt skb holding refused
    · rw [eq] at stepped
      have recorded := recorded_eq_nil skb.id unaccepted
      simp only [recorded, List.append_nil, notAgain, negative, if_true, if_false,
        Option.some.injEq] at stepped
      subst stepped
      exact .sendFailed work sendmsg cnt skb holding refused
    · rw [eq] at stepped
      have notAgain : ¬ (0 : Int) = -EAGAIN := by decide
      simp only [nonneg, if_true, notAgain, if_false, Int.lt_irrefl,
        Option.some.injEq] at stepped
      subst stepped
      exact .sent work sendmsg cnt skb holding nonneg socket
  · exact absurd stepped (by simp)

/-- Every step is one of the transitions. -/
theorem moves_of_step {hz : Nat} {state next : XmitState} {label : Label}
    (stepped : step hz state label = some next) : Moves state label next := by
  cases label with
  | ldtMpdccptunXmit slot skb jiffies realloc =>
      simp only [step, stepLdtMpdccptunXmit] at stepped
      split at stepped
      · rename_i enabled
        obtain rfl := Option.some.inj stepped
        exact moves_of_given trivial enabled.1 enabled.2
          (enqueued_mpdccptunDoEnqueue hz state.tdat skb jiffies realloc)
      · exact absurd stepped (by simp)
  | mpdccptunXmit slot alloc data jiffies realloc =>
      simp only [step, stepMpdccptunXmit] at stepped
      cases alloc with
      | none =>
          obtain rfl := Option.some.inj stepped
          exact .noMemory trivial
      | some id =>
          simp only at stepped
          split at stepped
          · rename_i enabled
            obtain rfl := Option.some.inj stepped
            exact moves_of_allocated trivial enabled.1 enabled.2
              (enqueued_mpdccptunDoEnqueue hz state.tdat
                (devAllocSkb id (mpdccptunNeedheadroom state.tdat) data.1 data.2)
                jiffies realloc)
          · exact absurd stepped (by simp)
  | readFlag slot =>
      simp only [step] at stepped
      split at stepped
      · rename_i put
        obtain rfl := Option.some.inj stepped
        exact .readFlag slot put
      · exact absurd stepped (by simp)
  | queueXmit slot =>
      simp only [step] at stepped
      split at stepped
      · rename_i queueing
        obtain rfl := Option.some.inj stepped
        exact .queueXmit slot queueing
      · exact absurd stepped (by simp)
  | start work =>
      simp only [step] at stepped
      split at stepped
      · rename_i idle queued
        obtain rfl := Option.some.inj stepped
        exact .start work idle queued
      · exact absurd stepped (by simp)
  | clearFlag work =>
      simp only [step] at stepped
      split at stepped
      · rename_i started
        obtain rfl := Option.some.inj stepped
        exact .clearFlag work started
      · exact absurd stepped (by simp)
  | dequeue work =>
      simp only [step] at stepped
      split at stepped
      · rename_i cnt looping
        split at stepped
        · rename_i queue empty
          obtain rfl := Option.some.inj stepped
          exact .dequeueNone work cnt looping (by rw [empty])
        · rename_i skb queue dequeued
          obtain rfl := Option.some.inj stepped
          exact .dequeueSome work cnt skb queue looping dequeued
      · exact absurd stepped (by simp)
  | send work sendmsg =>
      simp only [step] at stepped
      split at stepped
      · rename_i cnt skb holding
        exact moves_of_stepSend holding stepped
      · exact absurd stepped (by simp)
  | requeue work =>
      simp only [step] at stepped
      split at stepped
      · rename_i skb requeueing
        obtain rfl := Option.some.inj stepped
        exact .requeue work skb requeueing
      · exact absurd stepped (by simp)
  | queueNext work =>
      simp only [step] at stepped
      split at stepped
      · rename_i atEnd
        obtain rfl := Option.some.inj stepped
        exact .queueNext work atEnd
      · exact absurd stepped (by simp)
  | setFlag work =>
      simp only [step] at stepped
      split at stepped
      · rename_i failed
        obtain rfl := Option.some.inj stepped
        exact .setFlag work failed
      · exact absurd stepped (by simp)
  | queueDelayed work =>
      simp only [step] at stepped
      split at stepped
      · rename_i flagged
        obtain rfl := Option.some.inj stepped
        exact .queueDelayed work flagged
      · exact absurd stepped (by simp)
  | connection members =>
      obtain rfl := Option.some.inj stepped
      exact .connection members
  | setPolicy policy =>
      obtain rfl := Option.some.inj stepped
      exact .setPolicy policy
  | setMaxlen maxlen =>
      obtain rfl := Option.some.inj stepped
      exact .setMaxlen maxlen

end Tunprox.Transmit
