import Tunprox.ConnectionSocket
import Tunprox.LabelledRun
import Tunprox.WaitEvent

/-!
# Setting the peer and waiting for the connection

`ldt_tun_setpeer` of the tool subscribes to the events, sends the `PEER` command,
waits for its reply and then for the event that tells how the connection went.
In the kernel module the handler of the command queues `work_conn`, raises
`LDT_EVTYPE_REBIND` and replies, while `connect_handler` raises its event from
another context.  All messages go to one socket, in the order in which they are
sent.  The tool finds the connection established exactly when
`connect_handler` raises its event after the reply, and no event that the tool
takes for its own is raised in between.
-/

namespace Tunprox.SetPeer

open Errno LabelledRun Event InputLoop Netlink WaitEvent Connection
open ConnectionSocket (allSucceed serverAddress)

/-- The types `ldt_tun_setpeer` waits for. -/
def setpeerMask : BitVec 64 :=
  evBit .tundown ||| evBit .ifdown ||| evBit .tpdown ||| evBit .rebind |||
    evBit .connEstabFail ||| evBit .connEstab

/-- What `ldt_tun_setpeer` returns, the event it took, and the reason with which
it asks the kernel module to send `LDT_EVTYPE_CONN_ESTAB_FAIL`; `errno` is that
of the call that failed. -/
structure SetpeerResult where
  ret : Int
  evinfo : Option LdtEvinfo
  evsend : Option Int

/-- The end of `ldt_tun_setpeer`, with the event `ldt_waitifaceev` has returned. -/
def setpeerOutcome (evinfo : LdtEvinfo) : SetpeerResult :=
  match evinfo.evtype with
  | .connEstab => ⟨RERR_OK, some evinfo, none⟩
  | .tundown | .ifdown | .tpdown | .rebind => ⟨RERR_FAIL, some evinfo, some ENOTCONN⟩
  | .connEstabFail => ⟨RERR_SYSTEM, some evinfo, none⟩
  | _ => ⟨RERR_FAIL, some evinfo, none⟩

/-- `ldt_tun_setpeer` with the messages it receives; `wait` tells whether the
timeout is not zero.  The calls of `ldt_mayclose`, also that in `do_tun_setpeer`, are
left out: `ldt_event_open` opens the socket, and `autoopen` is 0 then. -/
def ldtTunSetpeer (name : List UInt8) (wait : Bool) (errno : Int)
    (deliveries : List Delivery) : SetpeerResult :=
  let subscribed := ldtNlGetret deliveries
  let answered := ldtNlGetret subscribed.2
  if answered.1 < 0 then ⟨answered.1, none, none⟩
  else if !wait then ⟨RERR_OK, none, none⟩
  else
    match (ldtWaitifaceev (some name) setpeerMask false answered.2).1 with
    | .error ret => ⟨ret, none, if ret = RERR_TIMEDOUT then none else some errno⟩
    | .ok evinfo => setpeerOutcome evinfo

/-- How far the requests of the tool have come in the kernel module; `ret` is
what `mpdccptun_peer` has returned. -/
inductive Phase where
  | start
  | subscribed
  | called (ret : Int)
  | rebound (ret : Int)
  | replied (ret : Int)
  deriving DecidableEq, Repr

/-- The tunnel, the handler of the requests, `connect_handler` after
`mpdccptun_elab_connect` has returned, and the messages sent to the tool. -/
structure PeerState where
  conn : ConnState
  phase : Phase
  report : Option Int
  listens : Bool
  sent : List Delivery

inductive Label where
  | subscribe (ret : Int)
  | peer (addr : Option TpAddr)
  | rebind (subflowReport : Option (List UInt8))
  | reply
  | connect (calls : BindCalls) (kernelConnect : Int) (jiffies : Nat)
  | report (subflowReport : Option (List UInt8))
  | tunnel (label : Connection.Label)
  | other (event : RecvEvent)

/-- `send_ret`; the netlink layer sends the error of a handler that fails. -/
def sendRet (ret : Int) : Delivery :=
  if ret = 0 then .info 0 else .nlmsgError ret true

/-- The text of an event on the device, with the reason of a failure or the
subflow that another context is reporting at the time. -/
def textOn (name : List UInt8) (type : EvType) (reason : Option Int)
    (subflowReport : Option (List UInt8)) : EventText :=
  match ldtEventGetinfo type.num with
  | .error _ => evUnknown.text
  | .ok info =>
      { info.text with iface := some name, reason := reason, subflow := subflowReport }

/-- An event reaches the tool once it has subscribed. -/
def deliver (state : PeerState) (event : RecvEvent) : PeerState :=
  if state.listens then { state with sent := state.sent ++ [.event event] } else state

section
variable (hz : Nat) (name : List UInt8) (xmlParse : EventText → Except Int XmlEvent)

/-- `ldt_event_crsend` on the tunnel of the device, as the tool receives it. -/
def crsend (state : PeerState) (type : EvType) (reason : Option Int)
    (subflowReport : Option (List UInt8)) : PeerState :=
  deliver state ⟨type, some (xmlParse (textOn name type reason subflowReport))⟩

/-- The steps of the kernel module, with `xml_parse` of the tool as a parameter. -/
def step (state : PeerState) : Label → Option PeerState
  | .subscribe ret =>
      if state.phase = .start then
        some { state with
          phase := .subscribed
          listens := ret == 0
          sent := state.sent ++ [sendRet ret] }
      else none
  | .peer addr =>
      if state.phase = .subscribed then
        let called := mpdccptunPeer state.conn addr
        some { state with conn := called.2, phase := .called called.1 }
      else none
  | .rebind subflowReport =>
      match state.phase with
      | .called ret =>
          let rebound := { state with phase := .rebound ret }
          if ret = 0 then some (crsend name xmlParse rebound .rebind none subflowReport)
          else some rebound
      | _ => none
  | .reply =>
      match state.phase with
      | .rebound ret =>
          some { state with phase := .replied ret, sent := state.sent ++ [sendRet ret] }
      | _ => none
  | .connect calls kernelConnect jiffies =>
      if state.conn.connQueued ∧ state.report = none then
        let connected := mpdccptunElabConnect hz { state.conn with connQueued := false } calls
          kernelConnect jiffies
        some { state with conn := connected.2, report := some connected.1 }
      else none
  | .report subflowReport =>
      match state.report with
      | none => none
      | some ret =>
          let reported := { state with report := none }
          if ret < 0 then
            some (crsend name xmlParse reported .connEstabFail (some (-ret)) none)
          else some (crsend name xmlParse reported .connEstab none subflowReport)
  | .tunnel (.connectHandler ..) => none
  | .tunnel label =>
      (Connection.step hz state.conn label).map fun conn => { state with conn := conn }
  | .other event => some (deliver state event)

end

/-- Before the tool opens its socket; `connect_handler` may be running. -/
def initial (conn : ConnState) (report : Option Int) : PeerState where
  conn := conn
  phase := .start
  report := report
  listens := false
  sent := []

/-- The event is about the device. -/
def names (name : List UInt8) (iface : Option (List UInt8)) : Bool :=
  match iface with
  | none => false
  | some iface => strcaseeq iface name

/-- The tool takes the event that the connection of the device is established,
and succeeds. -/
def Consumes (name : List UInt8) (result : SetpeerResult) : Prop :=
  result.ret = RERR_OK ∧
    ∃ evinfo, result.evinfo = some evinfo ∧ evinfo.evtype = .connEstab ∧
      names name evinfo.iface = true

/-- The tool goes on waiting after the event: it is of none of the six types, or
it tells that another device went down or was rebound. -/
def Ignored (name : List UInt8) (event : RecvEvent) : Prop :=
  event.evtype ∉ [.tundown, .ifdown, .tpdown, .rebind, .connEstabFail, .connEstab] ∨
    (event.evtype = .ifdown ∨ event.evtype = .rebind) ∧
      ∃ iface, RecvEvent.iface event = some iface ∧ strcaseeq iface name = false

/-- The event that the connection of the device is established. -/
def OwnEstab (name : List UInt8) (event : RecvEvent) : Prop :=
  event.evtype = .connEstab ∧ names name (RecvEvent.iface event) = true

theorem setpeerMask_getLsbD (type : EvType) :
    setpeerMask.getLsbD type.num = true ↔
      type ∈ [.tundown, .ifdown, .tpdown, .rebind, .connEstabFail, .connEstab] := by
  cases type <;> decide

theorem toMask_setpeerMask : toMask setpeerMask ≠ 0#32 := by
  decide

theorem tpGetparseflags_of_mem {type : EvType}
    (listed : type ∈ [.tundown, .ifdown, .tpdown, .rebind, .connEstabFail, .connEstab]) :
    tpGetparseflags type = true ↔ type = .ifdown ∨ type = .rebind := by
  revert listed
  cases type <;> decide

theorem namesOther_eq_true_iff {name : List UInt8} {iface : Option (List UInt8)} :
    namesOther (some name) iface = true ↔
      ∃ other, iface = some other ∧ strcaseeq other name = false := by
  cases iface with
  | none => simp [namesOther]
  | some other => simp [namesOther]

theorem sarg_of_iface {event : RecvEvent} {iface : List UInt8}
    (named : RecvEvent.iface event = some iface) : ∃ xml, event.sarg = some (.ok xml) := by
  unfold RecvEvent.iface at named
  split at named
  · rename_i xml sargEq
    exact ⟨xml, sargEq⟩
  · contradiction

theorem verdict_eq_none_iff {name : List UInt8} {event : RecvEvent} :
    verdict (some name) setpeerMask false (.event event) = none ↔ Ignored name event := by
  simp only [verdict, toMask_setpeerMask, false_or, getLsbD_toMask, setpeerMask_getLsbD,
    Ignored]
  split
  · rename_i listed
    simp only [listed, not_true_eq_false, false_or, waitifaceevBody]
    rw [← tpGetparseflags_of_mem listed]
    split
    · rename_i ret failed
      constructor
      · intro impossible
        contradiction
      · rintro ⟨-, iface, named, -⟩
        have parses : ∃ evinfo, ldtIfaceevParse event (tpGetparseflags event.evtype) =
            .ok evinfo := by
          rw [exists_ldtIfaceevParse_iff]
          exact ⟨sarg_of_iface named, .inr (by simp [named])⟩
        obtain ⟨evinfo, parsed⟩ := parses
        rw [failed] at parsed
        contradiction
    · rename_i evinfo parsed
      rw [(evinfo_of_ldtIfaceevParse parsed).2, ← namesOther_eq_true_iff]
      split
      · rename_i skipped
        simpa using skipped
      · rename_i taken
        simpa using taken
  · rename_i unlisted
    simp [unlisted]

theorem verdict_of_ownEstab {name : List UInt8} {event : RecvEvent}
    (own : OwnEstab name event) :
    ∃ evinfo, verdict (some name) setpeerMask false (.event event) = some (.ok evinfo) ∧
      evinfo.evtype = .connEstab ∧ names name evinfo.iface = true := by
  obtain ⟨evtype, named⟩ := own
  have unneeded : tpGetparseflags event.evtype = false := by
    rw [evtype]
    decide
  have listed : setpeerMask.getLsbD event.evtype.num = true := by
    rw [evtype]
    decide
  have parses : ∃ evinfo, ldtIfaceevParse event (tpGetparseflags event.evtype) =
      .ok evinfo := by
    rw [exists_ldtIfaceevParse_iff]
    refine ⟨?_, .inl unneeded⟩
    cases iface : RecvEvent.iface event with
    | none => simp [names, iface] at named
    | some found => exact sarg_of_iface iface
  obtain ⟨evinfo, parsed⟩ := parses
  obtain ⟨evtypeEq, ifaceEq⟩ := evinfo_of_ldtIfaceevParse parsed
  refine ⟨evinfo, ?_, evtypeEq.trans evtype, ifaceEq ▸ named⟩
  rw [verdict_event_eq_ok_iff]
  exact ⟨.inr listed, parsed, .inl unneeded⟩

theorem ownEstab_of_verdict {name : List UInt8} {event : RecvEvent} {evinfo : LdtEvinfo}
    (taken : verdict (some name) setpeerMask false (.event event) = some (.ok evinfo))
    (evtype : evinfo.evtype = .connEstab) (named : names name evinfo.iface = true) :
    OwnEstab name event := by
  have parsed := (verdict_event_eq_ok_iff.mp taken).2.1
  obtain ⟨evtypeEq, ifaceEq⟩ := evinfo_of_ldtIfaceevParse parsed
  exact ⟨evtypeEq.symm.trans evtype, ifaceEq ▸ named⟩

theorem getinfoBody_events (events : List RecvEvent) :
    ∀ delivery ∈ events.map Delivery.event, getinfoBody delivery = none := by
  intro delivery member
  obtain ⟨event, -, rfl⟩ := List.mem_map.mp member
  rfl

theorem ldtGetinfo_events_append (events : List RecvEvent) (rest : List Delivery) :
    ldtGetinfo.read (events.map .event ++ rest) = ldtGetinfo.read rest :=
  readUntil_append (getinfoBody_events events) rest

/-- `ldt_nl_getret` drops the events that come before the reply. -/
theorem ldtNlGetret_sendRet (events : List RecvEvent) (ret : Int) (rest : List Delivery) :
    ldtNlGetret (events.map .event ++ sendRet ret :: rest) =
      (if ret = 0 then RERR_OK else RERR_SYSTEM, rest) := by
  unfold ldtNlGetret
  rw [ldtGetinfo_events_append]
  by_cases succeeded : ret = 0
  · simp [sendRet, succeeded, ldtGetinfo, Reader.until, readUntil, getinfoBody]
  · simp only [sendRet, succeeded, if_false, ldtGetinfo, Reader.until, readUntil, getinfoBody]
    by_cases truncated : errorCmd ret < NLMSGERR_LENGTH
    · simp [truncated]
    · simp [truncated, succeeded]

theorem ldtNlGetret_events (events : List RecvEvent) :
    ldtNlGetret (events.map .event) = (RERR_TIMEDOUT, []) := by
  unfold ldtNlGetret
  rw [← List.append_nil (events.map Delivery.event), ldtGetinfo_events_append]
  rfl

/-- What a step sends and what it does to the phase. -/
inductive Outcome (state : PeerState) (label : Label) (next : PeerState) : Prop where
  | subscribed (ret : Int) (before : state.phase = .start) (after : next.phase = .subscribed)
      (sentEq : next.sent = state.sent ++ [sendRet ret])
  | replied (ret : Int) (isReply : label = .reply) (before : state.phase = .rebound ret)
      (after : next.phase = .replied ret) (sentEq : next.sent = state.sent ++ [sendRet ret])
  | quiet (events : List RecvEvent) (sentEq : next.sent = state.sent ++ events.map .event)
      (listens : next.listens = state.listens) (silent : state.listens = false → events = [])
      (start : next.phase = .start ↔ state.phase = .start)
      (replied : ∀ ret, next.phase = .replied ret ↔ state.phase = .replied ret)

theorem Outcome.of_sent_eq {state next : PeerState} {label : Label}
    (sentEq : next.sent = state.sent) (listens : next.listens = state.listens)
    (start : next.phase = .start ↔ state.phase = .start)
    (replied : ∀ ret, next.phase = .replied ret ↔ state.phase = .replied ret) :
    Outcome state label next :=
  .quiet [] (by simp [sentEq]) listens (fun _ => rfl) start replied

theorem Outcome.of_deliver {state changed : PeerState} {label : Label} (event : RecvEvent)
    (sentEq : changed.sent = state.sent) (listens : changed.listens = state.listens)
    (start : changed.phase = .start ↔ state.phase = .start)
    (replied : ∀ ret, changed.phase = .replied ret ↔ state.phase = .replied ret) :
    Outcome state label (deliver changed event) := by
  unfold deliver
  split
  · rename_i listening
    refine .quiet [event] (by simp [sentEq]) listens (fun deaf => ?_) start replied
    rw [← listens, listening] at deaf
    contradiction
  · exact Outcome.of_sent_eq sentEq listens start replied

theorem step_outcome {hz : Nat} {name : List UInt8}
    {xmlParse : EventText → Except Int XmlEvent} {state next : PeerState} {label : Label}
    (stepped : step hz name xmlParse state label = some next) : Outcome state label next := by
  cases label with
  | subscribe ret =>
      simp only [step] at stepped
      split at stepped
      · rename_i start
        obtain rfl := Option.some.inj stepped
        exact .subscribed ret start rfl rfl
      · contradiction
  | peer addr =>
      simp only [step] at stepped
      split at stepped
      · rename_i subscribed
        obtain rfl := Option.some.inj stepped
        refine Outcome.of_sent_eq rfl rfl ?_ ?_
        · simp [subscribed]
        · simp [subscribed]
      · contradiction
  | rebind subflowReport =>
      simp only [step] at stepped
      split at stepped
      · rename_i ret called
        split at stepped
        · obtain rfl := Option.some.inj stepped
          refine Outcome.of_deliver _ rfl rfl ?_ ?_
          · simp [called]
          · simp [called]
        · obtain rfl := Option.some.inj stepped
          refine Outcome.of_sent_eq rfl rfl ?_ ?_
          · simp [called]
          · simp [called]
      · contradiction
  | reply =>
      simp only [step] at stepped
      split at stepped
      · rename_i ret rebound
        obtain rfl := Option.some.inj stepped
        exact .replied ret rfl rebound rfl rfl
      · contradiction
  | connect calls kernelConnect jiffies =>
      simp only [step] at stepped
      split at stepped
      · obtain rfl := Option.some.inj stepped
        exact Outcome.of_sent_eq rfl rfl Iff.rfl fun _ => Iff.rfl
      · contradiction
  | report subflowReport =>
      simp only [step] at stepped
      split at stepped
      · contradiction
      · split at stepped
        · obtain rfl := Option.some.inj stepped
          exact Outcome.of_deliver _ rfl rfl Iff.rfl fun _ => Iff.rfl
        · obtain rfl := Option.some.inj stepped
          exact Outcome.of_deliver _ rfl rfl Iff.rfl fun _ => Iff.rfl
  | tunnel label =>
      unfold step at stepped
      split at stepped
      all_goals try contradiction
      obtain ⟨conn, -, rfl⟩ := Option.map_eq_some_iff.mp stepped
      exact Outcome.of_sent_eq rfl rfl Iff.rfl fun _ => Iff.rfl
  | other event =>
      obtain rfl := Option.some.inj stepped
      exact Outcome.of_deliver event rfl rfl Iff.rfl fun _ => Iff.rfl

/-- The messages sent in each phase: the reply to the subscription, then events
with the reply to the `PEER` command among them. -/
structure Shape (state : PeerState) : Prop where
  start : state.phase = .start → state.sent = [] ∧ state.listens = false
  asked : state.phase ≠ .start → (∀ ret, state.phase ≠ .replied ret) →
    ∃ (ret : Int) (events : List RecvEvent), state.sent = sendRet ret :: events.map .event
  replied : ∀ ret, state.phase = .replied ret →
    ∃ (first : Int) (events later : List RecvEvent),
      state.sent = sendRet first :: (events.map .event ++ sendRet ret :: later.map .event)

theorem shape_initial (conn : ConnState) (report : Option Int) :
    Shape (initial conn report) where
  start := fun _ => ⟨rfl, rfl⟩
  asked := fun notStart => absurd rfl notStart
  replied := by
    intro ret replied
    contradiction

theorem shape_step {hz : Nat} {name : List UInt8}
    {xmlParse : EventText → Except Int XmlEvent} {state next : PeerState} {label : Label}
    (shape : Shape state) (stepped : step hz name xmlParse state label = some next) :
    Shape next := by
  cases step_outcome stepped with
  | subscribed ret before after sentEq =>
      refine ⟨?_, ?_, ?_⟩
      · simp [after]
      · intro _ _
        refine ⟨ret, [], ?_⟩
        rw [sentEq, (shape.start before).1]
        rfl
      · simp [after]
  | replied ret isReply before after sentEq =>
      obtain ⟨first, events, asked⟩ := shape.asked (by simp [before]) (by simp [before])
      refine ⟨?_, ?_, ?_⟩
      · simp [after]
      · intro _ unreplied
        exact absurd after (unreplied ret)
      · intro other same
        rw [after, Phase.replied.injEq] at same
        subst same
        refine ⟨first, events, [], ?_⟩
        rw [sentEq, asked]
        simp
  | quiet events sentEq listens silent start replied =>
      refine ⟨?_, ?_, ?_⟩
      · intro atStart
        obtain ⟨empty, deaf⟩ := shape.start (start.mp atStart)
        rw [sentEq, silent deaf, empty, listens]
        exact ⟨rfl, deaf⟩
      · intro notStart unreplied
        obtain ⟨ret, before, asked⟩ := shape.asked (fun atStart => notStart (start.mpr atStart))
          (fun ret same => unreplied ret ((replied ret).mpr same))
        refine ⟨ret, before ++ events, ?_⟩
        rw [sentEq, asked]
        simp
      · intro ret same
        obtain ⟨first, before, later, sentBefore⟩ := shape.replied ret ((replied ret).mp same)
        refine ⟨first, before, later ++ events, ?_⟩
        rw [sentEq, sentBefore]
        simp

section
variable {hz : Nat} {name : List UInt8} {xmlParse : EventText → Except Int XmlEvent}

theorem shape_of_run {conn : ConnState} {report : Option Int} {labels : List Label}
    {final : PeerState}
    (ran : run (step hz name xmlParse) (initial conn report) labels = some final) :
    Shape final :=
  invariant_of_run shape_step (shape_initial conn report) ran

/-- After the reply only events are sent. -/
theorem sent_after_reply {state final : PeerState} {labels : List Label} {ret : Int}
    (replied : state.phase = .replied ret)
    (ran : run (step hz name xmlParse) state labels = some final) :
    final.phase = .replied ret ∧
      ∃ later : List RecvEvent, final.sent = state.sent ++ later.map .event := by
  induction labels generalizing state with
  | nil =>
      obtain rfl := Option.some.inj ran
      exact ⟨replied, [], by simp⟩
  | cons label labels ih =>
      obtain ⟨next, stepped, rest⟩ := run_cons_eq_some_iff.mp ran
      cases step_outcome stepped with
      | subscribed ret before after sentEq =>
          rw [replied] at before
          contradiction
      | replied ret isReply before after sentEq =>
          rw [replied] at before
          contradiction
      | quiet events sentEq listens silent start stays =>
          obtain ⟨phase, later, sent⟩ := ih ((stays ret).mpr replied) rest
          refine ⟨phase, events ++ later, ?_⟩
          rw [sent, sentEq]
          simp

/-- A run that has come to the reply contains the step that sent it. -/
theorem exists_reply_step {state final : PeerState} {labels : List Label} {ret : Int}
    (unreplied : ∀ ret, state.phase ≠ .replied ret)
    (ran : run (step hz name xmlParse) state labels = some final)
    (replied : final.phase = .replied ret) :
    ∃ first last next, labels = first ++ .reply :: last ∧
      run (step hz name xmlParse) state (first ++ [.reply]) = some next ∧
        next.phase = .replied ret ∧
          run (step hz name xmlParse) next last = some final := by
  induction labels generalizing state with
  | nil =>
      obtain rfl := Option.some.inj ran
      exact absurd replied (unreplied ret)
  | cons label labels ih =>
      obtain ⟨next, stepped, rest⟩ := run_cons_eq_some_iff.mp ran
      have further (stays : ∀ ret, next.phase ≠ .replied ret) :
          ∃ first last middle, label :: labels = first ++ .reply :: last ∧
            run (step hz name xmlParse) state (first ++ [.reply]) = some middle ∧
              middle.phase = .replied ret ∧
                run (step hz name xmlParse) middle last = some final := by
        obtain ⟨first, last, middle, labelsEq, ranFirst, phase, ranLast⟩ := ih stays rest
        refine ⟨label :: first, last, middle, by simp [labelsEq], ?_, phase, ranLast⟩
        rw [List.cons_append, run_cons_eq_some_iff]
        exact ⟨next, stepped, ranFirst⟩
      cases step_outcome stepped with
      | subscribed ret before after sentEq =>
          apply further
          simp [after]
      | replied sentRet isReply before after sentEq =>
          subst isReply
          have same := (sent_after_reply after rest).1
          rw [replied, Phase.replied.injEq] at same
          subst same
          refine ⟨[], labels, next, rfl, ?_, after, rest⟩
          rw [List.nil_append, run_cons_eq_some_iff]
          exact ⟨next, stepped, rfl⟩
      | quiet events sentEq listens silent start stays =>
          apply further
          intro other same
          exact unreplied other ((stays other).mp same)

/-- What has been sent when the reply has just been sent. -/
theorem sent_at_reply {conn : ConnState} {report : Option Int} {first : List Label}
    {next : PeerState} {ret : Int}
    (ran : run (step hz name xmlParse) (initial conn report) (first ++ [.reply]) = some next)
    (replied : next.phase = .replied ret) :
    ∃ (sub : Int) (events : List RecvEvent),
      next.sent = sendRet sub :: (events.map .event ++ [sendRet ret]) := by
  obtain ⟨middle, ranFirst, stepped⟩ := run_append_singleton_eq_some_iff.mp ran
  have shape := shape_of_run ranFirst
  simp only [step] at stepped
  split at stepped
  · rename_i sentRet rebound
    obtain rfl := Option.some.inj stepped
    obtain ⟨sub, events, asked⟩ := shape.asked (by simp [rebound]) (by simp [rebound])
    rw [Phase.replied.injEq] at replied
    subst replied
    exact ⟨sub, events, by simp [asked]⟩
  · contradiction

theorem sent_append_later {sent : List Delivery} {sub ret : Int} {events : List RecvEvent}
    (sentEq : sent = sendRet sub :: (events.map .event ++ [sendRet ret]))
    (later : List Delivery) :
    sent ++ later = sendRet sub :: (events.map .event ++ sendRet ret :: later) := by
  rw [sentEq]
  simp

theorem consumes_setpeerOutcome_iff {evinfo : LdtEvinfo} :
    Consumes name (setpeerOutcome evinfo) ↔
      evinfo.evtype = .connEstab ∧ names name evinfo.iface = true := by
  unfold setpeerOutcome
  cases evtype : evinfo.evtype <;>
    simp [Consumes, evtype, RERR_OK, RERR_FAIL, RERR_SYSTEM]

/-- The tool reads the reply to the subscription, the events before the reply to
the command, that reply, and then waits. -/
theorem consumes_iff_of_replied (errno sub ret : Int) (events : List RecvEvent)
    (later : List Delivery) :
    Consumes name (ldtTunSetpeer name true errno
        (sendRet sub :: (events.map .event ++ sendRet ret :: later))) ↔
      ret = 0 ∧ ∃ evinfo rest,
        ldtWaitifaceev (some name) setpeerMask false later = (.ok evinfo, rest) ∧
          evinfo.evtype = .connEstab ∧ names name evinfo.iface = true := by
  have subscribed := ldtNlGetret_sendRet [] sub (events.map .event ++ sendRet ret :: later)
  rw [List.map_nil, List.nil_append] at subscribed
  unfold ldtTunSetpeer
  simp only [subscribed, ldtNlGetret_sendRet]
  by_cases succeeded : ret = 0
  · simp only [succeeded, if_true, true_and, Bool.not_true, Bool.false_eq_true, if_false]
    have fine : ¬RERR_OK < 0 := by decide
    simp only [fine, if_false]
    rcases waited : ldtWaitifaceev (some name) setpeerMask false later with ⟨result, rest⟩
    cases result with
    | error failure => simp [Consumes]
    | ok evinfo => simp [consumes_setpeerOutcome_iff]
  · have failed : RERR_SYSTEM < 0 := by decide
    simp [succeeded, failed, Consumes]

theorem not_consumes_of_unanswered (errno sub : Int) (events : List RecvEvent) :
    ¬Consumes name (ldtTunSetpeer name true errno (sendRet sub :: events.map .event)) := by
  have subscribed := ldtNlGetret_sendRet [] sub (events.map .event)
  rw [List.map_nil, List.nil_append] at subscribed
  have failed : RERR_TIMEDOUT < 0 := by decide
  unfold ldtTunSetpeer
  simp [subscribed, ldtNlGetret_events, failed, Consumes]

theorem not_consumes_nil (errno : Int) :
    ¬Consumes name (ldtTunSetpeer name true errno []) := by
  rintro ⟨-, evinfo, impossible, -⟩
  contradiction

/-- Waiting finds the event of the device behind events that are ignored. -/
theorem waits_iff (later : List RecvEvent) :
    (∃ evinfo rest,
      ldtWaitifaceev (some name) setpeerMask false (later.map .event) = (.ok evinfo, rest) ∧
        evinfo.evtype = .connEstab ∧ names name evinfo.iface = true) ↔
      ∃ before event after, later = before ++ event :: after ∧
        (∀ earlier ∈ before, Ignored name earlier) ∧ OwnEstab name event := by
  constructor
  · rintro ⟨evinfo, rest, waited, evtype, named⟩
    obtain ⟨passedBy, delivery, split, passed, taken⟩ := ldtWaitifaceev_eq_ok_iff.mp waited
    obtain ⟨before, tail, rfl, rfl, tailEq⟩ := List.map_eq_append_iff.mp split
    obtain ⟨event, after, rfl, rfl, -⟩ := List.map_eq_cons_iff.mp tailEq
    refine ⟨before, event, after, rfl, fun earlier member => ?_,
      ownEstab_of_verdict taken evtype named⟩
    rw [← verdict_eq_none_iff]
    exact passed _ (List.mem_map_of_mem member)
  · rintro ⟨before, event, after, rfl, ignored, own⟩
    obtain ⟨evinfo, taken, evtype, named⟩ := verdict_of_ownEstab own
    refine ⟨evinfo, after.map .event, ?_, evtype, named⟩
    rw [ldtWaitifaceev_eq_ok_iff]
    refine ⟨before.map .event, .event event, by simp, ?_, taken⟩
    intro delivery member
    obtain ⟨earlier, earlierMem, rfl⟩ := List.mem_map.mp member
    rw [verdict_eq_none_iff]
    exact ignored earlier earlierMem

end

/-- The reply to the command is sent with success, and the first event sent after
it that the tool does not ignore tells that the connection of the device is
established. -/
def EstabAfterReply (hz : Nat) (name : List UInt8)
    (xmlParse : EventText → Except Int XmlEvent) (conn : ConnState) (report : Option Int)
    (labels : List Label) (final : PeerState) : Prop :=
  ∃ first last next before event after,
    labels = first ++ .reply :: last ∧
      run (step hz name xmlParse) (initial conn report) (first ++ [.reply]) = some next ∧
      next.phase = .replied 0 ∧
      final.sent = next.sent ++ (before ++ event :: after).map .event ∧
      (∀ earlier ∈ before, Ignored name earlier) ∧ OwnEstab name event

/-- For every interleaving of the two contexts of the kernel module and every
other event, `ldt_tun_setpeer` takes the event that its connection is established
exactly when that event is sent after the reply and nothing it takes for its own
comes in between. -/
theorem consumes_iff_estabAfterReply (hz : Nat) (name : List UInt8)
    (xmlParse : EventText → Except Int XmlEvent) (conn : ConnState) (report : Option Int)
    (errno : Int) (labels : List Label) (final : PeerState)
    (ran : run (step hz name xmlParse) (initial conn report) labels = some final) :
    Consumes name (ldtTunSetpeer name true errno final.sent) ↔
      EstabAfterReply hz name xmlParse conn report labels final := by
  constructor
  · intro consumes
    have shape := shape_of_run ran
    have started : final.phase ≠ .start := by
      intro atStart
      rw [(shape.start atStart).1] at consumes
      exact not_consumes_nil errno consumes
    have answered : ∃ ret, final.phase = .replied ret := by
      by_contra unanswered
      push Not at unanswered
      obtain ⟨sub, events, sent⟩ := shape.asked started unanswered
      rw [sent] at consumes
      exact not_consumes_of_unanswered errno sub events consumes
    obtain ⟨ret, replied⟩ := answered
    obtain ⟨first, last, next, labelsEq, ranFirst, phase, ranLast⟩ :=
      exists_reply_step (by simp [initial]) ran replied
    obtain ⟨later, finalSent⟩ := (sent_after_reply phase ranLast).2
    obtain ⟨sub, events, nextSent⟩ := sent_at_reply ranFirst phase
    rw [finalSent, sent_append_later nextSent, consumes_iff_of_replied] at consumes
    obtain ⟨rfl, waits⟩ := consumes
    obtain ⟨before, event, after, rfl, ignored, own⟩ := (waits_iff later).mp waits
    exact ⟨first, last, next, before, event, after, labelsEq, ranFirst, phase, finalSent,
      ignored, own⟩
  · rintro ⟨first, last, next, before, event, after, -, ranFirst, phase, finalSent, ignored,
      own⟩
    obtain ⟨sub, events, nextSent⟩ := sent_at_reply ranFirst phase
    rw [finalSent, sent_append_later nextSent, consumes_iff_of_replied, waits_iff]
    exact ⟨rfl, before, event, after, rfl, ignored, own⟩

/-- The elements of a text, as `xml_search` finds them. -/
def readElements (text : EventText) : Except Int XmlEvent :=
  .ok {
    iface := text.iface
    pdev := text.pdev
    desc := some text.desc
    remaddr := none
    remport := none
    subflow := text.subflow }

/-- The client connects after the handler of the command has replied. -/
def connectAfterReply : List Label :=
  [.subscribe 0, .peer (some serverAddress), .rebind none, .reply,
    .connect allSucceed 0 0, .report none]

/-- The client connects before the handler of the command has replied. -/
def connectBeforeReply : List Label :=
  [.subscribe 0, .peer (some serverAddress), .connect allSucceed 0 0, .report none,
    .rebind none, .reply]

/-- The event of the kernel module on the device, as the tool receives it. -/
def ownEvent (name : List UInt8) (type : EvType) : RecvEvent :=
  ⟨type, some (readElements (textOn name type none none))⟩

theorem consumes_connectAfterReply :
    ∃ final, run (step 100 (ascii "ldt0") readElements)
        (initial (Connection.initial false true) none) connectAfterReply = some final ∧
      Consumes (ascii "ldt0") (ldtTunSetpeer (ascii "ldt0") true 0 final.sent) := by
  refine ⟨_, rfl, ?_⟩
  refine (consumes_iff_estabAfterReply 100 (ascii "ldt0") readElements
    (Connection.initial false true) none 0 connectAfterReply _ rfl).mpr ?_
  refine ⟨[.subscribe 0, .peer (some serverAddress), .rebind none],
    [.connect allSucceed 0 0, .report none], _, [], ownEvent (ascii "ldt0") .connEstab, [],
    rfl, rfl, rfl, rfl, by simp, rfl, rfl⟩

/-- The event is sent before the reply and is dropped while the tool waits for
the reply, although nothing else is sent about the device than that it is rebound
and its connection is established. -/
theorem timedout_connectBeforeReply :
    ∃ final, run (step 100 (ascii "ldt0") readElements)
        (initial (Connection.initial false true) none) connectBeforeReply = some final ∧
      final.sent = [sendRet 0, .event (ownEvent (ascii "ldt0") .connEstab),
        .event (ownEvent (ascii "ldt0") .rebind), sendRet 0] ∧
      (ldtTunSetpeer (ascii "ldt0") true 0 final.sent).ret = RERR_TIMEDOUT := by
  refine ⟨_, rfl, rfl, ?_⟩
  unfold ldtTunSetpeer
  simp only [ldtWaitifaceev_eq]
  rfl

end Tunprox.SetPeer
