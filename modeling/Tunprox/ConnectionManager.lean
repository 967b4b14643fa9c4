import Tunprox.LabelledRun
import Tunprox.WaitEvent

/-!
# The connection manager

`cmd_conman` of the tool connects a device, waits until the connection goes down and
connects it again; after the tunnel or the interface was taken down it is to wait until
they are back.  `wait_on_down` has the test of the result of `ldt_waitifaceev` the wrong
way round: it returns at once when it has received an event, and when the wait has failed
it goes by the type in a structure that nothing has filled in.

The messages that arrive are kept in the order of their arrival until they are taken.
Beside the state of the program there are the events of the device that have not been
matched yet, the types of all events received, and the arguments of `wait_on_come_back`.
-/

namespace Tunprox.ConnectionManager

open LabelledRun InputLoop Event Netlink WaitEvent

/-- `RERR_ISOK` -/
def rerrIsok (ret : Int) : Bool :=
  decide (0 ≤ ret)

/-- Where the program is; `waitOnComeBack` has its two local variables. -/
inductive Place where
  | tryConnectAll
  | waitOnDown
  | waitOnComeBack (tundown ifdown : Bool)
  | exited
  deriving DecidableEq

structure State where
  place : Place
  pending : List Delivery
  tunOwed : Bool
  ifOwed : Bool
  received : List Nat
  calls : List Nat

def initial : State where
  place := .tryConnectAll
  pending := []
  tunOwed := false
  ifOwed := false
  received := []
  calls := []

/-- The mask `wait_on_down` waits for. -/
def downMask : BitVec 64 :=
  evBit .down ||| evBit .tundown ||| evBit .ifdown ||| evBit .tpdown

/-- The mask `wait_on_come_back` waits for. -/
def comeBackMask : BitVec 64 :=
  evBit .tunup ||| evBit .tundown ||| evBit .ifdown ||| evBit .ifup ||| evBit .tpdown

/-- The call of `ldt_waitifaceev` without a timeout, if it returns: its nested loops as
one loop over the messages. -/
def wait (name : List UInt8) (mask : BitVec 64) (pending : List Delivery) :
    Option (Except Int LdtEvinfo × List Delivery) :=
  readUntil (verdict (some name) mask false) pending

theorem wait_eq (name : List UInt8) (mask : BitVec 64) (pending : List Delivery) :
    wait name mask pending = (waitifaceev (some name) mask false).read pending := by
  rw [waitifaceev_eq]
  rfl

/-- The event names the device. -/
def namesOwn (name : List UInt8) (evinfo : LdtEvinfo) : Bool :=
  match evinfo.iface with
  | none => false
  | some iface => strcaseeq iface name

/-- The event is received: what it says of the device is owed or settled. -/
def receive (name : List UInt8) (state : State) (evinfo : LdtEvinfo) : State :=
  let own := namesOwn name evinfo
  { state with
    tunOwed :=
      match evinfo.evtype with
      | .tundown => state.tunOwed || own
      | .tunup => state.tunOwed && !own
      | _ => state.tunOwed
    ifOwed :=
      match evinfo.evtype with
      | .ifdown => state.ifOwed || own
      | .ifup => state.ifOwed && !own
      | _ => state.ifOwed
    received := state.received ++ [evinfo.evtype.num] }

/-- A wait fails: nothing is owed any more. -/
def waitFailed (state : State) : State :=
  { state with tunOwed := false, ifOwed := false }

/-- The beginning of `wait_on_come_back`. -/
def enterComeBack (state : State) (evtype : Nat) : State :=
  { state with
    calls := state.calls ++ [evtype]
    place :=
      if evtype = EvType.tpdown.num then .exited
      else .waitOnComeBack (evtype == EvType.tundown.num) (evtype == EvType.ifdown.num) }

/-- The type of the event could be told from the text, which `ldt_ifaceev_parse` does
after it has cleared the structure. -/
def parses (mask : BitVec 64) : Delivery → Bool
  | .event event =>
      mask.getLsbD event.evtype.num &&
        match event.sarg with
        | some (.ok _) => true
        | _ => false
  | _ => false

/-- `evinfo.evtype` after a wait that has failed: it is cleared if one of the messages
taken was parsed, and otherwise what was on the stack. -/
def leftoverEvtype (pending rest : List Delivery) (stack : Nat) : Nat :=
  if (pending.take (pending.length - rest.length)).any (parses downMask) then
    EvType.unspec.num
  else stack

/-- `wait_on_down` up to the call of `wait_on_come_back`. -/
def waitOnDown (name : List UInt8) (state : State) (stack : Nat) : Option State :=
  (wait name downMask state.pending).map fun (result, rest) =>
    let taken := { state with pending := rest }
    match result with
    | .ok evinfo => { receive name taken evinfo with place := .tryConnectAll }
    | .error _ =>
        let evtype := leftoverEvtype state.pending rest stack
        if evtype = EvType.down.num then { waitFailed taken with place := .tryConnectAll }
        else enterComeBack (waitFailed taken) evtype

/-- One turn of the loop of `wait_on_come_back`. -/
def comeBackTurn (name : List UInt8) (state : State) (tundown ifdown : Bool) :
    Option State :=
  (wait name comeBackMask state.pending).map fun (result, rest) =>
    let taken := { state with pending := rest }
    match result with
    | .error _ => { waitFailed taken with place := .tryConnectAll }
    | .ok evinfo =>
        { receive name taken evinfo with
          place :=
            match evinfo.evtype with
            | .tundown => .waitOnComeBack true ifdown
            | .ifdown => .waitOnComeBack tundown true
            | .tunup => if ifdown then .waitOnComeBack false ifdown else .tryConnectAll
            | .ifup => if tundown then .waitOnComeBack tundown false else .tryConnectAll
            | .tpdown => .exited
            | _ => .waitOnComeBack tundown ifdown }

/-- A message arrives; `try_connect_all` takes some messages and returns `ret`; or
`ldt_waitifaceev` returns in one of the two functions that wait, where `stack` is what the
structure holds before. -/
inductive Label where
  | arrive (delivery : Delivery)
  | tryConnectAll (ret : Int) (taken : Nat)
  | wait (stack : Nat)

def step (name : List UInt8) (state : State) : Label → Option State
  | .arrive delivery => some { state with pending := state.pending ++ [delivery] }
  | .tryConnectAll ret taken =>
      match state.place with
      | .tryConnectAll =>
          some { state with
            pending := state.pending.drop taken
            place := if rerrIsok ret then .waitOnDown else .tryConnectAll }
      | _ => none
  | .wait stack =>
      match state.place with
      | .waitOnDown => waitOnDown name state stack
      | .waitOnComeBack tundown ifdown => comeBackTurn name state tundown ifdown
      | .tryConnectAll | .exited => none

/-- No attempt to connect is made while an event of the device is owed, and
`wait_on_come_back` is called with types of received events only. -/
structure Patient (name : List UInt8) (state : State) : Prop where
  settled : ∀ ret taken, (step name state (.tryConnectAll ret taken)).isSome = true →
    state.tunOwed = false ∧ state.ifOwed = false
  called : ∀ evtype ∈ state.calls, evtype ∈ state.received

/-- `wait_on_down` receives no event that the tunnel or the interface of the device was
taken down. -/
def NotTakenDown (name : List UInt8) (evinfo : LdtEvinfo) : Prop :=
  evinfo.evtype = .tundown ∨ evinfo.evtype = .ifdown → namesOwn name evinfo = false

instance (name : List UInt8) (evinfo : LdtEvinfo) : Decidable (NotTakenDown name evinfo) :=
  inferInstanceAs (Decidable (_ → _))

/-- What `wait_on_down` may find. -/
def HarmlessDown (name : List UInt8) (state : State) (stack : Nat) : Prop :=
  match wait name downMask state.pending with
  | none => True
  | some (.ok evinfo, _) => NotTakenDown name evinfo
  | some (.error _, rest) =>
      leftoverEvtype state.pending rest stack = EvType.down.num ∨
        leftoverEvtype state.pending rest stack ∈ state.received

instance (name : List UInt8) (state : State) (stack : Nat) :
    Decidable (HarmlessDown name state stack) := by
  unfold HarmlessDown
  split <;> infer_instance

/-- What `wait_on_come_back` may find. -/
def HarmlessComeBack (name : List UInt8) (state : State) : Prop :=
  match wait name comeBackMask state.pending with
  | some (.ok evinfo, _) =>
      evinfo.evtype = .tunup → state.tunOwed = true → namesOwn name evinfo = true
  | _ => True

instance (name : List UInt8) (state : State) : Decidable (HarmlessComeBack name state) := by
  unfold HarmlessComeBack
  split <;> infer_instance

/-- What the function that waits at this place may find. -/
def HarmlessAt (name : List UInt8) (state : State) (stack : Nat) : Place → Prop
  | .waitOnDown => HarmlessDown name state stack
  | .waitOnComeBack _ _ => HarmlessComeBack name state
  | .tryConnectAll | .exited => True

instance (name : List UInt8) (state : State) (stack : Nat) :
    (place : Place) → Decidable (HarmlessAt name state stack place)
  | .waitOnDown => inferInstanceAs (Decidable (HarmlessDown name state stack))
  | .waitOnComeBack _ _ => inferInstanceAs (Decidable (HarmlessComeBack name state))
  | .tryConnectAll | .exited => inferInstanceAs (Decidable True)

/-- `wait_on_down` receives no event that takes the device down, and if its wait fails
then the structure holds the type of a received event or that of a remote host down;
`wait_on_come_back` takes no tunnel of another device for its own one. -/
def Harmless (name : List UInt8) (state : State) : Label → Prop
  | .wait stack => HarmlessAt name state stack state.place
  | .arrive _ | .tryConnectAll _ _ => True

instance (name : List UInt8) (state : State) :
    (label : Label) → Decidable (Harmless name state label)
  | .wait stack => inferInstanceAs (Decidable (HarmlessAt name state stack state.place))
  | .arrive _ | .tryConnectAll _ _ => inferInstanceAs (Decidable True)

/-- What is owed is known to the loop that waits for it. -/
def OwedKnown (state : State) : Place → Prop
  | .tryConnectAll | .waitOnDown => state.tunOwed = false ∧ state.ifOwed = false
  | .waitOnComeBack tundown ifdown =>
      (state.tunOwed = true → tundown = true) ∧ (state.ifOwed = true → ifdown = true)
  | .exited => True

theorem owedKnown_of_settled {state : State} (tunSettled : state.tunOwed = false)
    (ifSettled : state.ifOwed = false) (place : Place) : OwedKnown state place := by
  cases place with
  | tryConnectAll | waitOnDown => exact ⟨tunSettled, ifSettled⟩
  | waitOnComeBack tundown ifdown => simp [OwedKnown, tunSettled, ifSettled]
  | exited => trivial

/-- The invariant. -/
structure Kept (state : State) : Prop where
  owed : OwedKnown state state.place
  called : ∀ evtype ∈ state.calls, evtype ∈ state.received

theorem kept_initial : Kept initial where
  owed := ⟨rfl, rfl⟩
  called := by simp [initial]

theorem patient_of_kept {name : List UInt8} {state : State} (kept : Kept state) :
    Patient name state := by
  refine ⟨?_, kept.called⟩
  intro ret taken enabled
  have owed := kept.owed
  simp only [step] at enabled
  split at enabled
  · rename_i place
    rw [place] at owed
    exact owed
  · simp at enabled

/-- The interface is told apart by its name, so that the events of interfaces that are
received are those of the device. -/
theorem namesOwn_of_wait {name : List UInt8} {mask : BitVec 64}
    {pending rest : List Delivery} {evinfo : LdtEvinfo}
    (received : wait name mask pending = some (.ok evinfo, rest))
    (flagged : tpGetparseflags evinfo.evtype = true) :
    namesOwn name evinfo = true := by
  obtain ⟨before, delivery, -, -, decided⟩ := readUntil_eq_some_iff.mp received
  cases delivery with
  | failed ret timeLeft =>
      simp only [verdict] at decided
      split at decided <;> simp_all
  | nlmsgError error timeLeft =>
      simp only [verdict] at decided
      split at decided <;> simp_all
  | info ret => contradiction
  | event event =>
      obtain ⟨-, parsed, own⟩ := verdict_event_eq_ok_iff.mp decided
      obtain ⟨evtype, iface⟩ := evinfo_of_ldtIfaceevParse parsed
      rw [evtype] at flagged
      rw [flagged] at parsed own
      have named : (RecvEvent.iface event).isSome = true := by
        have parses := exists_ldtIfaceevParse_iff.mp ⟨evinfo, parsed⟩
        simpa using parses.2
      obtain ⟨text, textEq⟩ := Option.isSome_iff_exists.mp named
      rw [textEq] at own iface
      simpa [namesOwn, iface, namesOther] using own

theorem kept_of_waitOnDown {name : List UInt8} {state next : State} {stack : Nat}
    (harmless : HarmlessDown name state stack) (kept : Kept state)
    (place : state.place = .waitOnDown)
    (waited : waitOnDown name state stack = some next) : Kept next := by
  obtain ⟨owed, called⟩ := kept
  rw [place] at owed
  obtain ⟨tunSettled, ifSettled⟩ := owed
  obtain ⟨⟨result, rest⟩, received, rfl⟩ := Option.map_eq_some_iff.mp waited
  simp only [HarmlessDown, received] at harmless
  cases result with
  | ok evinfo =>
      refine ⟨?_, fun evtype member => List.mem_append_left _ (called evtype member)⟩
      simp only [NotTakenDown] at harmless
      simp only [OwedKnown, receive, tunSettled, ifSettled, Bool.false_or, Bool.false_and]
      constructor
      · split
        · rename_i down
          exact harmless (.inl down)
        all_goals rfl
      · split
        · rename_i down
          exact harmless (.inr down)
        all_goals rfl
  | error ret =>
      simp only
      split
      · exact ⟨⟨rfl, rfl⟩, called⟩
      · rename_i notDown
        have known := harmless.resolve_left notDown
        constructor
        · exact owedKnown_of_settled rfl rfl _
        · intro evtype member
          rcases List.mem_append.mp member with earlier | last
          · exact called evtype earlier
          · obtain rfl := List.mem_singleton.mp last
            exact known

theorem kept_of_comeBackTurn {name : List UInt8} {state next : State} {tundown ifdown : Bool}
    (harmless : HarmlessComeBack name state) (kept : Kept state)
    (place : state.place = .waitOnComeBack tundown ifdown)
    (waited : comeBackTurn name state tundown ifdown = some next) : Kept next := by
  obtain ⟨owed, called⟩ := kept
  rw [place] at owed
  obtain ⟨tunKnown, ifKnown⟩ := owed
  obtain ⟨⟨result, rest⟩, received, rfl⟩ := Option.map_eq_some_iff.mp waited
  simp only [HarmlessComeBack, received] at harmless
  cases result with
  | error ret => exact ⟨⟨rfl, rfl⟩, called⟩
  | ok evinfo =>
      refine ⟨?_, fun evtype member => List.mem_append_left _ (called evtype member)⟩
      have own := fun flagged => namesOwn_of_wait received flagged
      simp only [receive]
      cases evtypeEq : evinfo.evtype with
      | tundown => exact ⟨fun _ => rfl, ifKnown⟩
      | ifdown => exact ⟨tunKnown, fun _ => rfl⟩
      | tunup =>
          have matched : state.tunOwed = true → namesOwn name evinfo = true :=
            harmless evtypeEq
          have tunSettled : (state.tunOwed && !namesOwn name evinfo) = false := by
            cases tunOwed : state.tunOwed with
            | false => rfl
            | true => simp [matched tunOwed]
          cases ifdown with
          | true => exact ⟨fun owed => absurd owed (by simp [tunSettled]), fun _ => rfl⟩
          | false => exact ⟨tunSettled, by simpa using ifKnown⟩
      | ifup =>
          have ownIface : namesOwn name evinfo = true := by
            apply own
            rw [evtypeEq]
            rfl
          have ifSettled : (state.ifOwed && !namesOwn name evinfo) = false := by
            simp [ownIface]
          cases tundown with
          | true => exact ⟨fun _ => rfl, fun owed => absurd owed (by simp [ifSettled])⟩
          | false => exact ⟨by simpa using tunKnown, ifSettled⟩
      | tpdown => trivial
      | _ => exact ⟨tunKnown, ifKnown⟩

theorem kept_of_step {name : List UInt8} {state next : State} {label : Label}
    (harmless : Harmless name state label) (kept : Kept state)
    (stepped : step name state label = some next) : Kept next := by
  cases label with
  | arrive delivery =>
      obtain rfl := Option.some.inj stepped
      exact ⟨kept.owed, kept.called⟩
  | tryConnectAll ret taken =>
      simp only [step] at stepped
      split at stepped
      · rename_i place
        obtain rfl := Option.some.inj stepped
        have owed := kept.owed
        rw [place] at owed
        refine ⟨?_, kept.called⟩
        simp only
        split
        · exact owed
        · exact owed
      · contradiction
  | wait stack =>
      simp only [step] at stepped
      simp only [Harmless] at harmless
      split at stepped
      · rename_i place
        rw [place] at harmless
        exact kept_of_waitOnDown harmless kept place stepped
      · rename_i tundown ifdown place
        rw [place] at harmless
        exact kept_of_comeBackTurn harmless kept place stepped
      · contradiction
      · contradiction

/-- For every stream of messages, as long as the wait of `wait_on_down` ends without an
event that takes the device down, and without a type that was not received, and no tunnel
of another device is taken for its own one. -/
theorem patient_of_harmless {name : List UInt8} {labels : List Label} {final : State}
    (guarded : Guarded (step name) (Harmless name) initial labels)
    (ran : run (step name) initial labels = some final) : Patient name final :=
  patient_of_kept (invariant_of_guarded kept_of_step guarded kept_initial ran)

def ldt0 : List UInt8 :=
  ascii "ldt0"

/-- An event of the type that names the device. -/
def eventFrom (evtype : EvType) (iface : List UInt8) : Delivery :=
  .event (eventOn evtype iface)

/-- The wait fails after an event was received before; then interface and tunnel go down
and come back in another order, with an event of another device between. -/
def downAndBack : List Label :=
  [.tryConnectAll 0 0, .arrive (eventFrom .tundown (ascii "ldt1")), .wait 7,
    .tryConnectAll 0 0, .arrive (.failed RERR_SYSTEM false), .wait EvType.tundown.num,
    .arrive (eventFrom .ifdown ldt0), .wait 0, .arrive (eventFrom .tunup ldt0), .wait 0,
    .arrive (eventFrom .ifup (ascii "ldt1")), .arrive (eventFrom .ifup ldt0), .wait 0]

theorem patient_downAndBack :
    ∃ final, run (step ldt0) initial downAndBack = some final ∧
      final.place = .tryConnectAll ∧ Patient ldt0 final := by
  obtain ⟨final, ran⟩ : ∃ final, run (step ldt0) initial downAndBack = some final := ⟨_, rfl⟩
  have guarded : Guarded (step ldt0) (Harmless ldt0) initial downAndBack := by decide
  have back : ((run (step ldt0) initial downAndBack).map State.place) =
      some .tryConnectAll := by
    decide
  simp only [ran, Option.map_some, Option.some.injEq] at back
  exact ⟨final, ran, back, patient_of_harmless guarded ran⟩

/-- The tunnel of the device is taken down while `wait_on_down` waits. -/
def takenDown : List Label :=
  [.tryConnectAll 0 0, .arrive (eventFrom .tundown ldt0), .wait 0]

theorem not_patient_takenDown :
    ∃ final, run (step ldt0) initial takenDown = some final ∧ ¬ Patient ldt0 final := by
  obtain ⟨final, ran⟩ : ∃ final, run (step ldt0) initial takenDown = some final := ⟨_, rfl⟩
  have owed : ((run (step ldt0) initial takenDown).map fun final =>
      ((step ldt0 final (.tryConnectAll 0 0)).isSome, final.tunOwed)) = some (true, true) := by
    decide
  simp only [ran, Option.map_some, Option.some.injEq, Prod.mk.injEq] at owed
  refine ⟨final, ran, ?_⟩
  intro patient
  have settled := patient.settled 0 0 owed.1
  simp [owed.2] at settled

/-- The wait of `wait_on_down` fails, and the structure holds what was on the stack. -/
def failedWait : List Label :=
  [.tryConnectAll 0 0, .arrive (.failed RERR_SYSTEM false), .wait 4711]

theorem not_called_failedWait :
    ∃ final, run (step ldt0) initial failedWait = some final ∧
      final.received = [] ∧ final.calls = [4711] := by
  exact ⟨_, rfl, by decide, by decide⟩

end Tunprox.ConnectionManager
