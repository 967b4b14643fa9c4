import Tunprox.ConnectionClose
import Tunprox.LabelledRun

/-!
# Work items and the removal of the tunnel

`mpdccptun_remove` frees the tunnel without cancelling its five work items.
The transition system interleaves the removal, in the two ways it is started,
with the requests, transmissions and callbacks that queue the items and with
the handler runs.  Requests hold the device lock, which `ldt_rm_tun` takes and
`tpdev_uninit` does not; transmissions and callbacks hold none.
-/

namespace Tunprox.WorkLifetime

open Connection ConnectionClose LabelledRun

/-- The work items of `struct mpdccptun`. -/
inductive Item where
  | conn
  | listen
  | accept
  | xmit
  | xmitDelayed
  deriving DecidableEq, Repr

/-- The requests that reach a function of the tunnel under the device lock. -/
inductive Request where
  | bind (addr : Option TpAddr) (flags : Nat)
  | peer (addr : Option TpAddr)
  | serverstart

/-- The two ways to `ldt_rm_tun2`. -/
inductive Path where
  | ldtRmTun
  | tpdevUninit
  deriving DecidableEq, Repr

/-- Where the removal stands.  After `deactivated` no request or transmission
gets to the tunnel any more, `entered` is inside `mpdccptun_remove` with
`tostop` set, and `freed` is its end. -/
inductive RemovalPc where
  | none
  | deactivated
  | entered
  | hidden
  | closed
  | freed
  deriving DecidableEq, Repr

/-- `mpdccptun_remove` has been entered. -/
def RemovalPc.Begun : RemovalPc → Prop
  | .none | .deactivated => False
  | .entered | .hidden | .closed | .freed => True

instance : (pc : RemovalPc) → Decidable pc.Begun
  | .none | .deactivated => inferInstanceAs (Decidable False)
  | .entered | .hidden | .closed | .freed => inferInstanceAs (Decidable True)

/-- The state: `request` is the one that holds the device lock, `submitters` are
the contexts inside `ldt_tun_xmit`, and `callback` is the socket whose
`tp_listen_ready` has read `sk_user_data`. -/
structure WorkState where
  conn : ConnState
  ifUp : Bool
  xmitQueued : Bool
  delayedQueued : Bool
  running : Item → Bool
  removal : RemovalPc
  request : Option Request
  submitters : List Nat
  callback : Option SockId

def queued (state : WorkState) : Item → Bool
  | .conn => state.conn.connQueued
  | .listen => state.conn.listenQueued
  | .accept => state.conn.acceptQueued
  | .xmit => state.xmitQueued
  | .xmitDelayed => state.delayedQueued

/-- The work queue takes the item to run it. -/
def unqueue (state : WorkState) : Item → WorkState
  | .conn => { state with conn := { state.conn with connQueued := false } }
  | .listen => { state with conn := { state.conn with listenQueued := false } }
  | .accept => { state with conn := { state.conn with acceptQueued := false } }
  | .xmit => { state with xmitQueued := false }
  | .xmitDelayed => { state with delayedQueued := false }

/-- What the loop of `do_xmit_handler` ended with: an empty queue, packets left,
or an error. -/
inductive XmitEnd where
  | empty
  | more
  | failed
  deriving DecidableEq, Repr

/-- The function of the tunnel that a request calls. -/
def runRequest (conn : ConnState) : Request → ConnState
  | .bind addr flags => (mpdccptunBind conn addr flags).2
  | .peer addr => (mpdccptunPeer conn addr).2
  | .serverstart => (mpdccptunServerstart conn).2

/-- `do_xmit_handler` -/
def doXmitHandler (state : WorkState) (ended : XmitEnd) : WorkState :=
  match ended with
  | .empty =>
      { state with
        conn := { state.conn with tdat := { state.conn.tdat with hasDelayedWork := false } } }
  | .more =>
      { state with
        conn := { state.conn with tdat := { state.conn.tdat with hasDelayedWork := false } }
        xmitQueued := true }
  | .failed =>
      { state with
        conn := { state.conn with tdat := { state.conn.tdat with hasDelayedWork := true } }
        delayedQueued := true }

inductive Label where
  | setIfUp (up : Bool)
  | enterRequest (request : Request)
  | runRequest
  | enterXmit (slot : Nat)
  | doEnqueue (slot : Nat) (inQueue : Bool)
  | enterListenReady (sock : SockId)
  | runListenReady
  | start (item : Item)
  | elabConnect (calls : BindCalls) (kernelConnect : Int) (jiffies : Nat)
  | doserverstart (calls : BindCalls) (kernelListen : Int)
  | elabAccept (kernelAccept : Int)
  | doXmitHandler (item : Item) (ended : XmitEnd)
  | finish (item : Item)
  | deactivate (path : Path)
  | enterRemove
  | hide
  | closeSockets
  | free

def step (hz : Nat) (state : WorkState) : Label → Option WorkState
  | .setIfUp up => some { state with ifUp := up }
  | .enterRequest request =>
      if state.removal = .none ∧ state.request.isNone then
        some { state with request := some request }
      else none
  | .runRequest =>
      match state.request with
      | none => none
      | some request =>
          some { state with
            conn := runRequest state.conn request
            request := none }
  | .enterXmit slot =>
      if state.removal = .none ∧ state.ifUp = true ∧ slot ∉ state.submitters then
        some { state with submitters := slot :: state.submitters }
      else none
  | .doEnqueue slot inQueue =>
      if slot ∈ state.submitters then
        some { state with
          submitters := state.submitters.erase slot
          xmitQueued := state.xmitQueued ||
            (inQueue && !state.conn.tdat.hasDelayedWork) }
      else none
  | .enterListenReady sock =>
      if state.callback.isNone ∧ Alive state.conn sock ∧
          (state.conn.sockets sock).dataReady = .tpListenReady ∧
          (state.conn.sockets sock).userData = true then
        some { state with callback := some sock }
      else none
  | .runListenReady =>
      match state.callback with
      | none => none
      | some _ =>
          some { state with
            conn := { state.conn with
              acceptQueued := state.conn.acceptQueued || state.conn.tdat.bound }
            callback := none }
  | .start item =>
      if queued state item = true ∧ state.running item = false then
        some { unqueue state item with
          running := Function.update state.running item true }
      else none
  | .elabConnect calls kernelConnect jiffies =>
      if state.running .conn then
        some { state with
          conn := (mpdccptunElabConnect hz state.conn calls kernelConnect jiffies).2 }
      else none
  | .doserverstart calls kernelListen =>
      if state.running .listen then
        some { state with
          conn := (mpdccptunDoserverstart state.conn calls kernelListen).2 }
      else none
  | .elabAccept kernelAccept =>
      if state.running .accept then
        some { state with conn := (mpdccptunElabAccept state.conn kernelAccept).2 }
      else none
  | .doXmitHandler item ended =>
      if (item = .xmit ∨ item = .xmitDelayed) ∧ state.running item = true then
        some (doXmitHandler state ended)
      else none
  | .finish item =>
      if state.running item then
        some { state with running := Function.update state.running item false }
      else none
  | .deactivate path =>
      if state.removal = .none ∧
          (path = .ldtRmTun → state.request.isNone ∧ state.ifUp = false) then
        some { state with removal := .deactivated }
      else none
  | .enterRemove =>
      if state.removal = .deactivated then
        some { state with
          conn := { state.conn with tdat := { state.conn.tdat with tostop := true } }
          removal := .entered }
      else none
  | .hide =>
      if state.removal = .entered then some { state with removal := .hidden } else none
  | .closeSockets =>
      if state.removal = .hidden then
        some { state with
          conn := if state.conn.tdat.bound then mpdccptunClosesk state.conn else state.conn
          removal := .closed }
      else none
  | .free =>
      if state.removal = .closed then
        some { state with
          conn := { state.conn with connTimer := none }
          removal := .freed }
      else none

def initial (ipv6 ismpdccp : Bool) : WorkState where
  conn := Connection.initial ipv6 ismpdccp
  ifUp := false
  xmitQueued := false
  delayedQueued := false
  running := fun _ => false
  removal := .none
  request := none
  submitters := []
  callback := none

/-- No item is queued, delayed or running. -/
def Quiet (state : WorkState) : Prop :=
  ∀ item, queued state item = false ∧ state.running item = false

/-- When the removal is complete, nothing refers to the tunnel. -/
def RemovedQuietly (state : WorkState) : Prop :=
  state.removal = .freed → Quiet state

/-- Nobody is inside a function of the tunnel. -/
def Unused (state : WorkState) : Prop :=
  state.request.isNone ∧ state.submitters = [] ∧ state.callback.isNone

/-- `mpdccptun_remove` is entered only while no item is queued or running and
nobody is inside a function of the tunnel, and no callback comes after that. -/
def EntersQuiet (state : WorkState) : Label → Prop
  | .enterRemove => Quiet state ∧ Unused state
  | .enterListenReady _ => ¬ state.removal.Begun
  | _ => True

instance (state : WorkState) : Decidable (Quiet state) :=
  decidable_of_iff
    (∀ item ∈ [Item.conn, .listen, .accept, .xmit, .xmitDelayed],
      queued state item = false ∧ state.running item = false)
    ⟨fun all item => all item (by cases item <;> simp), fun quiet item _ => quiet item⟩

instance (state : WorkState) : Decidable (Unused state) :=
  inferInstanceAs (Decidable (_ ∧ _))

instance (state : WorkState) : (label : Label) → Decidable (EntersQuiet state label)
  | .enterRemove => inferInstanceAs (Decidable (Quiet state ∧ Unused state))
  | .enterListenReady _ => inferInstanceAs (Decidable (¬ state.removal.Begun))
  | .setIfUp _ | .enterRequest _ | .runRequest | .enterXmit _ | .doEnqueue ..
  | .runListenReady | .start _ | .elabConnect .. | .doserverstart .. | .elabAccept _
  | .doXmitHandler .. | .finish _ | .deactivate _ | .hide | .closeSockets | .free =>
      inferInstanceAs (Decidable True)

/-- Once `mpdccptun_remove` has been entered, it stays quiet. -/
def StaysQuiet (state : WorkState) : Prop :=
  state.removal.Begun → Quiet state ∧ Unused state

/-- Closing the sockets queues no work. -/
theorem mpdccptunClosesk_queued (conn : ConnState) :
    (mpdccptunClosesk conn).connQueued = conn.connQueued ∧
      (mpdccptunClosesk conn).listenQueued = conn.listenQueued ∧
      (mpdccptunClosesk conn).acceptQueued = conn.acceptQueued := by
  rw [mpdccptunClosesk_eq]
  exact ⟨rfl, rfl, rfl⟩

/-- A state with the same queued and running items is as quiet. -/
theorem Quiet.of_same {state next : WorkState} (quiet : Quiet state)
    (queuedEq : ∀ item, queued next item = queued state item)
    (runningEq : next.running = state.running) : Quiet next := by
  intro item
  rw [queuedEq item, runningEq]
  exact quiet item

theorem quiet_closeSockets {state : WorkState} (quiet : Quiet state) :
    Quiet { state with
      conn := if state.conn.tdat.bound then mpdccptunClosesk state.conn else state.conn
      removal := .closed } := by
  refine quiet.of_same ?_ rfl
  intro item
  obtain ⟨connEq, listenEq, acceptEq⟩ := mpdccptunClosesk_queued state.conn
  by_cases bound : state.conn.tdat.bound = true
  · cases item <;> simp [queued, bound, connEq, listenEq, acceptEq]
  · cases item <;> simp [queued, bound]

/-- No step queues work or brings somebody in after the removal was entered in
a quiet state. -/
theorem staysQuiet_of_step {hz : Nat} {state next : WorkState} {label : Label}
    (enters : EntersQuiet state label) (stays : StaysQuiet state)
    (stepped : step hz state label = some next) : StaysQuiet next := by
  intro begun
  cases label with
  | setIfUp up =>
      obtain rfl := Option.some.inj stepped
      exact stays begun
  | enterRequest request =>
      simp only [step] at stepped
      split at stepped
      · rename_i enabled
        obtain rfl := Option.some.inj stepped
        simp [enabled.1, RemovalPc.Begun] at begun
      · contradiction
  | runRequest =>
      simp only [step] at stepped
      split at stepped
      · contradiction
      · rename_i request inside
        obtain rfl := Option.some.inj stepped
        have unused := (stays begun).2.1
        simp [inside] at unused
  | enterXmit slot =>
      simp only [step] at stepped
      split at stepped
      · rename_i enabled
        obtain rfl := Option.some.inj stepped
        simp [enabled.1, RemovalPc.Begun] at begun
      · contradiction
  | doEnqueue slot inQueue =>
      simp only [step] at stepped
      split at stepped
      · rename_i inside
        obtain rfl := Option.some.inj stepped
        have unused := (stays begun).2.2.1
        simp [unused] at inside
      · contradiction
  | enterListenReady sock =>
      simp only [step] at stepped
      split at stepped
      · obtain rfl := Option.some.inj stepped
        exact absurd begun enters
      · contradiction
  | runListenReady =>
      simp only [step] at stepped
      split at stepped
      · contradiction
      · rename_i sock inside
        obtain rfl := Option.some.inj stepped
        have unused := (stays begun).2.2.2
        simp [inside] at unused
  | start item =>
      simp only [step] at stepped
      split at stepped
      · rename_i enabled
        obtain rfl := Option.some.inj stepped
        have begunBefore : state.removal.Begun := by
          cases item <;> exact begun
        have notQueued := ((stays begunBefore).1 item).1
        simp [notQueued] at enabled
      · contradiction
  | elabConnect calls kernelConnect jiffies =>
      simp only [step] at stepped
      split at stepped
      · rename_i isRunning
        obtain rfl := Option.some.inj stepped
        simp [((stays begun).1 .conn).2] at isRunning
      · contradiction
  | doserverstart calls kernelListen =>
      simp only [step] at stepped
      split at stepped
      · rename_i isRunning
        obtain rfl := Option.some.inj stepped
        simp [((stays begun).1 .listen).2] at isRunning
      · contradiction
  | elabAccept kernelAccept =>
      simp only [step] at stepped
      split at stepped
      · rename_i isRunning
        obtain rfl := Option.some.inj stepped
        simp [((stays begun).1 .accept).2] at isRunning
      · contradiction
  | doXmitHandler item ended =>
      simp only [step] at stepped
      split at stepped
      · rename_i enabled
        obtain rfl := Option.some.inj stepped
        have begunBefore : state.removal.Begun := by
          cases ended <;> exact begun
        simp [((stays begunBefore).1 item).2] at enabled
      · contradiction
  | finish item =>
      simp only [step] at stepped
      split at stepped
      · rename_i isRunning
        obtain rfl := Option.some.inj stepped
        simp [((stays begun).1 item).2] at isRunning
      · contradiction
  | deactivate path =>
      simp only [step] at stepped
      split at stepped
      · obtain rfl := Option.some.inj stepped
        simp [RemovalPc.Begun] at begun
      · contradiction
  | enterRemove =>
      simp only [step] at stepped
      split at stepped
      · obtain rfl := Option.some.inj stepped
        refine ⟨enters.1.of_same ?_ rfl, enters.2⟩
        intro item
        cases item <;> rfl
      · contradiction
  | hide =>
      simp only [step] at stepped
      split at stepped
      · rename_i entered
        obtain rfl := Option.some.inj stepped
        have quiet := stays (by simp [entered, RemovalPc.Begun])
        refine ⟨quiet.1.of_same ?_ rfl, quiet.2⟩
        intro item
        cases item <;> rfl
      · contradiction
  | closeSockets =>
      simp only [step] at stepped
      split at stepped
      · rename_i hidden
        obtain rfl := Option.some.inj stepped
        have quiet := stays (by simp [hidden, RemovalPc.Begun])
        exact ⟨quiet_closeSockets quiet.1, quiet.2⟩
      · contradiction
  | free =>
      simp only [step] at stepped
      split at stepped
      · rename_i closed
        obtain rfl := Option.some.inj stepped
        have quiet := stays (by simp [closed, RemovalPc.Begun])
        refine ⟨quiet.1.of_same ?_ rfl, quiet.2⟩
        intro item
        cases item <;> rfl
      · contradiction

/-- In every run in which `mpdccptun_remove` is entered only while no item is
queued or running and nobody is inside a function of the tunnel, and no
callback comes after that, no item is queued or running when it is complete. -/
theorem removedQuietly_of_entersQuiet (hz : Nat) (ipv6 ismpdccp : Bool)
    (labels : List Label) (state : WorkState)
    (enters : Guarded (step hz) EntersQuiet (initial ipv6 ismpdccp) labels)
    (ran : run (step hz) (initial ipv6 ismpdccp) labels = some state) :
    RemovedQuietly state := by
  have start : StaysQuiet (initial ipv6 ismpdccp) := by
    intro begun
    simp [initial, RemovalPc.Begun] at begun
  have stays : StaysQuiet state :=
    invariant_of_guarded (fun enters stays stepped => staysQuiet_of_step enters stays stepped)
      enters start ran
  intro freed
  exact (stays (by simp [freed, RemovalPc.Begun])).1

/-- The steps of a removal. -/
def removal (path : Path) : List Label :=
  [.deactivate path, .enterRemove, .hide, .closeSockets, .free]

/-- A request sets the peer and queues the connect work. -/
def setPeer : List Label :=
  [.enterRequest (.peer (some { saFamily := AF_INET, ip := 0x0a000001, sinPort := 0 })),
    .runRequest]

/-- The connect handler runs to its end. -/
def connect : List Label :=
  [.start .conn,
    .elabConnect
      { sockCreateKern := 0
        mpdccpon := true
        multipath := 0
        txqlen := 0
        qpolicy := 0
        kernelBind := 0 } 0 0,
    .finish .conn]

theorem removedQuietly_after_connect :
    ∃ state, run (step 100) (initial false true)
        (setPeer ++ connect ++ removal .ldtRmTun) = some state ∧
      state.removal = .freed ∧ state.conn.released = [0] ∧ RemovedQuietly state := by
  refine ⟨_, rfl, rfl, rfl, ?_⟩
  refine removedQuietly_of_entersQuiet 100 false true
    (setPeer ++ connect ++ removal .ldtRmTun) _ ?_ rfl
  decide

/-- The tunnel is removed between the request and the run of the connect work,
which then starts on the freed tunnel. -/
theorem not_removedQuietly_before_connect :
    ∃ state next, run (step 100) (initial false true) (setPeer ++ removal .ldtRmTun) =
        some state ∧
      state.removal = .freed ∧ queued state .conn = true ∧ ¬ RemovedQuietly state ∧
      step 100 state (.start .conn) = some next ∧ next.removal = .freed ∧
      next.running .conn = true := by
  refine ⟨_, _, rfl, rfl, rfl, ?_, rfl, rfl, rfl⟩
  intro removedQuietly
  exact absurd (removedQuietly rfl .conn).1 (by decide)

end Tunprox.WorkLifetime
