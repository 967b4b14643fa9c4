import Tunprox.ConnectionSocket

/-!
# A bind request beside a worker

`mpdccptun_bind` runs under the device lock and the workers do not, so each of its
steps may fall between any two steps of `mpdccptun_dobind`.  The request asks for a
rebind only if it finds the tunnel bound.  A worker that has called `kernel_bind` and
not yet set `bound` uses the old address, and the request takes the tunnel for one that
is still to be bound: the new address is stored and never used.
-/

namespace Tunprox.BindRequest

open Errno Queue Connection ConnectionClose ConnectionBind ConnectionSocket LabelledRun

/-- The work items that call `mpdccptun_dobind`. -/
inductive Work where
  | conn
  | listen
  deriving DecidableEq, Repr

/-- How far `mpdccptun_bind` has got: it has stored the address, or tested `bound` as
well. -/
inductive RequestPc where
  | idle
  | stored
  | marked
  deriving DecidableEq, Repr

/-- How far a worker has got: `entered` is before the tests of `mpdccptun_dobind`,
`opened` between `kernel_bind` and setting `bound`, and `bound` behind
`mpdccptun_dobind`. -/
inductive WorkerPc where
  | idle
  | entered (work : Work)
  | closing (work : Work)
  | opening (work : Work)
  | opened (work : Work)
  | bound (work : Work)
  deriving DecidableEq, Repr

structure BindState where
  conn : ConnState
  request : RequestPc
  worker : WorkerPc

/-- The steps of a bind request, the other requests that queue a worker, and the steps
of a worker with the results of the calls made in them. -/
inductive Label where
  | store (addr : Option TpAddr) (flags : Nat)
  | mark
  | queue
  | peer (addr : Option TpAddr)
  | serverstart
  | start (work : Work)
  | test
  | close
  | kernelBind (calls : BindCalls)
  | setBound
  | finish (ret : Int) (jiffies : Nat)

/-- The part of `mpdccptun_bind` that stores the address. -/
def storeAddr (state : BindState) (addr : Option TpAddr) (flags : Nat) : BindState :=
  match addr with
  | none => state
  | some addr =>
      if state.conn.tdat.tostop then state
      else
        match ldtTunaddrBind state.conn.tdat.addr addr flags with
        | (ret, tad) =>
            if ret < 0 then state
            else
              { state with
                conn := { state.conn with tdat := { state.conn.tdat with addr := tad } }
                request := .stored }

/-- The part of `mpdccptun_bind` that asks for a rebind. -/
def markRebind (conn : ConnState) : ConnState :=
  { conn with tdat := { conn.tdat with rebind := conn.tdat.rebind || conn.tdat.bound } }

/-- The part of `mpdccptun_bind` that queues a worker. -/
def queueWork (conn : ConnState) : ConnState :=
  if !conn.tdat.isserver && conn.tdat.isconnected then { conn with connQueued := true }
  else if conn.tdat.isserver && conn.tdat.listening then { conn with listenQueued := true }
  else conn

/-- The tests of `mpdccptun_dobind`. -/
def testBound (tdat : Mpdccptun) (work : Work) : WorkerPc :=
  if tdat.tostop then .bound work
  else if (!tdat.addr.bound || tdat.addr.anylport) && tdat.isserver then .idle
  else if tdat.bound then
    if tdat.rebind then .closing work else .bound work
  else .opening work

/-- The new socket after `kernel_bind` has succeeded. -/
def kernelBound (conn : ConnState) : ConnState :=
  { conn with
    tdat := { conn.tdat with
      sock := some conn.nextSock
      xmitQueue := tpqSetMaxlen conn.tdat.xmitQueue conn.tdat.txQlen }
    sockets := Function.update conn.sockets conn.nextSock
      { socketNew with
        multipath := conn.tdat.ismpdccp
        laddr := some conn.tdat.addr.laddr }
    nextSock := conn.nextSock + 1 }

/-- The end of `mpdccptun_dobind`. -/
def setBound (conn : ConnState) : ConnState :=
  let owned :=
    match conn.tdat.sock with
    | none => conn
    | some sock => tpSetTdat conn sock
  { owned with tdat := { owned.tdat with bound := true } }

/-- What a worker does after `mpdccptun_dobind` has succeeded. -/
def finishWork (hz : Nat) (conn : ConnState) (ret : Int) (jiffies : Nat) :
    Work → ConnState
  | .conn =>
      if conn.tdat.tostop then conn
      else if !conn.tdat.haspeer then conn
      else
        match conn.tdat.sock with
        | none => { conn with nullDeref := true }
        | some sock => (connectSocket hz conn sock ret jiffies).2
  | .listen =>
      match conn.tdat.sock with
      | none => conn
      | some sock =>
          (startListening (if conn.tdat.listening then mpdccptunCloseListen conn else conn)
            sock ret).2

/-- The transition function.  The requests are made under the device lock, one at a
time. -/
def step (hz : Nat) (state : BindState) : Label → Option BindState
  | .store addr flags =>
      if state.request = .idle then some (storeAddr state addr flags) else none
  | .mark =>
      if state.request = .stored then
        some { state with conn := markRebind state.conn, request := .marked }
      else none
  | .queue =>
      if state.request = .marked then
        some { state with conn := queueWork state.conn, request := .idle }
      else none
  | .peer addr =>
      if state.request = .idle then
        some { state with conn := (mpdccptunPeer state.conn addr).2 }
      else none
  | .serverstart =>
      if state.request = .idle then
        some { state with conn := (mpdccptunServerstart state.conn).2 }
      else none
  | .start .conn =>
      if state.worker = .idle ∧ state.conn.connQueued = true then
        some { state with
          conn := { state.conn with connQueued := false, connTimer := none }
          worker := .entered .conn }
      else none
  | .start .listen =>
      if state.worker = .idle ∧ state.conn.listenQueued = true then
        some { state with
          conn := { state.conn with listenQueued := false }
          worker := if state.conn.tdat.isserver then .entered .listen else .idle }
      else none
  | .test =>
      match state.worker with
      | .entered work => some { state with worker := testBound state.conn.tdat work }
      | _ => none
  | .close =>
      match state.worker with
      | .closing work =>
          some { state with conn := mpdccptunClosesk state.conn, worker := .opening work }
      | _ => none
  | .kernelBind calls =>
      match state.worker with
      | .opening work =>
          if BindFails state.conn.tdat calls then
            some { state with conn := (bindNewSocket state.conn calls).2, worker := .idle }
          else some { state with conn := kernelBound state.conn, worker := .opened work }
      | _ => none
  | .setBound =>
      match state.worker with
      | .opened work =>
          some { state with conn := setBound state.conn, worker := .bound work }
      | _ => none
  | .finish ret jiffies =>
      match state.worker with
      | .bound work =>
          some { state with
            conn := finishWork hz state.conn ret jiffies work
            worker := .idle }
      | _ => none

/-- No request is made and no worker runs. -/
def atRest (conn : ConnState) : BindState where
  conn := conn
  request := .idle
  worker := .idle

/-- The address to which `tdat->sock` is bound. -/
def boundAddr (conn : ConnState) : Option TpAddr :=
  conn.tdat.sock.bind fun sock => (conn.sockets sock).laddr

/-- While no worker runs and no request stands between its first two steps, a tunnel that
is bound and not to be bound again has a socket bound to the stored address. -/
def UsesStored (state : BindState) : Prop :=
  state.worker = .idle → state.request ≠ .stored → state.conn.tdat.bound = true →
    state.conn.tdat.rebind = false → state.conn.tdat.sock.isSome = true →
      boundAddr state.conn = some state.conn.tdat.addr.laddr

/-- The worker stands between `kernel_bind` and setting `bound`. -/
def WorkerPc.hasOpened : WorkerPc → Bool
  | .opened _ => true
  | _ => false

/-- A request does not test `bound` while a worker stands between `kernel_bind` to
another address and setting `bound`. -/
def MarksInTime (state : BindState) : Label → Prop
  | .mark =>
      state.worker.hasOpened = true →
        boundAddr state.conn = some state.conn.tdat.addr.laddr
  | _ => True

instance (state : BindState) : (label : Label) → Decidable (MarksInTime state label)
  | .mark =>
      inferInstanceAs (Decidable (state.worker.hasOpened = true →
        boundAddr state.conn = some state.conn.tdat.addr.laddr))
  | .store .. | .queue | .peer _ | .serverstart | .start _ | .test | .close
  | .kernelBind _ | .setBound | .finish .. =>
      inferInstanceAs (Decidable True)

theorem setBound_kernelBound (conn : ConnState) :
    setBound (kernelBound conn) = boundState conn := by
  simp [setBound, kernelBound, tpSetTdat, setSocket, boundState]

/-- Storing the address leads to the state after `ldt_tunaddr_bind`, and the rest of
`mpdccptun_bind` is the mark and the queued worker. -/
theorem storeAddr_eq {state : BindState} {addr : TpAddr} {flags : Nat}
    (running : state.conn.tdat.tostop = false)
    (stored : ¬ (ldtTunaddrBind state.conn.tdat.addr addr flags).1 < 0) :
    ∃ conn, storeAddr state (some addr) flags =
        { state with conn := conn, request := .stored } ∧
      (mpdccptunBind state.conn (some addr) flags).2 = queueWork (markRebind conn) := by
  refine ⟨{ state.conn with tdat := { state.conn.tdat with
    addr := (ldtTunaddrBind state.conn.tdat.addr addr flags).2 } }, ?_, ?_⟩
  · simp [storeAddr, running, stored]
  · unfold mpdccptunBind queueWork markRebind
    simp only [running, Bool.false_eq_true, if_false, stored]
    split
    · rfl
    · split
      · rfl
      · rfl

/-- The three steps of a request, taken one after the other, are `mpdccptun_bind`. -/
theorem run_bind (hz : Nat) {state : BindState} (idle : state.request = .idle)
    (addr : Option TpAddr) (flags : Nat) :
    ∃ labels, run (step hz) state labels =
      some { state with conn := (mpdccptunBind state.conn addr flags).2 } := by
  cases addr with
  | none => exact ⟨[], rfl⟩
  | some addr =>
      by_cases stopped : state.conn.tdat.tostop = true
      · exact ⟨[], by simp [mpdccptunBind, stopped]⟩
      · have running : state.conn.tdat.tostop = false := by simpa using stopped
        by_cases refused : (ldtTunaddrBind state.conn.tdat.addr addr flags).1 < 0
        · exact ⟨[], by simp [mpdccptunBind, running, refused]⟩
        · obtain ⟨conn, stored, bindEq⟩ := storeAddr_eq running refused
          refine ⟨[.store (some addr) flags, .mark, .queue], ?_⟩
          simp [run, step, idle, stored, bindEq]

/-- The steps of a worker from the creation of the socket on are `bindNewSocket`. -/
theorem run_bindNewSocket (hz : Nat) {state : BindState} {work : Work}
    (opening : state.worker = .opening work) (calls : BindCalls) :
    ∃ labels, run (step hz) state labels =
      some { state with
        conn := (bindNewSocket state.conn calls).2
        worker := if (bindNewSocket state.conn calls).1 < 0 then .idle else .bound work } := by
  obtain ⟨conn, request, worker⟩ := state
  obtain rfl : worker = .opening work := opening
  rcases bindNewSocket_cases conn calls with ⟨fails, negative, -⟩ | ⟨works, created⟩
  · refine ⟨[.kernelBind calls], ?_⟩
    simp [run, step, fails, negative]
  · refine ⟨[.kernelBind calls, .setBound], ?_⟩
    simp [run, step, works, created, setBound_kernelBound]

theorem testBound_cases (tdat : Mpdccptun) (work : Work) :
    testBound tdat work = .bound work ∨ testBound tdat work = .idle ∨
      testBound tdat work = .closing work ∨
      (testBound tdat work = .opening work ∧ tdat.bound = false) := by
  unfold testBound
  split
  · exact Or.inl rfl
  · split
    · exact Or.inr (Or.inl rfl)
    · split
      · split
        · exact Or.inr (Or.inr (Or.inl rfl))
        · exact Or.inl rfl
      · rename_i unbound
        exact Or.inr (Or.inr (Or.inr ⟨rfl, by simpa using unbound⟩))

theorem mpdccptunDobind_eq (conn : ConnState) (calls : BindCalls) (work : Work) :
    mpdccptunDobind conn calls =
      match testBound conn.tdat work with
      | .bound _ => (0, conn)
      | .closing _ => bindNewSocket (mpdccptunClosesk conn) calls
      | .opening _ => bindNewSocket conn calls
      | _ => (-ENOTCONN, conn) := by
  unfold mpdccptunDobind testBound
  split
  · rfl
  · split
    · rfl
    · split
      · split
        · rfl
        · rfl
      · rfl

/-- The steps of a worker through `mpdccptun_dobind`, taken one after the other, are
`mpdccptun_dobind`. -/
theorem run_dobind (hz : Nat) {state : BindState} {work : Work}
    (entered : state.worker = .entered work) (calls : BindCalls) :
    ∃ labels, run (step hz) state labels =
      some { state with
        conn := (mpdccptunDobind state.conn calls).2
        worker := if (mpdccptunDobind state.conn calls).1 < 0 then .idle else .bound work } := by
  have tested : step hz state .test =
      some { state with worker := testBound state.conn.tdat work } := by
    simp [step, entered]
  rw [mpdccptunDobind_eq state.conn calls work]
  rcases testBound_cases state.conn.tdat work with eq | eq | eq | ⟨eq, -⟩
  · rw [eq] at tested ⊢
    exact ⟨[.test], by simp [run, tested]⟩
  · rw [eq] at tested ⊢
    exact ⟨[.test], by simp [run, tested, ENOTCONN]⟩
  · rw [eq] at tested ⊢
    have opening : ({ state with
        conn := mpdccptunClosesk state.conn
        worker := .opening work } : BindState).worker = .opening work := rfl
    obtain ⟨labels, ran⟩ := run_bindNewSocket hz opening calls
    refine ⟨.test :: .close :: labels, ?_⟩
    rw [run, tested]
    exact ran
  · rw [eq] at tested ⊢
    have opening : ({ state with worker := .opening work } : BindState).worker =
        .opening work := rfl
    obtain ⟨labels, ran⟩ := run_bindNewSocket hz opening calls
    refine ⟨.test :: labels, ?_⟩
    rw [run, tested]
    exact ran

/-- A worker that has entered `mpdccptun_dobind` runs it and finishes. -/
theorem run_worker (hz : Nat) {state : BindState} {work : Work}
    (entered : state.worker = .entered work) (calls : BindCalls) (ret : Int) (jiffies : Nat) :
    ∃ labels, run (step hz) state labels =
      some { state with
        conn :=
          if (mpdccptunDobind state.conn calls).1 < 0 then
            (mpdccptunDobind state.conn calls).2
          else finishWork hz (mpdccptunDobind state.conn calls).2 ret jiffies work
        worker := .idle } := by
  obtain ⟨labels, ran⟩ := run_dobind hz entered calls
  by_cases failed : (mpdccptunDobind state.conn calls).1 < 0
  · rw [if_pos failed] at ran ⊢
    exact ⟨labels, ran⟩
  · rw [if_neg failed] at ran ⊢
    refine ⟨labels ++ [.finish ret jiffies], ?_⟩
    rw [run_append, ran]
    rfl

theorem mpdccptunElabConnect_eq (hz : Nat) (conn : ConnState) (calls : BindCalls) (ret : Int)
    (jiffies : Nat) :
    (mpdccptunElabConnect hz conn calls ret jiffies).2 =
      if (mpdccptunDobind { conn with connTimer := none } calls).1 < 0 then
        (mpdccptunDobind { conn with connTimer := none } calls).2
      else finishWork hz (mpdccptunDobind { conn with connTimer := none } calls).2 ret jiffies
        .conn := by
  unfold mpdccptunElabConnect finishWork
  generalize mpdccptunDobind { conn with connTimer := none } calls = dobind
  obtain ⟨bindRet, bound⟩ := dobind
  simp only
  split
  · rfl
  · split
    · rfl
    · split
      · rfl
      · cases bound.tdat.sock <;> rfl

theorem mpdccptunDoserverstart_eq (hz : Nat) {conn : ConnState}
    (server : conn.tdat.isserver = true) (calls : BindCalls) (ret : Int) (jiffies : Nat) :
    (mpdccptunDoserverstart conn calls ret).2 =
      if (mpdccptunDobind conn calls).1 < 0 then (mpdccptunDobind conn calls).2
      else finishWork hz (mpdccptunDobind conn calls).2 ret jiffies .listen := by
  unfold mpdccptunDoserverstart finishWork
  simp only [server, Bool.not_true, Bool.false_eq_true, if_false]
  generalize mpdccptunDobind conn calls = dobind
  obtain ⟨bindRet, bound⟩ := dobind
  simp only
  split
  · rfl
  · cases bound.tdat.sock <;> rfl

/-- The steps of a connect worker, taken one after the other, are
`mpdccptun_elab_connect`. -/
theorem run_connectHandler (hz : Nat) {conn : ConnState} (queued : conn.connQueued = true)
    (calls : BindCalls) (ret : Int) (jiffies : Nat) :
    ∃ labels, run (step hz) (atRest conn) labels =
      some (atRest (mpdccptunElabConnect hz { conn with connQueued := false } calls ret
        jiffies).2) := by
  have started : step hz (atRest conn) (.start .conn) =
      some { atRest { conn with connQueued := false, connTimer := none } with
        worker := .entered .conn } := by
    simp [step, atRest, queued]
  have entered : ({ atRest { conn with connQueued := false, connTimer := none } with
      worker := .entered .conn } : BindState).worker = .entered .conn := rfl
  obtain ⟨labels, ran⟩ := run_worker hz entered calls ret jiffies
  refine ⟨.start .conn :: labels, ?_⟩
  rw [mpdccptunElabConnect_eq, run, started]
  exact ran

/-- The steps of a listen worker, taken one after the other, are
`mpdccptun_doserverstart`. -/
theorem run_listenHandler (hz : Nat) {conn : ConnState} (queued : conn.listenQueued = true)
    (calls : BindCalls) (ret : Int) :
    ∃ labels, run (step hz) (atRest conn) labels =
      some (atRest (mpdccptunDoserverstart { conn with listenQueued := false } calls
        ret).2) := by
  by_cases server : conn.tdat.isserver = true
  · have started : step hz (atRest conn) (.start .listen) =
        some { atRest { conn with listenQueued := false } with
          worker := .entered .listen } := by
      simp [step, atRest, queued, server]
    have entered : ({ atRest { conn with listenQueued := false } with
        worker := .entered .listen } : BindState).worker = .entered .listen := rfl
    obtain ⟨labels, ran⟩ := run_worker hz entered calls ret 0
    refine ⟨.start .listen :: labels, ?_⟩
    have isServer : { conn with listenQueued := false }.tdat.isserver = true := server
    rw [mpdccptunDoserverstart_eq hz isServer calls ret 0, run, started]
    exact ran
  · refine ⟨[.start .listen], ?_⟩
    simp [run, step, atRest, queued, server, mpdccptunDoserverstart]

/-- The labels of the tunnel whose steps are taken apart here. -/
def Splits : Connection.Label → Prop
  | .bind .. | .peer _ | .serverstart | .connectHandler .. | .listenHandler .. => True
  | _ => False

theorem run_of_step {hz : Nat} {conn next : ConnState} {label : Connection.Label}
    (splits : Splits label) (stepped : Connection.step hz conn label = some next) :
    ∃ labels, run (step hz) (atRest conn) labels = some (atRest next) := by
  cases label with
  | bind addr flags =>
      obtain rfl := Option.some.inj stepped
      exact run_bind hz rfl addr flags
  | peer addr =>
      obtain rfl := Option.some.inj stepped
      exact ⟨[.peer addr], rfl⟩
  | serverstart =>
      obtain rfl := Option.some.inj stepped
      exact ⟨[.serverstart], rfl⟩
  | connectHandler calls ret jiffies =>
      simp only [Connection.step, Option.ite_none_right_eq_some, Option.some.injEq] at stepped
      obtain ⟨queued, rfl⟩ := stepped
      exact run_connectHandler hz queued calls ret jiffies
  | listenHandler calls ret =>
      simp only [Connection.step, Option.ite_none_right_eq_some, Option.some.injEq] at stepped
      obtain ⟨queued, rfl⟩ := stepped
      exact run_listenHandler hz queued calls ret
  | setqueue | acceptHandler | tpListenReady | subflowCreate | subflowDestroy
  | allSubflowDown | connTimer =>
      exact absurd splits id

/-- Every run in which each request and each worker run is one step is a run of the
interleaved steps. -/
theorem run_of_connection_run {hz : Nat} {conn final : ConnState}
    {labels : List Connection.Label} (splits : ∀ label ∈ labels, Splits label)
    (ran : run (Connection.step hz) conn labels = some final) :
    ∃ labels, run (step hz) (atRest conn) labels = some (atRest final) :=
  exists_run_of_refined run_of_step splits ran

/-- What a step leaves alone that does not concern the binding. -/
structure SameBinding (conn next : ConnState) : Prop where
  bound : next.tdat.bound = conn.tdat.bound
  rebind : next.tdat.rebind = conn.tdat.rebind
  sock : next.tdat.sock = conn.tdat.sock
  laddr : next.tdat.addr.laddr = conn.tdat.addr.laddr
  sockets : ∀ sock, (next.sockets sock).laddr = (conn.sockets sock).laddr

theorem SameBinding.refl (conn : ConnState) : SameBinding conn conn :=
  ⟨rfl, rfl, rfl, rfl, fun _ => rfl⟩

theorem SameBinding.boundAddr_eq {conn next : ConnState} (same : SameBinding conn next) :
    boundAddr next = boundAddr conn := by
  unfold boundAddr
  rw [same.sock]
  congr 1
  funext sock
  exact same.sockets sock

theorem sameBinding_startListening {conn next : ConnState} (same : SameBinding conn next)
    (sock : SockId) (ret : Int) : SameBinding conn (startListening next sock ret).2 := by
  unfold startListening
  split
  · exact same
  · refine ⟨same.bound, same.rebind, same.sock, same.laddr, fun other => ?_⟩
    simp only [setSocket]
    rw [member_update Socket.laddr]
    · exact same.sockets other
    · rfl

theorem sameBinding_mpdccptunCloseListen (conn : ConnState) :
    SameBinding conn (mpdccptunCloseListen conn) := by
  rw [mpdccptunCloseListen_eq]
  refine ⟨rfl, rfl, rfl, rfl, fun other => ?_⟩
  have detachedLaddr := member_detached Socket.laddr (fun _ => rfl) conn.sockets
    conn.tdat.active other
  dsimp only
  cases conn.tdat.sock with
  | none => exact detachedLaddr
  | some sock =>
      unfold silenced
      rw [member_update Socket.laddr]
      · exact detachedLaddr
      · rfl

theorem sameBinding_finishWork (hz : Nat) (conn : ConnState) (ret : Int) (jiffies : Nat)
    (work : Work) : SameBinding conn (finishWork hz conn ret jiffies work) := by
  cases work with
  | conn =>
      simp only [finishWork]
      split
      · exact SameBinding.refl conn
      · split
        · exact SameBinding.refl conn
        · split
          · exact ⟨rfl, rfl, rfl, rfl, fun _ => rfl⟩
          · unfold connectSocket
            simp only
            split
            · exact ⟨rfl, rfl, rfl, rfl, member_update Socket.laddr rfl⟩
            · refine ⟨rfl, rfl, rfl, rfl, fun other => ?_⟩
              simp only [setSocket, Function.update_idem]
              exact member_update Socket.laddr (by simp) other
  | listen =>
      simp only [finishWork]
      split
      · exact SameBinding.refl conn
      · apply sameBinding_startListening
        split
        · exact sameBinding_mpdccptunCloseListen conn
        · exact SameBinding.refl conn

theorem sameBinding_mpdccptunPeer (conn : ConnState) (addr : Option TpAddr) :
    SameBinding conn (mpdccptunPeer conn addr).2 := by
  have stepped := ConnectionStep.stepped_peer 0 conn addr
  generalize (mpdccptunPeer conn addr).2 = next at stepped
  cases stepped with
  | peerIgnored => exact SameBinding.refl conn
  | peer => exact ⟨rfl, rfl, rfl, rfl, fun _ => rfl⟩

theorem sameBinding_mpdccptunServerstart (conn : ConnState) :
    SameBinding conn (mpdccptunServerstart conn).2 := by
  unfold mpdccptunServerstart
  split
  · exact SameBinding.refl conn
  · split
    · exact SameBinding.refl conn
    · exact ⟨rfl, rfl, rfl, rfl, fun _ => rfl⟩

theorem sameBinding_queueWork (conn : ConnState) : SameBinding conn (queueWork conn) := by
  unfold queueWork
  split
  · exact ⟨rfl, rfl, rfl, rfl, fun _ => rfl⟩
  · split
    · exact ⟨rfl, rfl, rfl, rfl, fun _ => rfl⟩
    · exact SameBinding.refl conn

theorem boundAddr_setBound (conn : ConnState) : boundAddr (setBound conn) = boundAddr conn := by
  unfold setBound boundAddr
  cases sockEq : conn.tdat.sock with
  | none => simp [sockEq]
  | some sock => simp [tpSetTdat, setSocket, sockEq]

/-- The invariant: a tunnel that is about to be bound is not, and a socket that is bound
is bound to the stored address, unless a rebind is or will be asked for. -/
structure Synced (state : BindState) : Prop where
  opening : ∀ work, state.worker = .opening work ∨ state.worker = .opened work →
    state.conn.tdat.bound = false
  opened : ∀ work, state.worker = .opened work → state.request ≠ .stored →
    boundAddr state.conn = some state.conn.tdat.addr.laddr
  used : state.request ≠ .stored → state.conn.tdat.bound = true →
    state.conn.tdat.rebind = false → state.conn.tdat.sock.isSome = true →
      boundAddr state.conn = some state.conn.tdat.addr.laddr

theorem Synced.of_same {state next : BindState} (synced : Synced state)
    (same : SameBinding state.conn next.conn)
    (worker : next.worker = state.worker ∨ (∃ work, next.worker = .entered work) ∨
      next.worker = .idle)
    (request : next.request = state.request ∨ state.request = .marked) : Synced next := by
  have kept : next.request ≠ .stored → state.request ≠ .stored := by
    rcases request with sameRequest | marked
    · rw [sameRequest]
      exact id
    · simp [marked]
  have stays {work : Work} : next.worker = .opening work ∨ next.worker = .opened work →
      next.worker = state.worker := by
    rcases worker with sameWorker | ⟨entered, enteredEq⟩ | idle
    · exact fun _ => sameWorker
    · simp [enteredEq]
    · simp [idle]
  constructor
  · intro work opens
    rw [same.bound]
    exact synced.opening work (stays opens ▸ opens)
  · intro work opens unstored
    rw [same.boundAddr_eq, same.laddr]
    exact synced.opened work (stays (Or.inr opens) ▸ opens) (kept unstored)
  · rw [same.bound, same.rebind, same.sock, same.boundAddr_eq, same.laddr]
    exact fun unstored => synced.used (kept unstored)

/-- A step whose tunnel is not bound afterwards keeps the invariant if no socket has just
been opened. -/
theorem synced_of_unbound {state : BindState} (unbound : state.conn.tdat.bound = false)
    (unopened : ∀ work, state.worker ≠ .opened work) : Synced state :=
  ⟨fun _ _ => unbound, fun work opened => absurd opened (unopened work), by simp [unbound]⟩

theorem storeAddr_cases (state : BindState) (addr : Option TpAddr) (flags : Nat) :
    storeAddr state addr flags = state ∨ ∃ tad, storeAddr state addr flags =
      { state with
        conn := { state.conn with tdat := { state.conn.tdat with addr := tad } }
        request := .stored } := by
  unfold storeAddr
  cases addr with
  | none => exact Or.inl rfl
  | some addr =>
      simp only
      split
      · exact Or.inl rfl
      · split
        · exact Or.inl rfl
        · exact Or.inr ⟨_, rfl⟩

/-- A worker that stands neither before nor behind `kernel_bind` keeps the invariant. -/
theorem synced_of_worker {state : BindState} {worker : WorkerPc} (synced : Synced state)
    (elsewhere : ∀ work, worker ≠ .opened work)
    (opening : ∀ work, worker = .opening work → state.conn.tdat.bound = false) :
    Synced { state with worker := worker } := by
  refine ⟨?_, fun work opened => absurd opened (elsewhere work), synced.used⟩
  rintro work (opens | opened)
  · exact opening work opens
  · exact absurd opened (elsewhere work)

theorem synced_of_step {hz : Nat} {state next : BindState} {label : Label}
    (inTime : MarksInTime state label) (synced : Synced state)
    (stepped : step hz state label = some next) : Synced next := by
  cases label with
  | store addr flags =>
      simp only [step, Option.ite_none_right_eq_some, Option.some.injEq] at stepped
      obtain ⟨-, rfl⟩ := stepped
      rcases storeAddr_cases state addr flags with same | ⟨tad, stored⟩
      · rw [same]
        exact synced
      · rw [stored]
        exact ⟨synced.opening, by simp, by simp⟩
  | mark =>
      simp only [step, Option.ite_none_right_eq_some, Option.some.injEq] at stepped
      obtain ⟨-, rfl⟩ := stepped
      refine ⟨synced.opening, ?_, ?_⟩
      · intro work opened _
        have isOpened : state.worker = .opened work := opened
        apply inTime
        rw [isOpened]
        rfl
      · intro _ bound unmarked
        have isBound : state.conn.tdat.bound = true := bound
        simp [markRebind, isBound] at unmarked
  | queue =>
      simp only [step, Option.ite_none_right_eq_some, Option.some.injEq] at stepped
      obtain ⟨marked, rfl⟩ := stepped
      exact synced.of_same (sameBinding_queueWork state.conn) (Or.inl rfl) (Or.inr marked)
  | peer addr =>
      simp only [step, Option.ite_none_right_eq_some, Option.some.injEq] at stepped
      obtain ⟨-, rfl⟩ := stepped
      exact synced.of_same (sameBinding_mpdccptunPeer state.conn addr) (Or.inl rfl)
        (Or.inl rfl)
  | serverstart =>
      simp only [step, Option.ite_none_right_eq_some, Option.some.injEq] at stepped
      obtain ⟨-, rfl⟩ := stepped
      exact synced.of_same (sameBinding_mpdccptunServerstart state.conn) (Or.inl rfl)
        (Or.inl rfl)
  | start work =>
      cases work with
      | conn =>
          simp only [step, Option.ite_none_right_eq_some, Option.some.injEq] at stepped
          obtain ⟨-, rfl⟩ := stepped
          exact synced.of_same ⟨rfl, rfl, rfl, rfl, fun _ => rfl⟩ (Or.inr (Or.inl ⟨_, rfl⟩))
            (Or.inl rfl)
      | listen =>
          simp only [step, Option.ite_none_right_eq_some, Option.some.injEq] at stepped
          obtain ⟨-, rfl⟩ := stepped
          refine synced.of_same ⟨rfl, rfl, rfl, rfl, fun _ => rfl⟩ (Or.inr ?_) (Or.inl rfl)
          cases server : state.conn.tdat.isserver with
          | false => simp
          | true => simp
  | test =>
      simp only [step] at stepped
      split at stepped
      · rename_i work _
        obtain rfl := Option.some.inj stepped
        rcases testBound_cases state.conn.tdat work with eq | eq | eq | ⟨eq, unbound⟩
        · rw [eq]
          exact synced_of_worker synced (by simp) (by simp)
        · rw [eq]
          exact synced_of_worker synced (by simp) (by simp)
        · rw [eq]
          exact synced_of_worker synced (by simp) (by simp)
        · rw [eq]
          exact synced_of_worker synced (by simp) (fun _ _ => unbound)
      · contradiction
  | close =>
      simp only [step] at stepped
      split at stepped
      · obtain rfl := Option.some.inj stepped
        apply synced_of_unbound
        · rw [mpdccptunClosesk_eq]
        · simp
      · contradiction
  | kernelBind calls =>
      simp only [step] at stepped
      split at stepped
      · rename_i work opening
        have unbound := synced.opening work (Or.inl opening)
        split at stepped
        · rename_i fails
          obtain rfl := Option.some.inj stepped
          rcases bindNewSocket_cases state.conn calls with ⟨-, -, failed⟩ | ⟨works, -⟩
          · exact synced_of_unbound (failed.bound_eq.trans unbound) (by simp)
          · exact absurd fails works
        · obtain rfl := Option.some.inj stepped
          refine ⟨fun _ _ => unbound, ?_, ?_⟩
          · intro _ _ _
            simp [boundAddr, kernelBound]
          · intro _ bound
            have isBound : state.conn.tdat.bound = true := bound
            simp [unbound] at isBound
      · contradiction
  | setBound =>
      simp only [step] at stepped
      split at stepped
      · rename_i work opened
        obtain rfl := Option.some.inj stepped
        refine ⟨by simp, by simp, ?_⟩
        intro unstored _ _ _
        have laddr : (setBound state.conn).tdat.addr.laddr = state.conn.tdat.addr.laddr := by
          unfold setBound
          cases state.conn.tdat.sock <;> rfl
        rw [boundAddr_setBound, laddr]
        exact synced.opened work opened unstored
      · contradiction
  | finish ret jiffies =>
      simp only [step] at stepped
      split at stepped
      · rename_i work _
        obtain rfl := Option.some.inj stepped
        exact synced.of_same (sameBinding_finishWork hz state.conn ret jiffies work)
          (Or.inr (Or.inr rfl)) (Or.inl rfl)
      · contradiction

theorem synced_initial (ipv6 ismpdccp : Bool) :
    Synced (atRest (initial ipv6 ismpdccp)) :=
  synced_of_unbound rfl (by simp [atRest])

/-- In every run in which no request tests `bound` between `kernel_bind` to another
address and setting `bound`, no bind request is lost. -/
theorem usesStored_of_marksInTime (hz : Nat) (ipv6 ismpdccp : Bool) (labels : List Label)
    (state : BindState)
    (inTime : Guarded (step hz) MarksInTime (atRest (initial ipv6 ismpdccp)) labels)
    (ran : run (step hz) (atRest (initial ipv6 ismpdccp)) labels = some state) :
    UsesStored state := by
  have synced : Synced state :=
    invariant_of_guarded (fun inTime synced stepped => synced_of_step inTime synced stepped)
      inTime (synced_initial ipv6 ismpdccp) ran
  exact fun _ => synced.used

/-- A client is bound while its worker runs, before `kernel_bind` takes the address and
with the mark set behind it, and bound again once the worker is done. -/
def bindBesideWorker : List Label :=
  [.peer (some serverAddress), .start .conn, .test, .store (some serverAddress) 0,
    .kernelBind allSucceed, .mark, .queue, .setBound, .finish 0 0,
    .store (some { serverAddress with ip := 0 }) 0, .mark, .queue,
    .start .conn, .test, .close, .kernelBind allSucceed, .setBound, .finish 0 0]

theorem usesStored_bindBesideWorker :
    ∃ state, run (step 100) (atRest (initial false true)) bindBesideWorker = some state ∧
      state.conn.tdat.bound = true ∧ state.conn.tdat.rebind = false ∧ UsesStored state := by
  refine ⟨_, rfl, rfl, rfl, ?_⟩
  refine usesStored_of_marksInTime 100 false true bindBesideWorker _ ?_ rfl
  decide

/-- A client is bound while its connect worker stands between `kernel_bind` and setting
`bound`. -/
def bindBeforeBound : List Label :=
  [.peer (some serverAddress), .start .conn, .test, .kernelBind allSucceed,
    .store (some serverAddress) 0, .mark, .queue, .setBound, .finish 0 0]

theorem not_usesStored_bindBeforeBound :
    ∃ state, run (step 100) (atRest (initial false true)) bindBeforeBound = some state ∧
      state.request = .idle ∧ state.conn.connQueued = false ∧ ¬ UsesStored state := by
  refine ⟨_, rfl, rfl, rfl, ?_⟩
  intro uses
  have used := uses rfl (by decide) rfl rfl rfl
  revert used
  decide

end Tunprox.BindRequest
