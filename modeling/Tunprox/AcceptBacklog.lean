import Tunprox.ConnectionOwned

/-!
# The backlog of the listening socket

Each connection that arrives calls `tp_listen_ready`, which queues the accept
work.  Queueing is void while the work is queued, and each run accepts one
connection, so a connection that arrives while the work is queued may stay in
the backlog.
-/

namespace Tunprox.AcceptBacklog

open Errno Connection ConnectionStep ConnectionOwned LabelledRun

/-- Where a run of `accept_handler` stands: before or after `kernel_accept`. -/
inductive AcceptPc where
  | idle
  | entered
  | accepted
  deriving DecidableEq, Repr

structure BacklogState where
  conn : ConnState
  backlog : List Nat
  worker : AcceptPc

inductive Label where
  | arrive (connection : Nat)
  | start
  | elabAccept
  | finish
  deriving DecidableEq, Repr

/-- Arrivals on the listening socket and the steps of the accept worker.
`kernel_accept` fails only on an empty backlog. -/
def step (sock : SockId) (state : BacklogState) : Label → Option BacklogState
  | .arrive connection =>
      some { state with
        conn := tpListenReady state.conn sock
        backlog := state.backlog ++ [connection] }
  | .start =>
      if state.conn.acceptQueued = true ∧ state.worker = .idle then
        some { state with
          conn := { state.conn with acceptQueued := false }
          worker := .entered }
      else none
  | .elabAccept =>
      match state.worker, state.backlog with
      | .entered, [] =>
          some { state with
            conn := (mpdccptunElabAccept state.conn (-EAGAIN)).2
            worker := .accepted }
      | .entered, _ :: backlog =>
          some
            { conn := (mpdccptunElabAccept state.conn 0).2
              backlog := backlog
              worker := .accepted }
      | _, _ => none
  | .finish =>
      if state.worker = .accepted then some { state with worker := .idle } else none

/-- The socket has just been put into listen mode. -/
def initial (conn : ConnState) : BacklogState where
  conn := conn
  backlog := []
  worker := .idle

/-- With the accept work neither queued nor running, nobody waits. -/
def Drained (state : BacklogState) : Prop :=
  state.conn.acceptQueued = false → state.worker = .idle → state.backlog = []

/-- No connection arrives while the accept work is queued. -/
def ArrivesUnqueued (state : BacklogState) : Label → Prop
  | .arrive _ => state.conn.acceptQueued = false
  | _ => True

instance (state : BacklogState) : (label : Label) → Decidable (ArrivesUnqueued state label)
  | .arrive _ => inferInstanceAs (Decidable (state.conn.acceptQueued = false))
  | .start | .elabAccept | .finish => inferInstanceAs (Decidable True)

/-- `mpdccptun_elab_accept` leaves the listening socket and the queued work
alone. -/
theorem mpdccptunElabAccept_same {conn : ConnState} (owned : Owned conn)
    (kernelAccept : Int) :
    (mpdccptunElabAccept conn kernelAccept).2.tdat.bound = conn.tdat.bound ∧
      (mpdccptunElabAccept conn kernelAccept).2.tdat.sock = conn.tdat.sock ∧
      (mpdccptunElabAccept conn kernelAccept).2.acceptQueued = conn.acceptQueued := by
  have accepts := accepts_mpdccptunElabAccept kernelAccept owned.fresh
  generalize (mpdccptunElabAccept conn kernelAccept).2 = next at accepts
  cases accepts with
  | faulted | refused | accepted => exact ⟨rfl, rfl, rfl⟩

/-- The tunnel listens on `sock`, and the connections that wait are covered by
the queued work and by the run that has not yet called `kernel_accept`. -/
structure Covered (sock : SockId) (state : BacklogState) : Prop where
  owned : Owned state.conn
  bound : state.conn.tdat.bound = true
  sockEq : state.conn.tdat.sock = some sock
  waiting : state.backlog.length ≤
    (if state.conn.acceptQueued = true then 1 else 0) +
      (if state.worker = .entered then 1 else 0)

/-- On a bound tunnel `tp_listen_ready` always queues the work. -/
theorem tpListenReady_of_owned {conn : ConnState} {sock : SockId} (owned : Owned conn)
    (bound : conn.tdat.bound = true) (sockEq : conn.tdat.sock = some sock) :
    tpListenReady conn sock = { conn with acceptQueued := true } := by
  have userData := owned.userData sock sockEq bound
  simp [tpListenReady, userData, bound]

theorem owned_acceptQueued {conn : ConnState} (owned : Owned conn) (queued : Bool) :
    Owned { conn with acceptQueued := queued } :=
  owned.requeued _ _ _ _

theorem covered_of_step {sock : SockId} {state next : BacklogState} {label : Label}
    (unqueued : ArrivesUnqueued state label) (covered : Covered sock state)
    (stepped : step sock state label = some next) : Covered sock next := by
  obtain ⟨owned, bound, sockEq, waiting⟩ := covered
  cases label with
  | arrive connection =>
      obtain rfl := Option.some.inj stepped
      have notQueued : state.conn.acceptQueued = false := unqueued
      rw [tpListenReady_of_owned owned bound sockEq]
      refine ⟨owned_acceptQueued owned true, bound, sockEq, ?_⟩
      simp only [notQueued, Bool.false_eq_true, if_false] at waiting
      simp only [List.length_append, List.length_singleton, if_true]
      omega
  | start =>
      simp only [step] at stepped
      split at stepped
      · rename_i enabled
        obtain rfl := Option.some.inj stepped
        refine ⟨owned_acceptQueued owned false, bound, sockEq, ?_⟩
        simpa [enabled.1, enabled.2] using waiting
      · contradiction
  | elabAccept =>
      simp only [step] at stepped
      split at stepped
      · rename_i entered empty
        obtain rfl := Option.some.inj stepped
        obtain ⟨boundEq, sameSock, -⟩ := mpdccptunElabAccept_same owned (-EAGAIN)
        refine ⟨owned_mpdccptunElabAccept owned, boundEq.trans bound,
          sameSock.trans sockEq, ?_⟩
        simp [empty]
      · rename_i connection backlog entered waitingEq
        obtain rfl := Option.some.inj stepped
        obtain ⟨boundEq, sameSock, queuedEq⟩ := mpdccptunElabAccept_same owned 0
        refine ⟨owned_mpdccptunElabAccept owned, boundEq.trans bound,
          sameSock.trans sockEq, ?_⟩
        simp only [entered, waitingEq, List.length_cons, if_true] at waiting
        simp only [queuedEq]
        omega
      · contradiction
  | finish =>
      simp only [step] at stepped
      split at stepped
      · rename_i accepted
        obtain rfl := Option.some.inj stepped
        refine ⟨owned, bound, sockEq, ?_⟩
        simpa [accepted] using waiting
      · contradiction

/-- From every reachable state in which the tunnel listens: in every run in which
no connection arrives while the accept work is queued, nobody waits when the
work is neither queued nor running. -/
theorem drained_of_arrivesUnqueued (hz : Nat) (ipv6 ismpdccp : Bool)
    (requests : List Connection.Label) (conn : ConnState) (sock : SockId)
    (labels : List Label) (state : BacklogState)
    (reached : run (Connection.step hz) (Connection.initial ipv6 ismpdccp) requests =
      some conn)
    (listening : conn.tdat.listening = true) (sockEq : conn.tdat.sock = some sock)
    (unqueued : Guarded (step sock) ArrivesUnqueued (initial conn) labels)
    (ran : run (step sock) (initial conn) labels = some state) :
    Drained state := by
  have owned := owned_of_run reached
  have start : Covered sock (initial conn) := by
    refine ⟨owned, (owned.listening listening).1, sockEq, ?_⟩
    simp [initial]
  have covered : Covered sock state :=
    invariant_of_guarded (fun unqueued covered stepped =>
      covered_of_step unqueued covered stepped) unqueued start ran
  intro notQueued idle
  have waiting := covered.waiting
  simp only [notQueued, idle, Bool.false_eq_true, if_false, reduceCtorEq] at waiting
  exact List.length_eq_zero_iff.mp (Nat.le_zero.mp waiting)

/-- A server binds the address 0.0.0.0, port 1337, and starts to listen. -/
def startServer : List Connection.Label :=
  [.bind (some { saFamily := AF_INET, ip := 0, sinPort := htons 1337 }) 0, .serverstart,
    .listenHandler
      { sockCreateKern := 0
        mpdccpon := true
        multipath := 0
        txqlen := 0
        qpolicy := 0
        kernelBind := 0 } 0]

/-- The second connection arrives after the run for the first one has started. -/
def arriveDuringRun : List Label :=
  [.arrive 1, .start, .arrive 2, .elabAccept, .finish, .start, .elabAccept, .finish]

theorem drained_arriveDuringRun :
    ∃ conn state, run (Connection.step 100) (Connection.initial false true) startServer =
        some conn ∧
      run (step 0) (initial conn) arriveDuringRun = some state ∧ Drained state := by
  refine ⟨_, _, rfl, rfl, ?_⟩
  refine drained_of_arrivesUnqueued 100 false true startServer _ 0 arriveDuringRun _ rfl rfl
    rfl ?_ rfl
  decide

/-- Two connections arrive before the worker runs, and one stays. -/
theorem not_drained_two_arrivals :
    ∃ conn state, run (Connection.step 100) (Connection.initial false true) startServer =
        some conn ∧
      run (step 0) (initial conn) [.arrive 1, .arrive 2, .start, .elabAccept, .finish] =
        some state ∧
      state.conn.acceptQueued = false ∧ state.worker = .idle ∧ state.backlog = [2] ∧
      ¬ Drained state := by
  refine ⟨_, _, rfl, rfl, rfl, rfl, rfl, ?_⟩
  intro drained
  exact absurd (drained rfl rfl) (by decide)

end Tunprox.AcceptBacklog
