import Tunprox.ConnectionOwned

/-!
# A bound tunnel has a socket

`mpdccptun_elab_connect`, `mpdccptun_setqueue` and `mpdccptun_elab_accept` read
through `tdat->sock` without a test.  The flag `bound` stands for the pointer
being set, and a queued accept for the tunnel being bound.  Two operations
break this: a client's link-down clears the pointer and not the flag, and a
failed rebind closes the listening socket below a queued accept.
-/

namespace Tunprox.ConnectionSocket

open Connection ConnectionBind ConnectionOutcome ConnectionStep ConnectionOwned LabelledRun

/-- No null pointer was read, and the flag `bound` stands for the pointer. -/
def Safe (state : ConnState) : Prop :=
  state.nullDeref = false ∧ Backed state

/-- The step neither closes the socket of a bound client on a link-down, nor
loses the listening socket in a failed rebind while an accept is queued. -/
def KeepsSocket (state : ConnState) : Label → Prop
  | .connectHandler calls _ _ =>
      state.acceptQueued = true → ¬ (Rebinds state.tdat ∧ BindFails state.tdat calls)
  | .listenHandler calls _ =>
      state.acceptQueued = true → state.tdat.isserver = true →
        ¬ (Rebinds state.tdat ∧ BindFails state.tdat calls)
  | .allSubflowDown metaSock _ =>
      (state.sockets metaSock).userData = true →
        state.tdat.bound = true → state.tdat.listening = true
  | .connTimer _ =>
      state.tdat.ismpdccp = true → state.tdat.numSubflow = 0 →
        state.tdat.bound = true → state.tdat.listening = true
  | _ => True

instance (state : ConnState) : (label : Label) → Decidable (KeepsSocket state label)
  | .connectHandler calls _ _ =>
      inferInstanceAs (Decidable (state.acceptQueued = true →
        ¬ (Rebinds state.tdat ∧ BindFails state.tdat calls)))
  | .listenHandler calls _ =>
      inferInstanceAs (Decidable (state.acceptQueued = true → state.tdat.isserver = true →
        ¬ (Rebinds state.tdat ∧ BindFails state.tdat calls)))
  | .allSubflowDown metaSock _ =>
      inferInstanceAs (Decidable ((state.sockets metaSock).userData = true →
        state.tdat.bound = true → state.tdat.listening = true))
  | .connTimer _ =>
      inferInstanceAs (Decidable (state.tdat.ismpdccp = true → state.tdat.numSubflow = 0 →
        state.tdat.bound = true → state.tdat.listening = true))
  | .bind .. | .peer _ | .serverstart | .setqueue .. | .acceptHandler _ | .tpListenReady _
  | .subflowCreate .. | .subflowDestroy .. =>
      inferInstanceAs (Decidable True)

/-- The invariant: in addition, an accept is queued only on a bound tunnel. -/
structure Kept (state : ConnState) : Prop where
  running : state.tdat.tostop = false
  intact : state.nullDeref = false
  backed : Backed state
  accept : state.acceptQueued = true → state.tdat.bound = true

/-- What `Kept` reads of a state. -/
structure SameSocket (state next : ConnState) : Prop where
  tostop : next.tdat.tostop = state.tdat.tostop
  nullDeref : next.nullDeref = state.nullDeref
  acceptQueued : next.acceptQueued = state.acceptQueued
  bound : next.tdat.bound = state.tdat.bound
  sock : next.tdat.sock = state.tdat.sock

theorem Kept.of_same {state next : ConnState} (kept : Kept state)
    (same : SameSocket state next) : Kept next where
  running := by
    rw [same.tostop]
    exact kept.running
  intact := by
    rw [same.nullDeref]
    exact kept.intact
  backed := by
    unfold Backed
    rw [same.bound, same.sock]
    exact kept.backed
  accept := by
    rw [same.acceptQueued, same.bound]
    exact kept.accept

theorem kept_of_unbound {state : ConnState} (running : state.tdat.tostop = false)
    (intact : state.nullDeref = false) (unbound : state.tdat.bound = false)
    (unqueued : state.acceptQueued = false) : Kept state :=
  ⟨running, intact, by simp [Backed, unbound], by simp [unqueued]⟩

/-- A tunnel that fails to get a new socket has no accept queued. -/
theorem unqueued_of_opens {state base : ConnState} {calls : BindCalls} (kept : Kept state)
    (keeps : state.acceptQueued = true →
      ¬ (Rebinds state.tdat ∧ BindFails state.tdat calls))
    (opens : Opens state base) (fails : BindFails state.tdat calls) :
    state.acceptQueued = false := by
  by_contra queued
  have isQueued : state.acceptQueued = true := by simpa using queued
  cases opens with
  | unbound _ _ unbound =>
      have bound := kept.accept isQueued
      simp [unbound] at bound
  | rebinds rebinds => exact keeps isQueued ⟨rebinds, fails⟩

/-- `mpdccptun_dobind` keeps the invariant unless it loses the socket below a
queued accept. -/
theorem kept_of_dobind {state bound : ConnState} {calls : BindCalls} {ret : Int}
    (kept : Kept state)
    (keeps : state.acceptQueued = true →
      ¬ (Rebinds state.tdat ∧ BindFails state.tdat calls))
    (binds : Dobind state calls (ret, bound)) : Kept bound := by
  have frame := binds.frame
  have running := frame.tostop.trans kept.running
  have intact := frame.nullDeref.trans kept.intact
  cases binds with
  | stopped | refused | kept => exact kept
  | failed opens fails failed _ =>
      have unqueued := unqueued_of_opens kept keeps opens fails
      exact kept_of_unbound running intact (failed.bound_eq.trans opens.bound_eq)
        (frame.acceptQueued.trans unqueued)
  | bound => exact ⟨running, intact, fun _ => rfl, fun _ => rfl⟩

theorem kept_of_connects {hz : Nat} {state next : ConnState} {calls : BindCalls}
    {kernelConnect : Int} {jiffies : Nat}
    (connects : Connects hz state calls kernelConnect jiffies next) (kept : Kept state)
    (keeps : state.acceptQueued = true →
      ¬ (Rebinds state.tdat ∧ BindFails state.tdat calls)) : Kept next := by
  cases connects with
  | unbound binds _ => exact kept_of_dobind kept keeps binds
  | unpeered binds _ => exact kept_of_dobind kept keeps binds
  | faulted binds absent =>
      have present := (kept_of_dobind kept keeps binds).backed (binds.bound_eq kept.running)
      simp [absent] at present
  | refused binds _ _ _ =>
      exact (kept_of_dobind kept keeps binds).of_same ⟨rfl, rfl, rfl, rfl, rfl⟩
  | connected binds _ _ _ =>
      exact (kept_of_dobind kept keeps binds).of_same ⟨rfl, rfl, rfl, rfl, rfl⟩

theorem kept_of_listens {state next : ConnState} {calls : BindCalls} {kernelListen : Int}
    (listens : Listens state calls kernelListen next) (kept : Kept state)
    (keeps : state.acceptQueued = true → state.tdat.isserver = true →
      ¬ (Rebinds state.tdat ∧ BindFails state.tdat calls)) : Kept next := by
  have bound {ret : Int} {bound : ConnState} (server : state.tdat.isserver = true)
      (binds : Dobind state calls (ret, bound)) : Kept bound :=
    kept_of_dobind kept (fun queued => keeps queued server) binds
  cases listens with
  | client => exact kept
  | unbound server binds _ => exact bound server binds
  | absent server binds _ => exact bound server binds
  | listened server binds _ _ => exact (bound server binds).of_same ⟨rfl, rfl, rfl, rfl, rfl⟩
  | again server binds _ _ => exact (bound server binds).of_same ⟨rfl, rfl, rfl, rfl, rfl⟩

theorem kept_of_accepts {state next : ConnState} {kernelAccept : Int} (kept : Kept state)
    (queued : state.acceptQueued = true)
    (accepts : Accepts { state with acceptQueued := false } kernelAccept next) :
    Kept next := by
  cases accepts with
  | faulted absent =>
      have present := kept.backed (kept.accept queued)
      have isNone : state.tdat.sock = none := absent
      simp [isNone] at present
  | refused => exact ⟨kept.running, kept.intact, kept.backed, by simp⟩
  | accepted => exact ⟨kept.running, kept.intact, kept.backed, by simp⟩

theorem kept_of_goesDown {state next : ConnState} {jiffies : Nat}
    (goesDown : GoesDown state jiffies next) (kept : Kept state)
    (keeps : state.tdat.bound = true → state.tdat.listening = true) : Kept next := by
  cases goesDown with
  | server => exact kept.of_same ⟨rfl, rfl, rfl, rfl, rfl⟩
  | client client =>
      have unbound : ¬ state.tdat.bound = true := by
        intro bound
        simp [client] at keeps
        simp [keeps] at bound
      have unqueued : ¬ state.acceptQueued = true := fun queued => unbound (kept.accept queued)
      exact kept_of_unbound kept.running kept.intact (by simpa using unbound)
        (by simpa using unqueued)

/-- One step keeps the invariant if it keeps the socket. -/
theorem kept_of_stepped {hz : Nat} {state next : ConnState} {label : Label}
    (keeps : KeepsSocket state label) (kept : Kept state)
    (stepped : Stepped hz state label next) : Kept next := by
  cases stepped with
  | bindIgnored | peerIgnored | serverstartIgnored | allSubflowDownIgnored => exact kept
  | bind | peer | serverstart | connTimerIgnored | subflowCreate | subflowDestroy =>
      exact kept.of_same ⟨rfl, rfl, rfl, rfl, rfl⟩
  | setqueue _ _ _ _ _ _ _ _ intact =>
      exact kept.of_same ⟨rfl, intact kept.backed, rfl, rfl, rfl⟩
  | connect _ connects =>
      refine kept_of_connects connects ?_ keeps
      exact kept.of_same ⟨rfl, rfl, rfl, rfl, rfl⟩
  | listen _ listens =>
      refine kept_of_listens listens ?_ keeps
      exact kept.of_same ⟨rfl, rfl, rfl, rfl, rfl⟩
  | accept queued accepts => exact kept_of_accepts kept queued accepts
  | listenReady _ _ _ queued =>
      refine ⟨kept.running, kept.intact, kept.backed, fun isQueued => ?_⟩
      rcases queued with same | bound
      · exact kept.accept (same ▸ isQueued)
      · exact bound
  | allSubflowDown _ _ heard goesDown => exact kept_of_goesDown goesDown kept (keeps heard)
  | connTimer _ ismpdccp empty goesDown =>
      refine kept_of_goesDown goesDown ?_ (keeps ismpdccp empty)
      exact kept.of_same ⟨rfl, rfl, rfl, rfl, rfl⟩

theorem kept_initial (ipv6 ismpdccp : Bool) : Kept (initial ipv6 ismpdccp) where
  running := rfl
  intact := rfl
  backed := by simp [Backed, initial, mpdccptunNew]
  accept := by simp [initial]

/-- In every run whose steps keep the socket, no null pointer is read and the
flag `bound` stands for the pointer. -/
theorem safe_of_keepsSocket (hz : Nat) (ipv6 ismpdccp : Bool) (labels : List Label)
    (state : ConnState)
    (keeps : Guarded (step hz) KeepsSocket (initial ipv6 ismpdccp) labels)
    (ran : run (step hz) (initial ipv6 ismpdccp) labels = some state) :
    Safe state := by
  have kept : Kept state :=
    invariant_of_stepped (fun _ keeps kept stepped => kept_of_stepped keeps kept stepped)
      keeps (kept_initial ipv6 ismpdccp) ran
  exact ⟨kept.intact, kept.backed⟩

/-- Every call for a new socket succeeds. -/
def allSucceed : BindCalls where
  sockCreateKern := 0
  mpdccpon := true
  multipath := 0
  txqlen := 0
  qpolicy := 0
  kernelBind := 0

/-- The address 10.0.0.1, port 1337. -/
def serverAddress : TpAddr where
  saFamily := AF_INET
  ip := 0x0a000001
  sinPort := htons 1337

/-- A client connects, is bound to another address and connects again, and its
queue is set. -/
def connectAndRebind : List Label :=
  [.peer (some serverAddress), .connectHandler allSucceed 0 0,
    .bind (some serverAddress) 0, .connectHandler allSucceed 0 0, .setqueue 10 1 0 0]

theorem safe_connectAndRebind :
    ∃ state, run (step 100) (initial false true) connectAndRebind = some state ∧
      state.tdat.bound = true ∧ state.released = [0] ∧ Safe state := by
  refine ⟨_, rfl, rfl, rfl, ?_⟩
  refine safe_of_keepsSocket 100 false true connectAndRebind _ ?_ rfl
  decide

/-- A client whose link went down connects again; a server whose rebind failed
accepts a connection that arrived before. -/
theorem nullDeref_after_linkdown_and_failed_rebind :
    (∃ state, run (step 100) (initial false true)
        [.peer (some serverAddress), .connectHandler allSucceed 0 0,
          .allSubflowDown 0 0] = some state ∧ ¬ Backed state) ∧
      (∃ state, run (step 100) (initial false true)
        [.peer (some serverAddress), .connectHandler allSucceed 0 0,
          .allSubflowDown 0 0, .peer none, .connectHandler allSucceed 0 0] = some state ∧
        ¬ Safe state) ∧
      ∃ state, run (step 100) (initial false true)
        [.bind (some serverAddress) 0, .serverstart, .listenHandler allSucceed 0,
          .tpListenReady 0, .bind (some serverAddress) 0,
          .listenHandler { allSucceed with kernelBind := -98 } 0,
          .acceptHandler 0] = some state ∧ ¬ Safe state := by
  refine ⟨⟨_, rfl, ?_⟩, ⟨_, rfl, ?_⟩, ⟨_, rfl, ?_⟩⟩
  · unfold Backed
    decide
  · rintro ⟨intact, -⟩
    revert intact
    decide
  · rintro ⟨intact, -⟩
    revert intact
    decide

end Tunprox.ConnectionSocket
