import Tunprox.ConnectionConserved
import Tunprox.Roster

/-!
# Counting the subflows of a tunnel

`tp_subflow_report` keeps the names of the living subflows of the sockets of a tunnel
and ignores the reports of a socket that does not point to the tunnel.  The link-down
closes its socket while it still does.  `mpdccptun_closesk`, `mpdccptun_close_listen`
and `mpdccptun_elab_accept` detach the socket first, so the subflows it still has stay
counted for good.
-/

namespace Tunprox.SubflowCount

open Connection ConnectionClose ConnectionBind ConnectionOutcome ConnectionStep
open ConnectionOwned ConnectionConserved ConnectionSocket LabelledRun Roster

/-- The subflows that were created on the sockets of the tunnel and not destroyed. -/
def livingSubflows (state : ConnState) : List (List UInt8) :=
  gather (fun sock => (state.sockets sock).subflows) state.nextSock

/-- The tunnel counts the living subflows of its sockets, and none once all its sockets
are closed. -/
def CountsSubflows (state : ConnState) : Prop :=
  state.tdat.numSubflow = (livingSubflows state).length ∧
    ((∀ sock < state.nextSock, sock ∈ state.released) → state.tdat.numSubflow = 0)

def subflowsOf (sockets : SockId → Socket) : Option SockId → List (List UInt8)
  | none => []
  | some sock => (sockets sock).subflows

/-- There is memory for the names of new subflows. -/
def Allocates : Label → Prop
  | .subflowCreate _ _ krealloc => krealloc = true
  | _ => True

instance : (label : Label) → Decidable (Allocates label)
  | .subflowCreate _ _ krealloc => inferInstanceAs (Decidable (krealloc = true))
  | .bind .. | .peer _ | .serverstart | .setqueue .. | .connectHandler ..
  | .listenHandler .. | .acceptHandler _ | .tpListenReady _ | .subflowDestroy ..
  | .allSubflowDown .. | .connTimer _ =>
      inferInstanceAs (Decidable True)

/-- The socket that a rebind closes and the active one have no subflows. -/
def RebindsEmpty (state : ConnState) : Prop :=
  Rebinds state.tdat → subflowsOf state.sockets state.tdat.sock = [] ∧
    subflowsOf state.sockets state.tdat.active = []

instance (state : ConnState) : Decidable (RebindsEmpty state) :=
  inferInstanceAs (Decidable (_ → _))

/-- The step detaches no socket that has subflows. -/
def DetachesEmpty (state : ConnState) : Label → Prop
  | .connectHandler .. => RebindsEmpty state
  | .listenHandler .. =>
      state.tdat.isserver = true → RebindsEmpty state ∧
        (state.tdat.listening = true → ¬ PortRefused state.tdat →
          subflowsOf state.sockets state.tdat.active = [])
  | .acceptHandler kernelAccept =>
      0 ≤ kernelAccept → subflowsOf state.sockets state.tdat.active = []
  | _ => True

instance (state : ConnState) : (label : Label) → Decidable (DetachesEmpty state label)
  | .connectHandler .. => inferInstanceAs (Decidable (RebindsEmpty state))
  | .listenHandler .. =>
      inferInstanceAs (Decidable (state.tdat.isserver = true → RebindsEmpty state ∧
        (state.tdat.listening = true → ¬ PortRefused state.tdat →
          subflowsOf state.sockets state.tdat.active = [])))
  | .acceptHandler kernelAccept =>
      inferInstanceAs (Decidable (0 ≤ kernelAccept →
        subflowsOf state.sockets state.tdat.active = []))
  | .bind .. | .peer _ | .serverstart | .setqueue .. | .tpListenReady _
  | .subflowCreate .. | .subflowDestroy .. | .allSubflowDown .. | .connTimer _ =>
      inferInstanceAs (Decidable True)

/-- The invariant: the names of the tunnel are those of the living subflows up to case,
the active socket points to the tunnel, and a released socket has no subflows. -/
structure Counted (state : ConnState) : Prop where
  roster : Matches (List.map kernelTolower) state.tdat.subflow (livingSubflows state)
  active : ∀ sock, state.tdat.active = some sock → (state.sockets sock).userData = true
  released : ∀ sock ∈ state.released, (state.sockets sock).subflows = []

theorem livingSubflows_eq {state next : ConnState} (nextSock : next.nextSock = state.nextSock)
    (subflows : ∀ sock, (next.sockets sock).subflows = (state.sockets sock).subflows) :
    livingSubflows next = livingSubflows state := by
  unfold livingSubflows
  rw [nextSock]
  congr 1
  funext sock
  exact subflows sock

theorem Counted.of_same {state next : ConnState} (counted : Counted state)
    (subflow : next.tdat.subflow = state.tdat.subflow)
    (active : next.tdat.active = state.tdat.active)
    (nextSock : next.nextSock = state.nextSock)
    (released : next.released = state.released)
    (userData : ∀ sock, (next.sockets sock).userData = (state.sockets sock).userData)
    (subflows : ∀ sock, (next.sockets sock).subflows = (state.sockets sock).subflows) :
    Counted next := by
  constructor
  · rw [subflow, livingSubflows_eq nextSock subflows]
    exact counted.roster
  · intro sock activeEq
    rw [userData]
    exact counted.active sock (active ▸ activeEq)
  · intro sock member
    rw [subflows]
    exact counted.released sock (released ▸ member)

theorem subflows_detached {sockets : SockId → Socket} {closed : Option SockId}
    (empty : subflowsOf sockets closed = []) (sock : SockId) :
    (detached sockets closed sock).subflows = (sockets sock).subflows := by
  cases closed with
  | none => rfl
  | some closed => exact member_update Socket.subflows empty.symm sock

theorem heard_of_sock {state : ConnState} (owned : Owned state) (conserved : Conserved state)
    (sock : SockId) (sockEq : state.tdat.sock = some sock) :
    (state.sockets sock).userData = true := by
  apply owned.userData sock sockEq
  by_contra unbound
  have absent := (conserved.unbound (by simpa using unbound)).1
  simp [sockEq] at absent

/-- A living socket of the tunnel points to it. -/
theorem heard_of_alive {state : ConnState} (owned : Owned state) (conserved : Conserved state)
    (counted : Counted state) {sock : SockId} (alive : Alive state sock) :
    (state.sockets sock).userData = true := by
  rcases conserved.heldOrReleased alive.1 with ⟨sockEq, -⟩ | ⟨-, activeEq, -⟩ | ⟨-, -, once⟩
  · exact heard_of_sock owned conserved sock sockEq
  · exact counted.active sock activeEq
  · have member := List.count_pos_iff.mp (by omega : 0 < state.released.count sock)
    exact absurd member alive.2

theorem subflows_of_mem {sockets : SockId → Socket} {closed : Option SockId} {sock : SockId}
    (empty : subflowsOf sockets closed = []) (member : sock ∈ closed.toList) :
    (sockets sock).subflows = [] := by
  obtain rfl := Option.mem_toList.mp member
  exact empty

/-- Detaching and closing sockets without subflows keeps the count. -/
theorem counted_of_detached {state next : ConnState} {closed : List SockId}
    (counted : Counted state)
    (empty : ∀ sock ∈ closed, (state.sockets sock).subflows = [])
    (subflow : next.tdat.subflow = state.tdat.subflow)
    (active : next.tdat.active = none) (nextSock : next.nextSock = state.nextSock)
    (released : next.released = state.released ++ closed)
    (subflows : ∀ sock, (next.sockets sock).subflows = (state.sockets sock).subflows) :
    Counted next := by
  refine ⟨?_, by simp [active], ?_⟩
  · rw [subflow, livingSubflows_eq nextSock subflows]
    exact counted.roster
  · intro sock member
    rw [subflows]
    rw [released] at member
    rcases List.mem_append.mp member with before | closes
    · exact counted.released sock before
    · exact empty sock closes

/-- A new socket without subflows keeps the count. -/
theorem counted_of_created {state next : ConnState} {closed : List SockId}
    (counted : Counted state)
    (subflow : next.tdat.subflow = state.tdat.subflow)
    (active : ∀ sock, next.tdat.active = some sock → (next.sockets sock).userData = true)
    (nextSock : next.nextSock = state.nextSock + 1)
    (released : next.released = state.released ++ closed)
    (empty : ∀ sock ∈ closed, (next.sockets sock).subflows = [])
    (created : (next.sockets state.nextSock).subflows = [])
    (subflows : ∀ sock, sock ≠ state.nextSock →
      (next.sockets sock).subflows = (state.sockets sock).subflows) :
    Counted next := by
  refine ⟨?_, active, ?_⟩
  · have living : livingSubflows next = livingSubflows state := by
      unfold livingSubflows
      rw [nextSock]
      apply gather_succ_of_nil created
      intro sock older
      exact subflows sock (Nat.ne_of_lt older)
    rw [subflow, living]
    exact counted.roster
  · intro sock member
    rw [released] at member
    rcases List.mem_append.mp member with before | closes
    · by_cases new : sock = state.nextSock
      · rw [new]
        exact created
      · rw [subflows sock new]
        exact counted.released sock before
    · exact empty sock closes

theorem counted_mpdccptunClosesk {state : ConnState} (counted : Counted state)
    (sockEmpty : subflowsOf state.sockets state.tdat.sock = [])
    (activeEmpty : subflowsOf state.sockets state.tdat.active = []) :
    Counted (mpdccptunClosesk state) := by
  have sockStill : subflowsOf (detached state.sockets state.tdat.active) state.tdat.sock =
      [] := by
    cases sockEq : state.tdat.sock with
    | none => rfl
    | some sock =>
        rw [sockEq] at sockEmpty
        exact (subflows_detached activeEmpty sock).trans sockEmpty
  have empty : ∀ sock ∈ state.tdat.active.toList ++ state.tdat.sock.toList,
      (state.sockets sock).subflows = [] := by
    intro sock member
    rcases List.mem_append.mp member with isActive | isSock
    · exact subflows_of_mem activeEmpty isActive
    · exact subflows_of_mem sockEmpty isSock
  rw [mpdccptunClosesk_eq]
  refine counted_of_detached counted empty rfl rfl rfl ?_ ?_
  · exact List.append_assoc _ _ _
  · intro sock
    exact (subflows_detached sockStill sock).trans (subflows_detached activeEmpty sock)

theorem counted_of_dobind {state bound : ConnState} {calls : BindCalls} {ret : Int}
    (binds : Dobind state calls (ret, bound)) (conserved : Conserved state)
    (empty : RebindsEmpty state) (counted : Counted state) : Counted bound := by
  have opened {base : ConnState} (opens : Opens state base) :
      Counted base ∧ base.tdat.active = none := by
    refine ⟨?_, (conserved_of_opens conserved opens).2.2⟩
    cases opens with
    | unbound => exact counted
    | rebinds rebinds =>
        obtain ⟨sockEmpty, activeEmpty⟩ := empty rebinds
        exact counted_mpdccptunClosesk counted sockEmpty activeEmpty
  cases binds with
  | stopped | refused | kept => exact counted
  | @failed base _ _ opens _ failed _ =>
      obtain ⟨baseCounted, inactive⟩ := opened opens
      cases failed with
      | refused => exact baseCounted
      | closed ismpdccp multipath xmitQueue =>
          have created : (Function.update base.sockets base.nextSock
              { socketNew with multipath := multipath } base.nextSock).subflows = [] := by
            simp [socketNew]
          refine counted_of_created baseCounted rfl (by simp [inactive]) rfl rfl ?_ created ?_
          · intro sock member
            rw [List.mem_singleton.mp member]
            exact created
          · intro sock different
            simp [different]
  | bound opens _ =>
      obtain ⟨baseCounted, inactive⟩ := opened opens
      refine counted_of_created baseCounted rfl ?_ rfl (List.append_nil _).symm (by simp) ?_ ?_
      · simp [boundState, inactive]
      · simp [boundState, socketNew]
      · intro sock different
        simp [boundState, different]

theorem counted_of_connects {hz : Nat} {state next : ConnState} {calls : BindCalls}
    {kernelConnect : Int} {jiffies : Nat}
    (connects : Connects hz state calls kernelConnect jiffies next)
    (bindsCounted : ∀ {ret bound}, Dobind state calls (ret, bound) → Counted bound) :
    Counted next := by
  cases connects with
  | unbound binds _ => exact bindsCounted binds
  | unpeered binds _ => exact bindsCounted binds
  | faulted binds _ =>
      exact (bindsCounted binds).of_same rfl rfl rfl rfl (fun _ => rfl) fun _ => rfl
  | refused binds _ _ _ =>
      exact (bindsCounted binds).of_same rfl rfl rfl rfl (member_update Socket.userData rfl)
        (member_update Socket.subflows rfl)
  | connected binds _ _ _ =>
      exact (bindsCounted binds).of_same rfl rfl rfl rfl (member_update Socket.userData rfl)
        (member_update Socket.subflows rfl)

theorem counted_of_listens {state next : ConnState} {calls : BindCalls} {kernelListen : Int}
    (listens : Listens state calls kernelListen next) (counted : Counted state)
    (bindsCounted : state.tdat.isserver = true →
      ∀ {ret bound}, Dobind state calls (ret, bound) → Counted bound)
    (activeEmpty : state.tdat.isserver = true →
      ∀ {bound}, Dobind state calls (0, bound) → bound.tdat.listening = true →
        subflowsOf bound.sockets bound.tdat.active = []) : Counted next := by
  cases listens with
  | client => exact counted
  | unbound server binds _ => exact bindsCounted server binds
  | absent server binds _ => exact bindsCounted server binds
  | listened server binds _ _ =>
      exact (bindsCounted server binds).of_same rfl rfl rfl rfl
        (member_update Socket.userData rfl) (member_update Socket.subflows rfl)
  | again server binds sockEq listening =>
      have empty := activeEmpty server binds listening
      refine counted_of_detached (bindsCounted server binds) ?_ rfl rfl rfl rfl ?_
      · intro sock member
        exact subflows_of_mem empty member
      · intro sock
        dsimp only
        rw [member_update Socket.subflows]
        · exact subflows_detached empty sock
        · rfl

theorem counted_of_accepts {state next : ConnState} {kernelAccept : Int}
    (accepts : Accepts state kernelAccept next) (counted : Counted state)
    (empty : 0 ≤ kernelAccept → subflowsOf state.sockets state.tdat.active = []) :
    Counted next := by
  cases accepts with
  | faulted => exact counted.of_same rfl rfl rfl rfl (fun _ => rfl) fun _ => rfl
  | refused => exact counted
  | accepted sockEq accepted =>
      have activeEmpty := empty accepted
      refine counted_of_created counted rfl ?_ rfl rfl ?_ ?_ ?_
      · intro sock activeEq
        obtain rfl := Option.some.inj activeEq
        simp [acceptedSocket]
      · intro sock member
        by_cases new : sock = state.nextSock
        · subst new
          simp [acceptedSocket, socketNew]
        · dsimp only
          rw [Function.update_of_ne new, subflows_detached activeEmpty]
          exact subflows_of_mem activeEmpty member
      · simp [acceptedSocket, socketNew]
      · intro sock different
        dsimp only
        rw [Function.update_of_ne different, subflows_detached activeEmpty]

/-- Changing one socket changes its living subflows. -/
theorem livingSubflows_update {state : ConnState} {sock : SockId}
    (created : sock < state.nextSock) :
    ∃ rest, (livingSubflows state).Perm ((state.sockets sock).subflows ++ rest) ∧
      ∀ socket, (gather (fun other => (Function.update state.sockets sock socket other).subflows)
        state.nextSock).Perm (socket.subflows ++ rest) := by
  obtain ⟨rest, replaced⟩ := gather_update (fun sock => (state.sockets sock).subflows) created
  refine ⟨rest, ?_, ?_⟩
  · have same := replaced (state.sockets sock).subflows
    rwa [Function.update_eq_self sock fun sock => (state.sockets sock).subflows] at same
  · intro socket
    have pushed : (fun other => (Function.update state.sockets sock socket other).subflows) =
        Function.update (fun sock => (state.sockets sock).subflows) sock socket.subflows := by
      funext other
      by_cases changed : other = sock
      · subst changed
        simp
      · simp [changed]
    rw [pushed]
    exact replaced socket.subflows

/-- Closing a socket that still points to the tunnel strikes its subflows off. -/
theorem roster_of_emptied {state : ConnState} (counted : Counted state)
    (running : state.tdat.tostop = false) {closed : Option SockId}
    (created : ∀ sock, closed = some sock → sock < state.nextSock)
    (heard : ∀ sock, closed = some sock → (state.sockets sock).userData = true) :
    Matches (List.map kernelTolower) (subflowsLeft state closed)
      (gather (fun sock => (emptied state.sockets closed sock).subflows) state.nextSock) := by
  cases closed with
  | none => exact counted.roster
  | some sock =>
      obtain ⟨rest, before, after⟩ := livingSubflows_update (created sock rfl)
      have left : subflowsLeft state (some sock) =
          (state.sockets sock).subflows.foldl (strike (List.map kernelTolower))
            state.tdat.subflow := by
        simp only [subflowsLeft, heard sock rfl, running, Bool.not_false, Bool.and_self, if_true]
        rfl
      rw [left]
      have struck := (counted.roster.of_perm before).foldl_strike
      exact struck.of_perm (after { state.sockets sock with subflows := [] }).symm

theorem counted_of_emptied {state next : ConnState} {closed : Option SockId}
    (counted : Counted state) (running : state.tdat.tostop = false)
    (created : ∀ sock, closed = some sock → sock < state.nextSock)
    (heard : ∀ sock, closed = some sock → (state.sockets sock).userData = true)
    (subflow : next.tdat.subflow = subflowsLeft state closed)
    (sockets : next.sockets = emptied state.sockets closed)
    (active : next.tdat.active = none ∨ next.tdat.active = state.tdat.active)
    (nextSock : next.nextSock = state.nextSock)
    (released : next.released = state.released ++ closed.toList) : Counted next := by
  refine ⟨?_, ?_, ?_⟩
  · unfold livingSubflows
    rw [subflow, sockets, nextSock]
    exact roster_of_emptied counted running created heard
  · intro sock activeEq
    rw [sockets, member_emptied Socket.userData fun _ => rfl]
    rcases active with inactive | same
    · simp [inactive] at activeEq
    · exact counted.active sock (same ▸ activeEq)
  · intro sock member
    rw [released] at member
    rw [sockets]
    cases closed with
    | none =>
        rw [Option.toList_none, List.append_nil] at member
        exact counted.released sock member
    | some closed =>
        by_cases closes : sock = closed
        · simp [emptied, closes]
        · rw [Option.toList_some, List.mem_append, List.mem_singleton] at member
          simp only [emptied, Function.update_of_ne closes]
          exact counted.released sock (member.resolve_right closes)

theorem counted_of_goesDown {state next : ConnState} {jiffies : Nat}
    (goesDown : GoesDown state jiffies next) (owned : Owned state)
    (conserved : Conserved state) (counted : Counted state) : Counted next := by
  cases goesDown with
  | server =>
      exact counted_of_emptied counted owned.running owned.active counted.active rfl rfl
        (Or.inl rfl) rfl rfl
  | client =>
      refine counted_of_emptied counted owned.running owned.created ?_ rfl rfl (Or.inr rfl)
        rfl rfl
      exact heard_of_sock owned conserved

/-- The creation or destruction of a subflow on a socket, with its report. -/
theorem counted_of_reported {state next : ConnState} {metaSock : SockId}
    {names : List (List UInt8)} (counted : Counted state) (alive : Alive state metaSock)
    (sockets : next.sockets = Function.update state.sockets metaSock
      { state.sockets metaSock with subflows := names })
    (active : next.tdat.active = state.tdat.active)
    (nextSock : next.nextSock = state.nextSock) (released : next.released = state.released)
    (roster : ∀ rest, Matches (List.map kernelTolower) state.tdat.subflow
        ((state.sockets metaSock).subflows ++ rest) →
      Matches (List.map kernelTolower) next.tdat.subflow (names ++ rest)) :
    Counted next := by
  refine ⟨?_, ?_, ?_⟩
  · obtain ⟨rest, before, after⟩ := livingSubflows_update alive.1
    unfold livingSubflows
    rw [sockets, nextSock]
    have reported := roster rest (counted.roster.of_perm before)
    exact reported.of_perm (after { state.sockets metaSock with subflows := names }).symm
  · intro sock activeEq
    rw [sockets, member_update Socket.userData]
    · exact counted.active sock (active ▸ activeEq)
    · rfl
  · intro sock member
    rw [released] at member
    have different : sock ≠ metaSock := by
      rintro rfl
      exact alive.2 member
    rw [sockets, Function.update_of_ne different]
    exact counted.released sock member

/-- One step keeps the count if it detaches no socket that has subflows. -/
theorem counted_of_stepped {hz : Nat} {state next : ConnState} {label : Label}
    (owned : Owned state) (conserved : Conserved state) (allocates : Allocates label)
    (detaches : DetachesEmpty state label) (counted : Counted state)
    (stepped : Stepped hz state label next) : Counted next := by
  cases stepped with
  | bindIgnored | peerIgnored | serverstartIgnored | allSubflowDownIgnored => exact counted
  | bind | peer | serverstart | setqueue | listenReady | connTimerIgnored =>
      exact counted.of_same rfl rfl rfl rfl (fun _ => rfl) fun _ => rfl
  | connect _ connects =>
      refine counted_of_connects connects fun binds => ?_
      refine counted_of_dobind binds ?_ detaches ?_
      · exact conserved.requeued _ _ _ _
      · exact counted.of_same rfl rfl rfl rfl (fun _ => rfl) fun _ => rfl
  | listen _ listens =>
      have started : Owned { state with listenQueued := false } :=
        owned.requeued _ _ _ _
      refine counted_of_listens listens ?_ ?_ ?_
      · exact counted.of_same rfl rfl rfl rfl (fun _ => rfl) fun _ => rfl
      · intro server ret bound binds
        refine counted_of_dobind binds ?_ (detaches server).1 ?_
        · exact conserved.requeued _ _ _ _
        · exact counted.of_same rfl rfl rfl rfl (fun _ => rfl) fun _ => rfl
      · intro server bound binds listening
        obtain ⟨rfl, port⟩ := kept_of_listening binds started listening
        exact (detaches server).2 listening port
  | accept _ accepts =>
      refine counted_of_accepts accepts ?_ detaches
      exact counted.of_same rfl rfl rfl rfl (fun _ => rfl) fun _ => rfl
  | @subflowCreate metaSock name _ _ _ _ alive _ heard =>
      have isHeard := heard_of_alive owned conserved counted alive
      refine counted_of_reported counted alive rfl rfl rfl rfl ?_
      intro rest matching
      rw [heard isHeard allocates]
      refine (matching.append name).of_perm ?_
      rw [List.append_assoc]
      exact List.perm_middle.symm
  | @subflowDestroy metaSock name living alive =>
      have isHeard := heard_of_alive owned conserved counted alive
      refine counted_of_reported counted alive rfl rfl rfl rfl ?_
      intro rest matching
      simp only [isHeard, if_true]
      have moved := matching.of_perm ((List.perm_cons_erase living).append_right rest)
      exact moved.strike
  | allSubflowDown _ _ _ goesDown => exact counted_of_goesDown goesDown owned conserved counted
  | connTimer _ _ _ goesDown =>
      refine counted_of_goesDown goesDown ?_ ?_ ?_
      · exact owned.requeued _ _ _ _
      · exact conserved.requeued _ _ _ _
      · exact counted.of_same rfl rfl rfl rfl (fun _ => rfl) fun _ => rfl

theorem counted_initial (ipv6 ismpdccp : Bool) : Counted (initial ipv6 ismpdccp) :=
  ⟨List.Perm.refl _, by simp [initial, mpdccptunNew], by simp [initial]⟩

theorem Counted.counts {state : ConnState} (counted : Counted state) :
    CountsSubflows state := by
  have count := counted.roster.length_eq
  refine ⟨count, fun closed => ?_⟩
  have gone : livingSubflows state = [] :=
    gather_eq_nil fun sock created => counted.released sock (closed sock created)
  rw [Mpdccptun.numSubflow, count, gone]
  rfl

/-- In every run that detaches no socket that has subflows, the tunnel counts the living
subflows of its sockets. -/
theorem countsSubflows_of_detachesEmpty (hz : Nat) (ipv6 ismpdccp : Bool)
    (labels : List Label) (state : ConnState)
    (detaches : Guarded (step hz)
      (fun state label => Allocates label ∧ DetachesEmpty state label)
      (initial ipv6 ismpdccp) labels)
    (ran : run (step hz) (initial ipv6 ismpdccp) labels = some state) :
    CountsSubflows state := by
  have counted : Counted state :=
    invariant_of_conserved
      (fun owned conserved guard counted stepped =>
        counted_of_stepped owned conserved guard.1 guard.2 counted stepped)
      detaches (counted_initial ipv6 ismpdccp) ran
  exact counted.counts

/-- Two subflows come up and the link goes down; the client is bound again and one comes
up on the new socket. -/
def linkdownAndRebind : List Label :=
  [.peer (some serverAddress), .connectHandler allSucceed 0 0,
    .subflowCreate 0 (ascii "wlan0") true, .subflowCreate 0 (ascii "rmnet0") true,
    .subflowDestroy 0 (ascii "wlan0"), .allSubflowDown 0 0, .bind (some serverAddress) 0,
    .peer none, .connectHandler allSucceed 0 0, .subflowCreate 1 (ascii "wlan0") true]

theorem countsSubflows_linkdownAndRebind :
    ∃ state, run (step 100) (initial false true) linkdownAndRebind = some state ∧
      state.tdat.numSubflow = 1 ∧ CountsSubflows state := by
  refine ⟨_, rfl, rfl, ?_⟩
  refine countsSubflows_of_detachesEmpty 100 false true linkdownAndRebind _ ?_ rfl
  decide

/-- A client with a living subflow is bound to another address: the rebind closes the
socket, and its subflow stays counted, even after every socket of the tunnel was
closed. -/
def rebindWithSubflow : List Label :=
  [.peer (some serverAddress), .connectHandler allSucceed 0 0,
    .subflowCreate 0 (ascii "wlan0") true, .bind (some serverAddress) 0,
    .connectHandler { allSucceed with kernelBind := -98 } 0 0]

theorem not_countsSubflows_rebindWithSubflow :
    ∃ state, run (step 100) (initial false true) rebindWithSubflow = some state ∧
      (∀ sock < state.nextSock, sock ∈ state.released) ∧ state.tdat.numSubflow = 1 ∧
      ¬ CountsSubflows state := by
  refine ⟨_, rfl, by decide, rfl, ?_⟩
  rintro ⟨count, -⟩
  revert count
  decide

end Tunprox.SubflowCount
