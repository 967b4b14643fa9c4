import Tunprox.ConnectionOwned
import Tunprox.ConnectionSocket

/-!
# Clients and servers

`mpdccptun_peer` refuses to connect a server and `mpdccptun_serverstart` refuses to
start a connected tunnel.  The tests are made when a request arrives and the work is
done later, so a server that is started while a connection is still to be made becomes
both.
-/

namespace Tunprox.ConnectionRoles

open Connection ConnectionClose ConnectionBind ConnectionOutcome ConnectionStep
open ConnectionOwned ConnectionSocket LabelledRun

/-- The socket a worker goes on with after `mpdccptun_dobind`, and the state in which it
does. -/
def boundSocket (result : Int × ConnState) : Option (SockId × ConnState) :=
  if result.1 < 0 then none
  else if result.2.tdat.tostop then none
  else result.2.tdat.sock.map fun sock => (sock, result.2)

/-- The socket on which the step calls `kernel_connect`, and the state in which it
does. -/
def kernelConnectCall (state : ConnState) : Label → Option (SockId × ConnState)
  | .connectHandler calls _ _ =>
      if state.connQueued then
        (boundSocket (mpdccptunDobind
          { state with connQueued := false, connTimer := none } calls)).filter
          fun call => call.2.tdat.haspeer
      else none
  | _ => none

/-- The socket on which the step calls `kernel_listen`, and the state `mpdccptun_dobind`
left. -/
def kernelListenCall (state : ConnState) : Label → Option (SockId × ConnState)
  | .listenHandler calls _ =>
      if state.listenQueued && state.tdat.isserver then
        boundSocket (mpdccptunDobind { state with listenQueued := false } calls)
      else none
  | _ => none

theorem boundSocket_eq_some {result : Int × ConnState} {sock : SockId} {bound : ConnState}
    (found : boundSocket result = some (sock, bound)) :
    ∃ ret, result = (ret, bound) ∧ ¬ ret < 0 ∧ bound.tdat.tostop = false ∧
      bound.tdat.sock = some sock := by
  obtain ⟨ret, mid⟩ := result
  unfold boundSocket at found
  split at found
  · contradiction
  · rename_i nonneg
    split at found
    · contradiction
    · rename_i running
      simp only [Option.map_eq_some_iff, Prod.mk.injEq] at found
      obtain ⟨_, sockEq, rfl, rfl⟩ := found
      exact ⟨ret, rfl, nonneg, by simpa using running, sockEq⟩

theorem kernelConnectCall_eq_some {state bound : ConnState} {label : Label} {sock : SockId}
    (called : kernelConnectCall state label = some (sock, bound)) :
    ∃ calls kernelConnect jiffies ret, label = .connectHandler calls kernelConnect jiffies ∧
      state.connQueued = true ∧
      mpdccptunDobind { state with connQueued := false, connTimer := none } calls =
        (ret, bound) ∧
      ¬ ret < 0 ∧ bound.tdat.tostop = false ∧ bound.tdat.haspeer = true ∧
      bound.tdat.sock = some sock := by
  cases label with
  | connectHandler calls kernelConnect jiffies =>
      simp only [kernelConnectCall] at called
      split at called
      · rename_i queued
        obtain ⟨found, haspeer⟩ := Option.filter_eq_some_iff.mp called
        obtain ⟨ret, resultEq, nonneg, running, sockEq⟩ := boundSocket_eq_some found
        exact ⟨calls, kernelConnect, jiffies, ret, rfl, queued, resultEq, nonneg, running,
          haspeer, sockEq⟩
      · contradiction
  | _ => contradiction

theorem kernelListenCall_eq_some {state bound : ConnState} {label : Label} {sock : SockId}
    (called : kernelListenCall state label = some (sock, bound)) :
    ∃ calls kernelListen ret, label = .listenHandler calls kernelListen ∧
      state.listenQueued = true ∧ state.tdat.isserver = true ∧
      mpdccptunDobind { state with listenQueued := false } calls = (ret, bound) ∧
      ¬ ret < 0 ∧ bound.tdat.tostop = false ∧ bound.tdat.sock = some sock := by
  cases label with
  | listenHandler calls kernelListen =>
      simp only [kernelListenCall] at called
      split at called
      · rename_i enabled
        simp only [Bool.and_eq_true] at enabled
        obtain ⟨ret, resultEq, nonneg, running, sockEq⟩ := boundSocket_eq_some called
        exact ⟨calls, kernelListen, ret, rfl, enabled.1, enabled.2, resultEq, nonneg, running,
          sockEq⟩
      · contradiction
  | _ => contradiction

/-- The step goes on with `kernel_connect` on this socket. -/
theorem step_of_kernelConnectCall {hz : Nat} {state bound : ConnState} {calls : BindCalls}
    {kernelConnect : Int} {jiffies : Nat} {sock : SockId}
    (called : kernelConnectCall state (.connectHandler calls kernelConnect jiffies) =
      some (sock, bound)) :
    step hz state (.connectHandler calls kernelConnect jiffies) =
      some (connectSocket hz bound sock kernelConnect jiffies).2 := by
  obtain ⟨_, _, _, ret, labelEq, queued, resultEq, nonneg, running, haspeer, sockEq⟩ :=
    kernelConnectCall_eq_some called
  obtain ⟨rfl, rfl, rfl⟩ := Label.connectHandler.inj labelEq
  simp only [step, mpdccptunElabConnect, queued, if_true, resultEq, nonneg, if_false, running,
    Bool.false_eq_true, haspeer, Bool.not_true, sockEq]

/-- The step goes on with `kernel_listen` on this socket. -/
theorem step_of_kernelListenCall {hz : Nat} {state bound : ConnState} {calls : BindCalls}
    {kernelListen : Int} {sock : SockId}
    (called : kernelListenCall state (.listenHandler calls kernelListen) =
      some (sock, bound)) :
    step hz state (.listenHandler calls kernelListen) =
      some (startListening
        (if bound.tdat.listening then mpdccptunCloseListen bound else bound) sock
        kernelListen).2 := by
  obtain ⟨_, _, ret, labelEq, queued, server, resultEq, nonneg, running, sockEq⟩ :=
    kernelListenCall_eq_some called
  obtain ⟨rfl, rfl⟩ := Label.listenHandler.inj labelEq
  simp only [step, mpdccptunDoserverstart, queued, if_true, server, Bool.not_true,
    Bool.false_eq_true, if_false, resultEq, nonneg, sockEq]

/-- The step does not connect a server, and it does not listen on a socket that was
connected. -/
def RolesExclusive (state : ConnState) (label : Label) : Prop :=
  (∀ sock bound, kernelConnectCall state label = some (sock, bound) →
      bound.tdat.isserver = false) ∧
    ∀ sock bound, kernelListenCall state label = some (sock, bound) →
      (bound.sockets sock).raddr = none

/-- The step does not start a server while a connection is still to be made. -/
def StartsUnqueued (state : ConnState) : Label → Prop
  | .serverstart =>
      state.tdat.isconnected = false → state.tdat.isserver = false →
        state.connQueued = false
  | _ => True

instance (state : ConnState) : (label : Label) → Decidable (StartsUnqueued state label)
  | .serverstart =>
      inferInstanceAs (Decidable (state.tdat.isconnected = false →
        state.tdat.isserver = false → state.connQueued = false))
  | .bind .. | .peer _ | .setqueue .. | .connectHandler .. | .listenHandler ..
  | .acceptHandler _ | .tpListenReady _ | .subflowCreate .. | .subflowDestroy ..
  | .allSubflowDown .. | .connTimer _ =>
      inferInstanceAs (Decidable True)

/-- The invariant: no connection is to be made for a server, and a socket that was
connected belongs to a connected client. -/
structure OneRole (state : ConnState) : Prop where
  queued : state.tdat.isserver = true → state.connQueued = false
  raddr : ∀ sock, state.tdat.sock = some sock → (state.sockets sock).raddr ≠ none →
    state.tdat.isconnected = true ∧ state.tdat.isserver = false

theorem OneRole.of_same {state next : ConnState} (oneRole : OneRole state)
    (isserver : next.tdat.isserver = state.tdat.isserver)
    (connQueued : state.connQueued = false → next.connQueued = false)
    (isconnected : state.tdat.isconnected = true → next.tdat.isconnected = true)
    (sock : next.tdat.sock = state.tdat.sock)
    (raddr : ∀ sock, (next.sockets sock).raddr = (state.sockets sock).raddr) :
    OneRole next := by
  constructor
  · intro server
    exact connQueued (oneRole.queued (isserver ▸ server))
  · intro other sockEq connected
    rw [raddr] at connected
    obtain ⟨isConnected, client⟩ := oneRole.raddr other (sock ▸ sockEq) connected
    exact ⟨isconnected isConnected, isserver.trans client⟩

theorem oneRole_of_dobind {state bound : ConnState} {calls : BindCalls} {ret : Int}
    (binds : Dobind state calls (ret, bound)) (oneRole : OneRole state) : OneRole bound := by
  have queued : bound.tdat.isserver = true → bound.connQueued = false := by
    rw [binds.frame.isserver, binds.frame.connQueued]
    exact oneRole.queued
  cases binds with
  | stopped | refused | kept => exact oneRole
  | failed opens _ failed _ =>
      cases failed with
      | refused =>
          cases opens with
          | unbound => exact oneRole
          | rebinds =>
              refine ⟨queued, ?_⟩
              rw [mpdccptunClosesk_eq]
              simp
      | closed => exact ⟨queued, by simp⟩
  | bound =>
      refine ⟨queued, ?_⟩
      intro sock sockEq
      obtain rfl := Option.some.inj sockEq
      simp [boundState, socketNew]

theorem oneRole_of_connects {hz : Nat} {state next : ConnState} {calls : BindCalls}
    {kernelConnect : Int} {jiffies : Nat}
    (connects : Connects hz state calls kernelConnect jiffies next)
    (oneRole : OneRole state) (client : state.tdat.isserver = false) : OneRole next := by
  cases connects with
  | unbound binds _ => exact oneRole_of_dobind binds oneRole
  | unpeered binds _ => exact oneRole_of_dobind binds oneRole
  | faulted binds _ =>
      exact (oneRole_of_dobind binds oneRole).of_same rfl id id rfl fun _ => rfl
  | refused binds _ _ _ =>
      exact (oneRole_of_dobind binds oneRole).of_same rfl id id rfl
        (member_update Socket.raddr rfl)
  | connected binds _ _ _ =>
      have stillClient := binds.frame.isserver.trans client
      exact ⟨by simp [stillClient], fun _ _ _ => ⟨rfl, stillClient⟩⟩

theorem oneRole_of_listens {state next : ConnState} {calls : BindCalls} {kernelListen : Int}
    (listens : Listens state calls kernelListen next) (oneRole : OneRole state) :
    OneRole next := by
  cases listens with
  | client => exact oneRole
  | unbound _ binds _ => exact oneRole_of_dobind binds oneRole
  | absent _ binds _ => exact oneRole_of_dobind binds oneRole
  | listened _ binds _ _ =>
      exact (oneRole_of_dobind binds oneRole).of_same rfl id id rfl
        (member_update Socket.raddr rfl)
  | @again bound sock server binds sockEq _ =>
      have bindsRole := oneRole_of_dobind binds oneRole
      have stillServer := binds.frame.isserver.trans server
      refine ⟨bindsRole.queued, ?_⟩
      intro other otherEq connected
      have sameRaddr : (Function.update (detached bound.sockets bound.tdat.active) sock
          { detached bound.sockets bound.tdat.active sock with
            dataReady := .tpListenReady
            listenRet := some kernelListen } other).raddr = (bound.sockets other).raddr := by
        rw [member_update Socket.raddr]
        · exact member_detached Socket.raddr (fun _ => rfl) _ _ other
        · rfl
      rw [sameRaddr] at connected
      obtain ⟨-, isClient⟩ := bindsRole.raddr other otherEq connected
      simp [stillServer] at isClient

theorem oneRole_of_accepts {state next : ConnState} {kernelAccept : Int}
    (accepts : Accepts state kernelAccept next) (owned : Owned state)
    (oneRole : OneRole state) : OneRole next := by
  cases accepts with
  | faulted => exact oneRole.of_same rfl id id rfl fun _ => rfl
  | refused => exact oneRole
  | accepted =>
      refine ⟨oneRole.queued, ?_⟩
      intro sock sockEq connected
      have older : sock ≠ state.nextSock := Nat.ne_of_lt (owned.created sock sockEq)
      dsimp only at connected
      rw [Function.update_of_ne older, detached_of_ne _ (owned.different sock sockEq)]
        at connected
      exact ⟨rfl, (oneRole.raddr sock sockEq connected).2⟩

theorem oneRole_of_goesDown {state next : ConnState} {jiffies : Nat}
    (goesDown : GoesDown state jiffies next) (oneRole : OneRole state) : OneRole next := by
  cases goesDown with
  | server =>
      exact oneRole.of_same rfl id id rfl (member_emptied Socket.raddr (fun _ => rfl) _ _)
  | client => exact ⟨oneRole.queued, by simp⟩

theorem oneRole_of_stepped {hz : Nat} {state next : ConnState} {label : Label}
    (owned : Owned state) (starts : StartsUnqueued state label) (oneRole : OneRole state)
    (stepped : Stepped hz state label next) : OneRole next := by
  cases stepped with
  | bindIgnored | peerIgnored | serverstartIgnored | allSubflowDownIgnored => exact oneRole
  | setqueue | listenReady | connTimerIgnored =>
      exact oneRole.of_same rfl id id rfl fun _ => rfl
  | bind =>
      refine ⟨?_, oneRole.raddr⟩
      intro server
      have isserver : state.tdat.isserver = true := server
      simp [bindStored, isserver, oneRole.queued isserver]
  | peer =>
      refine ⟨?_, oneRole.raddr⟩
      intro server
      have isserver : state.tdat.isserver = true := server
      simp [peerStored, isserver, oneRole.queued isserver]
  | serverstart unconnected client =>
      refine ⟨fun _ => starts unconnected client, ?_⟩
      intro sock sockEq connected
      obtain ⟨isconnected, -⟩ := oneRole.raddr sock sockEq connected
      simp [unconnected] at isconnected
  | connect queued connects =>
      have client : state.tdat.isserver = false := by
        by_contra server
        have unqueued := oneRole.queued (by simpa using server)
        simp [queued] at unqueued
      refine oneRole_of_connects connects ?_ client
      exact oneRole.of_same rfl (fun _ => rfl) id rfl fun _ => rfl
  | listen _ listens =>
      refine oneRole_of_listens listens ?_
      exact oneRole.of_same rfl id id rfl fun _ => rfl
  | accept _ accepts =>
      refine oneRole_of_accepts accepts ?_ ?_
      · exact owned.requeued _ _ _ _
      · exact oneRole.of_same rfl id id rfl fun _ => rfl
  | subflowCreate | subflowDestroy =>
      exact oneRole.of_same rfl id id rfl (member_update Socket.raddr rfl)
  | allSubflowDown _ _ _ goesDown => exact oneRole_of_goesDown goesDown oneRole
  | connTimer _ _ _ goesDown =>
      refine oneRole_of_goesDown goesDown ?_
      exact oneRole.of_same rfl id id rfl fun _ => rfl

theorem rolesExclusive_of_oneRole {state : ConnState} (oneRole : OneRole state)
    (label : Label) : RolesExclusive state label := by
  constructor
  · intro sock bound called
    obtain ⟨calls, _, _, ret, -, queued, resultEq, -⟩ := kernelConnectCall_eq_some called
    have binds := dobind { state with connQueued := false, connTimer := none } calls
    rw [resultEq] at binds
    rw [binds.frame.isserver]
    by_contra server
    have unqueued := oneRole.queued (by simpa using server)
    simp [queued] at unqueued
  · intro sock bound called
    obtain ⟨calls, _, ret, -, -, server, resultEq, -, -, sockEq⟩ :=
      kernelListenCall_eq_some called
    have started : OneRole { state with listenQueued := false } :=
      oneRole.of_same rfl id id rfl fun _ => rfl
    have binds := dobind { state with listenQueued := false } calls
    rw [resultEq] at binds
    have bindsRole := oneRole_of_dobind binds started
    by_contra connected
    obtain ⟨-, client⟩ := bindsRole.raddr sock sockEq connected
    rw [binds.frame.isserver] at client
    simp [server] at client

theorem oneRole_initial (ipv6 ismpdccp : Bool) : OneRole (initial ipv6 ismpdccp) :=
  ⟨fun _ => rfl, by simp [initial, mpdccptunNew]⟩

/-- In every run in which no server is started while a connection is still to be made,
no server is connected and no connected socket listens. -/
theorem rolesExclusive_of_startsUnqueued (hz : Nat) (ipv6 ismpdccp : Bool)
    (labels : List Label)
    (starts : Guarded (step hz) StartsUnqueued (initial ipv6 ismpdccp) labels) :
    Guarded (step hz) RolesExclusive (initial ipv6 ismpdccp) labels := by
  have preserved {state next : ConnState} {label : Label}
      (starts : StartsUnqueued state label) (holds : Owned state ∧ OneRole state)
      (stepped : step hz state label = some next) : Owned next ∧ OneRole next :=
    ⟨owned_of_step holds.1 stepped,
      oneRole_of_stepped holds.1 starts holds.2 (holds.1.stepped stepped)⟩
  apply guarded_of_guarded preserved _ starts
    ⟨owned_initial ipv6 ismpdccp, oneRole_initial ipv6 ismpdccp⟩
  rintro state label _ ⟨-, oneRole⟩
  exact rolesExclusive_of_oneRole oneRole label

/-- A client connects and loses its link, and the tunnel becomes a server. -/
def clientThenServer : List Label :=
  [.bind (some serverAddress) 0, .peer (some serverAddress),
    .connectHandler allSucceed 0 0, .allSubflowDown 0 0, .bind (some serverAddress) 0,
    .serverstart, .listenHandler allSucceed 0]

theorem rolesExclusive_clientThenServer :
    (∃ state, run (step 100) (initial false true) clientThenServer = some state ∧
        state.tdat.isserver = true ∧ state.tdat.listening = true) ∧
      Guarded (step 100) RolesExclusive (initial false true) clientThenServer := by
  refine ⟨⟨_, rfl, rfl, rfl⟩, ?_⟩
  refine rolesExclusive_of_startsUnqueued 100 false true clientThenServer ?_
  decide

/-- A server is started before the connection that was requested is made: the connect
worker connects the server, and the listen worker listens on the connected socket. -/
theorem not_rolesExclusive_started_while_queued :
    (∃ state, run (step 100) (initial false true)
        [.bind (some serverAddress) 0, .peer (some serverAddress), .serverstart] =
          some state ∧
        ¬ RolesExclusive state (.connectHandler allSucceed 0 0)) ∧
      ∃ state, run (step 100) (initial false true)
        [.bind (some serverAddress) 0, .peer (some serverAddress), .serverstart,
          .connectHandler allSucceed 0 0] = some state ∧
        ¬ RolesExclusive state (.listenHandler allSucceed 0) := by
  refine ⟨⟨_, rfl, ?_⟩, ⟨_, rfl, ?_⟩⟩
  · rintro ⟨connect, -⟩
    have client := connect _ _ rfl
    revert client
    decide
  · rintro ⟨-, listen⟩
    have unconnected := listen _ _ rfl
    revert unconnected
    decide

end Tunprox.ConnectionRoles
