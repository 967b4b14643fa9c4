import Tunprox.ConnectionOwned
import Tunprox.ConnectionSocket

/-!
# Starting a server again

A server start that failed stays without effect: `isserver` is left set, and with it
`mpdccptun_serverstart` returns at once.  As long as every run of the listen worker
gets as far as `kernel_listen`, a server is listening or the worker is queued.  The
connect worker may close a listening socket to rebind it, but then the request that
asked for the new address has queued the listen worker, too.
-/

namespace Tunprox.ConnectionRestart

open Errno Connection ConnectionClose ConnectionBind ConnectionOutcome ConnectionStep
open ConnectionOwned ConnectionSocket LabelledRun

/-- A server start that is reported as successful has an effect: the tunnel is marked as
listening, as it also is after a failed `kernel_listen`, or `listen_handler` is queued. -/
def StartsServer (state : ConnState) : Prop :=
  (mpdccptunServerstart state).1 = 0 →
    (mpdccptunServerstart state).2.tdat.listening = true ∨
      (mpdccptunServerstart state).2.listenQueued = true

/-- A run of the listen worker gets as far as `kernel_listen`, or it refuses to give up
the port of a server that listens. -/
def ReachesListen (state : ConnState) : Label → Prop
  | .listenHandler calls _ =>
      state.tdat.isserver = true → BindsSocket state.tdat calls ∨
        (PortRefused state.tdat ∧ state.tdat.listening = true)
  | _ => True

instance (state : ConnState) : (label : Label) → Decidable (ReachesListen state label)
  | .listenHandler calls _ =>
      inferInstanceAs (Decidable (state.tdat.isserver = true →
        BindsSocket state.tdat calls ∨
          (PortRefused state.tdat ∧ state.tdat.listening = true)))
  | .bind .. | .peer _ | .serverstart | .setqueue .. | .connectHandler ..
  | .acceptHandler _ | .tpListenReady _ | .subflowCreate .. | .subflowDestroy ..
  | .allSubflowDown .. | .connTimer _ =>
      inferInstanceAs (Decidable True)

/-- The invariant: a server listens or is about to, only a server listens, the new
address of a listening server is about to be used, and only a bound tunnel is to be
bound again. -/
structure Serves (state : ConnState) : Prop where
  server : state.tdat.isserver = true →
    state.tdat.listening = true ∨ state.listenQueued = true
  role : state.tdat.listening = true → state.tdat.isserver = true
  rebound : state.tdat.listening = true → state.tdat.rebind = true →
    state.listenQueued = true ∨ PortRefused state.tdat
  marked : state.tdat.bound = false → state.tdat.rebind = false

theorem Serves.of_same {state next : ConnState} (serves : Serves state)
    (isserver : next.tdat.isserver = state.tdat.isserver)
    (listening : next.tdat.listening = state.tdat.listening)
    (rebind : next.tdat.rebind = state.tdat.rebind)
    (bound : next.tdat.bound = state.tdat.bound)
    (port : PortRefused next.tdat ↔ PortRefused state.tdat)
    (listenQueued : next.listenQueued = state.listenQueued) : Serves next := by
  constructor
  · rw [isserver, listening, listenQueued]
    exact serves.server
  · rw [isserver, listening]
    exact serves.role
  · rw [listening, rebind, listenQueued, port]
    exact serves.rebound
  · rw [bound, rebind]
    exact serves.marked

/-- A tunnel that asks for a new socket does not listen, is not marked, and if it is a
server, its listen worker is queued. -/
theorem quiet_of_opens {state base : ConnState} (opens : Opens state base)
    (owned : Owned state) (serves : Serves state) :
    base.tdat.listening = false ∧ base.tdat.rebind = false ∧
      (state.tdat.isserver = true → state.listenQueued = true) := by
  refine ⟨idle_of_opens opens owned, ?_⟩
  cases opens with
  | unbound _ _ unbound =>
      refine ⟨serves.marked unbound, ?_⟩
      intro server
      exact (serves.server server).resolve_left (owned.not_listening unbound)
  | rebinds rebinds =>
      obtain ⟨-, port, -, rebind⟩ := rebinds
      rw [mpdccptunClosesk_eq]
      refine ⟨rfl, ?_⟩
      intro server
      rcases serves.server server with listening | queued
      · exact (serves.rebound listening rebind).resolve_right (by simp [PortRefused, port])
      · exact queued

theorem serves_of_dobind {state bound : ConnState} {calls : BindCalls} {ret : Int}
    (binds : Dobind state calls (ret, bound)) (owned : Owned state)
    (serves : Serves state) : Serves bound := by
  have frame := binds.frame
  have server {next : ConnState} (isserver : next.tdat.isserver = state.tdat.isserver)
      (listenQueued : next.listenQueued = state.listenQueued)
      (queued : state.tdat.isserver = true → state.listenQueued = true) :
      next.tdat.isserver = true →
        next.tdat.listening = true ∨ next.listenQueued = true := by
    rw [isserver, listenQueued]
    exact fun isServer => Or.inr (queued isServer)
  cases binds with
  | stopped | refused | kept => exact serves
  | failed opens _ failed _ =>
      obtain ⟨idle, unmarked, queued⟩ := quiet_of_opens opens owned serves
      cases failed with
      | refused | closed =>
          exact ⟨server frame.isserver frame.listenQueued queued, by simp [idle],
            by simp [idle], fun _ => unmarked⟩
  | bound opens _ =>
      obtain ⟨idle, unmarked, queued⟩ := quiet_of_opens opens owned serves
      exact ⟨server frame.isserver frame.listenQueued queued, by simp [boundState, idle],
        by simp [boundState, idle], fun _ => unmarked⟩

theorem serves_of_connects {hz : Nat} {state next : ConnState} {calls : BindCalls}
    {kernelConnect : Int} {jiffies : Nat}
    (connects : Connects hz state calls kernelConnect jiffies next) (owned : Owned state)
    (serves : Serves state) : Serves next := by
  cases connects with
  | unbound binds _ => exact serves_of_dobind binds owned serves
  | unpeered binds _ => exact serves_of_dobind binds owned serves
  | faulted binds _ =>
      exact (serves_of_dobind binds owned serves).of_same rfl rfl rfl rfl Iff.rfl rfl
  | refused binds _ _ _ =>
      exact (serves_of_dobind binds owned serves).of_same rfl rfl rfl rfl Iff.rfl rfl
  | connected binds _ _ _ =>
      exact (serves_of_dobind binds owned serves).of_same rfl rfl rfl rfl Iff.rfl rfl

/-- After a run of `mpdccptun_dobind` that found or made a socket the mark is cleared. -/
theorem unmarked_of_dobind {state bound : ConnState} {calls : BindCalls}
    (binds : Dobind state calls (0, bound)) (running : state.tdat.tostop = false)
    (marked : state.tdat.bound = false → state.tdat.rebind = false) :
    bound.tdat.rebind = false := by
  cases binds with
  | stopped stopped => simp [running] at stopped
  | kept _ _ _ kept => exact kept
  | failed _ _ _ negative => omega
  | bound opens _ =>
      cases opens with
      | unbound _ _ unbound => exact marked unbound
      | rebinds =>
          rw [mpdccptunClosesk_eq]
          rfl

/-- A listen worker that does not get to `kernel_listen` refused to give up the port. -/
theorem refused_of_negative {state bound : ConnState} {calls : BindCalls} {ret : Int}
    (binds : Dobind state calls (ret, bound)) (negative : ret < 0)
    (reaches : BindsSocket state.tdat calls ∨
      (PortRefused state.tdat ∧ state.tdat.listening = true)) :
    bound = state ∧ PortRefused state.tdat ∧ state.tdat.listening = true := by
  cases binds with
  | stopped | kept => omega
  | refused refused =>
      rcases reaches with bindsSocket | ⟨-, listening⟩
      · exact absurd refused bindsSocket.1
      · exact ⟨rfl, refused, listening⟩
  | failed opens fails _ _ =>
      exfalso
      cases opens with
      | unbound _ port unbound =>
          rcases reaches with ⟨-, works⟩ | ⟨refused, -⟩
          · rw [if_neg (by simp [unbound])] at works
            exact works fails
          · exact port refused
      | rebinds rebinds =>
          obtain ⟨-, port, -, rebind⟩ := rebinds
          rcases reaches with ⟨-, works⟩ | ⟨refused, -⟩
          · rw [if_neg (by simp [rebind])] at works
            exact works fails
          · simp [PortRefused, port] at refused
  | bound => omega

theorem sock_isSome_of_zero {state bound : ConnState} {calls : BindCalls}
    (binds : Dobind state calls (0, bound)) (running : state.tdat.tostop = false)
    (reaches : BindsSocket state.tdat calls ∨
      (PortRefused state.tdat ∧ state.tdat.listening = true)) :
    bound.tdat.sock.isSome := by
  cases binds with
  | stopped stopped => simp [running] at stopped
  | kept _ port isBound kept =>
      rcases reaches with ⟨-, works⟩ | ⟨refused, -⟩
      · rwa [if_pos ⟨isBound, kept⟩] at works
      · exact absurd refused port
  | failed _ _ _ negative => omega
  | bound => rfl

/-- A server that has been put into listen mode serves. -/
theorem serves_of_listening {state : ConnState} (isserver : state.tdat.isserver = true)
    (listening : state.tdat.listening = true) (bound : state.tdat.bound = true)
    (unmarked : state.tdat.rebind = false) : Serves state :=
  ⟨fun _ => Or.inl listening, fun _ => isserver, by simp [unmarked], by simp [bound]⟩

theorem serves_of_listens {state next : ConnState} {calls : BindCalls} {kernelListen : Int}
    (listens : Listens { state with listenQueued := false } calls kernelListen next)
    (owned : Owned state) (serves : Serves state)
    (reaches : ReachesListen state (.listenHandler calls kernelListen)) : Serves next := by
  cases listens with
  | client client =>
      have isClient : state.tdat.isserver = false := client
      have idle : ¬ state.tdat.listening = true := by
        intro listening
        have server := serves.role listening
        simp [isClient] at server
      exact ⟨by simp [isClient], serves.role, fun listening => absurd listening idle,
        serves.marked⟩
  | unbound server binds negative =>
      obtain ⟨rfl, refused, listening⟩ := refused_of_negative binds negative (reaches server)
      exact ⟨fun _ => Or.inl listening, serves.role, fun _ _ => Or.inr refused, serves.marked⟩
  | absent server binds absent =>
      have present := sock_isSome_of_zero binds owned.running (reaches server)
      simp [absent] at present
  | listened server binds _ _ =>
      have isserver := binds.frame.isserver.trans server
      have isBound := binds.bound_eq owned.running
      have unmarked := unmarked_of_dobind binds owned.running serves.marked
      exact serves_of_listening isserver rfl isBound unmarked
  | again server binds _ _ =>
      have isserver := binds.frame.isserver.trans server
      have isBound := binds.bound_eq owned.running
      have unmarked := unmarked_of_dobind binds owned.running serves.marked
      exact serves_of_listening isserver rfl isBound unmarked

theorem serves_of_stepped {hz : Nat} {state next : ConnState} {label : Label}
    (owned : Owned state) (reaches : ReachesListen state label) (serves : Serves state)
    (stepped : Stepped hz state label next) : Serves next := by
  cases stepped with
  | bindIgnored | peerIgnored | serverstartIgnored | allSubflowDownIgnored => exact serves
  | peer | setqueue | listenReady | connTimerIgnored | subflowCreate | subflowDestroy =>
      exact serves.of_same rfl rfl rfl rfl Iff.rfl rfl
  | bind =>
      unfold bindStored
      constructor
      · intro server
        exact (serves.server server).imp id fun queued => by simp [queued]
      · exact serves.role
      · intro listening _
        have isserver := serves.role listening
        have isListening : state.tdat.listening = true := listening
        simp [isserver, isListening]
      · intro unbound
        have isUnbound : state.tdat.bound = false := unbound
        simp [serves.marked isUnbound, isUnbound]
  | serverstart =>
      exact ⟨fun _ => Or.inr rfl, fun _ => rfl, fun _ _ => Or.inl rfl, serves.marked⟩
  | connect _ connects =>
      refine serves_of_connects connects ?_ ?_
      · exact owned.requeued _ _ _ _
      · exact serves.of_same rfl rfl rfl rfl Iff.rfl rfl
  | listen _ listens => exact serves_of_listens listens owned serves reaches
  | accept _ accepts =>
      cases accepts with
      | faulted | refused | accepted => exact serves.of_same rfl rfl rfl rfl Iff.rfl rfl
  | allSubflowDown _ _ _ goesDown | connTimer _ _ _ goesDown =>
      cases goesDown with
      | server | client => exact serves.of_same rfl rfl rfl rfl Iff.rfl rfl

theorem serves_initial (ipv6 ismpdccp : Bool) : Serves (initial ipv6 ismpdccp) :=
  ⟨by simp [initial, mpdccptunNew], by simp [initial, mpdccptunNew],
    by simp [initial, mpdccptunNew], fun _ => rfl⟩

theorem startsServer_of_serves {state : ConnState} (serves : Serves state) :
    StartsServer state := by
  have negative : -ENOTCONN ≠ 0 := by decide
  unfold StartsServer mpdccptunServerstart
  split
  · intro returned
    exact absurd returned negative
  · split
    · rename_i server
      exact fun _ => serves.server server
    · exact fun _ => Or.inr rfl

/-- In every run in which each listen worker of a server gets as far as
`kernel_listen`, a server start that is reported as successful has an effect. -/
theorem startsServer_of_reachesListen (hz : Nat) (ipv6 ismpdccp : Bool)
    (labels : List Label) (state : ConnState)
    (reaches : Guarded (step hz) ReachesListen (initial ipv6 ismpdccp) labels)
    (ran : run (step hz) (initial ipv6 ismpdccp) labels = some state) :
    StartsServer state := by
  have serves : Serves state :=
    invariant_of_stepped
      (fun owned reaches serves stepped => serves_of_stepped owned reaches serves stepped)
      reaches (serves_initial ipv6 ismpdccp) ran
  exact startsServer_of_serves serves

/-- A server that listens is bound to another address. -/
def startAndRebind : List Label :=
  [.bind (some serverAddress) 0, .serverstart, .listenHandler allSucceed 0,
    .bind (some { serverAddress with ip := 0x0a000002 }) 0, .listenHandler allSucceed (-98)]

theorem startsServer_startAndRebind :
    ∃ state, run (step 100) (initial false true) startAndRebind = some state ∧
      (mpdccptunServerstart state).1 = 0 ∧ StartsServer state := by
  refine ⟨_, rfl, rfl, ?_⟩
  refine startsServer_of_reachesListen 100 false true startAndRebind _ ?_ rfl
  decide

/-- A server is started without a port, then bound to one and started again: the second
start returns success and does nothing. -/
theorem not_startsServer_started_without_port :
    ∃ state, run (step 100) (initial false true)
        [.serverstart, .listenHandler allSucceed 0, .bind (some serverAddress) 0] =
          some state ∧ ¬ StartsServer state := by
  refine ⟨_, rfl, ?_⟩
  unfold StartsServer
  decide

end Tunprox.ConnectionRestart
