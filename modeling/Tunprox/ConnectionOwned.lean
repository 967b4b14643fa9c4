import Tunprox.ConnectionStep
import Tunprox.LabelledRun

/-!
# The tunnel owns its sockets

In every reachable state the sockets of a tunnel were created before and are
different, the socket of a bound tunnel points back to the tunnel, and a
listening tunnel is bound and has a socket.
-/

namespace Tunprox.ConnectionOwned

open Connection ConnectionClose ConnectionBind ConnectionOutcome ConnectionStep LabelledRun

structure Owned (state : ConnState) : Prop where
  running : state.tdat.tostop = false
  active : ∀ sock, state.tdat.active = some sock → sock < state.nextSock
  created : ∀ sock, state.tdat.sock = some sock → sock < state.nextSock
  different : ∀ sock, state.tdat.sock = some sock → state.tdat.active ≠ some sock
  userData : ∀ sock, state.tdat.sock = some sock → state.tdat.bound = true →
    (state.sockets sock).userData = true
  listening : state.tdat.listening = true →
    state.tdat.bound = true ∧ state.tdat.sock.isSome

/-- What `Owned` reads of a state. -/
structure SameOwner (state next : ConnState) : Prop where
  tostop : next.tdat.tostop = state.tdat.tostop
  bound : next.tdat.bound = state.tdat.bound
  sock : next.tdat.sock = state.tdat.sock
  active : next.tdat.active = state.tdat.active
  listening : next.tdat.listening = state.tdat.listening
  nextSock : next.nextSock = state.nextSock
  userData : ∀ sock, (next.sockets sock).userData = (state.sockets sock).userData

theorem Owned.of_same {state next : ConnState} (owned : Owned state)
    (same : SameOwner state next) : Owned next where
  running := by
    rw [same.tostop]
    exact owned.running
  active := by
    rw [same.active, same.nextSock]
    exact owned.active
  created := by
    rw [same.sock, same.nextSock]
    exact owned.created
  different := by
    rw [same.sock, same.active]
    exact owned.different
  userData := by
    intro sock
    rw [same.sock, same.bound, same.userData]
    exact owned.userData sock
  listening := by
    rw [same.listening, same.bound, same.sock]
    exact owned.listening

theorem Owned.requeued {state : ConnState} (owned : Owned state)
    (connQueued listenQueued acceptQueued : Bool) (connTimer : Option Nat) :
    Owned { state with
      connQueued := connQueued
      listenQueued := listenQueued
      acceptQueued := acceptQueued
      connTimer := connTimer } :=
  owned.of_same ⟨rfl, rfl, rfl, rfl, rfl, rfl, fun _ => rfl⟩

theorem Owned.fresh {state : ConnState} (owned : Owned state) :
    state.tdat.active ≠ some state.nextSock := by
  intro activeEq
  exact Nat.lt_irrefl _ (owned.active _ activeEq)

theorem Owned.stepped {hz : Nat} {state next : ConnState} {label : Label}
    (owned : Owned state) (stepped : step hz state label = some next) :
    Stepped hz state label next :=
  stepped_of_step owned.running owned.fresh stepped

theorem owned_of_opens {state base : ConnState} (owned : Owned state)
    (opens : Opens state base) : Owned base := by
  cases opens with
  | unbound => exact owned
  | rebinds =>
      rw [mpdccptunClosesk_eq]
      exact ⟨owned.running, by simp, by simp, by simp, by simp, by simp⟩

theorem Owned.not_listening {state : ConnState} (owned : Owned state)
    (unbound : state.tdat.bound = false) : ¬ state.tdat.listening = true := by
  intro listening
  have bound := (owned.listening listening).1
  simp [unbound] at bound

/-- A tunnel that asks for a new socket does not listen. -/
theorem idle_of_opens {state base : ConnState} (opens : Opens state base)
    (owned : Owned state) : base.tdat.listening = false := by
  have notListening := (owned_of_opens owned opens).not_listening opens.bound_eq
  simpa using notListening

/-- A tunnel that listens behind `mpdccptun_dobind` has kept its socket. -/
theorem kept_of_listening {state bound : ConnState} {calls : BindCalls}
    (binds : Dobind state calls (0, bound)) (owned : Owned state)
    (listening : bound.tdat.listening = true) :
    bound = state ∧ ¬ PortRefused state.tdat := by
  cases binds with
  | stopped stopped => simp [owned.running] at stopped
  | kept _ port _ _ => exact ⟨rfl, port⟩
  | failed _ _ _ negative => omega
  | bound opens _ =>
      have idle := idle_of_opens opens owned
      simp [boundState, idle] at listening

theorem owned_of_bindFailed {base next : ConnState} (owned : Owned base)
    (unbound : base.tdat.bound = false) (failed : BindFailed base next) : Owned next := by
  cases failed with
  | refused => exact owned
  | closed =>
      refine ⟨owned.running, ?_, by simp, by simp, by simp, ?_⟩
      · intro sock activeEq
        exact Nat.lt_succ_of_lt (owned.active sock activeEq)
      · intro listening
        exact absurd listening (owned.not_listening unbound)

theorem owned_boundState {base : ConnState} (owned : Owned base)
    (unbound : base.tdat.bound = false) : Owned (boundState base) := by
  refine ⟨owned.running, ?_, ?_, ?_, ?_, ?_⟩
  · intro sock activeEq
    exact Nat.lt_succ_of_lt (owned.active sock activeEq)
  · rintro sock sockEq
    obtain rfl := Option.some.inj sockEq
    exact Nat.lt_succ_self _
  · rintro sock sockEq
    obtain rfl := Option.some.inj sockEq
    exact owned.fresh
  · rintro sock sockEq _
    obtain rfl := Option.some.inj sockEq
    simp [boundState]
  · intro listening
    exact absurd listening (owned.not_listening unbound)

theorem owned_of_dobind {state bound : ConnState} {calls : BindCalls} {ret : Int}
    (owned : Owned state) (binds : Dobind state calls (ret, bound)) : Owned bound := by
  cases binds with
  | stopped | refused | kept => exact owned
  | failed opens _ failed _ =>
      exact owned_of_bindFailed (owned_of_opens owned opens) opens.bound_eq failed
  | bound opens _ => exact owned_boundState (owned_of_opens owned opens) opens.bound_eq

theorem owned_of_connects {hz : Nat} {state next : ConnState} {calls : BindCalls}
    {kernelConnect : Int} {jiffies : Nat} (owned : Owned state)
    (connects : Connects hz state calls kernelConnect jiffies next) : Owned next := by
  cases connects with
  | unbound binds _ => exact owned_of_dobind owned binds
  | unpeered binds _ => exact owned_of_dobind owned binds
  | faulted binds _ =>
      exact (owned_of_dobind owned binds).of_same ⟨rfl, rfl, rfl, rfl, rfl, rfl, fun _ => rfl⟩
  | refused binds _ _ _ =>
      exact (owned_of_dobind owned binds).of_same
        ⟨rfl, rfl, rfl, rfl, rfl, rfl, member_update Socket.userData rfl⟩
  | connected binds _ _ _ =>
      exact (owned_of_dobind owned binds).of_same
        ⟨rfl, rfl, rfl, rfl, rfl, rfl, member_update Socket.userData rfl⟩

theorem owned_of_listens {state next : ConnState} {calls : BindCalls} {kernelListen : Int}
    (owned : Owned state) (listens : Listens state calls kernelListen next) : Owned next := by
  cases listens with
  | client => exact owned
  | unbound _ binds _ => exact owned_of_dobind owned binds
  | absent _ binds _ => exact owned_of_dobind owned binds
  | listened _ binds sockEq _ =>
      have bound := owned_of_dobind owned binds
      have isBound := binds.bound_eq owned.running
      refine ⟨bound.running, bound.active, bound.created, bound.different, ?_, ?_⟩
      · intro other otherEq _
        dsimp only
        rw [member_update Socket.userData]
        · exact bound.userData other otherEq isBound
        · rfl
      · intro _
        exact ⟨isBound, by simp [sockEq]⟩
  | again _ binds sockEq _ =>
      have bound := owned_of_dobind owned binds
      have isBound := binds.bound_eq owned.running
      refine ⟨bound.running, by simp, bound.created, by simp, ?_, ?_⟩
      · intro other otherEq _
        dsimp only
        rw [member_update Socket.userData, detached_of_ne _ (bound.different other otherEq)]
        · exact bound.userData other otherEq isBound
        · rfl
      · intro _
        exact ⟨isBound, by simp [sockEq]⟩

theorem owned_of_accepts {state next : ConnState} {kernelAccept : Int} (owned : Owned state)
    (accepts : Accepts state kernelAccept next) : Owned next := by
  cases accepts with
  | faulted => exact owned.of_same ⟨rfl, rfl, rfl, rfl, rfl, rfl, fun _ => rfl⟩
  | refused => exact owned
  | accepted =>
      refine ⟨owned.running, ?_, ?_, ?_, ?_, owned.listening⟩
      · rintro sock activeEq
        obtain rfl := Option.some.inj activeEq
        exact Nat.lt_succ_self _
      · intro sock sockEq
        exact Nat.lt_succ_of_lt (owned.created sock sockEq)
      · intro sock sockEq activeEq
        obtain rfl := Option.some.inj activeEq
        exact Nat.lt_irrefl _ (owned.created _ sockEq)
      · intro sock sockEq isBound
        have older : sock ≠ state.nextSock := Nat.ne_of_lt (owned.created sock sockEq)
        dsimp only
        rw [Function.update_of_ne older, detached_of_ne _ (owned.different sock sockEq)]
        exact owned.userData sock sockEq isBound

theorem owned_mpdccptunElabAccept {state : ConnState} {kernelAccept : Int}
    (owned : Owned state) : Owned (mpdccptunElabAccept state kernelAccept).2 :=
  owned_of_accepts owned (accepts_mpdccptunElabAccept kernelAccept owned.fresh)

theorem owned_of_goesDown {state next : ConnState} {jiffies : Nat} (owned : Owned state)
    (goesDown : GoesDown state jiffies next) : Owned next := by
  cases goesDown with
  | server =>
      refine ⟨owned.running, by simp, owned.created, by simp, ?_, owned.listening⟩
      intro sock sockEq isBound
      rw [member_emptied Socket.userData fun _ => rfl]
      exact owned.userData sock sockEq isBound
  | client client =>
      exact ⟨owned.running, owned.active, by simp, by simp, by simp, by simp [client]⟩

theorem owned_of_stepped {hz : Nat} {state next : ConnState} {label : Label}
    (owned : Owned state) (stepped : Stepped hz state label next) : Owned next := by
  cases stepped with
  | bindIgnored | peerIgnored | serverstartIgnored | allSubflowDownIgnored => exact owned
  | bind | peer | serverstart | setqueue | listenReady | connTimerIgnored =>
      exact owned.of_same ⟨rfl, rfl, rfl, rfl, rfl, rfl, fun _ => rfl⟩
  | connect _ connects =>
      apply owned_of_connects _ connects
      exact owned.requeued _ _ _ _
  | listen _ listens =>
      apply owned_of_listens _ listens
      exact owned.requeued _ _ _ _
  | accept _ accepts =>
      apply owned_of_accepts _ accepts
      exact owned.requeued _ _ _ _
  | subflowCreate | subflowDestroy =>
      exact owned.of_same ⟨rfl, rfl, rfl, rfl, rfl, rfl, member_update Socket.userData rfl⟩
  | allSubflowDown _ _ _ goesDown => exact owned_of_goesDown owned goesDown
  | connTimer _ _ _ goesDown =>
      apply owned_of_goesDown _ goesDown
      exact owned.requeued _ _ _ _

theorem owned_of_step {hz : Nat} {state next : ConnState} {label : Label}
    (owned : Owned state) (stepped : step hz state label = some next) : Owned next :=
  owned_of_stepped owned (owned.stepped stepped)

theorem owned_initial (ipv6 ismpdccp : Bool) : Owned (initial ipv6 ismpdccp) where
  running := rfl
  active := by simp [initial, mpdccptunNew]
  created := by simp [initial, mpdccptunNew]
  different := by simp [initial, mpdccptunNew]
  userData := by simp [initial, mpdccptunNew]
  listening := by simp [initial, mpdccptunNew]

/-- In every reachable state the tunnel owns its sockets. -/
theorem owned_of_run {hz : Nat} {ipv6 ismpdccp : Bool} {labels : List Label}
    {state : ConnState} (ran : run (step hz) (initial ipv6 ismpdccp) labels = some state) :
    Owned state :=
  invariant_of_run (fun owned stepped => owned_of_step owned stepped)
    (owned_initial ipv6 ismpdccp) ran

/-- An invariant of the guarded runs of a new tunnel may be shown on the outcomes
of the steps of a tunnel that owns its sockets. -/
theorem invariant_of_stepped {hz : Nat} {ipv6 ismpdccp : Bool}
    {guard : ConnState → Label → Prop} {invariant : ConnState → Prop}
    (preserved : ∀ {state label next}, Owned state → guard state label → invariant state →
      Stepped hz state label next → invariant next)
    {labels : List Label} {state : ConnState}
    (guarded : Guarded (step hz) guard (initial ipv6 ismpdccp) labels)
    (start : invariant (initial ipv6 ismpdccp))
    (ran : run (step hz) (initial ipv6 ismpdccp) labels = some state) : invariant state := by
  have both : Owned state ∧ invariant state := by
    apply invariant_of_guarded _ guarded ⟨owned_initial ipv6 ismpdccp, start⟩ ran
    rintro state label next allowed ⟨owned, holds⟩ stepped
    exact ⟨owned_of_step owned stepped, preserved owned allowed holds (owned.stepped stepped)⟩
  exact both.2

end Tunprox.ConnectionOwned
