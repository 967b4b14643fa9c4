import Tunprox.ConnectionOwned
import Tunprox.ConnectionSocket

/-!
# Every socket is held or released

Each socket that `sock_create_kern` or `kernel_accept` returned stands in exactly
one of `tdat->sock` and `tdat->active`, or it was released exactly once.
`mpdccptun_remove` closes sockets only if the tunnel is bound; this is enough
because a tunnel that is not bound has no socket, which is also why
`sock_create_kern` overwrites none.
-/

namespace Tunprox.ConnectionConserved

open Queue Connection ConnectionClose ConnectionBind ConnectionOutcome ConnectionStep
open ConnectionOwned ConnectionSocket LabelledRun

/-- `mpdccptun_remove`, up to the release of the memory. -/
def mpdccptunRemove (state : ConnState) : ConnState :=
  if state.tdat.tostop then state
  else
    let stopped := { state with tdat := { state.tdat with tostop := true } }
    let closed := if state.tdat.bound then mpdccptunClosesk stopped else stopped
    { closed with
      tdat := { closed.tdat with xmitQueue := (tpqDestroy closed.tdat.xmitQueue).1 }
      connTimer := none }

/-- The socket stands in exactly one of the two pointers, or it was released exactly
once. -/
def HeldOrReleased (state : ConnState) (sock : SockId) : Prop :=
  (state.tdat.sock = some sock ∧ state.tdat.active ≠ some sock ∧ sock ∉ state.released) ∨
    (state.tdat.sock ≠ some sock ∧ state.tdat.active = some sock ∧ sock ∉ state.released) ∨
    (state.tdat.sock ≠ some sock ∧ state.tdat.active ≠ some sock ∧
      state.released.count sock = 1)

/-- How often the socket is held or was released. -/
def tally (state : ConnState) (sock : SockId) : Nat :=
  state.tdat.sock.toList.count sock + state.tdat.active.toList.count sock +
    state.released.count sock

/-- The invariant: the tally of a created socket is one, and a tunnel that is not
bound has no socket. -/
structure Conserved (state : ConnState) : Prop where
  unbound : state.tdat.bound = false → state.tdat.sock = none ∧ state.tdat.active = none
  counted : ∀ sock, tally state sock = if sock < state.nextSock then 1 else 0

theorem Conserved.of_same {state next : ConnState} (conserved : Conserved state)
    (bound : next.tdat.bound = state.tdat.bound) (sock : next.tdat.sock = state.tdat.sock)
    (active : next.tdat.active = state.tdat.active)
    (released : next.released = state.released)
    (nextSock : next.nextSock = state.nextSock) : Conserved next := by
  constructor
  · rw [bound, sock, active]
    exact conserved.unbound
  · intro other
    unfold tally
    rw [sock, active, released, nextSock]
    exact conserved.counted other

theorem Conserved.requeued {state : ConnState} (conserved : Conserved state)
    (connQueued listenQueued acceptQueued : Bool) (connTimer : Option Nat) :
    Conserved { state with
      connQueued := connQueued
      listenQueued := listenQueued
      acceptQueued := acceptQueued
      connTimer := connTimer } :=
  conserved.of_same rfl rfl rfl rfl rfl

theorem count_toList (held : Option SockId) (sock : SockId) :
    held.toList.count sock = if held = some sock then 1 else 0 := by
  cases held with
  | none => simp
  | some other => simp [List.count_singleton]

/-- A new socket adds one to its own tally. -/
theorem lt_succ_tally (sock nextSock : Nat) :
    (if sock < nextSock + 1 then 1 else 0) =
      (if sock < nextSock then 1 else 0) + [nextSock].count sock := by
  rw [List.count_singleton]
  by_cases same : nextSock = sock
  · simp [same]
  · have iff : sock < nextSock + 1 ↔ sock < nextSock := by omega
    simp [same, iff]

theorem conserved_of_opens {state base : ConnState} (conserved : Conserved state)
    (opens : Opens state base) :
    Conserved base ∧ base.tdat.sock = none ∧ base.tdat.active = none := by
  cases opens with
  | unbound _ _ unbound => exact ⟨conserved, conserved.unbound unbound⟩
  | rebinds =>
      rw [mpdccptunClosesk_eq]
      refine ⟨⟨by simp, ?_⟩, rfl, rfl⟩
      intro sock
      have counted := conserved.counted sock
      simp only [tally, List.count_append, Option.toList_none, List.count_nil] at counted ⊢
      omega

theorem conserved_of_bindFailed {base next : ConnState} (conserved : Conserved base)
    (unbound : base.tdat.sock = none ∧ base.tdat.active = none)
    (failed : BindFailed base next) : Conserved next := by
  cases failed with
  | refused => exact conserved
  | closed =>
      refine ⟨fun _ => ⟨rfl, unbound.2⟩, ?_⟩
      intro sock
      have counted := conserved.counted sock
      rw [lt_succ_tally, ← counted]
      simp only [tally, List.count_append, unbound.1, Option.toList_none, List.count_nil]
      omega

theorem conserved_boundState {base : ConnState} (conserved : Conserved base)
    (absent : base.tdat.sock = none) : Conserved (boundState base) := by
  refine ⟨by simp [boundState], ?_⟩
  intro sock
  have counted := conserved.counted sock
  show tally (boundState base) sock = if sock < base.nextSock + 1 then 1 else 0
  rw [lt_succ_tally, ← counted]
  simp only [boundState, tally, absent, Option.toList_none, Option.toList_some, List.count_nil]
  omega

theorem conserved_of_dobind {state bound : ConnState} {calls : BindCalls} {ret : Int}
    (conserved : Conserved state) (binds : Dobind state calls (ret, bound)) :
    Conserved bound := by
  cases binds with
  | stopped | refused | kept => exact conserved
  | failed opens _ failed _ =>
      obtain ⟨opened, unbound⟩ := conserved_of_opens conserved opens
      exact conserved_of_bindFailed opened unbound failed
  | bound opens _ =>
      obtain ⟨opened, absent, -⟩ := conserved_of_opens conserved opens
      exact conserved_boundState opened absent

theorem conserved_of_connects {hz : Nat} {state next : ConnState} {calls : BindCalls}
    {kernelConnect : Int} {jiffies : Nat} (conserved : Conserved state)
    (connects : Connects hz state calls kernelConnect jiffies next) : Conserved next := by
  cases connects with
  | unbound binds _ => exact conserved_of_dobind conserved binds
  | unpeered binds _ => exact conserved_of_dobind conserved binds
  | faulted binds _ =>
      exact (conserved_of_dobind conserved binds).of_same rfl rfl rfl rfl rfl
  | refused binds _ _ _ =>
      exact (conserved_of_dobind conserved binds).of_same rfl rfl rfl rfl rfl
  | connected binds _ _ _ =>
      exact (conserved_of_dobind conserved binds).of_same rfl rfl rfl rfl rfl

theorem conserved_of_listens {state next : ConnState} {calls : BindCalls}
    {kernelListen : Int} (conserved : Conserved state)
    (listens : Listens state calls kernelListen next) : Conserved next := by
  cases listens with
  | client => exact conserved
  | unbound _ binds _ => exact conserved_of_dobind conserved binds
  | absent _ binds _ => exact conserved_of_dobind conserved binds
  | listened _ binds _ _ =>
      exact (conserved_of_dobind conserved binds).of_same rfl rfl rfl rfl rfl
  | again _ binds _ _ =>
      have bound := conserved_of_dobind conserved binds
      refine ⟨fun unbound => ⟨(bound.unbound unbound).1, rfl⟩, ?_⟩
      intro sock
      have counted := bound.counted sock
      simp only [tally, List.count_append, Option.toList_none, List.count_nil] at counted ⊢
      omega

theorem conserved_of_accepts {state next : ConnState} {kernelAccept : Int}
    (conserved : Conserved state) (accepts : Accepts state kernelAccept next) :
    Conserved next := by
  cases accepts with
  | faulted => exact conserved.of_same rfl rfl rfl rfl rfl
  | refused => exact conserved
  | accepted sockEq _ =>
      refine ⟨fun unbound => ?_, ?_⟩
      · have absent := (conserved.unbound unbound).1
        simp [absent] at sockEq
      · intro sock
        have counted := conserved.counted sock
        dsimp only
        rw [lt_succ_tally, ← counted]
        simp only [tally, List.count_append, Option.toList_some]
        omega

theorem conserved_of_goesDown {state next : ConnState} {jiffies : Nat}
    (conserved : Conserved state) (goesDown : GoesDown state jiffies next) :
    Conserved next := by
  cases goesDown with
  | server =>
      refine ⟨fun unbound => ⟨(conserved.unbound unbound).1, rfl⟩, ?_⟩
      intro sock
      have counted := conserved.counted sock
      simp only [tally, List.count_append, Option.toList_none, List.count_nil] at counted ⊢
      omega
  | client =>
      refine ⟨fun unbound => ⟨rfl, (conserved.unbound unbound).2⟩, ?_⟩
      intro sock
      have counted := conserved.counted sock
      simp only [tally, List.count_append, Option.toList_none, List.count_nil] at counted ⊢
      omega

theorem conserved_of_stepped {hz : Nat} {state next : ConnState} {label : Label}
    (conserved : Conserved state) (stepped : Stepped hz state label next) :
    Conserved next := by
  cases stepped with
  | bindIgnored | peerIgnored | serverstartIgnored | allSubflowDownIgnored =>
      exact conserved
  | bind | peer | serverstart | setqueue | listenReady | connTimerIgnored | subflowCreate
  | subflowDestroy => exact conserved.of_same rfl rfl rfl rfl rfl
  | connect _ connects =>
      apply conserved_of_connects _ connects
      exact conserved.requeued _ _ _ _
  | listen _ listens =>
      apply conserved_of_listens _ listens
      exact conserved.requeued _ _ _ _
  | accept _ accepts =>
      apply conserved_of_accepts _ accepts
      exact conserved.requeued _ _ _ _
  | allSubflowDown _ _ _ goesDown => exact conserved_of_goesDown conserved goesDown
  | connTimer _ _ _ goesDown =>
      apply conserved_of_goesDown _ goesDown
      exact conserved.requeued _ _ _ _

theorem conserved_initial (ipv6 ismpdccp : Bool) : Conserved (initial ipv6 ismpdccp) := by
  constructor
  · exact fun _ => ⟨rfl, rfl⟩
  · intro sock
    simp [tally, initial, mpdccptunNew]

theorem Conserved.heldOrReleased {state : ConnState} (conserved : Conserved state)
    {sock : SockId} (created : sock < state.nextSock) : HeldOrReleased state sock := by
  have counted := conserved.counted sock
  rw [if_pos created, tally, count_toList, count_toList] at counted
  unfold HeldOrReleased
  by_cases sockEq : state.tdat.sock = some sock
  · by_cases activeEq : state.tdat.active = some sock
    · rw [if_pos sockEq, if_pos activeEq] at counted
      omega
    · rw [if_pos sockEq, if_neg activeEq] at counted
      exact Or.inl ⟨sockEq, activeEq, List.count_eq_zero.mp (by omega)⟩
  · by_cases activeEq : state.tdat.active = some sock
    · rw [if_neg sockEq, if_pos activeEq] at counted
      exact Or.inr (Or.inl ⟨sockEq, activeEq, List.count_eq_zero.mp (by omega)⟩)
    · rw [if_neg sockEq, if_neg activeEq] at counted
      exact Or.inr (Or.inr ⟨sockEq, activeEq, by omega⟩)

/-- Removing the tunnel releases the sockets it holds. -/
theorem released_mpdccptunRemove {state : ConnState} (conserved : Conserved state)
    (running : state.tdat.tostop = false) (sock : SockId) :
    (mpdccptunRemove state).released.count sock = tally state sock := by
  have notStopped : ¬ state.tdat.tostop = true := by simp [running]
  unfold mpdccptunRemove
  rw [if_neg notStopped]
  by_cases bound : state.tdat.bound = true
  · simp only [bound, if_true, mpdccptunClosesk_eq, List.count_append, tally]
    omega
  · obtain ⟨absent, inactive⟩ := conserved.unbound (by simpa using bound)
    simp [bound, tally, absent, inactive]

theorem conserved_of_run {hz : Nat} {ipv6 ismpdccp : Bool} {labels : List Label}
    {state : ConnState} (ran : run (step hz) (initial ipv6 ismpdccp) labels = some state) :
    Conserved state :=
  invariant_of_stepped (fun _ _ holds stepped => conserved_of_stepped holds stepped)
    (guarded_of_forall (fun _ _ => trivial) _ _) (conserved_initial ipv6 ismpdccp) ran

/-- An invariant of the guarded runs of a new tunnel may be shown on the outcomes of the
steps of a tunnel whose sockets are conserved. -/
theorem invariant_of_conserved {hz : Nat} {ipv6 ismpdccp : Bool}
    {guard : ConnState → Label → Prop} {invariant : ConnState → Prop}
    (preserved : ∀ {state label next}, Owned state → Conserved state →
      guard state label → invariant state → Stepped hz state label next → invariant next)
    {labels : List Label} {state : ConnState}
    (guarded : Guarded (step hz) guard (initial ipv6 ismpdccp) labels)
    (start : invariant (initial ipv6 ismpdccp))
    (ran : run (step hz) (initial ipv6 ismpdccp) labels = some state) : invariant state := by
  have both : Conserved state ∧ invariant state := by
    apply invariant_of_stepped _ guarded ⟨conserved_initial ipv6 ismpdccp, start⟩ ran
    rintro state label next owned allowed ⟨conserved, holds⟩ stepped
    exact ⟨conserved_of_stepped conserved stepped,
      preserved owned conserved allowed holds stepped⟩
  exact both.2

/-- In every run the sockets are conserved: each is held once or was released once,
`sock_create_kern` is called on a tunnel without a socket, and once the tunnel is
removed each of its sockets was released exactly once. -/
theorem sockets_conserved (hz : Nat) (ipv6 ismpdccp : Bool) (labels : List Label)
    (state : ConnState) (ran : run (step hz) (initial ipv6 ismpdccp) labels = some state) :
    (∀ sock < state.nextSock, HeldOrReleased state sock) ∧
      (∀ base calls, Opens state base →
        mpdccptunDobind state calls = bindNewSocket base calls ∧ base.tdat.sock = none) ∧
      ∀ sock < state.nextSock, (mpdccptunRemove state).released.count sock = 1 := by
  have owned := owned_of_run ran
  have conserved := conserved_of_run ran
  refine ⟨fun sock created => conserved.heldOrReleased created, ?_, ?_⟩
  · intro base calls opens
    exact ⟨mpdccptunDobind_of_opens opens calls, (conserved_of_opens conserved opens).2.1⟩
  · intro sock created
    rw [released_mpdccptunRemove conserved owned.running, conserved.counted, if_pos created]

/-- A server accepts two connections, the second in place of the first, and loses its
link; then its rebind fails once. -/
def acceptAndRebind : List Label :=
  [.bind (some serverAddress) 0, .serverstart, .listenHandler allSucceed 0,
    .tpListenReady 0, .acceptHandler 0, .tpListenReady 0, .acceptHandler 0,
    .allSubflowDown 2 0, .bind (some serverAddress) 0,
    .listenHandler { allSucceed with kernelBind := -98 } 0]

theorem sockets_conserved_acceptAndRebind :
    ∃ state, run (step 100) (initial false true) acceptAndRebind = some state ∧
      state.nextSock = 4 ∧ state.released = [1, 2, 0, 3] ∧
      ∀ sock < state.nextSock, (mpdccptunRemove state).released.count sock = 1 := by
  refine ⟨_, rfl, rfl, rfl, ?_⟩
  exact (sockets_conserved 100 false true acceptAndRebind _ rfl).2.2

end Tunprox.ConnectionConserved
