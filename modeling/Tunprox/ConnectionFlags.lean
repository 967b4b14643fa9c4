import Tunprox.ConnectionConserved
import Tunprox.Transmit

/-!
# The flags of a tunnel and its sockets

A connected tunnel should have the socket `do_xmit_skb` chooses, and the socket of
a listening one should listen.  Four operations break this: the link-down of a
server closes the active socket and leaves `isconnected` set,
`mpdccptun_doserverstart` sets `listening` whatever `kernel_listen` returns, and
`listening` and `isconnected` come together without an active socket when one of
the two workers runs for a tunnel that already has the other role.
-/

namespace Tunprox.ConnectionFlags

open Connection ConnectionClose ConnectionBind ConnectionOutcome ConnectionStep
open ConnectionOwned ConnectionConserved ConnectionSocket LabelledRun

/-- The flags agree with the sockets. -/
structure Agrees (state : ConnState) : Prop where
  isconnected : state.tdat.isconnected = true → (Transmit.xmitSock state.tdat).isSome
  listening : state.tdat.listening = true → ∃ sock ret, state.tdat.sock = some sock ∧
    (state.sockets sock).listenRet = some ret ∧ 0 ≤ ret

/-- The worker sets the second of the two flags on the socket the tunnel has, and there
is no active one. -/
def Collides (tdat : Mpdccptun) (other : Bool) : Prop :=
  tdat.bound = true ∧ tdat.rebind = false ∧ other = true ∧ tdat.active = none

instance (tdat : Mpdccptun) (other : Bool) : Decidable (Collides tdat other) :=
  inferInstanceAs (Decidable (_ ∧ _))

/-- The step takes none of the branches that set or leave a flag without a socket. -/
def KeepsFlags (state : ConnState) : Label → Prop
  | .connectHandler calls kernelConnect _ =>
      state.tdat.haspeer = true → BindsSocket state.tdat calls → 0 ≤ kernelConnect →
        ¬ Collides state.tdat state.tdat.listening
  | .listenHandler calls kernelListen =>
      state.tdat.isserver = true → BindsSocket state.tdat calls →
        0 ≤ kernelListen ∧ (state.tdat.listening = false →
          ¬ Collides state.tdat state.tdat.isconnected)
  | .allSubflowDown metaSock _ =>
      (state.sockets metaSock).userData = true →
        ¬ (state.tdat.listening = true ∧ state.tdat.isconnected = true)
  | .connTimer _ =>
      state.tdat.ismpdccp = true → state.tdat.numSubflow = 0 →
        ¬ (state.tdat.listening = true ∧ state.tdat.isconnected = true)
  | _ => True

instance (state : ConnState) : (label : Label) → Decidable (KeepsFlags state label)
  | .connectHandler calls kernelConnect _ =>
      inferInstanceAs (Decidable (state.tdat.haspeer = true → BindsSocket state.tdat calls →
        0 ≤ kernelConnect → ¬ Collides state.tdat state.tdat.listening))
  | .listenHandler calls kernelListen =>
      inferInstanceAs (Decidable (state.tdat.isserver = true → BindsSocket state.tdat calls →
        0 ≤ kernelListen ∧ (state.tdat.listening = false →
          ¬ Collides state.tdat state.tdat.isconnected)))
  | .allSubflowDown metaSock _ =>
      inferInstanceAs (Decidable ((state.sockets metaSock).userData = true →
        ¬ (state.tdat.listening = true ∧ state.tdat.isconnected = true)))
  | .connTimer _ =>
      inferInstanceAs (Decidable (state.tdat.ismpdccp = true → state.tdat.numSubflow = 0 →
        ¬ (state.tdat.listening = true ∧ state.tdat.isconnected = true)))
  | .bind .. | .peer _ | .serverstart | .setqueue .. | .acceptHandler _ | .tpListenReady _
  | .subflowCreate .. | .subflowDestroy .. =>
      inferInstanceAs (Decidable True)

theorem xmitSock_of_idle {tdat : Mpdccptun} (idle : tdat.listening = false) :
    Transmit.xmitSock tdat = tdat.sock := by
  simp [Transmit.xmitSock, idle]

theorem xmitSock_of_listening {tdat : Mpdccptun} (listening : tdat.listening = true) :
    Transmit.xmitSock tdat = tdat.active := by
  simp [Transmit.xmitSock, listening]

theorem Agrees.of_same {state next : ConnState} (agrees : Agrees state)
    (isconnected : next.tdat.isconnected = state.tdat.isconnected)
    (listening : next.tdat.listening = state.tdat.listening)
    (sock : next.tdat.sock = state.tdat.sock)
    (active : next.tdat.active = state.tdat.active)
    (listenRet : ∀ sock, (next.sockets sock).listenRet = (state.sockets sock).listenRet) :
    Agrees next := by
  constructor
  · unfold Transmit.xmitSock
    rw [isconnected, listening, sock, active]
    exact agrees.isconnected
  · intro listens
    obtain ⟨listenSock, ret, sockEq, retEq, nonneg⟩ := agrees.listening (listening ▸ listens)
    exact ⟨listenSock, ret, sock.trans sockEq, (listenRet listenSock).trans retEq, nonneg⟩

theorem agrees_of_quiet {state : ConnState} (unconnected : state.tdat.isconnected = false)
    (idle : state.tdat.listening = false) : Agrees state :=
  ⟨by simp [unconnected], by simp [idle]⟩

/-- A tunnel that asks for a new socket is neither connected nor listening. -/
theorem quiet_of_opens {state base : ConnState} (owned : Owned state)
    (conserved : Conserved state) (agrees : Agrees state) (opens : Opens state base) :
    base.tdat.isconnected = false ∧ base.tdat.listening = false := by
  have idle := idle_of_opens opens owned
  refine ⟨?_, idle⟩
  cases opens with
  | unbound _ _ unbound =>
      by_contra connected
      have chosen := agrees.isconnected (by simpa using connected)
      rw [xmitSock_of_idle idle, (conserved.unbound unbound).1] at chosen
      simp at chosen
  | rebinds => rw [mpdccptunClosesk_eq]

/-- What `mpdccptun_dobind` does to the flags: it keeps the tunnel with the socket it has,
or it leaves both flags cleared. -/
theorem dobind_kept_or_quiet {state bound : ConnState} {calls : BindCalls} {ret : Int}
    (owned : Owned state) (conserved : Conserved state) (agrees : Agrees state)
    (binds : Dobind state calls (ret, bound)) :
    (bound = state ∧ (0 ≤ ret → state.tdat.bound = true ∧ state.tdat.rebind = false)) ∨
      (bound.tdat.isconnected = false ∧ bound.tdat.listening = false) := by
  cases binds with
  | stopped stopped => simp [owned.running] at stopped
  | refused => exact Or.inl ⟨rfl, fun nonneg => absurd nonneg (by decide)⟩
  | kept _ _ isBound kept => exact Or.inl ⟨rfl, fun _ => ⟨isBound, kept⟩⟩
  | failed opens _ failed _ =>
      have quiet := quiet_of_opens owned conserved agrees opens
      right
      cases failed with
      | refused | closed => exact quiet
  | bound opens _ =>
      have quiet := quiet_of_opens owned conserved agrees opens
      exact Or.inr quiet

theorem agrees_of_dobind {state bound : ConnState} {calls : BindCalls} {ret : Int}
    (owned : Owned state) (conserved : Conserved state) (agrees : Agrees state)
    (binds : Dobind state calls (ret, bound)) : Agrees bound := by
  rcases dobind_kept_or_quiet owned conserved agrees binds with
    ⟨rfl, -⟩ | ⟨unconnected, idle⟩
  · exact agrees
  · exact agrees_of_quiet unconnected idle

theorem agrees_of_connects {hz : Nat} {state next : ConnState} {calls : BindCalls}
    {kernelConnect : Int} {jiffies : Nat}
    (connects : Connects hz state calls kernelConnect jiffies next) (owned : Owned state)
    (conserved : Conserved state) (agrees : Agrees state)
    (keeps : state.tdat.haspeer = true → BindsSocket state.tdat calls → 0 ≤ kernelConnect →
      ¬ Collides state.tdat state.tdat.listening) : Agrees next := by
  cases connects with
  | unbound binds _ => exact agrees_of_dobind owned conserved agrees binds
  | unpeered binds _ => exact agrees_of_dobind owned conserved agrees binds
  | faulted binds _ =>
      exact (agrees_of_dobind owned conserved agrees binds).of_same rfl rfl rfl rfl fun _ => rfl
  | refused binds _ _ _ =>
      exact (agrees_of_dobind owned conserved agrees binds).of_same rfl rfl rfl rfl
        (member_update Socket.listenRet rfl)
  | @connected bound sock binds haspeer sockEq accepted =>
      have reached := binds.bindsSocket owned.running sockEq
      have before := agrees_of_dobind owned conserved agrees binds
      constructor
      · intro _
        show (Transmit.xmitSock bound.tdat).isSome
        rcases dobind_kept_or_quiet owned conserved agrees binds with
          ⟨rfl, kept⟩ | ⟨-, idle⟩
        · obtain ⟨isBound, rebind⟩ := kept (Int.le_refl 0)
          cases listening : bound.tdat.listening with
          | false =>
              rw [xmitSock_of_idle listening]
              simp [sockEq]
          | true =>
              rw [xmitSock_of_listening listening]
              by_contra absent
              exact keeps haspeer reached accepted
                ⟨isBound, rebind, listening, by simpa using absent⟩
        · rw [xmitSock_of_idle idle]
          simp [sockEq]
      · intro listening
        obtain ⟨listenSock, ret, listenEq, retEq, nonneg⟩ := before.listening listening
        refine ⟨listenSock, ret, listenEq, ?_, nonneg⟩
        dsimp only
        rw [member_update Socket.listenRet]
        · exact retEq
        · rfl

theorem agrees_of_listens {state next : ConnState} {calls : BindCalls}
    {kernelListen : Int} (listens : Listens state calls kernelListen next)
    (owned : Owned state) (conserved : Conserved state) (agrees : Agrees state)
    (keeps : state.tdat.isserver = true → BindsSocket state.tdat calls →
      0 ≤ kernelListen ∧ (state.tdat.listening = false →
        ¬ Collides state.tdat state.tdat.isconnected)) : Agrees next := by
  cases listens with
  | client => exact agrees
  | unbound _ binds _ => exact agrees_of_dobind owned conserved agrees binds
  | absent _ binds _ => exact agrees_of_dobind owned conserved agrees binds
  | @listened bound sock server binds sockEq idle =>
      obtain ⟨nonneg, alone⟩ := keeps server (binds.bindsSocket owned.running sockEq)
      constructor
      · intro connected
        rw [xmitSock_of_listening rfl]
        rcases dobind_kept_or_quiet owned conserved agrees binds with
          ⟨rfl, kept⟩ | ⟨unconnected, -⟩
        · obtain ⟨isBound, rebind⟩ := kept (Int.le_refl 0)
          by_contra absent
          exact alone idle ⟨isBound, rebind, connected, by simpa using absent⟩
        · simp [unconnected] at connected
      · intro _
        exact ⟨sock, kernelListen, sockEq, by simp, nonneg⟩
  | @again bound sock server binds sockEq _ =>
      obtain ⟨nonneg, -⟩ := keeps server (binds.bindsSocket owned.running sockEq)
      constructor
      · simp
      · intro _
        exact ⟨sock, kernelListen, sockEq, by simp, nonneg⟩

theorem agrees_of_accepts {state next : ConnState} {kernelAccept : Int}
    (accepts : Accepts state kernelAccept next) (owned : Owned state)
    (agrees : Agrees state) : Agrees next := by
  cases accepts with
  | faulted => exact agrees.of_same rfl rfl rfl rfl fun _ => rfl
  | refused => exact agrees
  | accepted sockEq _ =>
      constructor
      · intro _
        unfold Transmit.xmitSock
        split
        · simp [sockEq]
        · rfl
      · intro listening
        obtain ⟨listenSock, ret, listenEq, retEq, nonneg⟩ := agrees.listening listening
        refine ⟨listenSock, ret, listenEq, ?_, nonneg⟩
        have older : listenSock ≠ state.nextSock :=
          Nat.ne_of_lt (owned.created listenSock listenEq)
        dsimp only
        rw [Function.update_of_ne older,
          detached_of_ne _ (owned.different listenSock listenEq)]
        exact retEq

theorem agrees_of_goesDown {state next : ConnState} {jiffies : Nat}
    (goesDown : GoesDown state jiffies next) (agrees : Agrees state)
    (keeps : ¬ (state.tdat.listening = true ∧ state.tdat.isconnected = true)) :
    Agrees next := by
  cases goesDown with
  | server listening =>
      constructor
      · intro connected
        exact absurd ⟨listening, connected⟩ keeps
      · intro _
        obtain ⟨listenSock, ret, listenEq, retEq, nonneg⟩ := agrees.listening listening
        refine ⟨listenSock, ret, listenEq, ?_, nonneg⟩
        rw [← retEq]
        exact member_emptied Socket.listenRet (fun _ => rfl) _ _ listenSock
  | client client => exact agrees_of_quiet rfl client

/-- One step keeps the flags in agreement if it takes none of the four branches. -/
theorem agrees_of_stepped {hz : Nat} {state next : ConnState} {label : Label}
    (owned : Owned state) (conserved : Conserved state) (agrees : Agrees state)
    (keeps : KeepsFlags state label) (stepped : Stepped hz state label next) :
    Agrees next := by
  cases stepped with
  | bindIgnored | peerIgnored | serverstartIgnored | allSubflowDownIgnored => exact agrees
  | bind | peer | serverstart | setqueue | listenReady | connTimerIgnored =>
      exact agrees.of_same rfl rfl rfl rfl fun _ => rfl
  | connect _ connects =>
      refine agrees_of_connects connects ?_ ?_ ?_ keeps
      · exact owned.requeued _ _ _ _
      · exact conserved.requeued _ _ _ _
      · exact agrees.of_same rfl rfl rfl rfl fun _ => rfl
  | listen _ listens =>
      refine agrees_of_listens listens ?_ ?_ ?_ keeps
      · exact owned.requeued _ _ _ _
      · exact conserved.requeued _ _ _ _
      · exact agrees.of_same rfl rfl rfl rfl fun _ => rfl
  | accept _ accepts =>
      refine agrees_of_accepts accepts ?_ ?_
      · exact owned.requeued _ _ _ _
      · exact agrees.of_same rfl rfl rfl rfl fun _ => rfl
  | subflowCreate | subflowDestroy =>
      exact agrees.of_same rfl rfl rfl rfl (member_update Socket.listenRet rfl)
  | allSubflowDown _ _ heard goesDown => exact agrees_of_goesDown goesDown agrees (keeps heard)
  | connTimer _ ismpdccp empty goesDown =>
      refine agrees_of_goesDown goesDown ?_ (keeps ismpdccp empty)
      exact agrees.of_same rfl rfl rfl rfl fun _ => rfl

/-- In every run whose steps take none of the four branches, the flags agree with the
sockets. -/
theorem agrees_of_keepsFlags (hz : Nat) (ipv6 ismpdccp : Bool) (labels : List Label)
    (state : ConnState)
    (keeps : Guarded (step hz) KeepsFlags (initial ipv6 ismpdccp) labels)
    (ran : run (step hz) (initial ipv6 ismpdccp) labels = some state) : Agrees state := by
  apply invariant_of_conserved _ keeps (agrees_of_quiet rfl rfl) ran
  intro state label next owned conserved keeps agrees stepped
  exact agrees_of_stepped owned conserved agrees keeps stepped

/-- A server is started and accepts a connection. -/
def acceptConnection : List Label :=
  [.bind (some serverAddress) 0, .serverstart, .listenHandler allSucceed 0,
    .tpListenReady 0, .acceptHandler 0]

theorem agrees_acceptConnection :
    ∃ state, run (step 100) (initial false true) acceptConnection = some state ∧
      state.tdat.isconnected = true ∧ state.tdat.listening = true ∧ Agrees state := by
  refine ⟨_, rfl, rfl, rfl, ?_⟩
  refine agrees_of_keepsFlags 100 false true acceptConnection _ ?_ rfl
  decide

/-- A server whose link goes down, a server whose port is taken, and a tunnel that is
asked to become a client and a server, in both orders of the workers. -/
theorem not_agrees_linkdown_or_listen_failure_or_both_roles :
    (∃ state, run (step 100) (initial false true)
        (acceptConnection ++ [.allSubflowDown 1 0]) = some state ∧ ¬ Agrees state) ∧
      (∃ state, run (step 100) (initial false true)
        [.bind (some serverAddress) 0, .serverstart, .listenHandler allSucceed (-98)] =
          some state ∧ ¬ Agrees state) ∧
      (∃ state, run (step 100) (initial false true)
        [.bind (some serverAddress) 0, .peer (some serverAddress), .serverstart,
          .connectHandler allSucceed 0 0, .listenHandler allSucceed 0] = some state ∧
        ¬ Agrees state) ∧
      ∃ state, run (step 100) (initial false true)
        [.bind (some serverAddress) 0, .peer (some serverAddress), .serverstart,
          .listenHandler allSucceed 0, .connectHandler allSucceed 0 0] = some state ∧
        ¬ Agrees state := by
  refine ⟨⟨_, rfl, ?_⟩, ⟨_, rfl, ?_⟩, ⟨_, rfl, ?_⟩, ⟨_, rfl, ?_⟩⟩
  · intro agrees
    have chosen := agrees.isconnected rfl
    revert chosen
    decide
  · intro agrees
    obtain ⟨sock, ret, sockEq, retEq, nonneg⟩ := agrees.listening rfl
    obtain rfl := Option.some.inj sockEq
    obtain rfl := Option.some.inj retEq
    revert nonneg
    decide
  · intro agrees
    have chosen := agrees.isconnected rfl
    revert chosen
    decide
  · intro agrees
    have chosen := agrees.isconnected rfl
    revert chosen
    decide

end Tunprox.ConnectionFlags
