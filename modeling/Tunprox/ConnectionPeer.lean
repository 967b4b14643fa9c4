import Tunprox.ConnectionConserved

/-!
# The peer that is reported and the peer in use

`mpdccptun_peer` stores the new address at once and leaves it to the connect worker to
connect to it.  The worker closes the old socket only if the tunnel was bound again;
without that it calls `kernel_connect` on the socket that is connected already, which
fails and leaves the tunnel connected to the old peer.
-/

namespace Tunprox.ConnectionPeer

open Connection ConnectionClose ConnectionBind ConnectionOutcome ConnectionStep
open ConnectionOwned ConnectionConserved ConnectionSocket LabelledRun

/-- The remote address to which `tdat->sock` is connected. -/
def peerInUse (state : ConnState) : Option TpAddr :=
  state.tdat.sock.bind fun sock => (state.sockets sock).raddr

/-- Once no connect work is queued, a connected tunnel is connected to the stored
peer. -/
def ReportsPeer (state : ConnState) : Prop :=
  state.connQueued = false → state.tdat.isconnected = true →
    peerInUse state = some state.tdat.addr.raddr

/-- The steps of a client, on which `kernel_connect` fails if the socket is connected
already. -/
def ClientStep (state : ConnState) : Label → Prop
  | .connectHandler _ kernelConnect _ =>
      state.tdat.bound = true → state.tdat.rebind = false → peerInUse state ≠ none →
        kernelConnect < 0
  | .serverstart | .listenHandler .. | .acceptHandler _ | .tpListenReady _ => False
  | _ => True

instance (state : ConnState) : (label : Label) → Decidable (ClientStep state label)
  | .connectHandler _ kernelConnect _ =>
      inferInstanceAs (Decidable (state.tdat.bound = true → state.tdat.rebind = false →
        peerInUse state ≠ none → kernelConnect < 0))
  | .serverstart | .listenHandler .. | .acceptHandler _ | .tpListenReady _ =>
      inferInstanceAs (Decidable False)
  | .bind .. | .peer _ | .setqueue .. | .subflowCreate .. | .subflowDestroy ..
  | .allSubflowDown .. | .connTimer _ =>
      inferInstanceAs (Decidable True)

/-- The connect worker does not run on a connected tunnel that keeps its socket and has
another peer stored. -/
def KeepsPeer (state : ConnState) : Label → Prop
  | .connectHandler .. =>
      state.tdat.isconnected = true → state.tdat.rebind = false →
        peerInUse state = some state.tdat.addr.raddr
  | _ => True

instance (state : ConnState) : (label : Label) → Decidable (KeepsPeer state label)
  | .connectHandler .. =>
      inferInstanceAs (Decidable (state.tdat.isconnected = true →
        state.tdat.rebind = false → peerInUse state = some state.tdat.addr.raddr))
  | .bind .. | .peer _ | .serverstart | .setqueue .. | .listenHandler ..
  | .acceptHandler _ | .tpListenReady _ | .subflowCreate .. | .subflowDestroy ..
  | .allSubflowDown .. | .connTimer _ =>
      inferInstanceAs (Decidable True)

/-- The invariant: a client that is connected or about to connect knows its peer, and a
connected one has a socket. -/
structure Peered (state : ConnState) : Prop where
  client : state.tdat.isserver = false
  haspeer : state.tdat.isconnected = true ∨ state.connQueued = true →
    state.tdat.haspeer = true
  sock : state.tdat.isconnected = true → state.tdat.sock.isSome
  reports : ReportsPeer state

theorem peerInUse_eq {state next : ConnState} (sock : next.tdat.sock = state.tdat.sock)
    (raddr : ∀ sock, (next.sockets sock).raddr = (state.sockets sock).raddr) :
    peerInUse next = peerInUse state := by
  unfold peerInUse
  rw [sock]
  congr 1
  funext other
  exact raddr other

theorem Peered.of_same {state next : ConnState} (peered : Peered state)
    (isserver : next.tdat.isserver = state.tdat.isserver)
    (haspeer : next.tdat.haspeer = state.tdat.haspeer)
    (isconnected : next.tdat.isconnected = state.tdat.isconnected)
    (sock : next.tdat.sock = state.tdat.sock) (addr : next.tdat.addr = state.tdat.addr)
    (connQueued : next.connQueued = state.connQueued)
    (raddr : ∀ sock, (next.sockets sock).raddr = (state.sockets sock).raddr) :
    Peered next := by
  constructor
  · rw [isserver]
    exact peered.client
  · rw [isconnected, connQueued, haspeer]
    exact peered.haspeer
  · rw [isconnected, sock]
    exact peered.sock
  · unfold ReportsPeer
    rw [connQueued, isconnected, peerInUse_eq sock raddr, addr]
    exact peered.reports

/-- A client that is not connected and has nothing queued. -/
theorem peered_of_idle {state : ConnState} (client : state.tdat.isserver = false)
    (unconnected : state.tdat.isconnected = false) (unqueued : state.connQueued = false) :
    Peered state :=
  ⟨client, by simp [unconnected, unqueued], by simp [unconnected],
    by simp [ReportsPeer, unconnected]⟩

theorem unconnected_of_opens {state base : ConnState} (opens : Opens state base)
    (conserved : Conserved state)
    (sock : state.tdat.isconnected = true → state.tdat.sock.isSome) :
    base.tdat.isconnected = false := by
  cases opens with
  | unbound _ _ unbound =>
      by_contra connected
      have present := sock (by simpa using connected)
      simp [(conserved.unbound unbound).1] at present
  | rebinds => rw [mpdccptunClosesk_eq]

/-- What `mpdccptun_dobind` does to the connection of a client: it keeps the socket, or
the tunnel is not connected any more. -/
theorem dobind_kept_or_unconnected {state bound : ConnState} {calls : BindCalls}
    {ret : Int} (binds : Dobind state calls (ret, bound)) (owned : Owned state)
    (conserved : Conserved state) (client : state.tdat.isserver = false)
    (sock : state.tdat.isconnected = true → state.tdat.sock.isSome) :
    (bound = state ∧ ret = 0 ∧ state.tdat.rebind = false) ∨
      bound.tdat.isconnected = false := by
  cases binds with
  | stopped stopped => simp [owned.running] at stopped
  | refused refused => simp [PortRefused, client] at refused
  | kept _ _ _ kept => exact Or.inl ⟨rfl, rfl, kept⟩
  | failed opens _ failed _ =>
      have unconnected := unconnected_of_opens opens conserved sock
      right
      cases failed with
      | refused | closed => exact unconnected
  | bound opens _ =>
      have unconnected := unconnected_of_opens opens conserved sock
      exact Or.inr unconnected

theorem peered_of_dobind {state bound : ConnState} {calls : BindCalls} {ret : Int}
    (binds : Dobind state calls (ret, bound)) (owned : Owned state)
    (conserved : Conserved state) (unqueued : state.connQueued = false)
    (peered : state.tdat.rebind = false → Peered state)
    (client : state.tdat.isserver = false)
    (sock : state.tdat.isconnected = true → state.tdat.sock.isSome) : Peered bound := by
  rcases dobind_kept_or_unconnected binds owned conserved client sock with
    ⟨rfl, -, kept⟩ | unconnected
  · exact peered kept
  · exact peered_of_idle (binds.frame.isserver.trans client) unconnected
      (binds.frame.connQueued.trans unqueued)

theorem peered_of_connects {hz : Nat} {state next : ConnState} {calls : BindCalls}
    {kernelConnect : Int} {jiffies : Nat}
    (connects : Connects hz state calls kernelConnect jiffies next)
    (bindsPeered : ∀ {ret bound}, Dobind state calls (ret, bound) → Peered bound) :
    Peered next := by
  cases connects with
  | unbound binds _ => exact bindsPeered binds
  | unpeered binds _ => exact bindsPeered binds
  | faulted binds _ =>
      exact (bindsPeered binds).of_same rfl rfl rfl rfl rfl rfl fun _ => rfl
  | refused binds _ _ _ =>
      exact (bindsPeered binds).of_same rfl rfl rfl rfl rfl rfl (member_update Socket.raddr rfl)
  | connected binds haspeer sockEq _ =>
      refine ⟨(bindsPeered binds).client, fun _ => haspeer, ?_, ?_⟩
      · simp [sockEq]
      · intro _ _
        simp [peerInUse, sockEq]

theorem peered_of_stepped {hz : Nat} {state next : ConnState} {label : Label}
    (owned : Owned state) (conserved : Conserved state) (isClient : ClientStep state label)
    (keeps : KeepsPeer state label) (peered : Peered state)
    (stepped : Stepped hz state label next) : Peered next := by
  cases stepped with
  | bindIgnored | peerIgnored | allSubflowDownIgnored => exact peered
  | setqueue | connTimerIgnored =>
      exact peered.of_same rfl rfl rfl rfl rfl rfl fun _ => rfl
  | subflowCreate | subflowDestroy =>
      exact peered.of_same rfl rfl rfl rfl rfl rfl (member_update Socket.raddr rfl)
  | serverstartIgnored | serverstart | listen | accept | listenReady => exact isClient.elim
  | bind =>
      unfold bindStored
      refine ⟨peered.client, ?_, peered.sock, ?_⟩
      · simp only [peered.client, Bool.not_false, Bool.true_and, Bool.or_eq_true]
        rintro (connected | queued | connected)
        · exact peered.haspeer (Or.inl connected)
        · exact peered.haspeer (Or.inr queued)
        · exact peered.haspeer (Or.inl connected)
      · intro unqueued connected
        have isConnected : state.tdat.isconnected = true := connected
        simp [peered.client, isConnected] at unqueued
  | peer =>
      unfold peerStored
      refine ⟨peered.client, fun _ => rfl, peered.sock, ?_⟩
      intro unqueued
      simp [peered.client] at unqueued
  | connect queued connects =>
      refine peered_of_connects connects fun binds => ?_
      refine peered_of_dobind binds ?_ ?_ rfl ?_ peered.client peered.sock
      · exact owned.requeued _ _ _ _
      · exact conserved.requeued _ _ _ _
      · intro kept
        refine ⟨peered.client, ?_, peered.sock, fun _ connected => keeps connected kept⟩
        exact fun _ => peered.haspeer (Or.inr queued)
  | allSubflowDown _ _ _ goesDown | connTimer _ _ _ goesDown =>
      cases goesDown with
      | server =>
          exact peered.of_same rfl rfl rfl rfl rfl rfl
            (member_emptied Socket.raddr (fun _ => rfl) _ _)
      | client =>
          refine ⟨peered.client, ?_, by simp, by simp [ReportsPeer]⟩
          rintro (connected | queued)
          · contradiction
          · exact peered.haspeer (Or.inr queued)

/-- In every run of a client in which the connect worker never runs on a connected
tunnel that keeps its socket and has another peer stored, the peer that is reported is
the peer in use. -/
theorem reportsPeer_of_keepsPeer (hz : Nat) (ipv6 ismpdccp : Bool) (labels : List Label)
    (state : ConnState)
    (keeps : Guarded (step hz)
      (fun state label => ClientStep state label ∧ KeepsPeer state label)
      (initial ipv6 ismpdccp) labels)
    (ran : run (step hz) (initial ipv6 ismpdccp) labels = some state) :
    ReportsPeer state := by
  have start : Peered (initial ipv6 ismpdccp) := peered_of_idle rfl rfl rfl
  have peered : Peered state :=
    invariant_of_conserved
      (fun owned conserved guard peered stepped =>
        peered_of_stepped owned conserved guard.1 guard.2 peered stepped)
      keeps start ran
  exact peered.reports

/-- The address 10.0.0.2, port 1337. -/
def otherAddress : TpAddr :=
  { serverAddress with ip := 0x0a000002 }

/-- A client connects, and gets another local address and another peer. -/
def rebindAndPeer : List Label :=
  [.peer (some serverAddress), .connectHandler allSucceed 0 0,
    .bind (some serverAddress) 0, .peer (some otherAddress),
    .connectHandler allSucceed 0 0]

theorem reportsPeer_rebindAndPeer :
    ∃ state, run (step 100) (initial false true) rebindAndPeer = some state ∧
      state.tdat.isconnected = true ∧ state.tdat.addr.raddr = tpAddrCp otherAddress ∧
      ReportsPeer state := by
  refine ⟨_, rfl, rfl, rfl, ?_⟩
  refine reportsPeer_of_keepsPeer 100 false true rebindAndPeer _ ?_ rfl
  decide

/-- A connected client gets another peer, and `kernel_connect` fails with `EISCONN`
because the socket is connected. -/
def peerWhileConnected : List Label :=
  [.peer (some serverAddress), .connectHandler allSucceed 0 0, .peer (some otherAddress),
    .connectHandler allSucceed (-106) 0]

theorem not_reportsPeer_peerWhileConnected :
    Guarded (step 100) ClientStep (initial false true) peerWhileConnected ∧
      ∃ state, run (step 100) (initial false true) peerWhileConnected = some state ∧
        ¬ ReportsPeer state := by
  refine ⟨by decide, ⟨_, rfl, ?_⟩⟩
  intro reports
  have used := reports rfl rfl
  revert used
  decide

end Tunprox.ConnectionPeer
