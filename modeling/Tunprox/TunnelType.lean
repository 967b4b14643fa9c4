import Tunprox.ConnectionSocket
import Tunprox.Device
import Tunprox.TunAddrCalls

/-!
# The type of a tunnel

`mpdccptun_new` derives the address family and the kind of DCCP from the type
string.  No function writes `ipv6` again.  `mpdccptun_dobind` clears `ismpdccp` when
it has created a socket and finds that the link is not capable of MP-DCCP; it fails
then, but the next attempt binds a socket of plain DCCP.  A tunnel keeps its type on
exactly the runs in which this does not happen.
-/

namespace Tunprox.TunnelType

open Errno Connection ConnectionClose ConnectionBind ConnectionOutcome ConnectionStep
open ConnectionOwned LabelledRun

/-- `mpdccptun_dobind` creates a socket for MP-DCCP on a link that is not capable of it. -/
def LosesType (tdat : Mpdccptun) (calls : BindCalls) : Prop :=
  tdat.tostop = false ∧ ¬ PortRefused tdat ∧ (tdat.bound = true → tdat.rebind = true) ∧
    0 ≤ calls.sockCreateKern ∧ tdat.ismpdccp = true ∧
    isMpdccpLink tdat calls.mpdccpon = false

instance (tdat : Mpdccptun) (calls : BindCalls) : Decidable (LosesType tdat calls) :=
  inferInstanceAs (Decidable (_ ∧ _))

/-- A worker that creates a socket for MP-DCCP finds a link that is capable of it. -/
def LinkCapable (state : ConnState) : Label → Prop
  | .connectHandler calls _ _ => ¬ LosesType state.tdat calls
  | .listenHandler calls _ => state.tdat.isserver = true → ¬ LosesType state.tdat calls
  | _ => True

instance decidableLinkCapable (state : ConnState) :
    (label : Label) → Decidable (LinkCapable state label)
  | .connectHandler _ _ _ => inferInstanceAs (Decidable (¬ _))
  | .listenHandler _ _ => inferInstanceAs (Decidable (_ → ¬ _))
  | .bind _ _ | .peer _ | .serverstart | .setqueue _ _ _ _ | .acceptHandler _
  | .tpListenReady _ | .subflowCreate _ _ _ | .subflowDestroy _ _ | .allSubflowDown _ _
  | .connTimer _ => isTrue trivial

/-- The flags are those the tunnel was created with, and its socket is one for MP-DCCP if
the tunnel was created for it. -/
structure KeepsType (created state : ConnState) : Prop where
  ipv6 : state.tdat.ipv6 = created.tdat.ipv6
  ismpdccp : state.tdat.ismpdccp = created.tdat.ismpdccp
  multipath : ∀ sock, state.tdat.sock = some sock →
    (state.sockets sock).multipath = created.tdat.ismpdccp

section Bind

theorem ismpdccp_mycloseSock (state : ConnState) :
    (mycloseSock state).tdat.ismpdccp = state.tdat.ismpdccp := by
  rw [mycloseSock, myclose_eq]

theorem ismpdccp_bindQueueOptions (state : ConnState) (sock : SockId) (calls : BindCalls) :
    (bindQueueOptions state sock calls).2.tdat.ismpdccp = state.tdat.ismpdccp := by
  unfold bindQueueOptions
  split_ifs
  · exact ismpdccp_mycloseSock _
  · exact ismpdccp_mycloseSock _
  · exact ismpdccp_mycloseSock _
  · rfl

/-- A new socket ends a tunnel's being one of MP-DCCP if the link is not capable. -/
theorem ismpdccp_bindNewSocket (base : ConnState) (calls : BindCalls) :
    (bindNewSocket base calls).2.tdat.ismpdccp =
      (base.tdat.ismpdccp &&
        (decide (calls.sockCreateKern < 0) || isMpdccpLink base.tdat calls.mpdccpon)) := by
  by_cases create : calls.sockCreateKern < 0
  · simp [bindNewSocket, create]
  cases ismpdccp : base.tdat.ismpdccp with
  | false =>
      have single : (sockCreated base).tdat.ismpdccp = false := ismpdccp
      simp only [bindNewSocket, create, if_false, single, Bool.false_eq_true,
        ismpdccp_bindQueueOptions, Bool.false_and]
  | true =>
      have isMp : (sockCreated base).tdat.ismpdccp = true := ismpdccp
      have sameLink : isMpdccpLink (sockCreated base).tdat calls.mpdccpon =
          isMpdccpLink base.tdat calls.mpdccpon := rfl
      cases link : isMpdccpLink base.tdat calls.mpdccpon with
      | false =>
          simp only [bindNewSocket, create, if_false, isMp, if_true, sameLink, link,
            Bool.false_eq_true, ismpdccp_mycloseSock]
          rfl
      | true =>
          simp only [bindNewSocket, create, if_false, isMp, if_true, sameLink, link]
          split_ifs
          · rw [ismpdccp_mycloseSock, isMp]
            rfl
          · rw [ismpdccp_bindQueueOptions]
            simpa [setSocket] using isMp

/-- A new socket is asked for in a state that has the type of the tunnel. -/
theorem ismpdccp_of_opens {state base : ConnState} (opens : Opens state base)
    (calls : BindCalls) :
    (bindNewSocket base calls).2.tdat.ismpdccp =
      (state.tdat.ismpdccp && !decide (LosesType state.tdat calls)) := by
  have sameFlag : base.tdat.ismpdccp = state.tdat.ismpdccp := by
    cases opens with
    | unbound => rfl
    | rebinds => rw [mpdccptunClosesk_eq]
  have sameLink : isMpdccpLink base.tdat calls.mpdccpon =
      isMpdccpLink state.tdat calls.mpdccpon := by
    rw [isMpdccpLink, opens.frame.addr]
    rfl
  have opened : state.tdat.tostop = false ∧ ¬ PortRefused state.tdat ∧
      (state.tdat.bound = true → state.tdat.rebind = true) := by
    cases opens with
    | unbound running port unbound => exact ⟨running, port, by simp [unbound]⟩
    | rebinds rebinds =>
        obtain ⟨running, port, -, rebind⟩ := rebinds
        exact ⟨running, by simp [PortRefused, port], fun _ => rebind⟩
  rw [ismpdccp_bindNewSocket, sameFlag, sameLink]
  obtain ⟨running, port, rebind⟩ := opened
  cases ismpdccp : state.tdat.ismpdccp with
  | false => rfl
  | true =>
      simp only [LosesType, running, port, not_false_eq_true, ismpdccp, true_and, Bool.true_and]
      by_cases create : calls.sockCreateKern < 0
      · simp [create, Int.not_le.mpr create]
      · cases link : isMpdccpLink state.tdat calls.mpdccpon with
        | false =>
            simp only [create, Int.not_lt.mp create, decide_false, Bool.or_false, and_true]
            simpa using rebind
        | true => simp

/-- `mpdccptun_dobind` clears `ismpdccp` if and only if the type is lost. -/
theorem ismpdccp_mpdccptunDobind (state : ConnState) (calls : BindCalls) :
    (mpdccptunDobind state calls).2.tdat.ismpdccp =
      (state.tdat.ismpdccp && !decide (LosesType state.tdat calls)) := by
  have unchanged (kept : ¬ LosesType state.tdat calls) :
      state.tdat.ismpdccp = (state.tdat.ismpdccp && !decide (LosesType state.tdat calls)) := by
    simp [kept]
  unfold mpdccptunDobind
  split
  · rename_i stopped
    exact unchanged fun loses => absurd loses.1 (by simp [stopped])
  · rename_i running
    split
    · rename_i refused
      exact unchanged fun loses => loses.2.1 refused
    · rename_i port
      have isRunning : state.tdat.tostop = false := by simpa using running
      split
      · rename_i bound
        split
        · rename_i rebind
          exact ismpdccp_of_opens (.rebinds ⟨isRunning, by simpa using port, bound, rebind⟩) calls
        · rename_i keeps
          exact unchanged fun loses => keeps (loses.2.2.1 bound)
      · rename_i unbound
        exact ismpdccp_of_opens (.unbound isRunning port (by simpa using unbound)) calls

/-- The connect worker goes on with the tunnel as `mpdccptun_dobind` left it. -/
theorem ismpdccp_mpdccptunElabConnect (hz : Nat) (state : ConnState) (calls : BindCalls)
    (kernelConnect : Int) (jiffies : Nat) :
    (mpdccptunElabConnect hz state calls kernelConnect jiffies).2.tdat.ismpdccp =
      (state.tdat.ismpdccp && !decide (LosesType state.tdat calls)) := by
  rw [← ismpdccp_mpdccptunDobind { state with connTimer := none } calls]
  unfold mpdccptunElabConnect
  generalize mpdccptunDobind { state with connTimer := none } calls = bound
  obtain ⟨ret, bound⟩ := bound
  simp only
  split_ifs
  · rfl
  · rfl
  · rfl
  · cases bound.tdat.sock with
    | none => rfl
    | some sock =>
        simp only [connectSocket]
        split_ifs <;> rfl

theorem ismpdccp_mpdccptunCloseListen (state : ConnState) :
    (mpdccptunCloseListen state).tdat.ismpdccp = state.tdat.ismpdccp := by
  rw [mpdccptunCloseListen, myclose_eq]
  cases activeEq : state.tdat.active <;> cases sockEq : state.tdat.sock <;>
    simp [tpUnsetTdat, kernelSockShutdown, setSocket]

/-- The listen worker binds the socket of a server only. -/
theorem ismpdccp_mpdccptunDoserverstart (state : ConnState) (calls : BindCalls)
    (kernelListen : Int) :
    (mpdccptunDoserverstart state calls kernelListen).2.tdat.ismpdccp =
      (state.tdat.ismpdccp &&
        !decide (state.tdat.isserver = true ∧ LosesType state.tdat calls)) := by
  unfold mpdccptunDoserverstart
  cases server : state.tdat.isserver with
  | false => simp
  | true =>
      have binds := ismpdccp_mpdccptunDobind state calls
      simp only [Bool.not_true, Bool.false_eq_true, if_false, true_and]
      rw [← binds]
      generalize mpdccptunDobind state calls = bound
      obtain ⟨ret, bound⟩ := bound
      simp only
      by_cases negative : ret < 0
      · rw [if_pos negative]
      · rw [if_neg negative]
        cases bound.tdat.sock with
        | none => rfl
        | some sock =>
            have started (ready : ConnState)
                (same : ready.tdat.ismpdccp = bound.tdat.ismpdccp) :
                (startListening ready sock kernelListen).2.tdat.ismpdccp =
                  bound.tdat.ismpdccp := by
              unfold startListening
              split_ifs
              · exact same
              · exact same
            apply started
            split_ifs
            · exact ismpdccp_mpdccptunCloseListen bound
            · rfl

end Bind

section Step

theorem ismpdccp_of_goesDown {state next : ConnState} {jiffies : Nat}
    (goesDown : GoesDown state jiffies next) :
    next.tdat.ismpdccp = state.tdat.ismpdccp := by
  cases goesDown <;> rfl

/-- A step clears `ismpdccp` if and only if the type is lost. -/
theorem ismpdccp_of_step {hz : Nat} {state next : ConnState} {label : Label}
    (owned : Owned state) (stepped : step hz state label = some next) :
    next.tdat.ismpdccp = true ↔ state.tdat.ismpdccp = true ∧ LinkCapable state label := by
  have outcome := owned.stepped stepped
  cases outcome with
  | connect queued _ =>
      simp only [step, queued, if_true] at stepped
      rw [← Option.some.inj stepped, ismpdccp_mpdccptunElabConnect]
      simp [LinkCapable]
  | listen queued _ =>
      simp only [step, queued, if_true] at stepped
      rw [← Option.some.inj stepped, ismpdccp_mpdccptunDoserverstart]
      simp [LinkCapable, imp_iff_not_or]
  | accept _ accepts => cases accepts <;> simp [LinkCapable]
  | allSubflowDown _ _ _ goesDown => simp [LinkCapable, ismpdccp_of_goesDown goesDown]
  | connTimer _ _ _ goesDown => simp [LinkCapable, ismpdccp_of_goesDown goesDown]
  | bindIgnored | peerIgnored | serverstartIgnored | allSubflowDownIgnored | bind | peer
  | serverstart | setqueue | listenReady | connTimerIgnored | subflowCreate
  | subflowDestroy => simp [LinkCapable, bindStored, peerStored]

/-- The type once lost does not come back. -/
theorem lost_of_run {hz : Nat} {state final : ConnState} {labels : List Label}
    (lost : Owned state ∧ state.tdat.ismpdccp = false)
    (ran : run (step hz) state labels = some final) :
    Owned final ∧ final.tdat.ismpdccp = false := by
  have preserved : ∀ {state label next}, Owned state ∧ state.tdat.ismpdccp = false →
      step hz state label = some next → Owned next ∧ next.tdat.ismpdccp = false := by
    rintro state label next ⟨owned, lost⟩ stepped
    refine ⟨owned_of_step owned stepped, ?_⟩
    simpa [lost] using ismpdccp_of_step owned stepped
  exact invariant_of_run preserved lost ran

/-- The type is kept on exactly the guarded runs. -/
theorem ismpdccp_eq_iff {hz : Nat} {state final : ConnState} {labels : List Label}
    (owned : Owned state) (ran : run (step hz) state labels = some final) :
    final.tdat.ismpdccp = state.tdat.ismpdccp ↔
      Guarded (step hz) LinkCapable state labels := by
  induction labels generalizing state with
  | nil =>
      simp only [run_nil, Option.some.injEq] at ran
      simp [ran, Guarded]
  | cons label labels ih =>
      obtain ⟨next, stepped, rest⟩ := run_cons_eq_some_iff.mp ran
      have nextOwned := owned_of_step owned stepped
      have flag := ismpdccp_of_step owned stepped
      simp only [Guarded, stepped]
      by_cases capable : LinkCapable state label
      · have same : next.tdat.ismpdccp = state.tdat.ismpdccp := by
          rw [Bool.eq_iff_iff, flag]
          simp [capable]
        rw [← same, ih nextOwned rest]
        simp [capable]
      · have gone : final.tdat.ismpdccp = false := by
          have lost : Owned next ∧ next.tdat.ismpdccp = false :=
            ⟨nextOwned, by simpa [capable] using flag⟩
          exact (lost_of_run lost rest).2
        have created : state.tdat.ismpdccp = true := by
          cases label <;> simp only [LinkCapable, not_true_eq_false] at capable
          · exact (not_not.mp capable).2.2.2.2.1
          · exact (not_not.mp (Classical.not_imp.mp capable).2).2.2.2.2.1
        simp [gone, created, capable]

/-- The family is the one of the creation, and the socket is one for MP-DCCP if the tunnel
is. -/
structure Typed (ipv6 : Bool) (state : ConnState) : Prop where
  ipv6 : state.tdat.ipv6 = ipv6
  multipath : ∀ sock, state.tdat.sock = some sock →
    (state.sockets sock).multipath = state.tdat.ismpdccp

/-- What `Typed` reads of a state. -/
theorem Typed.of_same {ipv6 : Bool} {state next : ConnState} (typed : Typed ipv6 state)
    (sameIpv6 : next.tdat.ipv6 = state.tdat.ipv6)
    (sameIsmpdccp : next.tdat.ismpdccp = state.tdat.ismpdccp)
    (sameSock : next.tdat.sock = state.tdat.sock)
    (sameMultipath : ∀ sock,
      (next.sockets sock).multipath = (state.sockets sock).multipath) : Typed ipv6 next where
  ipv6 := sameIpv6.trans typed.ipv6
  multipath := by
    intro sock sockEq
    rw [sameSock] at sockEq
    rw [sameMultipath sock, typed.multipath sock sockEq, sameIsmpdccp]

theorem typed_of_dobind {ipv6 : Bool} {state bound : ConnState} {calls : BindCalls} {ret : Int}
    (typed : Typed ipv6 state) (binds : Dobind state calls (ret, bound)) :
    Typed ipv6 bound := by
  have opened {base : ConnState} (opens : Opens state base) : Typed ipv6 base := by
    cases opens with
    | unbound => exact typed
    | rebinds =>
        rw [mpdccptunClosesk_eq]
        exact ⟨typed.ipv6, by simp⟩
  cases binds with
  | stopped | refused | kept => exact typed
  | failed opens _ failed _ =>
      cases failed with
      | refused => exact opened opens
      | closed => exact ⟨(opened opens).ipv6, by simp⟩
  | bound opens _ =>
      refine ⟨(opened opens).ipv6, ?_⟩
      intro sock sockEq
      obtain rfl := Option.some.inj sockEq
      simp [boundState]

theorem typed_of_goesDown {ipv6 : Bool} {state next : ConnState} {jiffies : Nat}
    (typed : Typed ipv6 state) (goesDown : GoesDown state jiffies next) : Typed ipv6 next := by
  cases goesDown with
  | server =>
      exact typed.of_same rfl rfl rfl
        (member_emptied Socket.multipath (fun _ => rfl) state.sockets state.tdat.active)
  | client => exact ⟨typed.ipv6, by simp⟩

theorem typed_of_connects {hz : Nat} {ipv6 : Bool} {state next : ConnState} {calls : BindCalls}
    {kernelConnect : Int} {jiffies : Nat} (typed : Typed ipv6 state)
    (connects : Connects hz state calls kernelConnect jiffies next) : Typed ipv6 next := by
  cases connects with
  | unbound binds _ | unpeered binds _ => exact typed_of_dobind typed binds
  | faulted binds _ =>
      exact (typed_of_dobind typed binds).of_same rfl rfl rfl fun _ => rfl
  | refused binds _ _ _ =>
      exact (typed_of_dobind typed binds).of_same rfl rfl rfl
        (member_update Socket.multipath rfl)
  | connected binds _ _ _ =>
      exact (typed_of_dobind typed binds).of_same rfl rfl rfl
        (member_update Socket.multipath rfl)

theorem typed_of_listens {ipv6 : Bool} {state next : ConnState} {calls : BindCalls}
    {kernelListen : Int} (typed : Typed ipv6 state)
    (listens : Listens state calls kernelListen next) : Typed ipv6 next := by
  cases listens with
  | client => exact typed
  | unbound _ binds _ | absent _ binds _ => exact typed_of_dobind typed binds
  | listened _ binds _ _ =>
      exact (typed_of_dobind typed binds).of_same rfl rfl rfl
        (member_update Socket.multipath rfl)
  | again _ binds _ _ =>
      refine (typed_of_dobind typed binds).of_same rfl rfl rfl ?_
      intro sock
      refine (member_update Socket.multipath ?_ sock).trans ?_
      · rfl
      · exact member_detached Socket.multipath (fun _ => rfl) _ _ sock

theorem typed_of_accepts {ipv6 : Bool} {state next : ConnState} {kernelAccept : Int}
    (typed : Typed ipv6 state) (owned : Owned state)
    (accepts : Accepts state kernelAccept next) : Typed ipv6 next := by
  cases accepts with
  | faulted => exact typed.of_same rfl rfl rfl fun _ => rfl
  | refused => exact typed
  | accepted =>
      refine ⟨typed.ipv6, ?_⟩
      intro sock sockEq
      have older : sock ≠ state.nextSock := Nat.ne_of_lt (owned.created sock sockEq)
      dsimp only
      rw [Function.update_of_ne older,
        member_detached Socket.multipath (fun _ => rfl) state.sockets state.tdat.active]
      exact typed.multipath sock sockEq

theorem typed_of_stepped {hz : Nat} {ipv6 : Bool} {state next : ConnState} {label : Label}
    (owned : Owned state) (typed : Typed ipv6 state) (stepped : Stepped hz state label next) :
    Typed ipv6 next := by
  cases stepped with
  | bindIgnored | peerIgnored | serverstartIgnored | allSubflowDownIgnored => exact typed
  | bind | peer | serverstart | setqueue | listenReady | connTimerIgnored =>
      exact typed.of_same rfl rfl rfl fun _ => rfl
  | connect _ connects =>
      apply typed_of_connects _ connects
      exact typed.of_same rfl rfl rfl fun _ => rfl
  | listen _ listens =>
      apply typed_of_listens _ listens
      exact typed.of_same rfl rfl rfl fun _ => rfl
  | accept _ accepts =>
      apply typed_of_accepts _ _ accepts
      · exact typed.of_same rfl rfl rfl fun _ => rfl
      · exact owned.requeued _ _ _ _
  | subflowCreate | subflowDestroy =>
      exact typed.of_same rfl rfl rfl (member_update Socket.multipath rfl)
  | allSubflowDown _ _ _ goesDown => exact typed_of_goesDown typed goesDown
  | connTimer _ _ _ goesDown =>
      apply typed_of_goesDown _ goesDown
      exact typed.of_same rfl rfl rfl fun _ => rfl

theorem typed_initial (ipv6 ismpdccp : Bool) : Typed ipv6 (initial ipv6 ismpdccp) where
  ipv6 := rfl
  multipath := nofun

end Step

section Address

/-- A bind request leaves the addresses or calls `ldt_tunaddr_bind`. -/
theorem addr_mpdccptunBind (state : ConnState) (addr : Option TpAddr) (flags : Nat) :
    (mpdccptunBind state addr flags).2.tdat.addr = state.tdat.addr ∨
      (mpdccptunBind state addr flags).2.tdat.addr =
        ((TunAddrCall.bind addr flags).perform state.tdat.addr).2 := by
  cases addr with
  | none => exact .inl rfl
  | some addr =>
      simp only [mpdccptunBind, TunAddrCall.perform]
      split_ifs
      · exact .inl rfl
      · exact .inl rfl
      · exact .inr rfl
      · exact .inr rfl
      · exact .inr rfl

/-- A request for the peer leaves the addresses or calls `ldt_tunaddr_setpeer`. -/
theorem addr_mpdccptunPeer (state : ConnState) (addr : Option TpAddr) :
    (mpdccptunPeer state addr).2.tdat.addr = state.tdat.addr ∨
      (mpdccptunPeer state addr).2.tdat.addr =
        ((TunAddrCall.setpeer addr false).perform state.tdat.addr).2 := by
  have outcome : (mpdccptunPeer state addr).2.tdat.addr = state.tdat.addr ∨
      (mpdccptunPeer state addr).2.tdat.addr = (storePeer state.tdat addr).2.addr := by
    unfold mpdccptunPeer
    generalize storePeer state.tdat addr = stored
    obtain ⟨ret, tdat⟩ := stored
    simp only
    split_ifs <;> simp
  rcases outcome with same | stored
  · exact .inl same
  · rw [stored]
    cases addr with
    | none => exact .inl rfl
    | some addr =>
        by_cases refused : (ldtTunaddrSetpeer state.tdat.addr addr false).1 < 0
        · left
          simp only [storePeer, if_pos refused]
        · right
          simp only [storePeer, if_neg refused, TunAddrCall.perform]

/-- The addresses of a tunnel are written by the calls of `ldt_tunaddr.c` alone. -/
theorem addr_of_step {hz : Nat} {state next : ConnState} {label : Label} (owned : Owned state)
    (stepped : step hz state label = some next) :
    next.tdat.addr = state.tdat.addr ∨
      (∃ addr flags, next.tdat.addr =
        ((TunAddrCall.bind addr flags).perform state.tdat.addr).2) ∨
      ∃ addr, next.tdat.addr = ((TunAddrCall.setpeer addr false).perform state.tdat.addr).2 := by
  have outcome := owned.stepped stepped
  cases outcome with
  | bind addr flags =>
      rw [← Option.some.inj stepped]
      rcases addr_mpdccptunBind state addr flags with same | written
      · exact .inl same
      · exact .inr (.inl ⟨addr, flags, written⟩)
  | peer addr =>
      rw [← Option.some.inj stepped]
      rcases addr_mpdccptunPeer state addr with same | written
      · exact .inl same
      · exact .inr (.inr ⟨addr, written⟩)
  | connect _ connects =>
      left
      cases connects with
      | unbound binds | unpeered binds | faulted binds | refused binds | connected binds =>
          exact binds.frame.addr
  | listen _ listens =>
      left
      cases listens with
      | client => rfl
      | unbound _ binds | absent _ binds | listened _ binds | again _ binds =>
          exact binds.frame.addr
  | accept _ accepts => cases accepts <;> exact .inl rfl
  | allSubflowDown _ _ _ goesDown => cases goesDown <;> exact .inl rfl
  | connTimer _ _ _ goesDown => cases goesDown <;> exact .inl rfl
  | bindIgnored | peerIgnored | serverstartIgnored | allSubflowDownIgnored | serverstart
  | setqueue | listenReady | connTimerIgnored | subflowCreate | subflowDestroy =>
      exact .inl rfl

/-- In every reachable state the flags and the cached port of a tunnel agree with its
addresses, which have the family of its type. -/
theorem agrees_addr_of_run {hz : Nat} {ipv6 ismpdccp : Bool} {labels : List Label}
    {state : ConnState} (ran : run (step hz) (initial ipv6 ismpdccp) labels = some state) :
    state.tdat.addr.Agrees ipv6 := by
  have preserved : ∀ {state label next}, Owned state ∧ state.tdat.addr.Agrees ipv6 →
      step hz state label = some next → Owned next ∧ next.tdat.addr.Agrees ipv6 := by
    rintro state label next ⟨owned, agrees⟩ stepped
    refine ⟨owned_of_step owned stepped, ?_⟩
    rcases addr_of_step owned stepped with same | ⟨addr, flags, written⟩ | ⟨addr, written⟩
    · rw [same]
      exact agrees
    · rw [written]
      exact agrees_performAll agrees [.bind addr flags]
    · rw [written]
      exact agrees_performAll agrees [.setpeer addr false]
  exact (invariant_of_run preserved
    ⟨owned_initial ipv6 ismpdccp, agrees_ldtTunaddrInit ipv6⟩ ran).2

end Address

/-- A tunnel keeps the type it was created with on exactly the runs in which no worker
creates a socket for MP-DCCP on a link that is not capable of it. -/
theorem keepsType_iff {hz : Nat} {type : List UInt8} {kmalloc : Bool}
    {tunops : Device.LdtTunops} {created final : ConnState} {labels : List Label}
    (allocated : Device.mpdccptunNewTun type kmalloc = .ok (tunops, created))
    (ran : run (step hz) created labels = some final) :
    KeepsType created final ↔ Guarded (step hz) LinkCapable created labels := by
  obtain ⟨ipv6, ismpdccp, rfl⟩ := Device.exists_initial_of_mpdccptunNewTun allocated
  have owned := owned_initial ipv6 ismpdccp
  have typed : Typed ipv6 final :=
    invariant_of_stepped (fun owned _ typed stepped => typed_of_stepped owned typed stepped)
      (guarded_of_forall (fun _ _ => trivial) _ labels) (typed_initial ipv6 ismpdccp) ran
  rw [← ismpdccp_eq_iff owned ran]
  constructor
  · intro keeps
    exact keeps.ismpdccp
  · intro same
    refine ⟨typed.ipv6, same, ?_⟩
    intro sock sockEq
    rw [typed.multipath sock sockEq, same]

/-- A client that connects through a capable link stays one of MP-DCCP. -/
theorem keepsType_connectAndRebind :
    ∃ tunops created final,
      Device.mpdccptunNewTun (ascii "mpdccp4") true = .ok (tunops, created) ∧
      run (step 100) created ConnectionSocket.connectAndRebind = some final ∧
      KeepsType created final := by
  refine ⟨_, _, _, rfl, rfl, ?_⟩
  refine (@keepsType_iff 100 (ascii "mpdccp4") true _ _ _ ConnectionSocket.connectAndRebind rfl
    rfl).mpr ?_
  decide

/-- The first attempt fails because the link is not capable, the second one succeeds and
its socket is not one for MP-DCCP. -/
theorem not_keepsType_after_failed_bind :
    ∃ tunops created final sock,
      Device.mpdccptunNewTun (ascii "mpdccp4") true = .ok (tunops, created) ∧
      created.tdat.ismpdccp = true ∧
      run (step 100) created
        [.peer (some ConnectionSocket.serverAddress),
          .connectHandler { ConnectionSocket.allSucceed with mpdccpon := false } 0 0,
          .peer none, .connectHandler ConnectionSocket.allSucceed 0 0] = some final ∧
      final.tdat.sock = some sock ∧ final.tdat.bound = true ∧
      (final.sockets sock).multipath = false ∧ ¬ KeepsType created final := by
  refine ⟨_, _, _, 1, rfl, rfl, rfl, rfl, rfl, rfl, ?_⟩
  intro keeps
  exact absurd keeps.ismpdccp (by decide)

end Tunprox.TunnelType
