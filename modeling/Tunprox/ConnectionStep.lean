import Tunprox.ConnectionOutcome

/-!
# What one step of a tunnel can do

The inversion of the transition function.  Each request, worker run and
notification is written as the states it can lead to, with the conditions under
which it does.  The requests store addresses, marks and queued work; only the
workers and the link-downs touch the sockets.
-/

namespace Tunprox.ConnectionStep

open Errno Queue Connection ConnectionClose ConnectionOutcome

/-- Everything `mpdccptun_elab_accept` can do. -/
inductive Accepts (state : ConnState) (kernelAccept : Int) : ConnState → Prop where
  | faulted (absent : state.tdat.sock = none) :
      Accepts state kernelAccept { state with nullDeref := true }
  | refused (refused : kernelAccept < 0) : Accepts state kernelAccept state
  | accepted {listenSock : SockId} (sockEq : state.tdat.sock = some listenSock)
      (accepted : 0 ≤ kernelAccept) :
      Accepts state kernelAccept
        { state with
          tdat := { state.tdat with
            active := some state.nextSock
            isconnected := true
            wasconnected := true }
          sockets := Function.update (detached state.sockets state.tdat.active)
            state.nextSock (acceptedSocket state listenSock)
          nextSock := state.nextSock + 1
          released := state.released ++ state.tdat.active.toList }

theorem accepts_mpdccptunElabAccept {state : ConnState} (kernelAccept : Int)
    (fresh : state.tdat.active ≠ some state.nextSock) :
    Accepts state kernelAccept (mpdccptunElabAccept state kernelAccept).2 := by
  rcases mpdccptunElabAccept_cases state kernelAccept with
    ⟨absent, eq⟩ | ⟨refused, eq⟩ | ⟨listenSock, sockEq, accepted⟩
  · rw [eq]
    exact .faulted absent
  · rw [eq]
    exact .refused refused
  · rw [mpdccptunElabAccept_eq fresh sockEq accepted]
    exact .accepted sockEq accepted

/-- Everything `mpdccptun_linkdown` can do. -/
inductive GoesDown (state : ConnState) (jiffies : Nat) : ConnState → Prop where
  | server (listening : state.tdat.listening = true) :
      GoesDown state jiffies
        { state with
          tdat := { state.tdat with
            active := none
            subflow := subflowsLeft state state.tdat.active }
          sockets := emptied state.sockets state.tdat.active
          released := state.released ++ state.tdat.active.toList }
  | client (client : state.tdat.listening = false) :
      GoesDown state jiffies
        { state with
          tdat := { state.tdat with
            lastUnconnect := jiffies
            isconnected := false
            sock := none
            subflow := subflowsLeft state state.tdat.sock }
          sockets := emptied state.sockets state.tdat.sock
          released := state.released ++ state.tdat.sock.toList }

theorem goesDown_mpdccptunLinkdown (state : ConnState) (jiffies : Nat) :
    GoesDown state jiffies (mpdccptunLinkdown state jiffies) := by
  cases listening : state.tdat.listening with
  | false =>
      rw [mpdccptunLinkdown_of_client jiffies listening]
      exact .client listening
  | true =>
      rw [mpdccptunLinkdown_of_listening jiffies listening]
      exact .server listening

/-- The tunnel after a new local address was stored. -/
def bindStored (state : ConnState) (laddr : TpAddr) (anyladdr anylport : Bool)
    (lport : Nat) : ConnState :=
  { state with
    tdat := { state.tdat with
      addr := { state.tdat.addr with
        laddr := laddr
        anyladdr := anyladdr
        anylport := anylport
        lport := lport
        bound := true }
      rebind := state.tdat.rebind || state.tdat.bound }
    connQueued := state.connQueued || (!state.tdat.isserver && state.tdat.isconnected)
    listenQueued := state.listenQueued || (state.tdat.isserver && state.tdat.listening) }

/-- The tunnel after a connection to the peer was requested. -/
def peerStored (state : ConnState) (raddr : TpAddr) (anyraddr hasraddr : Bool) : ConnState :=
  { state with
    tdat := { state.tdat with
      addr := { state.tdat.addr with
        raddr := raddr
        anyraddr := anyraddr
        hasraddr := hasraddr }
      haspeer := true }
    connQueued := state.connQueued || !state.tdat.isserver }

/-- Everything one step can do on a tunnel that is not stopped. -/
inductive Stepped (hz : Nat) (state : ConnState) : Label → ConnState → Prop where
  | bindIgnored (addr : Option TpAddr) (flags : Nat) : Stepped hz state (.bind addr flags) state
  | bind (addr : Option TpAddr) (flags : Nat) (laddr : TpAddr) (anyladdr anylport : Bool)
      (lport : Nat) :
      Stepped hz state (.bind addr flags) (bindStored state laddr anyladdr anylport lport)
  | peerIgnored (addr : Option TpAddr) : Stepped hz state (.peer addr) state
  | peer (addr : Option TpAddr) (raddr : TpAddr) (anyraddr hasraddr : Bool) :
      Stepped hz state (.peer addr) (peerStored state raddr anyraddr hasraddr)
  | serverstartIgnored (ignored : state.tdat.isconnected = true ∨ state.tdat.isserver = true) :
      Stepped hz state .serverstart state
  | serverstart (unconnected : state.tdat.isconnected = false)
      (client : state.tdat.isserver = false) :
      Stepped hz state .serverstart
        { state with
          tdat := { state.tdat with isserver := true }
          listenQueued := true }
  | setqueue (txqlen qpolicy txqlenRet qpolicyRet : Int) (txQlen : Nat)
      (policy : DccpqPolicy) (xmitQueue : TpQueue SkBuff) (nullDeref : Bool)
      (intact : Backed state → nullDeref = state.nullDeref) :
      Stepped hz state (.setqueue txqlen qpolicy txqlenRet qpolicyRet)
        { state with
          tdat := { state.tdat with
            txQlen := txQlen
            qpolicy := policy
            xmitQueue := xmitQueue }
          nullDeref := nullDeref }
  | connect {calls : BindCalls} {kernelConnect : Int} {jiffies : Nat} {next : ConnState}
      (queued : state.connQueued = true)
      (connects : Connects hz { state with connQueued := false, connTimer := none } calls
        kernelConnect jiffies next) :
      Stepped hz state (.connectHandler calls kernelConnect jiffies) next
  | listen {calls : BindCalls} {kernelListen : Int} {next : ConnState}
      (queued : state.listenQueued = true)
      (listens : Listens { state with listenQueued := false } calls kernelListen next) :
      Stepped hz state (.listenHandler calls kernelListen) next
  | accept {kernelAccept : Int} {next : ConnState} (queued : state.acceptQueued = true)
      (accepts : Accepts { state with acceptQueued := false } kernelAccept next) :
      Stepped hz state (.acceptHandler kernelAccept) next
  | listenReady {sock : SockId} {ret : Int} {acceptQueued : Bool}
      (listens : (state.sockets sock).listenRet = some ret) (listened : 0 ≤ ret)
      (alive : Alive state sock)
      (queued : acceptQueued = state.acceptQueued ∨ state.tdat.bound = true) :
      Stepped hz state (.tpListenReady sock) { state with acceptQueued := acceptQueued }
  | subflowCreate {metaSock : SockId} {name : List UInt8} {krealloc : Bool}
      {subflow : List (List UInt8)} {bufszSubflow : Nat}
      (multipath : (state.sockets metaSock).multipath = true) (alive : Alive state metaSock)
      (unheard : (state.sockets metaSock).userData = false → subflow = state.tdat.subflow)
      (heard : (state.sockets metaSock).userData = true → krealloc = true →
        subflow = state.tdat.subflow ++ [name]) :
      Stepped hz state (.subflowCreate metaSock name krealloc)
        { state with
          tdat := { state.tdat with
            subflow := subflow
            bufszSubflow := bufszSubflow }
          sockets := Function.update state.sockets metaSock
            { state.sockets metaSock with
              subflows := (state.sockets metaSock).subflows ++ [name] } }
  | subflowDestroy {metaSock : SockId} {name : List UInt8}
      (living : name ∈ (state.sockets metaSock).subflows) (alive : Alive state metaSock) :
      Stepped hz state (.subflowDestroy metaSock name)
        { state with
          tdat := { state.tdat with
            subflow :=
              if (state.sockets metaSock).userData then
                state.tdat.subflow.eraseP (kernelStrcaseeq name)
              else state.tdat.subflow }
          sockets := Function.update state.sockets metaSock
            { state.sockets metaSock with
              subflows := (state.sockets metaSock).subflows.erase name } }
  | allSubflowDownIgnored {metaSock : SockId} {jiffies : Nat}
      (ignored : (state.sockets metaSock).userData = false) :
      Stepped hz state (.allSubflowDown metaSock jiffies) state
  | allSubflowDown {metaSock : SockId} {jiffies : Nat} {next : ConnState}
      (multipath : (state.sockets metaSock).multipath = true) (alive : Alive state metaSock)
      (heard : (state.sockets metaSock).userData = true)
      (goesDown : GoesDown state jiffies next) :
      Stepped hz state (.allSubflowDown metaSock jiffies) next
  | connTimerIgnored {jiffies : Nat} (armed : state.connTimer.isSome)
      (ignored : state.tdat.ismpdccp = false ∨ 0 < state.tdat.numSubflow) :
      Stepped hz state (.connTimer jiffies) { state with connTimer := none }
  | connTimer {jiffies : Nat} {next : ConnState} (armed : state.connTimer.isSome)
      (ismpdccp : state.tdat.ismpdccp = true) (empty : state.tdat.numSubflow = 0)
      (goesDown : GoesDown { state with connTimer := none } jiffies next) :
      Stepped hz state (.connTimer jiffies) next

theorem ldtTunaddrBind_cases (tad : TunAddr) (addr : TpAddr) (flags : Nat) :
    (ldtTunaddrBind tad addr flags).1 < 0 ∨
      ∃ laddr anyladdr anylport lport, (ldtTunaddrBind tad addr flags).2 =
        { tad with
          laddr := laddr
          anyladdr := anyladdr
          anylport := anylport
          lport := lport
          bound := true } := by
  have invalid : -EINVAL < 0 := by decide
  have noEntry : -ENOENT < 0 := by decide
  unfold ldtTunaddrBind
  split
  · exact Or.inl invalid
  · split
    · split
      · exact Or.inl noEntry
      · exact Or.inr ⟨_, _, _, _, rfl⟩
    · exact Or.inr ⟨_, _, _, _, rfl⟩

theorem stepped_bind (hz : Nat) (state : ConnState) (addr : Option TpAddr) (flags : Nat) :
    Stepped hz state (.bind addr flags) (mpdccptunBind state addr flags).2 := by
  unfold mpdccptunBind
  cases addr with
  | none => exact .bindIgnored none flags
  | some addr =>
      simp only
      split
      · exact .bindIgnored (some addr) flags
      · split
        · exact .bindIgnored (some addr) flags
        · rename_i nonneg
          rcases ldtTunaddrBind_cases state.tdat.addr addr flags with
            negative | ⟨laddr, anyladdr, anylport, lport, stored⟩
          · exact absurd negative nonneg
          · have bind : Stepped hz state (.bind (some addr) flags) _ :=
              .bind (some addr) flags laddr anyladdr anylport lport
            rw [stored]
            unfold bindStored at bind
            split
            · rename_i client
              simp only [Bool.and_eq_true, Bool.not_eq_true'] at client
              simpa [client.1, client.2] using bind
            · split
              · rename_i server
                simp only [Bool.and_eq_true] at server
                simpa [server.1, server.2] using bind
              · rename_i notClient notServer
                have idleClient : (!state.tdat.isserver && state.tdat.isconnected) = false := by
                  simpa using notClient
                have idleServer : (state.tdat.isserver && state.tdat.listening) = false := by
                  simpa using notServer
                simpa only [idleClient, idleServer, Bool.or_false] using bind

theorem storePeer_cases (tdat : Mpdccptun) (addr : Option TpAddr) :
    (storePeer tdat addr).1 < 0 ∨ (storePeer tdat addr).2 = tdat ∨
      ∃ raddr anyraddr hasraddr, (storePeer tdat addr).2 =
        { tdat with
          addr := { tdat.addr with
            raddr := raddr
            anyraddr := anyraddr
            hasraddr := hasraddr }
          haspeer := true } := by
  have invalid : -EINVAL < 0 := by decide
  cases addr with
  | none => exact Or.inr (Or.inl rfl)
  | some addr =>
      by_cases family : addr.saFamily = tdat.addr.raddr.saFamily
      · right
        right
        exact ⟨tpAddrCp addr, tpAddrIsany addr, !tpAddrIsany addr,
          by simp [storePeer, ldtTunaddrSetpeer, family]⟩
      · left
        have refused : storePeer tdat (some addr) = (-EINVAL, tdat) := by
          simp only [storePeer, ldtTunaddrSetpeer, Bool.false_and, Bool.false_eq_true,
            if_false, ne_eq, family, not_false_eq_true, if_true, invalid]
        rw [refused]
        exact invalid

theorem stepped_peer (hz : Nat) (state : ConnState) (addr : Option TpAddr) :
    Stepped hz state (.peer addr) (mpdccptunPeer state addr).2 := by
  have requested {tdat : Mpdccptun} (raddr : TpAddr) (anyraddr hasraddr : Bool)
      (tdatEq : tdat =
        { state.tdat with
          addr := { state.tdat.addr with
            raddr := raddr
            anyraddr := anyraddr
            hasraddr := hasraddr }
          haspeer := true }) :
      Stepped hz state (.peer addr)
        (if tdat.isserver then ((0 : Int), { state with tdat := tdat })
          else (0, { state with tdat := tdat, connQueued := true })).2 := by
    have peer : Stepped hz state (.peer addr) _ := .peer addr raddr anyraddr hasraddr
    subst tdatEq
    unfold peerStored at peer
    cases server : state.tdat.isserver with
    | false => simpa [server] using peer
    | true => simpa [server] using peer
  have outcomes := storePeer_cases state.tdat addr
  unfold mpdccptunPeer
  generalize storePeer state.tdat addr = stored at outcomes
  obtain ⟨ret, tdat⟩ := stored
  simp only at outcomes ⊢
  split
  · exact .peerIgnored addr
  · split
    · exact .peerIgnored addr
    · rename_i nonneg
      rcases outcomes with negative | rfl | ⟨raddr, anyraddr, hasraddr, tdatEq⟩
      · exact absurd negative nonneg
      · split
        · exact .peerIgnored addr
        · rename_i haspeer
          have isSome : state.tdat.haspeer = true := by simpa using haspeer
          apply requested state.tdat.addr.raddr state.tdat.addr.anyraddr
            state.tdat.addr.hasraddr
          rw [← isSome]
      · have haspeer : tdat.haspeer = true := by rw [tdatEq]
        rw [if_neg (by simp [haspeer])]
        exact requested raddr anyraddr hasraddr tdatEq

theorem stepped_setqueue (hz : Nat) (state : ConnState)
    (txqlen qpolicy txqlenRet qpolicyRet : Int) :
    Stepped hz state (.setqueue txqlen qpolicy txqlenRet qpolicyRet)
      (mpdccptunSetqueue state txqlen qpolicy txqlenRet qpolicyRet).2 := by
  have stored : ∃ txQlen, storeTxqlen state.tdat txqlen =
      { state.tdat with txQlen := txQlen } := by
    unfold storeTxqlen
    split
    · exact ⟨_, rfl⟩
    · exact ⟨_, rfl⟩
  obtain ⟨txQlen, storedEq⟩ := stored
  have chosen {tdat : Mpdccptun}
      (chosen : setQueuePolicy (storeTxqlen state.tdat txqlen) qpolicy = some tdat) :
      ∃ policy xmitQueue, tdat =
        { state.tdat with txQlen := txQlen, qpolicy := policy, xmitQueue := xmitQueue } := by
    rw [storedEq] at chosen
    unfold setQueuePolicy at chosen
    split at chosen
    · obtain rfl := Option.some.inj chosen
      exact ⟨_, _, rfl⟩
    · split at chosen
      · obtain rfl := Option.some.inj chosen
        exact ⟨_, _, rfl⟩
      · split at chosen
        · obtain rfl := Option.some.inj chosen
          exact ⟨_, _, rfl⟩
        · contradiction
  unfold mpdccptunSetqueue
  split
  · exact .setqueue _ _ _ _ state.tdat.txQlen state.tdat.qpolicy state.tdat.xmitQueue
      state.nullDeref fun _ => rfl
  · split
    · rw [storedEq]
      exact .setqueue _ _ _ _ txQlen state.tdat.qpolicy state.tdat.xmitQueue state.nullDeref
        fun _ => rfl
    · rename_i tdat tdatEq
      obtain ⟨policy, xmitQueue, rfl⟩ := chosen tdatEq
      split
      · rename_i bound
        have faulted (absent : state.tdat.sock = none) (backed : Backed state) :
            true = state.nullDeref := by
          have present := backed bound
          simp [absent] at present
        have limited : ∃ limit, limitQueue
            { state with tdat := { state.tdat with
              txQlen := txQlen, qpolicy := policy, xmitQueue := xmitQueue } } txqlen =
            { state with tdat := { state.tdat with
              txQlen := txQlen, qpolicy := policy, xmitQueue := limit } } := by
          unfold limitQueue
          split
          · exact ⟨_, rfl⟩
          · exact ⟨_, rfl⟩
        obtain ⟨limit, limitEq⟩ := limited
        unfold setSocketQueue
        rw [limitEq]
        simp only
        split
        · rename_i absent
          exact .setqueue _ _ _ _ txQlen policy limit true (faulted absent.2)
        · split
          · exact .setqueue _ _ _ _ txQlen policy limit state.nullDeref fun _ => rfl
          · split
            · split
              · rename_i absent
                exact .setqueue _ _ _ _ txQlen policy limit true (faulted absent)
              · exact .setqueue _ _ _ _ txQlen policy limit state.nullDeref fun _ => rfl
            · split
              · exact .setqueue _ _ _ _ txQlen policy limit state.nullDeref fun _ => rfl
              · exact .setqueue _ _ _ _ txQlen policy limit state.nullDeref fun _ => rfl
      · exact .setqueue _ _ _ _ txQlen policy xmitQueue state.nullDeref fun _ => rfl

theorem stepped_subflowCreate (hz : Nat) {state : ConnState} {metaSock : SockId}
    (name : List UInt8) (krealloc : Bool) (running : state.tdat.tostop = false)
    (multipath : (state.sockets metaSock).multipath = true) (alive : Alive state metaSock) :
    Stepped hz state (.subflowCreate metaSock name krealloc)
      (tpSubflowReport
        (setSocket state metaSock
          { state.sockets metaSock with
            subflows := (state.sockets metaSock).subflows ++ [name] })
        .create metaSock name krealloc) := by
  unfold tpSubflowReport
  simp only [setSocket, Function.update_self]
  split
  · rename_i ignored
    have unheard : (state.sockets metaSock).userData = false := by
      simpa [running] using ignored
    exact .subflowCreate multipath alive (fun _ => rfl) (by simp [unheard])
  · rename_i notIgnored
    have heard : (state.sockets metaSock).userData = true := by
      simpa [running] using notIgnored
    by_cases room : state.tdat.numSubflow < state.tdat.bufszSubflow
    · simp only [room, if_true]
      exact .subflowCreate multipath alive (by simp [heard]) (fun _ _ => rfl)
    · simp only [room, if_false]
      by_cases grown : krealloc = true
      · rw [if_pos grown]
        exact .subflowCreate multipath alive (by simp [heard]) (fun _ _ => rfl)
      · rw [if_neg grown]
        exact .subflowCreate multipath alive (by simp [heard])
          (fun _ krealloc => absurd krealloc grown)

theorem stepped_subflowDestroy (hz : Nat) {state : ConnState} {metaSock : SockId}
    {name : List UInt8} (running : state.tdat.tostop = false)
    (living : name ∈ (state.sockets metaSock).subflows) (alive : Alive state metaSock) :
    Stepped hz state (.subflowDestroy metaSock name)
      (tpSubflowReport
        (setSocket state metaSock
          { state.sockets metaSock with
            subflows := (state.sockets metaSock).subflows.erase name })
        .destroy metaSock name true) := by
  have destroyed : Stepped hz state (.subflowDestroy metaSock name) _ :=
    .subflowDestroy living alive
  unfold tpSubflowReport setSocket
  cases heard : (state.sockets metaSock).userData with
  | false => simpa [heard] using destroyed
  | true => simpa [heard, running] using destroyed

theorem stepped_connTimer (hz : Nat) {state : ConnState} (jiffies : Nat)
    (armed : state.connTimer.isSome) :
    Stepped hz state (.connTimer jiffies) (connTimerHandler state jiffies) := by
  unfold connTimerHandler
  simp only
  split
  · rename_i single
    exact .connTimerIgnored armed (Or.inl (by simpa using single))
  · rename_i ismpdccp
    split
    · rename_i subflows
      exact .connTimerIgnored armed (Or.inr subflows)
    · rename_i empty
      exact .connTimer armed (by simpa using ismpdccp) (by omega)
        (goesDown_mpdccptunLinkdown _ jiffies)

/-- The transition function does nothing else. -/
theorem stepped_of_step {hz : Nat} {state next : ConnState} {label : Label}
    (running : state.tdat.tostop = false)
    (fresh : state.tdat.active ≠ some state.nextSock)
    (stepped : step hz state label = some next) : Stepped hz state label next := by
  cases label with
  | bind addr flags =>
      obtain rfl := Option.some.inj stepped
      exact stepped_bind hz state addr flags
  | peer addr =>
      obtain rfl := Option.some.inj stepped
      exact stepped_peer hz state addr
  | serverstart =>
      obtain rfl := Option.some.inj stepped
      unfold mpdccptunServerstart
      split
      · rename_i isconnected
        exact .serverstartIgnored (Or.inl isconnected)
      · rename_i unconnected
        split
        · rename_i isserver
          exact .serverstartIgnored (Or.inr isserver)
        · rename_i client
          exact .serverstart (by simpa using unconnected) (by simpa using client)
  | setqueue txqlen qpolicy txqlenRet qpolicyRet =>
      obtain rfl := Option.some.inj stepped
      exact stepped_setqueue hz state txqlen qpolicy txqlenRet qpolicyRet
  | connectHandler calls kernelConnect jiffies =>
      simp only [step] at stepped
      split at stepped
      · rename_i queued
        obtain rfl := Option.some.inj stepped
        have started : ({ state with connQueued := false } : ConnState).tdat.tostop = false :=
          running
        exact .connect queued
          (connects_mpdccptunElabConnect hz calls kernelConnect jiffies started)
      · contradiction
  | listenHandler calls kernelListen =>
      simp only [step] at stepped
      split at stepped
      · rename_i queued
        obtain rfl := Option.some.inj stepped
        have started : ({ state with listenQueued := false } : ConnState).tdat.tostop = false :=
          running
        exact .listen queued (listens_mpdccptunDoserverstart calls kernelListen started)
      · contradiction
  | acceptHandler kernelAccept =>
      simp only [step] at stepped
      split at stepped
      · rename_i queued
        obtain rfl := Option.some.inj stepped
        have started : ({ state with acceptQueued := false } : ConnState).tdat.active ≠
            some state.nextSock := fresh
        exact .accept queued (accepts_mpdccptunElabAccept kernelAccept started)
      · contradiction
  | tpListenReady sock =>
      simp only [step] at stepped
      split at stepped
      · rename_i ret _ listens
        split at stepped
        · rename_i enabled
          obtain rfl := Option.some.inj stepped
          unfold tpListenReady
          split
          · exact .listenReady listens enabled.1 enabled.2 (Or.inl rfl)
          · rename_i heard
            refine .listenReady listens enabled.1 enabled.2 (Or.inr ?_)
            simp only [Bool.or_eq_true, Bool.not_eq_true', not_or, Bool.not_eq_false] at heard
            exact heard.2
        · contradiction
      · contradiction
  | subflowCreate metaSock name krealloc =>
      simp only [step] at stepped
      split at stepped
      · rename_i enabled
        obtain rfl := Option.some.inj stepped
        exact stepped_subflowCreate hz name krealloc running enabled.1 enabled.2
      · contradiction
  | subflowDestroy metaSock name =>
      simp only [step] at stepped
      split at stepped
      · rename_i enabled
        obtain rfl := Option.some.inj stepped
        exact stepped_subflowDestroy hz running enabled.1 enabled.2
      · contradiction
  | allSubflowDown metaSock jiffies =>
      simp only [step] at stepped
      split at stepped
      · rename_i enabled
        split at stepped
        · rename_i ignored
          obtain rfl := Option.some.inj stepped
          exact .allSubflowDownIgnored (by simpa [running] using ignored)
        · rename_i heard
          obtain rfl := Option.some.inj stepped
          exact .allSubflowDown enabled.1 enabled.2 (by simpa [running] using heard)
            (goesDown_mpdccptunLinkdown state jiffies)
      · contradiction
  | connTimer jiffies =>
      simp only [step] at stepped
      split at stepped
      · contradiction
      · rename_i time timerEq
        obtain rfl := Option.some.inj stepped
        exact stepped_connTimer hz jiffies (by simp [timerEq])

end Tunprox.ConnectionStep
