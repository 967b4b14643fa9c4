import Tunprox.ConnectionClose

/-!
# Binding the socket of a tunnel

What `mpdccptun_dobind` does for every result of the socket calls: it refuses, keeps the
socket it has, fails with no socket, or ends with a new one.
-/

namespace Tunprox.ConnectionBind

open Errno Queue Connection ConnectionClose

/-- One of the calls `mpdccptun_dobind` makes for a new socket fails. -/
def BindFails (tdat : Mpdccptun) (calls : BindCalls) : Prop :=
  calls.sockCreateKern < 0 ∨
    (tdat.ismpdccp = true ∧
      (isMpdccpLink tdat calls.mpdccpon = false ∨ calls.multipath < 0)) ∨
    calls.txqlen < 0 ∨ calls.qpolicy < 0 ∨ calls.kernelBind < 0

instance (tdat : Mpdccptun) (calls : BindCalls) : Decidable (BindFails tdat calls) :=
  inferInstanceAs (Decidable (_ ∨ _))

/-- `mpdccptun_dobind` closes the old socket and asks for a new one. -/
def Rebinds (tdat : Mpdccptun) : Prop :=
  tdat.tostop = false ∧
    ((!tdat.addr.bound || tdat.addr.anylport) && tdat.isserver) = false ∧
    tdat.bound = true ∧ tdat.rebind = true

instance (tdat : Mpdccptun) : Decidable (Rebinds tdat) :=
  inferInstanceAs (Decidable (_ ∧ _))

/-- `mpdccptun_dobind` refuses to bind a server without a port. -/
def PortRefused (tdat : Mpdccptun) : Prop :=
  ((!tdat.addr.bound || tdat.addr.anylport) && tdat.isserver) = true

instance (tdat : Mpdccptun) : Decidable (PortRefused tdat) :=
  inferInstanceAs (Decidable (_ = _))

/-- The state in which `mpdccptun_dobind` asks for a new socket. -/
inductive Opens (state : ConnState) : ConnState → Prop where
  | unbound (running : state.tdat.tostop = false) (port : ¬ PortRefused state.tdat)
      (unbound : state.tdat.bound = false) : Opens state state
  | rebinds (rebinds : Rebinds state.tdat) : Opens state (mpdccptunClosesk state)

/-- The new socket is not there, or it is closed again. -/
inductive BindFailed (base : ConnState) : ConnState → Prop where
  | refused : BindFailed base base
  | closed (ismpdccp multipath : Bool) (xmitQueue : TpQueue SkBuff) :
      BindFailed base
        { base with
          tdat := { base.tdat with
            sock := none
            ismpdccp := ismpdccp
            xmitQueue := xmitQueue }
          sockets := Function.update base.sockets base.nextSock
            { socketNew with multipath := multipath }
          nextSock := base.nextSock + 1
          released := base.released ++ [base.nextSock] }

/-- The tunnel with its new socket. -/
def boundState (base : ConnState) : ConnState :=
  { base with
    tdat := { base.tdat with
      sock := some base.nextSock
      bound := true
      xmitQueue := tpqSetMaxlen base.tdat.xmitQueue base.tdat.txQlen }
    sockets := Function.update base.sockets base.nextSock
      { socketNew with
        userData := true
        multipath := base.tdat.ismpdccp
        laddr := some base.tdat.addr.laddr }
    nextSock := base.nextSock + 1 }

/-- Everything `mpdccptun_dobind` can do. -/
inductive Dobind (state : ConnState) (calls : BindCalls) : Int × ConnState → Prop where
  | stopped (stopped : state.tdat.tostop = true) : Dobind state calls (0, state)
  | refused (refused : PortRefused state.tdat) : Dobind state calls (-ENOTCONN, state)
  | kept (running : state.tdat.tostop = false) (port : ¬ PortRefused state.tdat)
      (bound : state.tdat.bound = true) (kept : state.tdat.rebind = false) :
      Dobind state calls (0, state)
  | failed {base next : ConnState} {ret : Int} (opens : Opens state base)
      (fails : BindFails state.tdat calls) (failed : BindFailed base next)
      (negative : ret < 0) : Dobind state calls (ret, next)
  | bound {base : ConnState} (opens : Opens state base)
      (works : ¬ BindFails state.tdat calls) : Dobind state calls (0, boundState base)

/-- The new socket before it is bound. -/
def openedState (base : ConnState) (multipath : Bool) : ConnState :=
  { base with
    tdat := { base.tdat with sock := some base.nextSock }
    sockets := Function.update base.sockets base.nextSock
      { socketNew with multipath := multipath }
    nextSock := base.nextSock + 1 }

theorem bindFailed_mycloseSock (base : ConnState) (ismpdccp multipath : Bool)
    (xmitQueue : TpQueue SkBuff) :
    BindFailed base (mycloseSock
      { openedState base multipath with
        tdat := { (openedState base multipath).tdat with
          ismpdccp := ismpdccp
          xmitQueue := xmitQueue } }) := by
  have closed : BindFailed base _ := .closed ismpdccp multipath xmitQueue
  rw [mycloseSock, myclose_eq]
  simpa [openedState, subflowsLeft, emptied, socketNew] using closed

theorem bindQueueOptions_cases (base : ConnState) (calls : BindCalls) :
    ((calls.txqlen < 0 ∨ calls.qpolicy < 0 ∨ calls.kernelBind < 0) ∧
        (bindQueueOptions (openedState base base.tdat.ismpdccp) base.nextSock calls).1 < 0 ∧
        BindFailed base
          (bindQueueOptions (openedState base base.tdat.ismpdccp) base.nextSock calls).2) ∨
      (¬ (calls.txqlen < 0 ∨ calls.qpolicy < 0 ∨ calls.kernelBind < 0) ∧
        bindQueueOptions (openedState base base.tdat.ismpdccp) base.nextSock calls =
          (0, boundState base)) := by
  have closed := bindFailed_mycloseSock base base.tdat.ismpdccp base.tdat.ismpdccp
    (tpqSetMaxlen base.tdat.xmitQueue base.tdat.txQlen)
  unfold bindQueueOptions
  by_cases txqlen : calls.txqlen < 0
  · left
    simp only [txqlen, true_or, if_true, true_and]
    exact closed
  by_cases qpolicy : calls.qpolicy < 0
  · left
    simp only [txqlen, qpolicy, true_or, or_true, if_true, if_false, true_and]
    exact closed
  by_cases kernelBind : calls.kernelBind < 0
  · left
    simp only [txqlen, qpolicy, kernelBind, or_true, if_true, if_false, true_and]
    exact closed
  · right
    refine ⟨by simp [txqlen, qpolicy, kernelBind], ?_⟩
    simp [txqlen, qpolicy, kernelBind, tpSetTdat, setSocket, openedState, boundState]

/-- Everything `mpdccptun_dobind` can do from the creation of the socket on. -/
theorem bindNewSocket_cases (base : ConnState) (calls : BindCalls) :
    (BindFails base.tdat calls ∧ (bindNewSocket base calls).1 < 0 ∧
        BindFailed base (bindNewSocket base calls).2) ∨
      (¬ BindFails base.tdat calls ∧ bindNewSocket base calls = (0, boundState base)) := by
  by_cases create : calls.sockCreateKern < 0
  · have refused : bindNewSocket base calls = (calls.sockCreateKern, base) := by
      simp [bindNewSocket, create]
    rw [refused]
    exact Or.inl ⟨Or.inl create, create, BindFailed.refused⟩
  have created : sockCreated base = openedState base false := rfl
  by_cases ismpdccp : base.tdat.ismpdccp = true
  · by_cases link : isMpdccpLink base.tdat calls.mpdccpon = true
    · by_cases multipath : calls.multipath < 0
      · have closed : bindNewSocket base calls =
            (calls.multipath, mycloseSock (openedState base false)) := by
          have linked : isMpdccpLink (openedState base false).tdat calls.mpdccpon = true := link
          have isMp : (openedState base false).tdat.ismpdccp = true := ismpdccp
          simp [bindNewSocket, create, created, isMp, linked, multipath]
        rw [closed]
        refine Or.inl ⟨Or.inr (Or.inl ⟨ismpdccp, Or.inr multipath⟩), multipath, ?_⟩
        exact bindFailed_mycloseSock base base.tdat.ismpdccp false base.tdat.xmitQueue
      · have options : bindNewSocket base calls =
            bindQueueOptions (openedState base base.tdat.ismpdccp) base.nextSock calls := by
          have linked : isMpdccpLink (openedState base false).tdat calls.mpdccpon = true := link
          have isMp : (openedState base false).tdat.ismpdccp = true := ismpdccp
          simp only [bindNewSocket, create, if_false, created, isMp, linked, if_true, multipath]
          rw [ismpdccp]
          simp [openedState, setSocket]
        have failsIff : BindFails base.tdat calls ↔
            calls.txqlen < 0 ∨ calls.qpolicy < 0 ∨ calls.kernelBind < 0 := by
          simp [BindFails, create, ismpdccp, link, multipath]
        rw [options, failsIff]
        exact bindQueueOptions_cases base calls
    · have closed : bindNewSocket base calls =
          (-EPROTONOSUPPORT, mycloseSock { openedState base false with
            tdat := { (openedState base false).tdat with ismpdccp := false } }) := by
        have notLink : isMpdccpLink base.tdat calls.mpdccpon = false := by simpa using link
        have unlinked : isMpdccpLink (openedState base false).tdat calls.mpdccpon = false :=
          notLink
        have isMp : (openedState base false).tdat.ismpdccp = true := ismpdccp
        simp [bindNewSocket, create, created, isMp, unlinked]
      have negative : -EPROTONOSUPPORT < 0 := by decide
      rw [closed]
      refine Or.inl ⟨Or.inr (Or.inl ⟨ismpdccp, Or.inl (by simpa using link)⟩), negative, ?_⟩
      exact bindFailed_mycloseSock base false false base.tdat.xmitQueue
  · have options : bindNewSocket base calls =
        bindQueueOptions (openedState base base.tdat.ismpdccp) base.nextSock calls := by
      have single : base.tdat.ismpdccp = false := by simpa using ismpdccp
      have isSp : (openedState base false).tdat.ismpdccp = false := single
      rw [single]
      simp [bindNewSocket, create, created, isSp]
    have failsIff : BindFails base.tdat calls ↔
        calls.txqlen < 0 ∨ calls.qpolicy < 0 ∨ calls.kernelBind < 0 := by
      simp [BindFails, create, ismpdccp]
    rw [options, failsIff]
    exact bindQueueOptions_cases base calls

theorem dobind_of_opens {state base : ConnState} {calls : BindCalls} (opens : Opens state base)
    (sameFails : BindFails base.tdat calls ↔ BindFails state.tdat calls) :
    Dobind state calls (bindNewSocket base calls) := by
  rcases bindNewSocket_cases base calls with ⟨fails, negative, failed⟩ | ⟨works, created⟩
  · exact .failed opens (sameFails.mp fails) failed negative
  · rw [created]
    exact .bound opens fun fails => works (sameFails.mpr fails)

theorem dobind (state : ConnState) (calls : BindCalls) :
    Dobind state calls (mpdccptunDobind state calls) := by
  unfold mpdccptunDobind
  split
  · rename_i stopped
    exact .stopped stopped
  · rename_i running
    split
    · rename_i refused
      exact .refused refused
    · rename_i port
      have isRunning : state.tdat.tostop = false := by simpa using running
      split
      · rename_i bound
        split
        · rename_i rebind
          have rebinds : Rebinds state.tdat :=
            ⟨isRunning, by simpa using port, bound, rebind⟩
          apply dobind_of_opens (.rebinds rebinds)
          simp only [mpdccptunClosesk_eq, BindFails, isMpdccpLink]
        · rename_i keeps
          exact .kept isRunning port bound (by simpa using keeps)
      · rename_i unbound
        exact dobind_of_opens (.unbound isRunning port (by simpa using unbound)) Iff.rfl

theorem mpdccptunDobind_of_opens {state base : ConnState} (opens : Opens state base)
    (calls : BindCalls) : mpdccptunDobind state calls = bindNewSocket base calls := by
  unfold mpdccptunDobind
  cases opens with
  | unbound running port unbound =>
      unfold PortRefused at port
      rw [if_neg (by simp [running]), if_neg port, if_neg (by simp [unbound])]
  | rebinds rebinds =>
      obtain ⟨running, port, bound, rebind⟩ := rebinds
      rw [if_neg (by simp [running]), if_neg (by simp [port]), if_pos bound, if_pos rebind]

theorem Dobind.ret_eq {state bound : ConnState} {calls : BindCalls} {ret : Int}
    (binds : Dobind state calls (ret, bound)) (nonneg : 0 ≤ ret) : ret = 0 := by
  cases binds with
  | stopped => rfl
  | refused => exact absurd nonneg (by decide)
  | kept => rfl
  | failed _ _ _ negative => omega
  | bound => rfl

/-- What `mpdccptun_dobind` leaves alone. -/
structure BindFrame (state bound : ConnState) : Prop where
  tostop : bound.tdat.tostop = state.tdat.tostop
  isserver : bound.tdat.isserver = state.tdat.isserver
  haspeer : bound.tdat.haspeer = state.tdat.haspeer
  wasconnected : bound.tdat.wasconnected = state.tdat.wasconnected
  lastUnconnect : bound.tdat.lastUnconnect = state.tdat.lastUnconnect
  subflow : bound.tdat.subflow = state.tdat.subflow
  addr : bound.tdat.addr = state.tdat.addr
  connQueued : bound.connQueued = state.connQueued
  listenQueued : bound.listenQueued = state.listenQueued
  acceptQueued : bound.acceptQueued = state.acceptQueued
  nullDeref : bound.nullDeref = state.nullDeref

theorem BindFrame.refl (state : ConnState) : BindFrame state state :=
  ⟨rfl, rfl, rfl, rfl, rfl, rfl, rfl, rfl, rfl, rfl, rfl⟩

theorem BindFrame.trans {first second third : ConnState} (left : BindFrame first second)
    (right : BindFrame second third) : BindFrame first third where
  tostop := right.tostop.trans left.tostop
  isserver := right.isserver.trans left.isserver
  haspeer := right.haspeer.trans left.haspeer
  wasconnected := right.wasconnected.trans left.wasconnected
  lastUnconnect := right.lastUnconnect.trans left.lastUnconnect
  subflow := right.subflow.trans left.subflow
  addr := right.addr.trans left.addr
  connQueued := right.connQueued.trans left.connQueued
  listenQueued := right.listenQueued.trans left.listenQueued
  acceptQueued := right.acceptQueued.trans left.acceptQueued
  nullDeref := right.nullDeref.trans left.nullDeref

theorem Opens.frame {state base : ConnState} (opens : Opens state base) :
    BindFrame state base := by
  cases opens with
  | unbound => exact BindFrame.refl state
  | rebinds =>
      rw [mpdccptunClosesk_eq]
      exact ⟨rfl, rfl, rfl, rfl, rfl, rfl, rfl, rfl, rfl, rfl, rfl⟩

theorem BindFailed.frame {base next : ConnState} (failed : BindFailed base next) :
    BindFrame base next := by
  cases failed with
  | refused => exact BindFrame.refl base
  | closed => exact ⟨rfl, rfl, rfl, rfl, rfl, rfl, rfl, rfl, rfl, rfl, rfl⟩

theorem Dobind.frame {state bound : ConnState} {calls : BindCalls} {ret : Int}
    (binds : Dobind state calls (ret, bound)) : BindFrame state bound := by
  cases binds with
  | stopped | refused | kept => exact BindFrame.refl state
  | failed opens _ failed _ => exact opens.frame.trans failed.frame
  | bound opens _ =>
      exact opens.frame.trans ⟨rfl, rfl, rfl, rfl, rfl, rfl, rfl, rfl, rfl, rfl, rfl⟩

theorem Opens.bound_eq {state base : ConnState} (opens : Opens state base) :
    base.tdat.bound = false := by
  cases opens with
  | unbound _ _ unbound => exact unbound
  | rebinds => rw [mpdccptunClosesk_eq]

theorem BindFailed.bound_eq {base next : ConnState} (failed : BindFailed base next) :
    next.tdat.bound = base.tdat.bound := by
  cases failed with
  | refused | closed => rfl

theorem Dobind.bound_eq {state bound : ConnState} {calls : BindCalls}
    (binds : Dobind state calls (0, bound)) (running : state.tdat.tostop = false) :
    bound.tdat.bound = true := by
  cases binds with
  | stopped stopped => simp [running] at stopped
  | kept _ _ bound _ => exact bound
  | failed _ _ _ negative => omega
  | bound => rfl

/-- `mpdccptun_dobind` succeeds and the tunnel has a socket afterwards. -/
def BindsSocket (tdat : Mpdccptun) (calls : BindCalls) : Prop :=
  ¬ PortRefused tdat ∧
    if tdat.bound = true ∧ tdat.rebind = false then tdat.sock.isSome = true
    else ¬ BindFails tdat calls

instance (tdat : Mpdccptun) (calls : BindCalls) : Decidable (BindsSocket tdat calls) :=
  inferInstanceAs (Decidable (_ ∧ _))

theorem Dobind.bindsSocket {state bound : ConnState} {calls : BindCalls} {sock : SockId}
    (binds : Dobind state calls (0, bound)) (running : state.tdat.tostop = false)
    (sockEq : bound.tdat.sock = some sock) : BindsSocket state.tdat calls := by
  cases binds with
  | stopped stopped => simp [running] at stopped
  | kept _ port isBound kept => exact ⟨port, by simp [isBound, kept, sockEq]⟩
  | failed _ _ _ negative => omega
  | bound opens works =>
      cases opens with
      | unbound _ port unbound => exact ⟨port, by simp [unbound, works]⟩
      | rebinds rebinds =>
          obtain ⟨-, port, -, rebind⟩ := rebinds
          exact ⟨by simp [PortRefused, port], by simp [rebind, works]⟩

end Tunprox.ConnectionBind
