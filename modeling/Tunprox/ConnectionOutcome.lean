import Tunprox.ConnectionBind

/-!
# What the workers of a tunnel do

The connect, listen and accept workers and a link-down, written as the states they lead
to.  Every invariant of the following files is a case analysis over these outcomes.
-/

namespace Tunprox.ConnectionOutcome

open Connection ConnectionClose ConnectionBind

/-- The socket `kernel_accept` returns, once it is the active one. -/
def acceptedSocket (state : ConnState) (listenSock : SockId) : Socket :=
  { socketNew with
    userData := true
    dataReady := .tpSrvDataReady
    multipath := (state.sockets listenSock).multipath }

theorem mpdccptunElabAccept_eq {state : ConnState} {listenSock : SockId} {kernelAccept : Int}
    (fresh : state.tdat.active ≠ some state.nextSock)
    (sockEq : state.tdat.sock = some listenSock) (accepted : 0 ≤ kernelAccept) :
    (mpdccptunElabAccept state kernelAccept).2 =
      { state with
        tdat := { state.tdat with
          active := some state.nextSock
          isconnected := true
          wasconnected := true }
        sockets := Function.update (detached state.sockets state.tdat.active) state.nextSock
          (acceptedSocket state listenSock)
        nextSock := state.nextSock + 1
        released := state.released ++ state.tdat.active.toList } := by
  unfold mpdccptunElabAccept
  simp only [sockEq, Int.not_lt.mpr accepted, if_false, myclose_eq, becomeActive]
  cases activeEq : state.tdat.active with
  | none =>
      simp [tpUnsetTdat, tpSetTdat, setSocket, subflowsLeft, emptied, detached, acceptedSocket,
        sockEq]
  | some active =>
      have different : active ≠ state.nextSock := by
        rintro rfl
        exact fresh activeEq
      simp only [tpUnsetTdat, tpSetTdat, setSocket, subflowsLeft, emptied, detached,
        acceptedSocket, Function.update_self, Function.update_of_ne different,
        Function.update_idem, Bool.false_and, Bool.false_eq_true, if_false,
        Option.toList_some, sockEq]
      rw [Function.update_comm different.symm, Function.update_idem]

theorem mpdccptunElabAccept_cases (state : ConnState) (kernelAccept : Int) :
    (state.tdat.sock = none ∧
        (mpdccptunElabAccept state kernelAccept).2 = { state with nullDeref := true }) ∨
      (kernelAccept < 0 ∧ (mpdccptunElabAccept state kernelAccept).2 = state) ∨
      ∃ listenSock, state.tdat.sock = some listenSock ∧ 0 ≤ kernelAccept := by
  unfold mpdccptunElabAccept
  cases sockEq : state.tdat.sock with
  | none => exact Or.inl ⟨rfl, rfl⟩
  | some listenSock =>
      right
      by_cases refused : kernelAccept < 0
      · exact Or.inl ⟨refused, by simp [refused]⟩
      · exact Or.inr ⟨listenSock, rfl, Int.not_lt.mp refused⟩

theorem mpdccptunLinkdown_of_listening {state : ConnState} (jiffies : Nat)
    (listening : state.tdat.listening = true) :
    mpdccptunLinkdown state jiffies =
      { state with
        tdat := { state.tdat with
          active := none
          subflow := subflowsLeft state state.tdat.active }
        sockets := emptied state.sockets state.tdat.active
        released := state.released ++ state.tdat.active.toList } := by
  unfold mpdccptunLinkdown
  rw [if_pos listening, myclose_eq]
  cases state.tdat.active <;> rfl

theorem mpdccptunLinkdown_of_client {state : ConnState} (jiffies : Nat)
    (client : state.tdat.listening = false) :
    mpdccptunLinkdown state jiffies =
      { state with
        tdat := { state.tdat with
          lastUnconnect := jiffies
          isconnected := false
          sock := none
          subflow := subflowsLeft state state.tdat.sock }
        sockets := emptied state.sockets state.tdat.sock
        released := state.released ++ state.tdat.sock.toList } := by
  unfold mpdccptunLinkdown
  rw [if_neg (by simp [client]), mycloseSock, myclose_eq]
  cases state.tdat.sock <;> rfl

/-- Everything `mpdccptun_elab_connect` can do after the timer is stopped. -/
inductive Connects (hz : Nat) (state : ConnState) (calls : BindCalls) (kernelConnect : Int)
    (jiffies : Nat) : ConnState → Prop where
  | unbound {ret : Int} {bound : ConnState} (binds : Dobind state calls (ret, bound))
      (negative : ret < 0) : Connects hz state calls kernelConnect jiffies bound
  | unpeered {bound : ConnState} (binds : Dobind state calls (0, bound))
      (unpeered : bound.tdat.haspeer = false) :
      Connects hz state calls kernelConnect jiffies bound
  | faulted {bound : ConnState} (binds : Dobind state calls (0, bound))
      (absent : bound.tdat.sock = none) :
      Connects hz state calls kernelConnect jiffies { bound with nullDeref := true }
  | refused {bound : ConnState} {sock : SockId} (binds : Dobind state calls (0, bound))
      (haspeer : bound.tdat.haspeer = true) (sockEq : bound.tdat.sock = some sock)
      (refused : kernelConnect < 0) :
      Connects hz state calls kernelConnect jiffies
        { bound with
          sockets := Function.update bound.sockets sock
            { bound.sockets sock with dataReady := .tpCliDataReady } }
  | connected {bound : ConnState} {sock : SockId} (binds : Dobind state calls (0, bound))
      (haspeer : bound.tdat.haspeer = true) (sockEq : bound.tdat.sock = some sock)
      (accepted : 0 ≤ kernelConnect) :
      Connects hz state calls kernelConnect jiffies
        { bound with
          tdat := { bound.tdat with isconnected := true, wasconnected := true }
          sockets := Function.update bound.sockets sock
            { bound.sockets sock with
              dataReady := .tpCliDataReady
              raddr := some bound.tdat.addr.raddr }
          connTimer :=
            if bound.tdat.ismpdccp then some ((jiffies + 5 * hz) % 2 ^ 64) else none }

theorem connects_mpdccptunElabConnect (hz : Nat) {state : ConnState} (calls : BindCalls)
    (kernelConnect : Int) (jiffies : Nat) (running : state.tdat.tostop = false) :
    Connects hz { state with connTimer := none } calls kernelConnect jiffies
      (mpdccptunElabConnect hz state calls kernelConnect jiffies).2 := by
  have binds := dobind { state with connTimer := none } calls
  unfold mpdccptunElabConnect
  generalize mpdccptunDobind { state with connTimer := none } calls = result at binds
  obtain ⟨ret, bound⟩ := result
  have boundRunning : bound.tdat.tostop = false := binds.frame.tostop.trans running
  by_cases negative : ret < 0
  · simp only [negative, if_true]
    exact .unbound binds negative
  obtain rfl := binds.ret_eq (Int.not_lt.mp negative)
  cases haspeer : bound.tdat.haspeer with
  | false =>
      simp only [boundRunning, haspeer, Bool.false_eq_true, if_false, Int.lt_irrefl,
        Bool.not_false, if_true]
      exact .unpeered binds haspeer
  | true =>
      cases sockEq : bound.tdat.sock with
      | none =>
          simp only [boundRunning, haspeer, sockEq, Bool.false_eq_true, if_false,
            Int.lt_irrefl, Bool.not_true]
          exact .faulted binds sockEq
      | some sock =>
          simp only [boundRunning, haspeer, sockEq, Bool.false_eq_true, if_false,
            Int.lt_irrefl, Bool.not_true, connectSocket]
          by_cases refused : kernelConnect < 0
          · simp only [refused, if_true]
            exact .refused binds haspeer sockEq refused
          · simp only [refused, if_false, setSocket, Function.update_self,
              Function.update_idem]
            exact .connected binds haspeer sockEq (Int.not_lt.mp refused)

/-- Everything `mpdccptun_doserverstart` can do. -/
inductive Listens (state : ConnState) (calls : BindCalls) (kernelListen : Int) :
    ConnState → Prop where
  | client (client : state.tdat.isserver = false) : Listens state calls kernelListen state
  | unbound {ret : Int} {bound : ConnState} (server : state.tdat.isserver = true)
      (binds : Dobind state calls (ret, bound)) (negative : ret < 0) :
      Listens state calls kernelListen bound
  | absent {bound : ConnState} (server : state.tdat.isserver = true)
      (binds : Dobind state calls (0, bound)) (absent : bound.tdat.sock = none) :
      Listens state calls kernelListen bound
  | listened {bound : ConnState} {sock : SockId} (server : state.tdat.isserver = true)
      (binds : Dobind state calls (0, bound)) (sockEq : bound.tdat.sock = some sock)
      (idle : bound.tdat.listening = false) :
      Listens state calls kernelListen
        { bound with
          tdat := { bound.tdat with listening := true }
          sockets := Function.update bound.sockets sock
            { bound.sockets sock with
              dataReady := .tpListenReady
              listenRet := some kernelListen } }
  | again {bound : ConnState} {sock : SockId} (server : state.tdat.isserver = true)
      (binds : Dobind state calls (0, bound)) (sockEq : bound.tdat.sock = some sock)
      (listening : bound.tdat.listening = true) :
      Listens state calls kernelListen
        { bound with
          tdat := { bound.tdat with
            active := none
            listening := true
            isconnected := false }
          sockets := Function.update (detached bound.sockets bound.tdat.active) sock
            { detached bound.sockets bound.tdat.active sock with
              dataReady := .tpListenReady
              listenRet := some kernelListen }
          released := bound.released ++ bound.tdat.active.toList }

theorem listens_mpdccptunDoserverstart {state : ConnState} (calls : BindCalls)
    (kernelListen : Int) (running : state.tdat.tostop = false) :
    Listens state calls kernelListen
      (mpdccptunDoserverstart state calls kernelListen).2 := by
  have binds := dobind state calls
  unfold mpdccptunDoserverstart
  generalize mpdccptunDobind state calls = result at binds
  obtain ⟨ret, bound⟩ := result
  have boundRunning : bound.tdat.tostop = false := binds.frame.tostop.trans running
  cases server : state.tdat.isserver with
  | false =>
      simp only [Bool.not_false, if_true]
      exact .client server
  | true =>
      by_cases negative : ret < 0
      · simp only [Bool.not_true, Bool.false_eq_true, negative, if_true, if_false]
        exact .unbound server binds negative
      obtain rfl := binds.ret_eq (Int.not_lt.mp negative)
      cases sockEq : bound.tdat.sock with
      | none =>
          simp only [Bool.not_true, Bool.false_eq_true, if_false, Int.lt_irrefl, sockEq]
          exact .absent server binds sockEq
      | some sock =>
          cases listening : bound.tdat.listening with
          | false =>
              have listened : Listens state calls kernelListen _ :=
                .listened server binds sockEq listening
              simpa only [Bool.not_true, Bool.false_eq_true, if_false, Int.lt_irrefl, sockEq,
                listening, startListening, boundRunning, setSocket] using listened
          | true =>
              have again : Listens state calls kernelListen _ :=
                .again server binds sockEq listening
              simpa only [Bool.not_true, Bool.false_eq_true, if_false, Int.lt_irrefl, sockEq,
                listening, if_true, mpdccptunCloseListen_eq, startListening, boundRunning,
                setSocket, silenced, Function.update_self, Function.update_idem] using again

end Tunprox.ConnectionOutcome
