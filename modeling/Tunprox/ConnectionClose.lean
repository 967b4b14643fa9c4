import Tunprox.Connection

/-!
# What closing a socket does

`_myclose`, `mpdccptun_closesk` and `mpdccptun_close_listen`, written as the state they
lead to.  Closing a socket empties it, and its subflows are reported unless the socket
was detached from the tunnel before.
-/

namespace Tunprox.ConnectionClose

open Connection

/-- The subflows of the tunnel after those of a closed socket were reported. -/
def subflowsLeft (state : ConnState) : Option SockId → List (List UInt8)
  | none => state.tdat.subflow
  | some sock =>
      if (state.sockets sock).userData && !state.tdat.tostop then
        (state.sockets sock).subflows.foldl
          (fun names name => names.eraseP (kernelStrcaseeq name)) state.tdat.subflow
      else state.tdat.subflow

/-- The sockets after one of them was closed. -/
def emptied (sockets : SockId → Socket) : Option SockId → SockId → Socket
  | none => sockets
  | some sock => Function.update sockets sock { sockets sock with subflows := [] }

/-- The sockets after one of them was detached from the tunnel and closed. -/
def detached (sockets : SockId → Socket) : Option SockId → SockId → Socket
  | none => sockets
  | some sock =>
      Function.update sockets sock { sockets sock with userData := false, subflows := [] }

/-- The sockets after one of them was shut down. -/
def silenced (sockets : SockId → Socket) : Option SockId → SockId → Socket
  | none => sockets
  | some sock => Function.update sockets sock { sockets sock with listenRet := none }

theorem member_update {α : Type*} (member : Socket → α) {sockets : SockId → Socket}
    {sock : SockId} {socket : Socket} (same : member socket = member (sockets sock))
    (other : SockId) :
    member (Function.update sockets sock socket other) = member (sockets other) := by
  by_cases changed : other = sock
  · subst changed
    simpa using same
  · simp [changed]

theorem member_emptied {α : Type*} (member : Socket → α)
    (same : ∀ socket, member { socket with subflows := [] } = member socket)
    (sockets : SockId → Socket) (closed : Option SockId) (other : SockId) :
    member (emptied sockets closed other) = member (sockets other) := by
  cases closed with
  | none => rfl
  | some closed => exact member_update member (same (sockets closed)) other

theorem member_detached {α : Type*} (member : Socket → α)
    (same : ∀ socket, member { socket with userData := false, subflows := [] } =
      member socket)
    (sockets : SockId → Socket) (closed : Option SockId) (other : SockId) :
    member (detached sockets closed other) = member (sockets other) := by
  cases closed with
  | none => rfl
  | some closed => exact member_update member (same (sockets closed)) other

theorem detached_of_ne (sockets : SockId → Socket) {closed : Option SockId} {sock : SockId}
    (different : closed ≠ some sock) : detached sockets closed sock = sockets sock := by
  cases closed with
  | none => rfl
  | some closed =>
      have distinct : sock ≠ closed := by
        rintro rfl
        exact different rfl
      simp [detached, distinct]

theorem foldl_tpSubflowReport_eq (state : ConnState) (sock : SockId)
    (names : List (List UInt8)) :
    names.foldl (fun state name => tpSubflowReport state .destroy sock name true) state =
      { state with
        tdat := { state.tdat with
          subflow :=
            if (state.sockets sock).userData && !state.tdat.tostop then
              names.foldl (fun names name => names.eraseP (kernelStrcaseeq name))
                state.tdat.subflow
            else state.tdat.subflow } } := by
  induction names generalizing state with
  | nil => simp
  | cons name names ih =>
      rw [List.foldl_cons, ih]
      by_cases heard : ((state.sockets sock).userData && !state.tdat.tostop) = true
      · have report : tpSubflowReport state .destroy sock name true =
            { state with
              tdat := { state.tdat with
                subflow := state.tdat.subflow.eraseP (kernelStrcaseeq name) } } := by
          unfold tpSubflowReport
          simp only [Bool.and_eq_true, Bool.not_eq_true'] at heard
          simp [heard.1, heard.2]
        simp [report, heard]
      · have report : tpSubflowReport state .destroy sock name true = state := by
          unfold tpSubflowReport
          simp only [Bool.and_eq_true, Bool.not_eq_true', not_and, Bool.not_eq_false] at heard
          by_cases userData : (state.sockets sock).userData = true
          · simp [heard userData]
          · simp [userData]
        simp [report, heard]

theorem myclose_eq (state : ConnState) (sock : Option SockId) :
    myclose state sock =
      { state with
        tdat := { state.tdat with subflow := subflowsLeft state sock }
        sockets := emptied state.sockets sock
        released := state.released ++ sock.toList } := by
  cases sock with
  | none => simp [myclose, subflowsLeft, emptied]
  | some sock =>
      simp only [myclose, foldl_tpSubflowReport_eq, setSocket, subflowsLeft, emptied,
        Option.toList_some]

theorem mpdccptunClosesk_eq (state : ConnState) :
    mpdccptunClosesk state =
      { state with
        tdat := { state.tdat with
          active := none
          sock := none
          bound := false
          rebind := false
          listening := false
          isconnected := false }
        sockets := detached (detached state.sockets state.tdat.active) state.tdat.sock
        released := state.released ++ state.tdat.active.toList ++ state.tdat.sock.toList } := by
  unfold mpdccptunClosesk
  simp only [myclose_eq]
  rcases state.tdat.active with _ | active
  · rcases state.tdat.sock with _ | sock
    · simp [tpUnsetTdat, subflowsLeft, emptied, detached]
    · simp [tpUnsetTdat, setSocket, subflowsLeft, emptied, detached]
  · rcases state.tdat.sock with _ | sock
    · simp [tpUnsetTdat, setSocket, subflowsLeft, emptied, detached]
    · by_cases same : active = sock
      · subst same
        simp [tpUnsetTdat, setSocket, subflowsLeft, emptied, detached]
      · have swapped : sock ≠ active := Ne.symm same
        simp [tpUnsetTdat, setSocket, subflowsLeft, emptied, detached, swapped,
          Function.update_comm same]

theorem mpdccptunCloseListen_eq (state : ConnState) :
    mpdccptunCloseListen state =
      { state with
        tdat := { state.tdat with
          active := none
          listening := false
          isconnected := false }
        sockets := silenced (detached state.sockets state.tdat.active) state.tdat.sock
        released := state.released ++ state.tdat.active.toList } := by
  unfold mpdccptunCloseListen
  simp only [myclose_eq]
  rcases state.tdat.active with _ | active
  · cases sockEq : state.tdat.sock <;>
      simp [kernelSockShutdown, tpUnsetTdat, setSocket, subflowsLeft, emptied, detached,
        silenced, sockEq]
  · cases sockEq : state.tdat.sock <;>
      simp [kernelSockShutdown, tpUnsetTdat, setSocket, subflowsLeft, emptied, detached,
        silenced, sockEq]

end Tunprox.ConnectionClose
