import Mathlib.Logic.Function.Basic
import Tunprox.CString
import Tunprox.Mpdccptun

/-!
# The sockets of a tunnel

The functions of `ldt_mpdccp.c` that create, connect, close and use the
sockets of a tunnel.  The state is the tunnel with its sockets, its queued work
items and its timer; the results of the socket calls are arguments.  Reading
through a null `tdat->sock` sets `nullDeref`.
-/

namespace Tunprox.Connection

open Errno Queue

/-- The function in `sk_data_ready`. -/
inductive DataReady where
  | default
  | tpCliDataReady
  | tpSrvDataReady
  | tpListenReady
  deriving DecidableEq, Repr

/-- What the tunnel knows and does of a socket: `userData` tells whether
`sk_user_data` points to the tunnel, `listenRet` is the result of the last
`kernel_listen`, and `subflows` are the names of its living subflows. -/
structure Socket where
  userData : Bool
  dataReady : DataReady
  multipath : Bool
  laddr : Option TpAddr
  raddr : Option TpAddr
  listenRet : Option Int
  subflows : List (List UInt8)

def socketNew : Socket where
  userData := false
  dataReady := .default
  multipath := false
  laddr := none
  raddr := none
  listenRet := none
  subflows := []

structure ConnState where
  tdat : Mpdccptun
  sockets : SockId → Socket
  nextSock : SockId
  released : List SockId
  connQueued : Bool
  listenQueued : Bool
  acceptQueued : Bool
  connTimer : Option Nat
  nullDeref : Bool

def setSocket (state : ConnState) (sock : SockId) (socket : Socket) : ConnState :=
  { state with sockets := Function.update state.sockets sock socket }

def tpSetTdat (state : ConnState) (sock : SockId) : ConnState :=
  setSocket state sock { state.sockets sock with userData := true }

def tpUnsetTdat (state : ConnState) (sock : Option SockId) : ConnState :=
  match sock with
  | none => state
  | some sock => setSocket state sock { state.sockets sock with userData := false }

/-- `MPDCCP_EV_SUBFLOW_CREATE` and `MPDCCP_EV_SUBFLOW_DESTROY` -/
inductive SubflowAction where
  | create
  | destroy
  deriving DecidableEq, Repr

/-- `tp_subflow_report` for one subflow of the socket `metaSock`; `krealloc`
tells whether there is memory. -/
def tpSubflowReport (state : ConnState) (action : SubflowAction) (metaSock : SockId)
    (name : List UInt8) (krealloc : Bool) : ConnState :=
  if !(state.sockets metaSock).userData || state.tdat.tostop then state
  else
    match action with
    | .create =>
        if state.tdat.numSubflow < state.tdat.bufszSubflow then
          { state with
            tdat := { state.tdat with subflow := state.tdat.subflow ++ [name] } }
        else if krealloc then
          { state with
            tdat := { state.tdat with
              subflow := state.tdat.subflow ++ [name]
              bufszSubflow := state.tdat.bufszSubflow + 1 } }
        else state
    | .destroy =>
        { state with
          tdat := { state.tdat with
            subflow := state.tdat.subflow.eraseP (kernelStrcaseeq name) } }

/-- `_myclose`.  The subflows a socket still has are destroyed with it, and the
MP-DCCP layer reports each of them before the socket is gone. -/
def myclose (state : ConnState) (sock : Option SockId) : ConnState :=
  match sock with
  | none => state
  | some sock =>
      let reported := (state.sockets sock).subflows.foldl
        (fun state name => tpSubflowReport state .destroy sock name true) state
      { setSocket reported sock { reported.sockets sock with subflows := [] } with
        released := reported.released ++ [sock] }

/-- `mpdccptun_closesk` -/
def mpdccptunClosesk (state : ConnState) : ConnState :=
  let unset := tpUnsetTdat (tpUnsetTdat state state.tdat.active) state.tdat.sock
  let cleared :=
    { unset with
      tdat := { unset.tdat with
        active := none
        sock := none
        bound := false
        rebind := false
        listening := false
        isconnected := false } }
  myclose (myclose cleared state.tdat.active) state.tdat.sock

/-- `kernel_sock_shutdown`, which ends listening. -/
def kernelSockShutdown (state : ConnState) (sock : Option SockId) : ConnState :=
  match sock with
  | none => state
  | some sock => setSocket state sock { state.sockets sock with listenRet := none }

/-- `mpdccptun_close_listen` -/
def mpdccptunCloseListen (state : ConnState) : ConnState :=
  let unset := tpUnsetTdat state state.tdat.active
  let cleared :=
    { unset with
      tdat := { unset.tdat with
        active := none
        listening := false
        isconnected := false } }
  kernelSockShutdown (myclose cleared state.tdat.active) state.tdat.sock

/-- The results of the calls `mpdccptun_dobind` makes.  `mpdccpon` tells whether
the device that has the local IPv4 address carries `IFF_MPDCCPON`. -/
structure BindCalls where
  sockCreateKern : Int
  mpdccpon : Bool
  multipath : Int
  txqlen : Int
  qpolicy : Int
  kernelBind : Int

/-- `is_mpdccp_link` -/
def isMpdccpLink (tdat : Mpdccptun) (mpdccpon : Bool) : Bool :=
  tdat.addr.laddr.isIpv4 && mpdccpon

/-- `MYCLOSE (tdat, sock)` -/
def mycloseSock (state : ConnState) : ConnState :=
  myclose { state with tdat := { state.tdat with sock := none } } state.tdat.sock

/-- The new socket after `sock_create_kern` has succeeded. -/
def sockCreated (state : ConnState) : ConnState :=
  { setSocket state state.nextSock socketNew with
    tdat := { state.tdat with sock := some state.nextSock }
    nextSock := state.nextSock + 1 }

/-- `mpdccptun_dobind` from the queueing options on, with the socket `sock`. -/
def bindQueueOptions (state : ConnState) (sock : SockId) (calls : BindCalls) :
    Int × ConnState :=
  let limited :=
    { state with
      tdat := { state.tdat with
        xmitQueue := tpqSetMaxlen state.tdat.xmitQueue state.tdat.txQlen } }
  if calls.txqlen < 0 then (calls.txqlen, mycloseSock limited)
  else if calls.qpolicy < 0 then (calls.qpolicy, mycloseSock limited)
  else if calls.kernelBind < 0 then (calls.kernelBind, mycloseSock limited)
  else
    let bound := setSocket limited sock
      { limited.sockets sock with laddr := some state.tdat.addr.laddr }
    let owned := tpSetTdat bound sock
    (0, { owned with tdat := { owned.tdat with bound := true } })

/-- `mpdccptun_dobind` from the creation of the socket on. -/
def bindNewSocket (state : ConnState) (calls : BindCalls) : Int × ConnState :=
  if calls.sockCreateKern < 0 then (calls.sockCreateKern, state)
  else
    let sock := state.nextSock
    let created := sockCreated state
    if created.tdat.ismpdccp then
      if isMpdccpLink created.tdat calls.mpdccpon then
        if calls.multipath < 0 then (calls.multipath, mycloseSock created)
        else
          bindQueueOptions
            (setSocket created sock { created.sockets sock with multipath := true })
            sock calls
      else
        (-EPROTONOSUPPORT,
          mycloseSock { created with tdat := { created.tdat with ismpdccp := false } })
    else bindQueueOptions created sock calls

/-- `mpdccptun_dobind` -/
def mpdccptunDobind (state : ConnState) (calls : BindCalls) : Int × ConnState :=
  if state.tdat.tostop then (0, state)
  else if (!state.tdat.addr.bound || state.tdat.addr.anylport) && state.tdat.isserver then
    (-ENOTCONN, state)
  else if state.tdat.bound then
    if state.tdat.rebind then bindNewSocket (mpdccptunClosesk state) calls
    else (0, state)
  else bindNewSocket state calls

/-- `mpdccptun_bind` -/
def mpdccptunBind (state : ConnState) (addr : Option TpAddr) (flags : Nat) :
    Int × ConnState :=
  match addr with
  | none => (0, state)
  | some addr =>
      if state.tdat.tostop then (0, state)
      else
        match ldtTunaddrBind state.tdat.addr addr flags with
        | (ret, tad) =>
            if ret < 0 then (ret, state)
            else
              let tdat := { state.tdat with
                addr := tad
                rebind := state.tdat.rebind || state.tdat.bound }
              if !tdat.isserver && tdat.isconnected then
                (0, { state with tdat := tdat, connQueued := true })
              else if tdat.isserver && tdat.listening then
                (0, { state with tdat := tdat, listenQueued := true })
              else (0, { state with tdat := tdat })

/-- The part of `mpdccptun_peer` that stores the address. -/
def storePeer (tdat : Mpdccptun) (addr : Option TpAddr) : Int × Mpdccptun :=
  match addr with
  | none => (0, tdat)
  | some addr =>
      match ldtTunaddrSetpeer tdat.addr addr false with
      | (ret, tad) =>
          if ret < 0 then (ret, tdat)
          else (0, { tdat with addr := tad, haspeer := true })

/-- `mpdccptun_peer` -/
def mpdccptunPeer (state : ConnState) (addr : Option TpAddr) : Int × ConnState :=
  if state.tdat.tostop then (-EPERM, state)
  else
    match storePeer state.tdat addr with
    | (ret, tdat) =>
        if ret < 0 then (ret, state)
        else if !tdat.haspeer then (-ENOTCONN, { state with tdat := tdat })
        else if tdat.isserver then (0, { state with tdat := tdat })
        else (0, { state with tdat := tdat, connQueued := true })

/-- The part of `mpdccptun_elab_connect` that connects the socket. -/
def connectSocket (hz : Nat) (state : ConnState) (sock : SockId) (kernelConnect : Int)
    (jiffies : Nat) : Int × ConnState :=
  let ready := setSocket state sock
    { state.sockets sock with dataReady := .tpCliDataReady }
  if kernelConnect < 0 then (kernelConnect, ready)
  else
    let connected := setSocket ready sock
      { ready.sockets sock with raddr := some state.tdat.addr.raddr }
    (0, { connected with
      tdat := { connected.tdat with isconnected := true, wasconnected := true }
      connTimer :=
        if state.tdat.ismpdccp then some ((jiffies + 5 * hz) % 2 ^ 64) else none })

/-- `mpdccptun_elab_connect`, with the results of the calls it makes. -/
def mpdccptunElabConnect (hz : Nat) (state : ConnState) (calls : BindCalls)
    (kernelConnect : Int) (jiffies : Nat) : Int × ConnState :=
  match mpdccptunDobind { state with connTimer := none } calls with
  | (ret, state) =>
      if ret < 0 then (ret, state)
      else if state.tdat.tostop then (-EPERM, state)
      else if !state.tdat.haspeer then (-ENOTCONN, state)
      else
        match state.tdat.sock with
        | none => (0, { state with nullDeref := true })
        | some sock => connectSocket hz state sock kernelConnect jiffies

/-- `mpdccptun_linkdown` -/
def mpdccptunLinkdown (state : ConnState) (jiffies : Nat) : ConnState :=
  if state.tdat.listening then
    myclose { state with tdat := { state.tdat with active := none } } state.tdat.active
  else
    mycloseSock
      { state with
        tdat := { state.tdat with lastUnconnect := jiffies, isconnected := false } }

/-- `conn_timer_handler` -/
def connTimerHandler (state : ConnState) (jiffies : Nat) : ConnState :=
  let expired := { state with connTimer := none }
  if !state.tdat.ismpdccp then expired
  else if 0 < state.tdat.numSubflow then expired
  else mpdccptunLinkdown expired jiffies

/-- `mpdccptun_serverstart` -/
def mpdccptunServerstart (state : ConnState) : Int × ConnState :=
  if state.tdat.isconnected then (-ENOTCONN, state)
  else if state.tdat.isserver then (0, state)
  else
    (0, { state with
      tdat := { state.tdat with isserver := true }
      listenQueued := true })

/-- The part of `mpdccptun_doserverstart` that puts the socket into listen
mode. -/
def startListening (state : ConnState) (sock : SockId) (kernelListen : Int) :
    Int × ConnState :=
  if state.tdat.tostop then (-EPERM, state)
  else
    let listens := setSocket state sock
      { state.sockets sock with
        dataReady := .tpListenReady
        listenRet := some kernelListen }
    (kernelListen, { listens with tdat := { listens.tdat with listening := true } })

/-- `mpdccptun_doserverstart` -/
def mpdccptunDoserverstart (state : ConnState) (calls : BindCalls) (kernelListen : Int) :
    Int × ConnState :=
  if !state.tdat.isserver then (-ENOTCONN, state)
  else
    match mpdccptunDobind state calls with
    | (ret, state) =>
        if ret < 0 then (ret, state)
        else
          match state.tdat.sock with
          | none => (-ENOTCONN, state)
          | some sock =>
              startListening
                (if state.tdat.listening then mpdccptunCloseListen state else state)
                sock kernelListen

def LDT_CMD_SETQUEUE_QPOLICY_DROP_NEWEST : Int := 0
def LDT_CMD_SETQUEUE_QPOLICY_DROP_OLDEST : Int := 1

/-- The part of `mpdccptun_setqueue` that limits the queue of a bound tunnel. -/
def limitQueue (state : ConnState) (txqlen : Int) : ConnState :=
  if 0 ≤ txqlen then
    { state with
      tdat := { state.tdat with xmitQueue := tpqSetMaxlen state.tdat.xmitQueue txqlen } }
  else state

/-- The part of `mpdccptun_setqueue` that sets the options of a bound socket. -/
def setSocketQueue (state : ConnState) (txqlen qpolicy txqlenRet qpolicyRet : Int) :
    Int × ConnState :=
  let limited := limitQueue state txqlen
  if 0 ≤ txqlen ∧ state.tdat.sock = none then (0, { limited with nullDeref := true })
  else if 0 ≤ txqlen ∧ txqlenRet < 0 then (txqlenRet, limited)
  else if 0 ≤ qpolicy then
    if state.tdat.sock = none then (0, { limited with nullDeref := true })
    else (qpolicyRet, limited)
  else if 0 ≤ txqlen then (txqlenRet, limited)
  else (0, limited)

/-- The switch over the requested policy in `mpdccptun_setqueue`; an unsupported
one ends the request. -/
def setQueuePolicy (tdat : Mpdccptun) (qpolicy : Int) : Option Mpdccptun :=
  if qpolicy < 0 then some tdat
  else if qpolicy = LDT_CMD_SETQUEUE_QPOLICY_DROP_OLDEST then
    some { tdat with
      qpolicy := .dropOldest
      xmitQueue := tpqSetPolicy tdat.xmitQueue TP_QUEUE_DROP_OLDEST }
  else if qpolicy = LDT_CMD_SETQUEUE_QPOLICY_DROP_NEWEST then
    some { tdat with
      qpolicy := .dropNewest
      xmitQueue := tpqSetPolicy tdat.xmitQueue TP_QUEUE_DROP_NEWEST }
  else none

/-- The part of `mpdccptun_setqueue` that stores the length in `tx_qlen`, which is
16 bits wide. -/
def storeTxqlen (tdat : Mpdccptun) (txqlen : Int) : Mpdccptun :=
  if 0 ≤ txqlen then { tdat with txQlen := (txqlen % 2 ^ 16).toNat } else tdat

/-- `mpdccptun_setqueue`, with the results of its two `setsockopt` calls. -/
def mpdccptunSetqueue (state : ConnState) (txqlen qpolicy txqlenRet qpolicyRet : Int) :
    Int × ConnState :=
  if state.tdat.tostop then (-EPERM, state)
  else
    match setQueuePolicy (storeTxqlen state.tdat txqlen) qpolicy with
    | none => (0, { state with tdat := storeTxqlen state.tdat txqlen })
    | some tdat =>
        if tdat.bound then
          setSocketQueue { state with tdat := tdat } txqlen qpolicy txqlenRet qpolicyRet
        else (0, { state with tdat := tdat })

/-- The part of `mpdccptun_elab_accept` that makes the accepted socket the active
one. -/
def becomeActive (state : ConnState) (listenSock : SockId) : ConnState :=
  let sock := state.nextSock
  let unset := tpUnsetTdat state state.tdat.active
  let accepted := setSocket unset sock
    { socketNew with
      dataReady := .tpSrvDataReady
      multipath := (state.sockets listenSock).multipath }
  tpSetTdat
    { accepted with
      tdat := { accepted.tdat with
        active := some sock
        isconnected := true
        wasconnected := true }
      nextSock := sock + 1 } sock

/-- `mpdccptun_elab_accept`, with the result of `kernel_accept`. -/
def mpdccptunElabAccept (state : ConnState) (kernelAccept : Int) : Int × ConnState :=
  match state.tdat.sock with
  | none => (0, { state with nullDeref := true })
  | some listenSock =>
      if kernelAccept < 0 then (kernelAccept, state)
      else (0, myclose (becomeActive state listenSock) state.tdat.active)

/-- `tp_listen_ready` -/
def tpListenReady (state : ConnState) (sock : SockId) : ConnState :=
  if !(state.sockets sock).userData || !state.tdat.bound then state
  else { state with acceptQueued := true }

/-- The requests, worker runs and notifications of a tunnel, with the results of
the calls made in them. -/
inductive Label where
  | bind (addr : Option TpAddr) (flags : Nat)
  | peer (addr : Option TpAddr)
  | serverstart
  | setqueue (txqlen qpolicy txqlenRet qpolicyRet : Int)
  | connectHandler (calls : BindCalls) (kernelConnect : Int) (jiffies : Nat)
  | listenHandler (calls : BindCalls) (kernelListen : Int)
  | acceptHandler (kernelAccept : Int)
  | tpListenReady (sock : SockId)
  | subflowCreate (metaSock : SockId) (name : List UInt8) (krealloc : Bool)
  | subflowDestroy (metaSock : SockId) (name : List UInt8)
  | allSubflowDown (metaSock : SockId) (jiffies : Nat)
  | connTimer (jiffies : Nat)

/-- The socket was created and is not released. -/
def Alive (state : ConnState) (sock : SockId) : Prop :=
  sock < state.nextSock ∧ sock ∉ state.released

instance (state : ConnState) (sock : SockId) : Decidable (Alive state sock) :=
  inferInstanceAs (Decidable (_ ∧ _))

/-- The transition function.  Each request, each worker run and each
notification is one step. -/
def step (hz : Nat) (state : ConnState) : Label → Option ConnState
  | .bind addr flags => some (mpdccptunBind state addr flags).2
  | .peer addr => some (mpdccptunPeer state addr).2
  | .serverstart => some (mpdccptunServerstart state).2
  | .setqueue txqlen qpolicy txqlenRet qpolicyRet =>
      some (mpdccptunSetqueue state txqlen qpolicy txqlenRet qpolicyRet).2
  | .connectHandler calls kernelConnect jiffies =>
      if state.connQueued then
        some (mpdccptunElabConnect hz { state with connQueued := false } calls
          kernelConnect jiffies).2
      else none
  | .listenHandler calls kernelListen =>
      if state.listenQueued then
        some (mpdccptunDoserverstart { state with listenQueued := false } calls
          kernelListen).2
      else none
  | .acceptHandler kernelAccept =>
      if state.acceptQueued then
        some (mpdccptunElabAccept { state with acceptQueued := false } kernelAccept).2
      else none
  | .tpListenReady sock =>
      match (state.sockets sock).dataReady, (state.sockets sock).listenRet with
      | .tpListenReady, some ret =>
          if 0 ≤ ret ∧ Alive state sock then some (tpListenReady state sock) else none
      | _, _ => none
  | .subflowCreate metaSock name krealloc =>
      if (state.sockets metaSock).multipath ∧ Alive state metaSock then
        let socket := state.sockets metaSock
        some (tpSubflowReport
          (setSocket state metaSock { socket with subflows := socket.subflows ++ [name] })
          .create metaSock name krealloc)
      else none
  | .subflowDestroy metaSock name =>
      if name ∈ (state.sockets metaSock).subflows ∧ Alive state metaSock then
        let socket := state.sockets metaSock
        some (tpSubflowReport
          (setSocket state metaSock { socket with subflows := socket.subflows.erase name })
          .destroy metaSock name true)
      else none
  | .allSubflowDown metaSock jiffies =>
      if (state.sockets metaSock).multipath ∧ Alive state metaSock then
        if !(state.sockets metaSock).userData || state.tdat.tostop then some state
        else some (mpdccptunLinkdown state jiffies)
      else none
  | .connTimer jiffies =>
      match state.connTimer with
      | none => none
      | some _ => some (connTimerHandler state jiffies)

/-- A tunnel that `mpdccptun_new` has just created. -/
def initial (ipv6 ismpdccp : Bool) : ConnState where
  tdat := mpdccptunNew ipv6 ismpdccp
  sockets := fun _ => socketNew
  nextSock := 0
  released := []
  connQueued := false
  listenQueued := false
  acceptQueued := false
  connTimer := none
  nullDeref := false

/-- The flag `bound` stands for the pointer. -/
def Backed (state : ConnState) : Prop :=
  state.tdat.bound = true → state.tdat.sock.isSome

end Tunprox.Connection
