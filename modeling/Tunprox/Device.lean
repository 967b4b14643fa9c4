import Tunprox.Connection
import Tunprox.Event

/-!
# Devices and their tunnels

The network devices of `ldt_dev.c`, the tunnel embedded in each of them
(`ldt_tun.c`) and `ldt_event_crsend`, which reads the device back through the
pointer `tun->tdev`.  A device is identified by its `struct net_device`, in the
order of registration.  A read through a null pointer sets `fault`, and nothing
runs after that.  The reports that the closing of a socket makes of its
subflows are not recorded among the events sent.
-/

namespace Tunprox.Device

open Errno Connection Event

abbrev NdevId := Nat
abbrev NetId := Nat

/-- `struct ldt_tunops`: the two tables of operations differ in one member. -/
structure LdtTunops where
  ipv6 : Bool
  deriving DecidableEq, Repr

structure LdtTun where
  pdevdown : Bool
  tundata : Option ConnState
  tunops : Option LdtTunops
  tdev : Option NdevId

/-- `(struct ldt_tun) { .tdev = tdev }` -/
def ldtTunWith (tdev : Option NdevId) : LdtTun where
  pdevdown := false
  tundata := none
  tunops := none
  tdev := tdev

structure LdtDev where
  pdev : Option NdevId
  active : Bool
  hastun : Bool
  tun : LdtTun

/-- `struct net_device`.  `ipPtr` and `ip6Ptr` are the addresses the device has,
`ldt` is the private data of an ldt device. -/
structure NetDevice where
  name : List UInt8
  net : NetId
  registered : Bool
  iffUp : Bool
  neededHeadroom : Nat
  ipPtr : Option (List Nat)
  ip6Ptr : Option (List Nat)
  ldt : Option LdtDev

/-- The null pointers that are read through: `tun->tdev`, or a pointer on the
way to the address of a physical device. -/
inductive Fault where
  | tunTdev
  | ifaList
  deriving DecidableEq, Repr

structure NlEvent where
  net : Option NetId
  evtype : Int
  text : EventText
  deriving DecidableEq

structure System where
  netdev : NdevId → NetDevice
  nextNdev : NdevId
  sent : List NlEvent
  fault : Option Fault

/-- `LDTDEV` of a registered device. -/
def ldtdev (system : System) (id : NdevId) : Option LdtDev :=
  if (system.netdev id).registered then (system.netdev id).ldt else none

def modifyNetdev (system : System) (id : NdevId) (change : NetDevice → NetDevice) :
    System :=
  { system with netdev := Function.update system.netdev id (change (system.netdev id)) }

def modifyLdt (system : System) (id : NdevId) (change : LdtDev → LdtDev) : System :=
  modifyNetdev system id fun ndev => { ndev with ldt := ndev.ldt.map change }

def modifyTun (system : System) (id : NdevId) (change : LdtTun → LdtTun) : System :=
  modifyLdt system id fun tdev => { tdev with tun := change tdev.tun }

/-- `&tdev->tun` as it is now. -/
def tunOf (system : System) (id : NdevId) : LdtTun :=
  match (system.netdev id).ldt with
  | none => ldtTunWith none
  | some tdev => tdev.tun

/-- What the argument `dat` of `ldt_event_crsend` points to; `tun owner tun` is
the tunnel in the device `owner`. -/
inductive EvData where
  | null
  | tdev (id : NdevId)
  | ndev (id : NdevId)
  | tun (owner : NdevId) (tun : LdtTun)

/-- `ldt_event_send` -/
def ldtEventSend (system : System) (net : Option NetId) (evtype : Int) (text : EventText) :
    System :=
  { system with sent := system.sent ++ [⟨net, evtype, text⟩] }

/-- `TUN2NET` -/
def tun2net (system : System) (tun : LdtTun) : Option NetId :=
  tun.tdev.map fun tdev => (system.netdev tdev).net

/-- `mpdccptun_eventcreate` for the tunnel in the device `owner`. -/
def mpdccptunEventcreate (system : System) (owner : NdevId) (tundata : Option ConnState)
    (info : EvInfo) (subflowReport : Option (List UInt8)) : Except Int EventText :=
  match tundata with
  | none => .error (-EINVAL)
  | some state =>
      if state.tdat.tostop then .error (-EPERM)
      else
        .ok { info.text with
          iface := some (system.netdev owner).name
          subflow := subflowReport }

/-- `ldt_event_crsend2` -/
def ldtEventCrsend2 (system : System) (owner : NdevId) (tun : LdtTun) (evtype : Int)
    (info : EvInfo) (subflowReport : Option (List UInt8)) : System :=
  let name :=
    match tun.tdev with
    | none => []
    | some tdev => (system.netdev tdev).name
  let simplevent := { info.text with iface := some name }
  let text :=
    if tun.tunops.isSome then
      match mpdccptunEventcreate system owner tun.tundata info subflowReport with
      | .error _ => simplevent
      | .ok text => text
    else simplevent
  ldtEventSend system (tun2net system tun) evtype text

/-- The kinds whose text is made from `tun->tdev`: the name of the device with
the elements `add` puts beside it. -/
def crsendThroughTdev (system : System) (tun : LdtTun) (evtype : Int) (info : EvInfo)
    (add : NdevId → EventText → EventText) : System :=
  match tun.tdev with
  | none => { system with fault := some .tunTdev }
  | some tdev =>
      ldtEventSend system (some (system.netdev tdev).net) evtype
        (add tdev { info.text with iface := some (system.netdev tdev).name })

/-- The name of the physical device `tun->tdev->pdev`. -/
def pdevName (system : System) (tdev : NdevId) : Option (List UInt8) :=
  ((system.netdev tdev).ldt.bind LdtDev.pdev).map fun pdev => (system.netdev pdev).name

/-- `ldt_event_crsend`.  The report of a subflow, if one is being made, is in
the tunnel. -/
def ldtEventCrsend (system : System) (evtype : Int) (dat : EvData) (reason : Int)
    (subflowReport : Option (List UInt8)) : Int × System :=
  match ldtEventGetinfo evtype with
  | .error ret => (ret, system)
  | .ok info =>
      match info.kind, dat with
      | .tdev, .tdev id | .ndev, .ndev id =>
          (0, ldtEventSend system (some (system.netdev id).net) evtype
            { info.text with iface := some (system.netdev id).name })
      | .tun, .tun _ tun =>
          (0, crsendThroughTdev system tun evtype info fun tdev text =>
            { text with pdev := pdevName system tdev })
      | .tunconnect, .tun owner tun =>
          (0, ldtEventCrsend2 system owner tun evtype info subflowReport)
      | .tunfail, .tun _ tun =>
          (0, crsendThroughTdev system tun evtype info fun _ text =>
            { text with reason := some reason })
      | _, _ => (0, ldtEventSend system none evtype info.text)

/-- An event of the type on the tunnel of the device. -/
def crsendTun (system : System) (id : NdevId) (type : EvType) : System :=
  (ldtEventCrsend system type.num (.tun id (tunOf system id)) 0 none).2

/-- The registered tunnel types. -/
def tunRegList : List (List UInt8 × LdtTunops) :=
  [(ascii "dccp6", ⟨true⟩), (ascii "dccp4", ⟨false⟩), (ascii "dccp", ⟨false⟩),
    (ascii "mpdccp6", ⟨true⟩), (ascii "mpdccp4", ⟨false⟩), (ascii "mpdccp", ⟨false⟩)]

/-- `tp_findtun` -/
def tpFindtun (type : List UInt8) : Option LdtTunops :=
  if type = [] then none
  else (tunRegList.find? fun reg => kernelStrcaseeq reg.1 type).map Prod.snd

/-- `mpdccptun_new`: the tunnel and its table of operations; `kmalloc` tells
whether there is memory. -/
def mpdccptunNewTun (type : List UInt8) (kmalloc : Bool) :
    Except Int (LdtTunops × ConnState) :=
  let allocate (ipv6 ismpdccp : Bool) : Except Int (LdtTunops × ConnState) :=
    if kmalloc then .ok (⟨ipv6⟩, Connection.initial ipv6 ismpdccp) else .error (-ENOMEM)
  if kernelStrcaseeq type (ascii "mpdccp6") then allocate true true
  else if kernelStrcaseeq type (ascii "mpdccp4") || kernelStrcaseeq type (ascii "mpdccp") then
    allocate false true
  else if kernelStrcaseeq type (ascii "dccp6") then allocate true false
  else if kernelStrcaseeq type (ascii "dccp4") || kernelStrcaseeq type (ascii "dccp") then
    allocate false false
  else .error (-ENOTSUPP)

/-- A tunnel is created with the flags that its type string names. -/
theorem exists_initial_of_mpdccptunNewTun {type : List UInt8} {kmalloc : Bool}
    {tunops : LdtTunops} {created : ConnState}
    (allocated : mpdccptunNewTun type kmalloc = .ok (tunops, created)) :
    ∃ ipv6 ismpdccp, created = initial ipv6 ismpdccp := by
  unfold mpdccptunNewTun at allocated
  cases kmalloc with
  | false =>
      simp only [Bool.false_eq_true, if_false] at allocated
      split_ifs at allocated
  | true =>
      simp only [if_true] at allocated
      split_ifs at allocated
      all_goals
        obtain ⟨-, rfl⟩ := Prod.mk.inj (Except.ok.inj allocated)
        exact ⟨_, _, rfl⟩

/-- `ldt_tun_init` of a tunnel that points to the device `tdev`. -/
def ldtTunInit (tdev : NdevId) (type : Option (List UInt8)) (kmalloc : Bool) :
    Int × LdtTun :=
  let type := type.getD (ascii "mpdccp4")
  match tpFindtun type with
  | none => (-ENOENT, ldtTunWith (some tdev))
  | some _ =>
      match mpdccptunNewTun type kmalloc with
      | .error ret => (ret, ldtTunWith (some tdev))
      | .ok (tunops, state) =>
          (0, { ldtTunWith (some tdev) with tunops := some tunops, tundata := some state })

/-- `ldt_tun_needheadroom` -/
def ldtTunNeedheadroom (tun : LdtTun) : Nat :=
  match tun.tunops, tun.tundata with
  | some _, some state => mpdccptunNeedheadroom state.tdat
  | _, _ => 0

/-- `ldt_dev_newtun` -/
def ldtDevNewtun (system : System) (id : NdevId) (tdev : LdtDev)
    (type : Option (List UInt8)) (kmalloc : Bool) : Int × System :=
  if !tdev.active then (-EINVAL, system)
  else if tdev.hastun then (-EALREADY, system)
  else
    match ldtTunInit id type kmalloc with
    | (ret, tun) =>
        let stored := modifyTun system id fun _ => tun
        if ret < 0 then (ret, stored)
        else
          let mhead := ldtTunNeedheadroom tun
          let ready := modifyNetdev (modifyLdt stored id fun tdev => { tdev with hastun := true })
            id fun ndev => { ndev with neededHeadroom := max ndev.neededHeadroom mhead }
          (ret, crsendTun ready id .tunup)

/-- `ldt_rm_tun2` -/
def ldtRmTun2 (system : System) (id : NdevId) : System :=
  let noticed :=
    if (tunOf system id).tunops.isSome then crsendTun system id .tundown else system
  modifyLdt noticed id fun tdev =>
    { tdev with tun := ldtTunWith (some id), hastun := false }

/-- `ldt_rm_tun` -/
def ldtRmTun (system : System) (id : NdevId) (tdev : LdtDev) : Int × System :=
  if !tdev.active then (-EINVAL, system)
  else if (system.netdev id).iffUp then (-EPERM, system)
  else (0, ldtRmTun2 system id)

/-- `tp_bind`, `tp_peer` or another operation of the table, which refuses a null
pointer. -/
def callTunnel (operation : ConnState → Int × ConnState) (tundata : Option ConnState) :
    Int × Option ConnState :=
  match tundata with
  | none => (-EINVAL, none)
  | some state => ((operation state).1, some (operation state).2)

/-- A request to the tunnel of the device that raises `LDT_EVTYPE_REBIND` when
it succeeds. -/
def requestRebind (system : System) (id : NdevId) (tun : LdtTun)
    (operation : ConnState → Int × ConnState) : Int × System :=
  match callTunnel operation tun.tundata with
  | (ret, tundata) =>
      let called := modifyTun system id fun tun => { tun with tundata := tundata }
      if ret = 0 then (ret, crsendTun called id .rebind) else (ret, called)

/-- `ldt_tun_bind` -/
def ldtTunBind (system : System) (id : NdevId) (tun : LdtTun) (addr : TpAddr) :
    Int × System :=
  if tun.tunops.isSome then
    requestRebind system id tun fun state => mpdccptunBind state (some addr) 0
  else (0, system)

/-- The address `tptun_rebind` takes from the physical device, on a kernel with
IPv6.  `stack` is what an uninitialised variable holds. -/
def rebindAddr (pdev : NetDevice) (ipv6 : Bool) (stack : TpAddr) : Except Fault TpAddr :=
  if ipv6 then
    match pdev.ip6Ptr with
    | none => .error .ifaList
    | some [] => .ok stack
    | some (addr :: _) => .ok { saFamily := AF_INET6, ip := addr, sinPort := 0 }
  else
    match pdev.ipPtr with
    | none | some [] => .error .ifaList
    | some (addr :: _) => .ok { saFamily := AF_INET, ip := addr, sinPort := 0 }

/-- `ldt_tun_rebind` with `tptun_rebind` -/
def ldtTunRebind (system : System) (id : NdevId) (tun : LdtTun) (flags : Nat)
    (stack : TpAddr) : Int × System :=
  match tun.tunops with
  | none => (0, system)
  | some tunops =>
      match tun.tdev with
      | none => (0, { system with fault := some .tunTdev })
      | some tdev =>
          match (system.netdev tdev).ldt.bind LdtDev.pdev with
          | none => (-ENOENT, system)
          | some pdev =>
              match rebindAddr (system.netdev pdev) tunops.ipv6 stack with
              | .error fault => (0, { system with fault := some fault })
              | .ok addr =>
                  requestRebind system id tun fun state =>
                    mpdccptunBind state (some addr) flags

/-- `dev_get_by_name` -/
def devGetByName (system : System) (net : NetId) (name : List UInt8) : Option NdevId :=
  (List.range system.nextNdev).find? fun id =>
    (system.netdev id).registered && (system.netdev id).net == net &&
      (system.netdev id).name == name

/-- `ldt_dev_bind2dev` -/
def ldtDevBind2dev (system : System) (id : NdevId) (tdev : LdtDev) (dev : List UInt8)
    (stack : TpAddr) : Int × System :=
  match devGetByName system (system.netdev id).net dev with
  | none => (-ENOENT, system)
  | some ndev =>
      if !tdev.active then (-EINVAL, system)
      else
        let held := modifyLdt system id fun tdev => { tdev with pdev := some ndev }
        match ldtTunRebind held id tdev.tun 0 stack with
        | (ret, rebound) =>
            (ret, modifyTun rebound id fun tun => { tun with pdevdown := false })

/-- `ldt_dev_bind` -/
def ldtDevBind (system : System) (id : NdevId) (tdev : LdtDev) (laddr : TpAddr) :
    Int × System :=
  if !tdev.active then (-EINVAL, system) else ldtTunBind system id tdev.tun laddr

/-- `ldt_dev_peer` -/
def ldtDevPeer (system : System) (id : NdevId) (tdev : LdtDev) (raddr : Option TpAddr) :
    Int × System :=
  if !tdev.active then (-EINVAL, system)
  else if tdev.tun.tunops.isSome then
    requestRebind system id tdev.tun fun state => mpdccptunPeer state raddr
  else (0, system)

/-- A request to the tunnel of the device that raises no event. -/
def requestQuiet (system : System) (id : NdevId) (tdev : LdtDev)
    (operation : ConnState → Int × ConnState) : Int × System :=
  if !tdev.active then (-EINVAL, system)
  else if tdev.tun.tunops.isSome then
    match callTunnel operation tdev.tun.tundata with
    | (ret, tundata) =>
        (ret, modifyTun system id fun tun => { tun with tundata := tundata })
  else (0, system)

/-- `ldt_dev_serverstart` -/
def ldtDevServerstart (system : System) (id : NdevId) (tdev : LdtDev) : Int × System :=
  requestQuiet system id tdev mpdccptunServerstart

/-- `ldt_dev_setqueue` -/
def ldtDevSetqueue (system : System) (id : NdevId) (tdev : LdtDev)
    (txlen qpolicy txqlenRet qpolicyRet : Int) : Int × System :=
  requestQuiet system id tdev fun state =>
    mpdccptunSetqueue state txlen qpolicy txqlenRet qpolicyRet

/-- `ldt_dev_evsend` -/
def ldtDevEvsend (system : System) (id : NdevId) (tdev : LdtDev) (evtype reason : Int) :
    Int × System :=
  if !tdev.active then (-EINVAL, system)
  else
    match ldtEventGetkind evtype with
    | .error ret => (ret, system)
    | .ok .global => ldtEventCrsend system evtype .null reason none
    | .ok .tdev => ldtEventCrsend system evtype (.tdev id) reason none
    | .ok .ndev => ldtEventCrsend system evtype (.ndev id) reason none
    | .ok .tun | .ok .tunconnect | .ok .tunfail =>
        ldtEventCrsend system evtype (.tun id tdev.tun) reason none

/-- `tpdev_ndevup` -/
def tpdevNdevup (system : System) (id : NdevId) (tdev : LdtDev) (stack : TpAddr) :
    Int × System :=
  if !tdev.active then (-EINVAL, system)
  else
    match ldtTunRebind system id tdev.tun LDT_TUN_BIND_F_ADDRCHG stack with
    | (ret, rebound) =>
        if rebound.fault.isSome then (ret, rebound)
        else
          let up := modifyTun rebound id fun tun => { tun with pdevdown := false }
          (ret, crsendTun up id .pdevup)

/-- `tpdev_ndevdown` -/
def tpdevNdevdown (system : System) (id : NdevId) (tdev : LdtDev) : Int × System :=
  if !tdev.active then (-EINVAL, system)
  else
    let down := modifyTun system id fun tun => { tun with pdevdown := true }
    (0, crsendTun down id .pdevdown)

/-- The loop of `tp_ev_up` and `tp_ev_down`: the first ldt device in the
namespace that is bound to the physical device. -/
def tpEvFind (system : System) (ndev : NdevId) : Option NdevId :=
  (List.range system.nextNdev).find? fun id =>
    (system.netdev id).net == (system.netdev ndev).net &&
      match ldtdev system id with
      | none => false
      | some tdev => tdev.pdev == some ndev

/-- `tp_ev_up` and `tp_ev_down`: the event on the device, then `notice` for the
ldt device that is bound to it. -/
def tpEvNotify (system : System) (ndev : NdevId) (type : EvType)
    (notice : System → NdevId → LdtDev → Int × System) : System :=
  let noticed := (ldtEventCrsend system type.num (.ndev ndev) 0 none).2
  match tpEvFind noticed ndev with
  | none => noticed
  | some id =>
      match ldtdev noticed id with
      | none => noticed
      | some tdev => (notice noticed id tdev).2

def tpEvUp (system : System) (ndev : NdevId) (stack : TpAddr) : System :=
  tpEvNotify system ndev .nifup fun system id tdev => tpdevNdevup system id tdev stack

def tpEvDown (system : System) (ndev : NdevId) : System :=
  tpEvNotify system ndev .nifdown tpdevNdevdown

/-- The private data `tpdev_setup` fills in. -/
def tpdevSetup : LdtDev where
  pdev := none
  active := false
  hastun := false
  tun := ldtTunWith none

/-- A registered network device. -/
def newNetdev (name : List UInt8) (net : NetId) (ldt : Option LdtDev) : NetDevice where
  name := name
  net := net
  registered := true
  iffUp := false
  neededHeadroom := 0
  ipPtr := some []
  ip6Ptr := some []
  ldt := ldt

def registerNetdev (system : System) (ndev : NetDevice) : System :=
  { system with
    netdev := Function.update system.netdev system.nextNdev ndev
    nextNdev := system.nextNdev + 1 }

/-- `ldt_create_dev` with `tp_ev_register`.  `assigned` is the name the kernel
gives the device, `alloc` and `register` are the results of the calls. -/
def ldtCreateDev (system : System) (net : NetId) (name : Option (List UInt8))
    (assigned : List UInt8) (alloc : Bool) (register : Int) : Int × System :=
  if IFNAMSIZ - 1 < (name.getD []).length then (-EINVAL, system)
  else if !alloc then (-ENOMEM, system)
  else if register < 0 then (register, system)
  else
    let id := system.nextNdev
    let registered := registerNetdev system (newNetdev assigned net (some tpdevSetup))
    let active := modifyLdt registered id fun tdev => { tdev with active := true }
    (0, (ldtEventCrsend active EvType.ifup.num (.tdev id) 0 none).2)

/-- The part of `ldt_free_dev` before the device is unregistered. -/
def stopDev (system : System) (id : NdevId) : System :=
  let stopped := modifyLdt system id fun tdev => { tdev with active := false }
  (ldtEventCrsend stopped EvType.ifdown.num (.tdev id) 0 none).2

/-- `ldt_free_dev` with `tpdev_uninit`.  A device that is up is taken down
before. -/
def ldtFreeDev (system : System) (id : NdevId) (tdev : LdtDev) : System :=
  if !tdev.active then system
  else
    let stopped := stopDev system id
    let down :=
      if (stopped.netdev id).iffUp then
        tpEvDown (modifyNetdev stopped id fun ndev => { ndev with iffUp := false }) id
      else stopped
    modifyNetdev (ldtRmTun2 down id) id fun ndev => { ndev with registered := false }

/-- Some ldt device holds a reference to the device, which can then not be
unregistered. -/
def heldAsPdev (system : System) (id : NdevId) : Bool :=
  (List.range system.nextNdev).any fun other =>
    match ldtdev system other with
    | none => false
    | some tdev => tdev.pdev == some id

/-- The event the handlers of the work items and `tp_subflow_report` raise, with
its reason and the subflow it reports. -/
def workEvent (hz : Nat) (state : ConnState) :
    Connection.Label → Option (EvType × Int × Option (List UInt8))
  | .connectHandler calls kernelConnect jiffies =>
      let ret := (mpdccptunElabConnect hz { state with connQueued := false } calls
        kernelConnect jiffies).1
      if ret < 0 then some (.connEstabFail, -ret, none) else some (.connEstab, 0, none)
  | .listenHandler calls kernelListen =>
      let ret := (mpdccptunDoserverstart { state with listenQueued := false } calls
        kernelListen).1
      if ret < 0 then some (.connListenFail, 0, none) else some (.connListen, 0, none)
  | .acceptHandler kernelAccept =>
      let ret := (mpdccptunElabAccept { state with acceptQueued := false } kernelAccept).1
      if ret < 0 then some (.connAcceptFail, 0, none) else some (.connAccept, 0, none)
  | .subflowCreate metaSock name krealloc =>
      if !(state.sockets metaSock).userData || state.tdat.tostop then none
      else if state.tdat.numSubflow < state.tdat.bufszSubflow ∨ krealloc then
        some (.subflowUp, 0, some name)
      else none
  | .subflowDestroy metaSock name =>
      if !(state.sockets metaSock).userData || state.tdat.tostop then none
      else some (.subflowDown, 0, some name)
  | _ => none

/-- The labels of the tunnel that are not requests. -/
def isWork : Connection.Label → Bool
  | .bind .. | .peer .. | .serverstart | .setqueue .. => false
  | _ => true

/-- A work item or a notification of the tunnel in the device. -/
def tunWork (hz : Nat) (system : System) (id : NdevId) (tdev : LdtDev)
    (label : Connection.Label) : Option System :=
  match tdev.tun.tunops, tdev.tun.tundata with
  | some _, some state =>
      match Connection.step hz state label with
      | none => none
      | some next =>
          let worked := modifyTun system id fun tun => { tun with tundata := some next }
          match workEvent hz state label with
          | none => some worked
          | some (type, reason, subflow) =>
              some (ldtEventCrsend worked type.num (.tun id (tunOf worked id)) reason
                subflow).2
  | _, _ => none

inductive Label where
  | registerNetdev (name : List UInt8) (net : NetId)
  | setAddrs (id : NdevId) (ipPtr ip6Ptr : Option (List Nat))
  | netdevUp (id : NdevId) (stack : TpAddr)
  | netdevDown (id : NdevId)
  | createDev (net : NetId) (name : Option (List UInt8)) (assigned : List UInt8)
      (alloc : Bool) (register : Int)
  | freeDev (id : NdevId)
  | newtun (id : NdevId) (type : Option (List UInt8)) (kmalloc : Bool)
  | rmTun (id : NdevId)
  | bind (id : NdevId) (laddr : TpAddr)
  | bind2dev (id : NdevId) (dev : List UInt8) (stack : TpAddr)
  | peer (id : NdevId) (raddr : Option TpAddr)
  | serverstart (id : NdevId)
  | setqueue (id : NdevId) (txlen qpolicy txqlenRet qpolicyRet : Int)
  | evsend (id : NdevId) (evtype reason : Int)
  | work (id : NdevId) (label : Connection.Label)

/-- The transition function.  The device lock makes each of them one step. -/
def step (hz : Nat) (system : System) (label : Label) : Option System :=
  if system.fault.isSome then none
  else
    match label with
    | .registerNetdev name net => some (registerNetdev system (newNetdev name net none))
    | .setAddrs id ipPtr ip6Ptr =>
        some (modifyNetdev system id fun ndev =>
          { ndev with ipPtr := ipPtr, ip6Ptr := ip6Ptr })
    | .netdevUp id stack =>
        if (system.netdev id).registered ∧ (system.netdev id).iffUp = false then
          some (tpEvUp (modifyNetdev system id fun ndev => { ndev with iffUp := true }) id
            stack)
        else none
    | .netdevDown id =>
        if (system.netdev id).registered ∧ (system.netdev id).iffUp = true then
          some (tpEvDown (modifyNetdev system id fun ndev => { ndev with iffUp := false }) id)
        else none
    | .createDev net name assigned alloc register =>
        some (ldtCreateDev system net name assigned alloc register).2
    | .freeDev id =>
        if heldAsPdev system id then none
        else (ldtdev system id).map fun tdev => ldtFreeDev system id tdev
    | .newtun id type kmalloc =>
        (ldtdev system id).map fun tdev => (ldtDevNewtun system id tdev type kmalloc).2
    | .rmTun id => (ldtdev system id).map fun tdev => (ldtRmTun system id tdev).2
    | .bind id laddr => (ldtdev system id).map fun tdev => (ldtDevBind system id tdev laddr).2
    | .bind2dev id dev stack =>
        (ldtdev system id).map fun tdev => (ldtDevBind2dev system id tdev dev stack).2
    | .peer id raddr => (ldtdev system id).map fun tdev => (ldtDevPeer system id tdev raddr).2
    | .serverstart id =>
        (ldtdev system id).map fun tdev => (ldtDevServerstart system id tdev).2
    | .setqueue id txlen qpolicy txqlenRet qpolicyRet =>
        (ldtdev system id).map fun tdev =>
          (ldtDevSetqueue system id tdev txlen qpolicy txqlenRet qpolicyRet).2
    | .evsend id evtype reason =>
        (ldtdev system id).map fun tdev => (ldtDevEvsend system id tdev evtype reason).2
    | .work id label =>
        if isWork label then
          (ldtdev system id).bind fun tdev => tunWork hz system id tdev label
        else none

/-- The system before the first device is registered. -/
def boot : System where
  netdev := fun _ => { newNetdev [] 0 none with registered := false }
  nextNdev := 0
  sent := []
  fault := none

end Tunprox.Device
