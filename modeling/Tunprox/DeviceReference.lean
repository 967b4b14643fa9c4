import Tunprox.DevicePointer
import Tunprox.ReferenceLedger

/-!
# References to network devices

The handlers of `ldt_netlink.c` look a device up by its name, which takes a reference to
it, call its operation in `ldt_dev.c` and give the reference back.  `ldt_dev_bind2dev`
keeps the reference to the physical device in `tdev->pdev`, `ldt_free_dev` gives back
that of its caller, and the notifier holds the device it tells of a physical one.  The
functions extend those on devices by the ledger of the references; where the device
operations end in a fault, what follows is not reached.

`ldt_free_dev` is also reached from `ldt_remove_all`, which has looked up nothing, and
neither it nor `tpdev_uninit` gives back the reference in `tdev->pdev`.
-/

namespace Tunprox.DeviceReference

open Errno LabelledRun Event Device DeviceStep DevicePointer ReferenceLedger

/-- The devices, and the ledger of `dev_get_by_name`, `dev_hold` and `dev_put`. -/
structure RefState where
  system : System
  log : List (Entry NdevId)

/-- `dev_hold` -/
def devHold (state : RefState) (id : NdevId) : RefState :=
  { state with log := state.log ++ [.get id] }

/-- `dev_put` -/
def devPut (state : RefState) (id : NdevId) : RefState :=
  { state with log := state.log ++ [.put id] }

/-- `dev_put` after a call that may have ended in a fault. -/
def devPutAfter (state : RefState) (id : NdevId) : RefState :=
  if state.system.fault.isSome then state else devPut state id

/-- An operation of a device that takes and gives back no reference. -/
def onSystem (operation : System → NdevId → LdtDev → Int × System) (state : RefState)
    (id : NdevId) (tdev : LdtDev) : Int × RefState :=
  ((operation state.system id tdev).1,
    { state with system := (operation state.system id tdev).2 })

/-- `LDTDEV_BYNAME` -/
def ldtdevByname (state : RefState) (net : NetId) (name : List UInt8) :
    Option (NdevId × LdtDev) × RefState :=
  match devGetByName state.system net name with
  | none => (none, state)
  | some id =>
      let held := devHold state id
      match ldtdev held.system id with
      | none => (none, devPut held id)
      | some tdev => (some (id, tdev), held)

/-- A handler that looks up the device, calls an operation of it and puts the device. -/
def ldtNlOnDev (operation : RefState → NdevId → LdtDev → Int × RefState) (state : RefState)
    (net : NetId) (name : List UInt8) : Int × RefState :=
  match ldtdevByname state net name with
  | (none, missed) => (-EINVAL, missed)
  | (some (id, tdev), held) =>
      ((operation held id tdev).1, devPutAfter (operation held id tdev).2 id)

/-- `ldt_dev_bind2dev` -/
def ldtDevBind2devRef (dev : List UInt8) (stack : TpAddr) (state : RefState) (id : NdevId)
    (tdev : LdtDev) : Int × RefState :=
  match devGetByName state.system (state.system.netdev id).net dev with
  | none => (-ENOENT, state)
  | some ndev =>
      let held := devHold state ndev
      if !tdev.active then (-EINVAL, devPut held ndev)
      else
        let replaced :=
          match tdev.pdev with
          | none => held
          | some pdev => devPut held pdev
        onSystem (fun system id tdev => ldtDevBind2dev system id tdev dev stack) replaced id
          tdev

/-- `ldt_nl_show_dev`, where `ret` is the result of `ldt_get_devinfo`. -/
def ldtNlShowDev (state : RefState) (net : NetId) (name : List UInt8) (ret : Int) :
    Int × RefState :=
  if name = [] then (-EINVAL, state)
  else ldtNlOnDev (onSystem fun system _ _ => (ret, system)) state net name

def ldtNlRmTun (state : RefState) (net : NetId) (name : List UInt8) : Int × RefState :=
  ldtNlOnDev (onSystem ldtRmTun) state net name

def ldtNlNewtun (state : RefState) (net : NetId) (name : List UInt8)
    (tuntype : Option (List UInt8)) (kmalloc : Bool) : Int × RefState :=
  ldtNlOnDev (onSystem fun system id tdev => ldtDevNewtun system id tdev tuntype kmalloc)
    state net name

def ldtNlBind (state : RefState) (net : NetId) (name : List UInt8) (laddr : TpAddr) :
    Int × RefState :=
  ldtNlOnDev (onSystem fun system id tdev => ldtDevBind system id tdev laddr) state net name

def ldtNlBind2dev (state : RefState) (net : NetId) (name dev : List UInt8) (stack : TpAddr) :
    Int × RefState :=
  ldtNlOnDev (ldtDevBind2devRef dev stack) state net name

def ldtNlPeer (state : RefState) (net : NetId) (name : List UInt8) (raddr : Option TpAddr) :
    Int × RefState :=
  ldtNlOnDev (onSystem fun system id tdev => ldtDevPeer system id tdev raddr) state net name

def ldtNlServerstart (state : RefState) (net : NetId) (name : List UInt8) : Int × RefState :=
  ldtNlOnDev (onSystem ldtDevServerstart) state net name

def ldtNlSetQueue (state : RefState) (net : NetId) (name : List UInt8)
    (txqlen qpolicy txqlenRet qpolicyRet : Int) : Int × RefState :=
  ldtNlOnDev (onSystem fun system id tdev =>
    ldtDevSetqueue system id tdev txqlen qpolicy txqlenRet qpolicyRet) state net name

def ldtNlEvsend (state : RefState) (net : NetId) (name : List UInt8) (evtype reason : Int) :
    Int × RefState :=
  ldtNlOnDev (onSystem fun system id tdev => ldtDevEvsend system id tdev evtype reason)
    state net name

/-- `tp_ev_up` and `tp_ev_down`, which hold the ldt device while it is told. -/
def tpEvNotifyRef (state : RefState) (ndev : NdevId) (type : EvType)
    (notice : System → NdevId → LdtDev → Int × System) : RefState :=
  let noticed := (ldtEventCrsend state.system type.num (.ndev ndev) 0 none).2
  match tpEvFind noticed ndev with
  | none => { state with system := noticed }
  | some id =>
      match ldtdev noticed id with
      | none => { state with system := noticed }
      | some tdev =>
          let held := devHold { state with system := noticed } id
          devPutAfter (onSystem notice held id tdev).2 id

def tpEvUpRef (state : RefState) (ndev : NdevId) (stack : TpAddr) : RefState :=
  tpEvNotifyRef state ndev .nifup fun system id tdev => tpdevNdevup system id tdev stack

def tpEvDownRef (state : RefState) (ndev : NdevId) : RefState :=
  tpEvNotifyRef state ndev .nifdown tpdevNdevdown

/-- `ldt_free_dev`.  A device that is up is taken down by `unregister_netdev`, of which
the notifier is told while it is registered (`watched`).  `unregister_netdev` does not
return as long as some ldt device refers to the device. -/
def ldtFreeDevRef (state : RefState) (id : NdevId) (tdev : LdtDev) (watched : Bool) :
    Option RefState :=
  if !tdev.active then some state
  else if heldAsPdev state.system id then none
  else
    let stopped := devPut { state with system := stopDev state.system id } id
    let down :=
      if (stopped.system.netdev id).iffUp then
        let closed := { stopped with
          system := modifyNetdev stopped.system id fun ndev => { ndev with iffUp := false } }
        if watched then tpEvDownRef closed id else closed
      else stopped
    some { down with
      system := modifyNetdev (ldtRmTun2 down.system id) id fun ndev =>
        { ndev with registered := false } }

def ldtNlRmDev (state : RefState) (net : NetId) (name : List UInt8) : Option RefState :=
  match ldtdevByname state net name with
  | (none, missed) => some missed
  | (some (id, tdev), held) => ldtFreeDevRef held id tdev true

/-- The ldt devices, in the order of `ldt_dev_list`. -/
def ldtDevList (system : System) : List NdevId :=
  ((List.range system.nextNdev).filter fun id => (ldtdev system id).isSome).reverse

/-- `ldt_remove_all`, which is called when the notifier is not registered any more. -/
def ldtRemoveAll (state : RefState) : Option RefState :=
  (ldtDevList state.system).foldlM (fun state id =>
    match ldtdev state.system id with
    | none => some state
    | some tdev => ldtFreeDevRef state id tdev false) state

/-- A command, with what the functions of the kernel that it calls return, a notification
or the exit of the module.  `device` is what takes no reference: other devices and their
addresses, the command to create a device, and the work of a tunnel. -/
inductive Label where
  | device (label : Device.Label)
  | netdevUp (id : NdevId) (stack : TpAddr)
  | netdevDown (id : NdevId)
  | rmDev (net : NetId) (name : List UInt8)
  | showDev (net : NetId) (name : List UInt8) (ret : Int)
  | rmTun (net : NetId) (name : List UInt8)
  | newtun (net : NetId) (name : List UInt8) (tuntype : Option (List UInt8)) (kmalloc : Bool)
  | bind (net : NetId) (name : List UInt8) (laddr : TpAddr)
  | bind2dev (net : NetId) (name dev : List UInt8) (stack : TpAddr)
  | peer (net : NetId) (name : List UInt8) (raddr : Option TpAddr)
  | serverstart (net : NetId) (name : List UInt8)
  | setQueue (net : NetId) (name : List UInt8) (txqlen qpolicy txqlenRet qpolicyRet : Int)
  | evsend (net : NetId) (name : List UInt8) (evtype reason : Int)
  | removeAll

/-- The labels of devices that take none of the references that are counted, those of
`dev_get_by_name` and `dev_hold`.  `is_mpdccp_link`, which the work of a tunnel may call, takes one
by `ip_dev_find`. -/
def countsNone : Device.Label → Bool
  | .registerNetdev .. | .setAddrs .. | .createDev .. | .work .. => true
  | _ => false

def step (hz : Nat) (state : RefState) (label : Label) : Option RefState :=
  if state.system.fault.isSome then none
  else
    match label with
    | .device label =>
        if countsNone label then
          (Device.step hz state.system label).map fun system => { state with system := system }
        else none
    | .netdevUp id stack =>
        if (state.system.netdev id).registered ∧ (state.system.netdev id).iffUp = false then
          some (tpEvUpRef { state with
            system := modifyNetdev state.system id fun ndev => { ndev with iffUp := true } }
            id stack)
        else none
    | .netdevDown id =>
        if (state.system.netdev id).registered ∧ (state.system.netdev id).iffUp = true then
          some (tpEvDownRef { state with
            system := modifyNetdev state.system id fun ndev => { ndev with iffUp := false } }
            id)
        else none
    | .rmDev net name => ldtNlRmDev state net name
    | .showDev net name ret => some (ldtNlShowDev state net name ret).2
    | .rmTun net name => some (ldtNlRmTun state net name).2
    | .newtun net name tuntype kmalloc =>
        some (ldtNlNewtun state net name tuntype kmalloc).2
    | .bind net name laddr => some (ldtNlBind state net name laddr).2
    | .bind2dev net name dev stack => some (ldtNlBind2dev state net name dev stack).2
    | .peer net name raddr => some (ldtNlPeer state net name raddr).2
    | .serverstart net name => some (ldtNlServerstart state net name).2
    | .setQueue net name txqlen qpolicy txqlenRet qpolicyRet =>
        some (ldtNlSetQueue state net name txqlen qpolicy txqlenRet qpolicyRet).2
    | .evsend net name evtype reason => some (ldtNlEvsend state net name evtype reason).2
    | .removeAll => ldtRemoveAll state

def initial : RefState where
  system := boot
  log := []

/-- What a registered ldt device stores in `tdev->pdev`. -/
def pdevOfNetdev (ndev : NetDevice) : Option NdevId :=
  if ndev.registered then ndev.ldt.bind LdtDev.pdev else none

def pdevOf (system : System) (id : NdevId) : Option NdevId :=
  pdevOfNetdev (system.netdev id)

/-- At no time more references to a device have been given back than taken, and between
the commands those not given back are the ones that registered ldt devices store. -/
structure Balanced (state : RefState) : Prop where
  covered : Covered state.log
  givenBack : state.system.fault = none → ∀ id,
    gets state.log id =
      puts state.log id + storedCount (pdevOf state.system) id state.system.nextNdev

/-- No device that is bound to a physical one is removed, and the module exits only after
all devices have been removed. -/
def RemovesUnbound (state : RefState) : Label → Prop
  | .rmDev net name =>
      ((devGetByName state.system net name).bind (pdevOf state.system)) = none
  | .removeAll => ldtDevList state.system = []
  | _ => True

instance (state : RefState) : (label : Label) → Decidable (RemovesUnbound state label)
  | .rmDev net name =>
      inferInstanceAs (Decidable
        (((devGetByName state.system net name).bind (pdevOf state.system)) = none))
  | .removeAll => inferInstanceAs (Decidable (ldtDevList state.system = []))
  | .device _ | .netdevUp .. | .netdevDown _ | .showDev .. | .rmTun .. | .newtun ..
  | .bind .. | .bind2dev .. | .peer .. | .serverstart .. | .setQueue .. | .evsend .. =>
      inferInstanceAs (Decidable True)

theorem pdevOf_of_ldtdev {system : System} {id : NdevId} {tdev : LdtDev}
    (found : ldtdev system id = some tdev) : pdevOf system id = tdev.pdev := by
  simp only [ldtdev] at found
  split at found
  · rename_i registered
    simp [pdevOf, pdevOfNetdev, registered, found]
  · contradiction

theorem pdevOf_modifyNetdev (system : System) (id : NdevId)
    (change : NetDevice → NetDevice) :
    pdevOf (modifyNetdev system id change) =
      Function.update (pdevOf system) id (pdevOfNetdev (change (system.netdev id))) := by
  funext other
  simp only [pdevOf, modifyNetdev]
  by_cases same : other = id
  · subst same
    simp only [Function.update_self]
  · simp only [Function.update_of_ne same, pdevOf]

/-- No device is registered, unregistered or bound to another physical device. -/
structure KeepsPdevs (system next : System) : Prop where
  pdevs : pdevOf next = pdevOf system
  nextNdev : next.nextNdev = system.nextNdev

theorem KeepsPdevs.refl (system : System) : KeepsPdevs system system :=
  ⟨rfl, rfl⟩

theorem KeepsPdevs.trans {first second third : System} (left : KeepsPdevs first second)
    (right : KeepsPdevs second third) : KeepsPdevs first third :=
  ⟨right.pdevs.trans left.pdevs, right.nextNdev.trans left.nextNdev⟩

theorem modifyNetdev_keepsPdevs (system : System) (id : NdevId)
    (change : NetDevice → NetDevice)
    (same : pdevOfNetdev (change (system.netdev id)) = pdevOfNetdev (system.netdev id)) :
    KeepsPdevs system (modifyNetdev system id change) where
  pdevs := by
    rw [pdevOf_modifyNetdev, same]
    exact Function.update_eq_self id (pdevOf system)
  nextNdev := rfl

theorem modifyLdt_keepsPdevs (system : System) (id : NdevId) (change : LdtDev → LdtDev)
    (same : ∀ tdev, (change tdev).pdev = tdev.pdev) :
    KeepsPdevs system (modifyLdt system id change) := by
  apply modifyNetdev_keepsPdevs
  cases ldtEq : (system.netdev id).ldt with
  | none => simp [pdevOfNetdev, ldtEq]
  | some tdev => simp [pdevOfNetdev, ldtEq, same]

theorem modifyTun_keepsPdevs (system : System) (id : NdevId) (change : LdtTun → LdtTun) :
    KeepsPdevs system (modifyTun system id change) :=
  modifyLdt_keepsPdevs system id _ fun _ => rfl

theorem ldtEventCrsend_keepsPdevs (system : System) (evtype : Int) (dat : EvData)
    (reason : Int) (subflowReport : Option (List UInt8)) :
    KeepsPdevs system (ldtEventCrsend system evtype dat reason subflowReport).2 := by
  obtain ⟨sent, fault, sentEq⟩ :=
    exists_ldtEventCrsend system evtype dat reason subflowReport
  rw [sentEq]
  exact ⟨rfl, rfl⟩

theorem crsendTun_keepsPdevs (system : System) (id : NdevId) (type : EvType) :
    KeepsPdevs system (crsendTun system id type) :=
  ldtEventCrsend_keepsPdevs ..

theorem ldtDevNewtun_keepsPdevs (system : System) (id : NdevId) (tdev : LdtDev)
    (type : Option (List UInt8)) (kmalloc : Bool) :
    KeepsPdevs system (ldtDevNewtun system id tdev type kmalloc).2 := by
  unfold ldtDevNewtun
  split
  · exact KeepsPdevs.refl system
  · split
    · exact KeepsPdevs.refl system
    · have stored := modifyTun_keepsPdevs system id fun _ => (ldtTunInit id type kmalloc).2
      simp only
      split
      · exact stored
      · apply stored.trans
        apply (modifyLdt_keepsPdevs _ id
          (fun tdev => { tdev with hastun := true }) fun _ => rfl).trans
        apply (modifyNetdev_keepsPdevs _ id _ ?_).trans (crsendTun_keepsPdevs _ id .tunup)
        rfl

theorem ldtRmTun2_keepsPdevs (system : System) (id : NdevId) :
    KeepsPdevs system (ldtRmTun2 system id) := by
  have removed (noticed : System) : KeepsPdevs noticed (modifyLdt noticed id fun tdev =>
      { tdev with tun := ldtTunWith (some id), hastun := false }) :=
    modifyLdt_keepsPdevs noticed id _ fun _ => rfl
  unfold ldtRmTun2
  simp only
  split
  · exact (crsendTun_keepsPdevs system id .tundown).trans (removed _)
  · exact removed system

theorem ldtRmTun_keepsPdevs (system : System) (id : NdevId) (tdev : LdtDev) :
    KeepsPdevs system (ldtRmTun system id tdev).2 := by
  unfold ldtRmTun
  split
  · exact KeepsPdevs.refl system
  · split
    · exact KeepsPdevs.refl system
    · exact ldtRmTun2_keepsPdevs system id

theorem requestRebind_keepsPdevs (system : System) (id : NdevId) (tun : LdtTun)
    (operation : Connection.ConnState → Int × Connection.ConnState) :
    KeepsPdevs system (requestRebind system id tun operation).2 := by
  have called := modifyTun_keepsPdevs system id fun linked =>
    { linked with tundata := (callTunnel operation tun.tundata).2 }
  unfold requestRebind
  simp only
  split
  · exact called.trans (crsendTun_keepsPdevs _ id .rebind)
  · exact called

theorem ldtTunRebind_keepsPdevs (system : System) (id : NdevId) (tun : LdtTun) (flags : Nat)
    (stack : TpAddr) : KeepsPdevs system (ldtTunRebind system id tun flags stack).2 := by
  unfold ldtTunRebind
  split
  · exact KeepsPdevs.refl system
  · split
    · exact ⟨rfl, rfl⟩
    · split
      · exact KeepsPdevs.refl system
      · split
        · exact ⟨rfl, rfl⟩
        · exact requestRebind_keepsPdevs system id tun _

theorem ldtDevBind_keepsPdevs (system : System) (id : NdevId) (tdev : LdtDev)
    (laddr : TpAddr) : KeepsPdevs system (ldtDevBind system id tdev laddr).2 := by
  unfold ldtDevBind
  split
  · exact KeepsPdevs.refl system
  · unfold ldtTunBind
    split
    · exact requestRebind_keepsPdevs system id tdev.tun _
    · exact KeepsPdevs.refl system

theorem ldtDevPeer_keepsPdevs (system : System) (id : NdevId) (tdev : LdtDev)
    (raddr : Option TpAddr) : KeepsPdevs system (ldtDevPeer system id tdev raddr).2 := by
  unfold ldtDevPeer
  split
  · exact KeepsPdevs.refl system
  · split
    · exact requestRebind_keepsPdevs system id tdev.tun _
    · exact KeepsPdevs.refl system

theorem requestQuiet_keepsPdevs (system : System) (id : NdevId) (tdev : LdtDev)
    (operation : Connection.ConnState → Int × Connection.ConnState) :
    KeepsPdevs system (requestQuiet system id tdev operation).2 := by
  unfold requestQuiet
  split
  · exact KeepsPdevs.refl system
  · split
    · exact modifyTun_keepsPdevs system id fun tun =>
        { tun with tundata := (callTunnel operation tdev.tun.tundata).2 }
    · exact KeepsPdevs.refl system

theorem ldtDevServerstart_keepsPdevs (system : System) (id : NdevId) (tdev : LdtDev) :
    KeepsPdevs system (ldtDevServerstart system id tdev).2 :=
  requestQuiet_keepsPdevs system id tdev _

theorem ldtDevSetqueue_keepsPdevs (system : System) (id : NdevId) (tdev : LdtDev)
    (txlen qpolicy txqlenRet qpolicyRet : Int) :
    KeepsPdevs system
      (ldtDevSetqueue system id tdev txlen qpolicy txqlenRet qpolicyRet).2 :=
  requestQuiet_keepsPdevs system id tdev _

theorem ldtDevEvsend_keepsPdevs (system : System) (id : NdevId) (tdev : LdtDev)
    (evtype reason : Int) :
    KeepsPdevs system (ldtDevEvsend system id tdev evtype reason).2 := by
  unfold ldtDevEvsend
  split
  · exact KeepsPdevs.refl system
  · split
    · exact KeepsPdevs.refl system
    all_goals exact ldtEventCrsend_keepsPdevs ..

theorem tpdevNdevup_keepsPdevs (system : System) (id : NdevId) (tdev : LdtDev)
    (stack : TpAddr) : KeepsPdevs system (tpdevNdevup system id tdev stack).2 := by
  have rebound :=
    ldtTunRebind_keepsPdevs system id tdev.tun LDT_TUN_BIND_F_ADDRCHG stack
  unfold tpdevNdevup
  split
  · exact KeepsPdevs.refl system
  · simp only
    split
    · exact rebound
    · apply rebound.trans
      have up := modifyTun_keepsPdevs
        (ldtTunRebind system id tdev.tun LDT_TUN_BIND_F_ADDRCHG stack).2 id fun tun =>
          { tun with pdevdown := false }
      exact up.trans (crsendTun_keepsPdevs _ id .pdevup)

theorem tpdevNdevdown_keepsPdevs (system : System) (id : NdevId) (tdev : LdtDev) :
    KeepsPdevs system (tpdevNdevdown system id tdev).2 := by
  unfold tpdevNdevdown
  split
  · exact KeepsPdevs.refl system
  · have down := modifyTun_keepsPdevs system id fun tun => { tun with pdevdown := true }
    exact down.trans (crsendTun_keepsPdevs _ id .pdevdown)

theorem tunWork_keepsPdevs {hz : Nat} {system next : System} {id : NdevId} {tdev : LdtDev}
    {label : Connection.Label} (worked : tunWork hz system id tdev label = some next) :
    KeepsPdevs system next := by
  unfold tunWork at worked
  split at worked
  · split at worked
    · contradiction
    · rename_i state _
      have changed := modifyTun_keepsPdevs system id fun tun =>
        { tun with tundata := some state }
      simp only at worked
      split at worked
      · obtain rfl := Option.some.inj worked
        exact changed
      · obtain rfl := Option.some.inj worked
        exact changed.trans (ldtEventCrsend_keepsPdevs ..)
  · contradiction

/-- The references that no device stores are those in `own`. -/
def AccountsFor (state : RefState) (own : List NdevId) : Prop :=
  Accounts state.log (pdevOf state.system) state.system.nextNdev own

/-- No reference is left over unless a fault has ended the run. -/
def Settled (state : RefState) : Prop :=
  ∃ own, AccountsFor state own ∧ (state.system.fault = none → own = [])

theorem AccountsFor.settled {state : RefState} (accounts : AccountsFor state []) :
    Settled state :=
  ⟨[], accounts, fun _ => rfl⟩

theorem balanced_of_settled {state : RefState} (settled : Settled state) : Balanced state := by
  obtain ⟨own, accounts, handedBack⟩ := settled
  refine ⟨accounts.covered, ?_⟩
  intro faultless id
  have exact := accounts.exact id
  rw [handedBack faultless, List.count_nil] at exact
  exact exact

theorem AccountsFor.keepsPdevs {state : RefState} {own : List NdevId} {next : System}
    (accounts : AccountsFor state own) (keeps : KeepsPdevs state.system next) :
    AccountsFor { state with system := next } own := by
  unfold AccountsFor
  rw [keeps.pdevs, keeps.nextNdev]
  exact accounts

theorem AccountsFor.devPutAfter {state : RefState} {id : NdevId}
    (accounts : AccountsFor state [id]) : Settled (devPutAfter state id) := by
  unfold DeviceReference.devPutAfter
  split
  · rename_i faulty
    refine ⟨[id], accounts, ?_⟩
    intro faultless
    simp [faultless] at faulty
  · exact AccountsFor.settled (Accounts.put accounts)

/-- A handler settles what it has taken if the operation hands back the reference of the
handler alone. -/
theorem ldtNlOnDev_settled {operation : RefState → NdevId → LdtDev → Int × RefState}
    {state : RefState} {net : NetId} {name : List UInt8}
    (spec : ∀ held id tdev, held.system = state.system →
      ldtdev held.system id = some tdev → AccountsFor held [id] →
        AccountsFor (operation held id tdev).2 [id])
    (accounts : AccountsFor state []) :
    Settled (ldtNlOnDev operation state net name).2 := by
  unfold ldtNlOnDev ldtdevByname
  cases devGetByName state.system net name with
  | none => exact accounts.settled
  | some id =>
      have held : AccountsFor (devHold state id) [id] := Accounts.get accounts id
      simp only
      cases found : ldtdev (devHold state id).system id with
      | none => exact AccountsFor.settled (Accounts.put held)
      | some tdev => exact (spec (devHold state id) id tdev rfl found held).devPutAfter

theorem onSystem_settled {operation : System → NdevId → LdtDev → Int × System}
    {state : RefState} {net : NetId} {name : List UInt8}
    (keeps : ∀ system id tdev, KeepsPdevs system (operation system id tdev).2)
    (accounts : AccountsFor state []) :
    Settled (ldtNlOnDev (onSystem operation) state net name).2 := by
  apply ldtNlOnDev_settled _ accounts
  intro held id tdev _ _ heldAccounts
  exact heldAccounts.keepsPdevs (keeps held.system id tdev)

/-- Binding a device stores the physical one. -/
theorem pdevOf_ldtDevBind2dev {system : System} {id ndev : NdevId} {tdev : LdtDev}
    {dev : List UInt8} (found : ldtdev system id = some tdev) (active : tdev.active = true)
    (known : devGetByName system (system.netdev id).net dev = some ndev) (stack : TpAddr) :
    pdevOf (ldtDevBind2dev system id tdev dev stack).2 =
        Function.update (pdevOf system) id (some ndev) ∧
      (ldtDevBind2dev system id tdev dev stack).2.nextNdev = system.nextNdev := by
  have stored : pdevOf (modifyLdt system id fun tdev => { tdev with pdev := some ndev }) =
      Function.update (pdevOf system) id (some ndev) := by
    simp only [ldtdev] at found
    split at found
    · rename_i registered
      rw [modifyLdt, pdevOf_modifyNetdev]
      simp [pdevOfNetdev, registered, found]
    · contradiction
  have rebound := ldtTunRebind_keepsPdevs
    (modifyLdt system id fun tdev => { tdev with pdev := some ndev }) id tdev.tun 0 stack
  have finished := rebound.trans (modifyTun_keepsPdevs _ id fun tun =>
    { tun with pdevdown := false })
  simp only [ldtDevBind2dev, known, active, Bool.not_true, Bool.false_eq_true, if_false]
  exact ⟨finished.pdevs.trans stored, finished.nextNdev⟩

theorem ldtDevBind2devRef_accounts {state : RefState} {id : NdevId} {tdev : LdtDev}
    (wf : Wf state.system) (found : ldtdev state.system id = some tdev) (dev : List UInt8)
    (stack : TpAddr) (accounts : AccountsFor state [id]) :
    AccountsFor (ldtDevBind2devRef dev stack state id tdev).2 [id] := by
  unfold ldtDevBind2devRef
  cases known : devGetByName state.system (state.system.netdev id).net dev with
  | none => exact accounts
  | some ndev =>
      have active := wf.active_of_ldtdev found
      have below := (wf id _ (core_of_ldtdev found)).below
      have pdevEq := pdevOf_of_ldtdev found
      obtain ⟨pdevs, nextNdev⟩ := pdevOf_ldtDevBind2dev found active known stack
      have held : AccountsFor (devHold state ndev) [ndev, id] := Accounts.get accounts ndev
      simp only [active, Bool.not_true, Bool.false_eq_true, if_false]
      unfold AccountsFor at held ⊢
      cases stored : tdev.pdev with
      | none =>
          rw [stored] at pdevEq
          simp only [onSystem, devHold] at held ⊢
          rw [pdevs, nextNdev]
          exact held.store below pdevEq
      | some old =>
          rw [stored] at pdevEq
          have released := (held.unstore below pdevEq).put
          have emptied : Function.update (pdevOf (devHold state ndev).system) id none id =
              none := Function.update_self ..
          have replaced := released.store below emptied
          rw [Function.update_idem] at replaced
          simp only [onSystem, devHold, devPut] at replaced ⊢
          rw [pdevs, nextNdev]
          exact replaced

theorem tpEvNotifyRef_settled {state : RefState} {ndev : NdevId} {type : EvType}
    {notice : System → NdevId → LdtDev → Int × System}
    (keeps : ∀ system id tdev, KeepsPdevs system (notice system id tdev).2)
    (accounts : AccountsFor state []) :
    Settled (tpEvNotifyRef state ndev type notice) := by
  have noticed := accounts.keepsPdevs
    (ldtEventCrsend_keepsPdevs state.system type.num (.ndev ndev) 0 none)
  unfold tpEvNotifyRef
  simp only
  split
  · exact noticed.settled
  · rename_i id _
    split
    · exact noticed.settled
    · have held : AccountsFor (devHold { state with
          system := (ldtEventCrsend state.system type.num (.ndev ndev) 0 none).2 } id) [id] :=
        Accounts.get noticed id
      exact (held.keepsPdevs (keeps _ _ _)).devPutAfter

theorem system_devPutAfter (state : RefState) (id : NdevId) :
    (devPutAfter state id).system = state.system := by
  unfold devPutAfter
  split <;> rfl

/-- The notifications are those of the devices without the ledger. -/
theorem system_tpEvNotifyRef (state : RefState) (ndev : NdevId) (type : EvType)
    (notice : System → NdevId → LdtDev → Int × System) :
    (tpEvNotifyRef state ndev type notice).system =
      tpEvNotify state.system ndev type notice := by
  unfold tpEvNotifyRef tpEvNotify
  simp only
  cases tpEvFind (ldtEventCrsend state.system type.num (.ndev ndev) 0 none).2 ndev with
  | none => rfl
  | some id =>
      simp only
      cases ldtdev (ldtEventCrsend state.system type.num (.ndev ndev) 0 none).2 id with
      | none => rfl
      | some tdev =>
          simp only [system_devPutAfter]
          rfl

/-- Nobody is told that a device goes down which no ldt device is bound to. -/
theorem tpEvDownRef_of_unheld {system : System} {id : NdevId} (log : List (Entry NdevId))
    (unheld : ∀ other tdev, ldtdev system other = some tdev → tdev.pdev ≠ some id) :
    tpEvDownRef ⟨system, log⟩ id = ⟨tpEvDown system id, log⟩ ∧
      KeepsPdevs system (tpEvDown system id) := by
  have noticed := ldtEventCrsend_keepsPdevs system EvType.nifdown.num (.ndev id) 0 none
  have unbound :
      tpEvFind (ldtEventCrsend system EvType.nifdown.num (.ndev id) 0 none).2 id = none := by
    obtain ⟨sent, fault, sentEq⟩ := exists_ldtEventCrsend system EvType.nifdown.num
      (.ndev id) 0 none
    apply tpEvFind_eq_none
    rw [sentEq]
    exact unheld
  constructor
  · simp only [tpEvDownRef, tpEvNotifyRef, tpEvDown, tpEvNotify, unbound]
  · simp only [tpEvDown, tpEvNotify, unbound]
    exact noticed

theorem stopDev_keepsPdevs (system : System) (id : NdevId) :
    KeepsPdevs system (stopDev system id) := by
  apply KeepsPdevs.trans
  · exact modifyLdt_keepsPdevs system id (fun tdev => { tdev with active := false })
      fun _ => rfl
  · exact ldtEventCrsend_keepsPdevs ..

/-- Unregistering a device that is not bound to a physical one. -/
theorem unregister_keepsPdevs {system : System} {id : NdevId}
    (unbound : pdevOf system id = none) :
    KeepsPdevs system (modifyNetdev (ldtRmTun2 system id) id fun ndev =>
      { ndev with registered := false }) := by
  have removed := ldtRmTun2_keepsPdevs system id
  apply removed.trans
  apply modifyNetdev_keepsPdevs
  have still : pdevOf (ldtRmTun2 system id) id = none := by rw [removed.pdevs, unbound]
  simpa [pdevOf, pdevOfNetdev] using still.symm

theorem ldtFreeDevRef_spec {state next : RefState} {id : NdevId} {tdev : LdtDev}
    (wf : Wf state.system) (found : ldtdev state.system id = some tdev)
    (unbound : tdev.pdev = none) (accounts : AccountsFor state [id])
    (freed : ldtFreeDevRef state id tdev true = some next) :
    AccountsFor next [] ∧ heldAsPdev state.system id = false ∧
      next.system = ldtFreeDev state.system id tdev := by
  have active := wf.active_of_ldtdev found
  have pdevEq : pdevOf state.system id = none := by rw [pdevOf_of_ldtdev found, unbound]
  have stopped := stopDev_keepsPdevs state.system id
  have stoppedAccounts :
      AccountsFor (devPut { state with system := stopDev state.system id } id) [] :=
    Accounts.put (accounts.keepsPdevs stopped)
  simp only [ldtFreeDevRef, active, Bool.not_true, Bool.false_eq_true, if_false,
    Option.ite_none_left_eq_some, Bool.not_eq_true, Option.some.injEq, if_true] at freed
  obtain ⟨unheld, rfl⟩ := freed
  simp only [ldtFreeDev, active, Bool.not_true, Bool.false_eq_true, if_false]
  by_cases up : ((stopDev state.system id).netdev id).iffUp = true
  · have closed := modifyNetdev_keepsPdevs (stopDev state.system id) id
      (fun ndev => { ndev with iffUp := false }) rfl
    obtain ⟨downEq, down⟩ := tpEvDownRef_of_unheld (state.log ++ [.put id])
      (unheld_stopDev wf found unheld)
    have removed := (stopped.trans closed).trans down
    have gone := unregister_keepsPdevs (removed.pdevs ▸ pdevEq)
    simp only [devPut, up, if_true, downEq]
    have freed := stoppedAccounts.keepsPdevs ((closed.trans down).trans gone)
    exact ⟨freed, unheld, trivial⟩
  · have gone := unregister_keepsPdevs (stopped.pdevs ▸ pdevEq)
    simp only [devPut, up]
    exact ⟨stoppedAccounts.keepsPdevs gone, unheld, rfl⟩

end Tunprox.DeviceReference
