import Mathlib.Data.List.Nodup
import Mathlib.Data.List.Perm.Basic
import Tunprox.DevicePointer
import Tunprox.Rebind

/-!
# Physical devices that go down and up

`tp_ev_down` and `tp_ev_up` go through the network devices for one that is bound to the
physical device, leave the loop at the first one and notice the change there.  Nothing
keeps several devices from being bound to the same one: the others, and a device behind
one that is not active, are not processed.  The notice about a device that comes up does
not depend on whether its tunnel could be bound again.
-/

namespace Tunprox.PdevNotice

open Errno LabelledRun Event Device DeviceStep DevicePointer DeviceRequest Rebind
open Connection (ConnState mpdccptunBind)

/-- What the loop looks for: an ldt device in the namespace of the physical one that is
bound to it. -/
def attached (system : System) (ndev id : NdevId) : Bool :=
  (system.netdev id).net == (system.netdev ndev).net &&
    match ldtdev system id with
    | none => false
    | some tdev => tdev.pdev == some ndev

/-- `DEV_OK` -/
def devOk (system : System) (id : NdevId) : Bool :=
  match ldtdev system id with
  | none => false
  | some tdev => tdev.active

/-- The active devices that are bound to the physical one. -/
def boundDevices (system : System) (ndev : NdevId) : List NdevId :=
  (List.range system.nextNdev).filter fun id => attached system ndev id && devOk system id

/-- The event of a device about the physical one it is bound to. -/
def pdevEvent (system : System) (ndev : NdevId) (type : EvType) (id : NdevId) : NlEvent where
  net := some (system.netdev id).net
  evtype := type.num
  text := { (evSearch type.num).text with
    iface := some (system.netdev id).name
    pdev := some (system.netdev ndev).name }

/-- The tunnel is told that the physical device is down. -/
def WentDown (tun next : LdtTun) : Prop :=
  next = { tun with pdevdown := true }

/-- `tp_bind` has bound the tunnel again: it has accepted the address, which is the local one
now with the port the tunnel had, and a socket that was bound is to be bound again. -/
structure BoundAgain (state : ConnState) (addr : TpAddr) (after : ConnState) : Prop where
  running : state.tdat.tostop = false
  accepted : mpdccptunBind state (some addr) LDT_TUN_BIND_F_ADDRCHG = (0, after)
  laddr : after.tdat.addr.laddr = { addr with sinPort := state.tdat.addr.laddr.sinPort }
  rebind : state.tdat.bound = true → after.tdat.rebind = true

/-- The tunnel, if there is one, is bound again to an address of the physical device, and
told that the device is up. -/
def CameUp (pdev : NetDevice) (tun next : LdtTun) : Prop :=
  match tun.tunops with
  | none => next = { tun with pdevdown := false }
  | some tunops =>
      ∃ addr state after, FromDevice pdev tunops.ipv6 addr ∧ tun.tundata = some state ∧
        BoundAgain state addr after ∧
        next = { tun with tundata := some after, pdevdown := false }

/-- Every active device that is bound to the physical one has been changed and has sent
its event once, and no other device is changed. -/
structure Noticed (system next : System) (ndev : NdevId) (type : EvType)
    (Change : LdtTun → LdtTun → Prop) : Prop where
  processed : ∀ id ∈ boundDevices system ndev, ∃ tun, Change (tunOf system id) tun ∧
    next.netdev id = withTun (system.netdev id) tun
  others : ∀ id, id ∉ boundDevices system ndev → next.netdev id = system.netdev id
  events : ∃ sent, next.sent = system.sent ++ sent ∧
    (sent.filter fun event => event.evtype == (type.num : Int)).Perm
      ((boundDevices system ndev).map (pdevEvent system ndev type))

/-- No device that is bound to the physical one stands before it in the list. -/
def First (system : System) (ndev id : NdevId) : Prop :=
  ∀ earlier < id, attached system ndev earlier = false

/-- The physical device has an address of the family. -/
def HasAddr (pdev : NetDevice) (ipv6 : Bool) : Prop :=
  ∃ addr rest, addrList pdev ipv6 = some (addr :: rest)

/-- The tunnel is not being removed, has been bound before, and its addresses have the
family. -/
structure Bindable (state : ConnState) (ipv6 : Bool) : Prop where
  running : state.tdat.tostop = false
  bound : state.tdat.addr.bound = true
  raddr : state.tdat.addr.raddr.saFamily = if ipv6 then AF_INET6 else AF_INET
  laddr : state.tdat.addr.laddr.saFamily = if ipv6 then AF_INET6 else AF_INET

/-- The tunnel points to its device, and if there is one to bind again, the physical device
has an address for it and it can be bound. -/
def Rebindable (pdev : NetDevice) (tun : LdtTun) : Prop :=
  tun.tdev ≠ none ∧ ∀ tunops, tun.tunops = some tunops →
    HasAddr pdev tunops.ipv6 ∧
      ∃ state, tun.tundata = some state ∧ Bindable state tunops.ipv6

/-- A tunnel points to its own device or nowhere. -/
def Homed (system : System) : Prop :=
  ∀ id tdev, ldtdev system id = some tdev →
    tdev.tun.tdev = none ∨ tdev.tun.tdev = some id

theorem homed_of_wf {system : System} (wf : Wf system) : Homed system :=
  fun id _ found => (wf id _ (core_of_ldtdev found)).own

theorem homed_of_run {hz : Nat} {labels : List Label} {system : System}
    (ran : run (step hz) boot labels = some system) : Homed system :=
  homed_of_wf (wf_of_run ran)

theorem mem_boundDevices {system : System} {ndev id : NdevId} :
    id ∈ boundDevices system ndev ↔
      id < system.nextNdev ∧ attached system ndev id = true ∧ devOk system id = true := by
  simp only [boundDevices, List.mem_filter, List.mem_range, Bool.and_eq_true]

theorem nodup_boundDevices (system : System) (ndev : NdevId) :
    (boundDevices system ndev).Nodup :=
  List.nodup_range.filter _

/-- The loop ends at the first device that is bound to the physical one. -/
theorem tpEvFind_eq_some {system : System} {ndev id : NdevId}
    (search : tpEvFind system ndev = some id) :
    id < system.nextNdev ∧ attached system ndev id = true ∧ First system ndev id := by
  have range : (List.range system.nextNdev).find? (attached system ndev) = some id := search
  obtain ⟨accepted, below, rejected⟩ := List.find?_range_eq_some.mp range
  refine ⟨List.mem_range.mp below, accepted, ?_⟩
  intro earlier before
  simpa using rejected earlier before

/-- A device that the loop has not reached has the one that was found before it. -/
theorem eq_of_first {system : System} {ndev id other : NdevId}
    (search : tpEvFind system ndev = some id) (bound : other ∈ boundDevices system ndev)
    (first : First system ndev other) : other = id := by
  obtain ⟨-, accepted, before⟩ := tpEvFind_eq_some search
  obtain ⟨-, attachedOther, -⟩ := mem_boundDevices.mp bound
  rcases Nat.lt_trichotomy other id with lower | same | higher
  · rw [before other lower] at attachedOther
    contradiction
  · exact same
  · rw [first id higher] at accepted
    contradiction

theorem boundDevices_eq_nil {system : System} {ndev : NdevId}
    (search : tpEvFind system ndev = none) : boundDevices system ndev = [] := by
  rw [List.eq_nil_iff_forall_not_mem]
  intro id bound
  obtain ⟨below, accepted, -⟩ := mem_boundDevices.mp bound
  exact List.find?_eq_none.mp search id (List.mem_range.mpr below) accepted

theorem boundDevices_eq_singleton {system : System} {ndev id : NdevId}
    (bound : id ∈ boundDevices system ndev)
    (only : ∀ other ∈ boundDevices system ndev, other = id) :
    boundDevices system ndev = [id] := by
  apply List.perm_singleton.mp
  rw [List.perm_ext_iff_of_nodup (nodup_boundDevices system ndev) (List.nodup_singleton id)]
  intro other
  rw [List.mem_singleton]
  exact ⟨only other, fun same => same ▸ bound⟩

theorem ldtEventGetinfo_eq_evSearch (type : EvType) :
    ldtEventGetinfo type.num = .ok (evSearch type.num) ∧
      (evSearch type.num).kind = type.kind := by
  cases type <;> exact ⟨rfl, rfl⟩

/-- The event about a network device that has gone up or down. -/
theorem ldtEventCrsend_ndev (system : System) {type : EvType} (kind : type.kind = .ndev)
    (ndev : NdevId) :
    (ldtEventCrsend system type.num (.ndev ndev) 0 none).2 =
      { system with sent := system.sent ++
        [⟨some (system.netdev ndev).net, type.num, { (evSearch type.num).text with
          iface := some (system.netdev ndev).name }⟩] } := by
  obtain ⟨info, infoKind⟩ := ldtEventGetinfo_eq_evSearch type
  rw [kind] at infoKind
  simp only [ldtEventCrsend, info, infoKind, ldtEventSend]

/-- The event of a device about the physical one needs the pointer of the tunnel. -/
theorem crsendTun_tun (system : System) {type : EvType} (kind : type.kind = .tun)
    (id : NdevId) :
    crsendTun system id type =
      match (tunOf system id).tdev with
      | none => { system with fault := some .tunTdev }
      | some tdev => { system with sent := system.sent ++
          [⟨some (system.netdev tdev).net, type.num, { (evSearch type.num).text with
            iface := some (system.netdev tdev).name
            pdev := pdevName system tdev }⟩] } := by
  obtain ⟨info, infoKind⟩ := ldtEventGetinfo_eq_evSearch type
  rw [kind] at infoKind
  cases pointer : (tunOf system id).tdev with
  | none => simp only [crsendTun, ldtEventCrsend, info, infoKind, crsendThroughTdev, pointer]
  | some tdev =>
      simp only [crsendTun, ldtEventCrsend, info, infoKind, crsendThroughTdev, pointer,
        ldtEventSend]

/-- The device has been changed and has sent its event, among others of other types. -/
structure Handled (system next : System) (ndev id : NdevId) (type : EvType)
    (Change : LdtTun → LdtTun → Prop) : Prop where
  processed : ∃ tun, Change (tunOf system id) tun ∧
    next.netdev = Function.update system.netdev id (withTun (system.netdev id) tun)
  events : ∃ sent, next.sent = system.sent ++ sent ∧
    (sent.filter fun event => event.evtype == (type.num : Int)) =
      [pdevEvent system ndev type id]

/-- No event of the type has been sent. -/
def Silent (system next : System) (type : EvType) : Prop :=
  ∃ sent, next.sent = system.sent ++ sent ∧
    (sent.filter fun event => event.evtype == (type.num : Int)) = []

/-- With its pointer the tunnel sends the event about the physical device. -/
theorem crsendTun_pdev {system : System} {type : EvType} (kind : type.kind = .tun)
    {ndev id : NdevId} (pointed : (tunOf system id).tdev = some id)
    (bound : (system.netdev id).ldt.bind LdtDev.pdev = some ndev) :
    crsendTun system id type =
      { system with sent := system.sent ++ [pdevEvent system ndev type id] } := by
  rw [crsendTun_tun system kind, pointed]
  simp only [pdevName, bound, Option.map_some, pdevEvent]

theorem crsendTun_of_null {system : System} {type : EvType} (kind : type.kind = .tun)
    {id : NdevId} (null : (tunOf system id).tdev = none) :
    crsendTun system id type = { system with fault := some .tunTdev } := by
  rw [crsendTun_tun system kind, null]

/-- The names in the event are not the concern of the tunnels. -/
theorem pdevEvent_withTun {system next : System} {changed : NdevId} {tun : LdtTun}
    (netdev : next.netdev =
      Function.update system.netdev changed (withTun (system.netdev changed) tun))
    (ndev : NdevId) (type : EvType) (id : NdevId) :
    pdevEvent next ndev type id = pdevEvent system ndev type id := by
  have same : ∀ other, (next.netdev other).net = (system.netdev other).net ∧
      (next.netdev other).name = (system.netdev other).name := by
    intro other
    rw [netdev]
    by_cases equal : other = changed
    · subst equal
      rw [Function.update_self]
      exact ⟨rfl, rfl⟩
    · rw [Function.update_of_ne equal]
      exact ⟨rfl, rfl⟩
  simp only [pdevEvent, (same _).1, (same _).2]

theorem bound_modifyTun (system : System) (id : NdevId) (change : LdtTun → LdtTun) :
    ((modifyTun system id change).netdev id).ldt.bind LdtDev.pdev =
      (system.netdev id).ldt.bind LdtDev.pdev := by
  simp only [netdev_modifyTun, Function.update_self, withTun]
  cases (system.netdev id).ldt with
  | none => rfl
  | some tdev => rfl

/-- `pdevdown` is set or cleared, and the event is sent, if the tunnel has its pointer. -/
theorem crsendTun_modifyTun {system : System} {ndev id : NdevId} {tdev : LdtDev}
    {type : EvType} (kind : type.kind = .tun) (found : ldtdev system id = some tdev)
    (bound : tdev.pdev = some ndev) (pointed : tdev.tun.tdev = some id)
    {change : LdtTun → LdtTun} (pointer : (change tdev.tun).tdev = tdev.tun.tdev) :
    crsendTun (modifyTun system id change) id type =
      { modifyTun system id change with
        sent := system.sent ++ [pdevEvent system ndev type id] } := by
  have changedPointed : (tunOf (modifyTun system id change) id).tdev = some id := by
    rw [tunOf_modifyTun found, pointer, pointed]
  have changedBound :
      ((modifyTun system id change).netdev id).ldt.bind LdtDev.pdev = some ndev := by
    rw [bound_modifyTun, ldt_of_ldtdev found]
    exact bound
  rw [crsendTun_pdev kind changedPointed changedBound,
    pdevEvent_withTun (netdev_modifyTun system id change)]
  rfl

theorem tpdevNdevdown_handled {system : System} {ndev id : NdevId} {tdev : LdtDev}
    (found : ldtdev system id = some tdev) (active : tdev.active = true)
    (bound : tdev.pdev = some ndev) (pointed : tdev.tun.tdev = some id) :
    Handled system (tpdevNdevdown system id tdev).2 ndev id .pdevdown WentDown := by
  unfold tpdevNdevdown
  simp only [active, Bool.not_true, Bool.false_eq_true, if_false]
  rw [crsendTun_modifyTun rfl found bound pointed rfl]
  have changed := netdev_modifyTun system id fun tun => { tun with pdevdown := true }
  refine ⟨⟨_, rfl, changed⟩, ⟨_, rfl, ?_⟩⟩
  rw [List.filter_singleton]
  rfl

theorem tpdevNdevdown_silent {system : System} {id : NdevId} {tdev : LdtDev}
    (found : ldtdev system id = some tdev) (active : tdev.active = true)
    (null : tdev.tun.tdev = none) :
    Silent system (tpdevNdevdown system id tdev).2 .pdevdown := by
  unfold tpdevNdevdown
  simp only [active, Bool.not_true, Bool.false_eq_true, if_false]
  rw [crsendTun_of_null rfl (by rw [tunOf_modifyTun found, null])]
  exact ⟨[], (List.append_nil _).symm, rfl⟩

/-- Only a tunnel that has been bound takes another address, and keeps its port. -/
theorem ldtTunaddrBind_addrchg (tad : TunAddr) (addr : TpAddr) :
    ldtTunaddrBind tad addr LDT_TUN_BIND_F_ADDRCHG =
      if addr.saFamily ≠ tad.raddr.saFamily then (-EINVAL, tad)
      else if tad.bound then
        (0, { tad with
          laddr := tpAddrCpiponly tad.laddr addr
          anyladdr := tpAddrIsany addr
          bound := true })
      else (-ENOENT, tad) := by
  have flag : LDT_TUN_BIND_F_ADDRCHG &&& LDT_TUN_BIND_F_ADDRCHG ≠ 0 := by decide
  unfold ldtTunaddrBind
  rw [if_pos flag]
  cases tad.bound with
  | false => rfl
  | true => rfl

/-- A tunnel that can be bound is bound again to an address of its family. -/
theorem Bindable.boundAgain {state : ConnState} {ipv6 : Bool} (bindable : Bindable state ipv6)
    {addr : TpAddr} (family : addr.saFamily = if ipv6 then AF_INET6 else AF_INET) :
    BoundAgain state addr
      (mpdccptunBind state (some addr) LDT_TUN_BIND_F_ADDRCHG).2 := by
  have sameRaddr : ¬ addr.saFamily ≠ state.tdat.addr.raddr.saFamily := by
    rw [not_not, family, bindable.raddr]
  have sameLaddr : ¬ state.tdat.addr.laddr.saFamily ≠ addr.saFamily := by
    rw [not_not, family, bindable.laddr]
  have known : state.tdat.addr.laddr.isIpv6 = true ∨ state.tdat.addr.laddr.isIpv4 = true := by
    simp only [TpAddr.isIpv6, TpAddr.isIpv4, bindable.laddr]
    cases ipv6 with
    | true => exact .inl rfl
    | false => exact .inr rfl
  have copied : tpAddrCpiponly state.tdat.addr.laddr addr =
      { addr with sinPort := state.tdat.addr.laddr.sinPort } := by
    rw [tpAddrCpiponly, if_neg sameLaddr, if_pos known, ← not_not.mp sameLaddr]
  have stored := ldtTunaddrBind_addrchg state.tdat.addr addr
  rw [if_neg sameRaddr, if_pos bindable.bound, copied] at stored
  unfold mpdccptunBind
  simp only [bindable.running, Bool.false_eq_true, if_false, stored, Int.lt_irrefl]
  refine ⟨bindable.running, ?_, ?_, ?_⟩
  · simp only [mpdccptunBind, bindable.running, Bool.false_eq_true, if_false, stored,
      Int.lt_irrefl]
    split_ifs <;> rfl
  · split_ifs <;> rfl
  · intro wasBound
    simp only [wasBound, Bool.or_true]
    split_ifs <;> rfl

/-- No other tunnel is bound again. -/
theorem BoundAgain.bindable {state after : ConnState} {addr : TpAddr} {ipv6 : Bool}
    (again : BoundAgain state addr after)
    (family : addr.saFamily = if ipv6 then AF_INET6 else AF_INET) : Bindable state ipv6 := by
  obtain ⟨running, accepted, laddr, -⟩ := again
  simp only [mpdccptunBind, running, Bool.false_eq_true, if_false, ldtTunaddrBind_addrchg]
    at accepted
  by_cases foreign : addr.saFamily ≠ state.tdat.addr.raddr.saFamily
  · have negative : -EINVAL < 0 := by decide
    rw [if_pos foreign] at accepted
    simp only [if_pos negative] at accepted
    exact absurd (Prod.mk.inj accepted).1 (by decide)
  rw [if_neg foreign] at accepted
  cases bound : state.tdat.addr.bound with
  | false =>
      have negative : -ENOENT < 0 := by decide
      simp only [bound, Bool.false_eq_true, if_false, if_pos negative] at accepted
      exact absurd (Prod.mk.inj accepted).1 (by decide)
  | true =>
      refine ⟨running, bound, (not_not.mp foreign).symm.trans family, ?_⟩
      rw [← family]
      by_contra different
      -- the address is not stored, and the local one would have its family
      have stays : tpAddrCpiponly state.tdat.addr.laddr addr = state.tdat.addr.laddr := by
        rw [tpAddrCpiponly, if_pos different]
      have kept : after.tdat.addr.laddr = state.tdat.addr.laddr := by
        simp only [bound, if_true, stays, Int.lt_irrefl, if_false] at accepted
        split_ifs at accepted <;> rw [← (Prod.mk.inj accepted).2]
      rw [kept] at laddr
      have sameFamily := congrArg TpAddr.saFamily laddr
      exact different sameFamily

/-- With its pointer and an address for it, the tunnel is bound again. -/
theorem ldtTunRebind_rebound {system : System} {ndev id : NdevId} {tdev : LdtDev}
    (found : ldtdev system id = some tdev) (bound : tdev.pdev = some ndev)
    (pointed : tdev.tun.tdev = some id)
    (rebindable : Rebindable (system.netdev ndev) tdev.tun) (stack : TpAddr) :
    ∃ tun, CameUp (system.netdev ndev) tdev.tun { tun with pdevdown := false } ∧
      tun.tdev = some id ∧
      Rebound system (ldtTunRebind system id tdev.tun LDT_TUN_BIND_F_ADDRCHG stack).2 id
        tun := by
  have same := tunOf_of_ldtdev found
  unfold ldtTunRebind
  cases ops : tdev.tun.tunops with
  | none =>
      refine ⟨tdev.tun, ?_, pointed, ?_⟩
      · simp only [CameUp, ops]
      · rw [← same]
        exact Rebound.refl system id
  | some tunops =>
      obtain ⟨hasAddr, state, tundata, bindable⟩ := rebindable.2 tunops ops
      obtain ⟨addr, address, fromDevice⟩ := (fromDevice_iff _ _ stack).mpr hasAddr
      have physical : (system.netdev id).ldt.bind LdtDev.pdev = some ndev := by
        rw [ldt_of_ldtdev found]
        exact bound
      simp only [pointed, physical, address]
      have rebound := requestRebind_rebound system id tdev.tun fun state =>
        mpdccptunBind state (some addr) LDT_TUN_BIND_F_ADDRCHG
      rw [same, callTunnel_eq_map, tundata, Option.map_some] at rebound
      refine ⟨{ tdev.tun with
        tundata := some (mpdccptunBind state (some addr) LDT_TUN_BIND_F_ADDRCHG).2 }, ?_,
        pointed, rebound⟩
      simp only [CameUp, ops]
      exact ⟨addr, state, _, fromDevice, tundata, bindable.boundAgain fromDevice.1, rfl⟩

/-- Only a tunnel that can be bound comes up. -/
theorem rebindable_of_cameUp {pdev : NetDevice} {tun next : LdtTun}
    (cameUp : CameUp pdev tun next) (pointed : tun.tdev ≠ none) : Rebindable pdev tun := by
  refine ⟨pointed, ?_⟩
  intro tunops ops
  simp only [CameUp, ops] at cameUp
  obtain ⟨addr, state, after, ⟨family, addrs, listEq, member⟩, tundata, again, -⟩ := cameUp
  refine ⟨?_, state, tundata, again.bindable family⟩
  cases addrs with
  | nil => exact absurd member List.not_mem_nil
  | cons first rest => exact ⟨first, rest, listEq⟩

/-- Without its pointer the tunnel is not bound again. -/
theorem ldtTunRebind_fault {system : System} {id : NdevId} {tun : LdtTun}
    {tunops : LdtTunops} (ops : tun.tunops = some tunops) (null : tun.tdev = none)
    (stack : TpAddr) :
    (ldtTunRebind system id tun LDT_TUN_BIND_F_ADDRCHG stack).2 =
      { system with fault := some .tunTdev } := by
  simp only [ldtTunRebind, ops, null]

theorem tpdevNdevup_handled {system : System} (faultless : system.fault = none)
    {ndev id : NdevId} {tdev : LdtDev} (found : ldtdev system id = some tdev)
    (active : tdev.active = true) (bound : tdev.pdev = some ndev) {stack : TpAddr}
    (rebindable : Rebindable (system.netdev ndev) tdev.tun)
    (homed : tdev.tun.tdev = none ∨ tdev.tun.tdev = some id) :
    Handled system (tpdevNdevup system id tdev stack).2 ndev id .pdevup
      (CameUp (system.netdev ndev)) := by
  have pointed := homed.resolve_left rebindable.1
  obtain ⟨tun, cameUp, tunPointed, rebound⟩ :=
    ldtTunRebind_rebound found bound pointed rebindable stack
  unfold tpdevNdevup
  simp only [active, Bool.not_true, Bool.false_eq_true, if_false]
  generalize ldtTunRebind system id tdev.tun LDT_TUN_BIND_F_ADDRCHG stack = result at rebound ⊢
  obtain ⟨ret, next⟩ := result
  have noFault : ¬ next.fault.isSome = true := by
    rw [rebound.fault, faultless]
    exact Bool.false_ne_true
  simp only [if_neg noFault]
  have nextFound := rebound.ldtdev found
  rw [crsendTun_modifyTun rfl nextFound bound tunPointed rfl,
    pdevEvent_withTun rebound.netdev]
  constructor
  · refine ⟨{ tun with pdevdown := false }, ?_, ?_⟩
    · rw [tunOf_of_ldtdev found]
      exact cameUp
    · have changed := netdev_modifyTun next id fun tun => { tun with pdevdown := false }
      rw [tunOf_of_ldtdev nextFound, rebound.netdev, Function.update_self,
        Function.update_idem, withTun_withTun] at changed
      exact changed
  · obtain ⟨sent, appended, rebinds⟩ := rebound.sent
    refine ⟨sent ++ [pdevEvent system ndev .pdevup id], ?_, ?_⟩
    · rw [← List.append_assoc, ← appended]
    · have others : (sent.filter fun event => event.evtype == (EvType.pdevup.num : Int)) =
          [] := by
        rw [List.filter_eq_nil_iff]
        intro event member
        rw [rebinds event member]
        decide
      rw [List.filter_append, others, List.nil_append, List.filter_singleton]
      rfl

/-- Without its pointer the tunnel does not send the event about the physical device. -/
theorem tpdevNdevup_silent {system : System} (faultless : system.fault = none)
    {id : NdevId} {tdev : LdtDev} (found : ldtdev system id = some tdev)
    (active : tdev.active = true) {stack : TpAddr} (null : tdev.tun.tdev = none) :
    Silent system (tpdevNdevup system id tdev stack).2 .pdevup := by
  unfold tpdevNdevup
  simp only [active, Bool.not_true, Bool.false_eq_true, if_false]
  cases ops : tdev.tun.tunops with
  | none =>
      have noFault : ¬ system.fault.isSome = true := by
        rw [faultless]
        exact Bool.false_ne_true
      simp only [ldtTunRebind_of_tunops_none ops, if_neg noFault]
      rw [crsendTun_of_null rfl (by rw [tunOf_modifyTun found, null])]
      exact ⟨[], (List.append_nil _).symm, rfl⟩
  | some tunops =>
      have faulted := @ldtTunRebind_fault system id tdev.tun tunops ops null stack
      generalize ldtTunRebind system id tdev.tun LDT_TUN_BIND_F_ADDRCHG stack = result
        at faulted ⊢
      obtain ⟨ret, next⟩ := result
      simp only at faulted
      subst faulted
      exact ⟨[], (List.append_nil _).symm, rfl⟩

/-- What the notice of one device does: nothing for one that is not active, and its change and
its event for one that is ready.  For any other it sends nothing of the type, or there is no
change to be made. -/
structure NoticeSpec (system : System) (ndev : NdevId) (type : EvType)
    (notice : System → NdevId → LdtDev → Int × System)
    (Change : LdtTun → LdtTun → Prop) (Ready : LdtTun → Prop) : Prop where
  inactive : ∀ sent id tdev, tdev.active = false →
    (notice { system with sent := sent } id tdev).2 = { system with sent := sent }
  handled : ∀ sent id tdev, ldtdev system id = some tdev → tdev.active = true →
    tdev.pdev = some ndev → Ready tdev.tun →
    Handled { system with sent := sent } (notice { system with sent := sent } id tdev).2
      ndev id type Change
  unready : ∀ sent id tdev, ldtdev system id = some tdev → tdev.active = true →
    ¬ Ready tdev.tun →
    Silent { system with sent := sent } (notice { system with sent := sent } id tdev).2 type ∨
      ∀ next, ¬ Change tdev.tun next

/-- What the loop has found, and what the notice makes of it. -/
theorem tpEvNotify_cases {system : System} {ndev : NdevId} {nif type : EvType}
    {notice : System → NdevId → LdtDev → Int × System}
    {Change : LdtTun → LdtTun → Prop} {Ready : LdtTun → Prop} (kind : nif.kind = .ndev)
    (spec : NoticeSpec system ndev type notice Change Ready) :
    ∃ event : NlEvent, event.evtype = (nif.num : Int) ∧
      ((∀ id ∈ boundDevices system ndev, ¬ First system ndev id) ∧
          tpEvNotify system ndev nif notice =
            { system with sent := system.sent ++ [event] } ∨
        ∃ id ∈ boundDevices system ndev, tpEvFind system ndev = some id ∧
          (Ready (tunOf system id) ∧
              Handled { system with sent := system.sent ++ [event] }
                (tpEvNotify system ndev nif notice) ndev id type Change ∨
            ¬ Ready (tunOf system id) ∧
              (Silent { system with sent := system.sent ++ [event] }
                  (tpEvNotify system ndev nif notice) type ∨
                ∀ tun, ¬ Change (tunOf system id) tun))) := by
  unfold tpEvNotify
  rw [ldtEventCrsend_ndev system kind]
  generalize sentEq : system.sent ++ [(⟨some (system.netdev ndev).net, nif.num,
    { (evSearch nif.num).text with iface := some (system.netdev ndev).name }⟩ : NlEvent)] =
    sent
  refine ⟨⟨some (system.netdev ndev).net, nif.num, { (evSearch nif.num).text with
    iface := some (system.netdev ndev).name }⟩, rfl, ?_⟩
  simp only [sentEq]
  have sameFind : tpEvFind { system with sent := sent } ndev = tpEvFind system ndev := rfl
  simp only [sameFind]
  cases search : tpEvFind system ndev with
  | none =>
      left
      refine ⟨?_, rfl⟩
      intro id bound
      rw [boundDevices_eq_nil search] at bound
      exact absurd bound List.not_mem_nil
  | some id =>
      obtain ⟨below, accepted, first⟩ := tpEvFind_eq_some search
      obtain ⟨tdev, found, bound⟩ := ldtdev_of_tpEvFind search
      have foundNow : ldtdev { system with sent := sent } id = some tdev := found
      simp only [foundNow]
      cases active : tdev.active with
      | false =>
          left
          refine ⟨?_, spec.inactive sent id tdev active⟩
          intro other boundOther firstOther
          obtain rfl := eq_of_first search boundOther firstOther
          obtain ⟨-, -, ok⟩ := mem_boundDevices.mp boundOther
          simp only [devOk, found, active, Bool.false_eq_true] at ok
      | true =>
          right
          have ok : devOk system id = true := by
            simp only [devOk, found, active]
          refine ⟨id, mem_boundDevices.mpr ⟨below, accepted, ok⟩, rfl, ?_⟩
          rw [tunOf_of_ldtdev found]
          by_cases ready : Ready tdev.tun
          · exact .inl ⟨ready, spec.handled sent id tdev found active bound ready⟩
          · exact .inr ⟨ready, spec.unready sent id tdev found active ready⟩

/-- A device for each event of the type. -/
theorem Noticed.length_eq {system next : System} {ndev : NdevId} {type : EvType}
    {Change : LdtTun → LdtTun → Prop} (noticed : Noticed system next ndev type Change)
    {sent : List NlEvent} (appended : next.sent = system.sent ++ sent) :
    (boundDevices system ndev).length =
      (sent.filter fun event => event.evtype == (type.num : Int)).length := by
  obtain ⟨others, othersAppended, perm⟩ := noticed.events
  have same : sent = others := List.append_cancel_left (appended.symm.trans othersAppended)
  rw [same, perm.length_eq, List.length_map]

/-- The event about the physical device is none of those about the tunnels. -/
theorem exists_sent_of_append {system next : System} {event : NlEvent} {nif type : EvType}
    (evtype : event.evtype = (nif.num : Int)) (different : nif.num ≠ type.num)
    {sent : List NlEvent} (appended : next.sent = (system.sent ++ [event]) ++ sent) :
    ∃ all, next.sent = system.sent ++ all ∧
      (all.filter fun event => event.evtype == (type.num : Int)) =
        sent.filter fun event => event.evtype == (type.num : Int) := by
  have unequal : ¬ (nif.num : Int) = (type.num : Int) := by
    exact_mod_cast different
  have otherType : ([event].filter fun event => event.evtype == (type.num : Int)) = [] := by
    rw [List.filter_singleton, evtype, beq_eq_false_iff_ne.mpr unequal]
    rfl
  refine ⟨[event] ++ sent, ?_, ?_⟩
  · rw [appended, List.append_assoc]
  · rw [List.filter_append, otherType, List.nil_append]

/-- One device has been processed: it has to be the only one. -/
theorem noticed_iff_of_handled {system next : System} {ndev id : NdevId} {type : EvType}
    {Change : LdtTun → LdtTun → Prop} {all sent : List NlEvent}
    (bound : id ∈ boundDevices system ndev) (allAppended : next.sent = system.sent ++ all)
    (filtered : (all.filter fun event => event.evtype == (type.num : Int)) =
      sent.filter fun event => event.evtype == (type.num : Int))
    (own : (sent.filter fun event => event.evtype == (type.num : Int)) =
      [pdevEvent system ndev type id])
    (processed : ∃ tun, Change (tunOf system id) tun ∧
      next.netdev = Function.update system.netdev id (withTun (system.netdev id) tun)) :
    Noticed system next ndev type Change ↔
      ∀ other ∈ boundDevices system ndev, other = id := by
  constructor
  · intro noticed
    have one := noticed.length_eq allAppended
    rw [filtered, own, List.length_singleton, List.length_eq_one_iff] at one
    obtain ⟨only, onlyEq⟩ := one
    intro other boundOther
    rw [onlyEq, List.mem_singleton] at bound boundOther
    rw [boundOther, bound]
  · intro only
    have single := boundDevices_eq_singleton bound only
    obtain ⟨tun, changed, netdev⟩ := processed
    refine ⟨?_, ?_, all, allAppended, ?_⟩
    · intro other boundOther
      obtain rfl := only other boundOther
      refine ⟨tun, changed, ?_⟩
      rw [netdev, Function.update_self]
    · intro other unbound
      rw [single, List.mem_singleton] at unbound
      rw [netdev, Function.update_of_ne unbound]
    · rw [filtered, own, single]
      exact List.Perm.refl _

/-- The devices are noticed exactly if each active one that is bound to the physical device
is the first in the list to be bound to it, and ready. -/
theorem noticed_iff {system : System} {ndev : NdevId} {nif type : EvType}
    {notice : System → NdevId → LdtDev → Int × System}
    {Change : LdtTun → LdtTun → Prop} {Ready : LdtTun → Prop} (kind : nif.kind = .ndev)
    (different : nif.num ≠ type.num)
    (spec : NoticeSpec system ndev type notice Change Ready) :
    Noticed system (tpEvNotify system ndev nif notice) ndev type Change ↔
      ∀ id ∈ boundDevices system ndev, First system ndev id ∧ Ready (tunOf system id) := by
  obtain ⟨event, evtype, outcome⟩ := tpEvNotify_cases kind spec
  rcases outcome with ⟨unreached, unchanged⟩ |
    ⟨id, bound, search, ⟨ready, handled⟩ | ⟨unready, silent | unchangeable⟩⟩
  · obtain ⟨all, allAppended, filtered⟩ :=
      @exists_sent_of_append system (tpEvNotify system ndev nif notice) event nif type evtype
        different [] (by rw [unchanged, List.append_nil])
    constructor
    · intro noticed
      have none := noticed.length_eq allAppended
      rw [filtered, List.filter_nil, List.length_nil, List.length_eq_zero_iff] at none
      intro id bound
      rw [none] at bound
      exact absurd bound List.not_mem_nil
    · intro reached
      have none : boundDevices system ndev = [] := by
        rw [List.eq_nil_iff_forall_not_mem]
        intro id bound
        exact unreached id bound (reached id bound).1
      refine ⟨?_, ?_, all, allAppended, ?_⟩
      · intro id bound
        rw [none] at bound
        exact absurd bound List.not_mem_nil
      · intro id _
        rw [unchanged]
      · rw [filtered, none]
        exact List.Perm.nil
  · obtain ⟨sent, appended, own⟩ := handled.events
    obtain ⟨all, allAppended, filtered⟩ := exists_sent_of_append evtype different appended
    obtain ⟨-, -, first⟩ := tpEvFind_eq_some search
    rw [noticed_iff_of_handled bound allAppended filtered own handled.processed]
    constructor
    · intro only other boundOther
      rw [only other boundOther]
      exact ⟨first, ready⟩
    · intro reached other boundOther
      exact eq_of_first search boundOther (reached other boundOther).1
  · obtain ⟨sent, appended, own⟩ := silent
    obtain ⟨all, allAppended, filtered⟩ := exists_sent_of_append evtype different appended
    constructor
    · intro noticed
      have none := noticed.length_eq allAppended
      rw [filtered, own, List.length_nil, List.length_eq_zero_iff] at none
      rw [none] at bound
      exact absurd bound List.not_mem_nil
    · intro reached
      exact absurd (reached id bound).2 unready
  · constructor
    · intro noticed
      obtain ⟨tun, changed, -⟩ := noticed.processed id bound
      exact absurd changed (unchangeable tun)
    · intro reached
      exact absurd (reached id bound).2 unready

theorem tpdevNdevdown_spec {system : System} (homed : Homed system) (ndev : NdevId) :
    NoticeSpec system ndev .pdevdown tpdevNdevdown WentDown fun tun => tun.tdev ≠ none where
  inactive := by
    intro sent id tdev inactive
    simp only [tpdevNdevdown, inactive, Bool.not_false, if_true]
  handled := by
    intro sent id tdev found active bound pointed
    exact tpdevNdevdown_handled found active bound ((homed id tdev found).resolve_left pointed)
  unready := by
    intro sent id tdev found active null
    exact .inl (tpdevNdevdown_silent found active (not_not.mp null))

theorem tpdevNdevup_spec {system : System} (faultless : system.fault = none)
    (homed : Homed system) (ndev : NdevId) (stack : TpAddr) :
    NoticeSpec system ndev .pdevup
      (fun system id tdev => tpdevNdevup system id tdev stack)
      (CameUp (system.netdev ndev)) (Rebindable (system.netdev ndev)) where
  inactive := by
    intro sent id tdev inactive
    simp only [tpdevNdevup, inactive, Bool.not_false, if_true]
  handled := by
    intro sent id tdev found active bound rebindable
    exact @tpdevNdevup_handled { system with sent := sent } faultless ndev id tdev found active
      bound stack rebindable (homed id tdev found)
  unready := by
    intro sent id tdev found active missing
    by_cases null : tdev.tun.tdev = none
    · exact .inl
        (@tpdevNdevup_silent { system with sent := sent } faultless id tdev found active stack
          null)
    · exact .inr fun next cameUp => missing (rebindable_of_cameUp cameUp null)

/-- When a physical device goes down or comes up, every active device that is bound to it is
processed and no other is changed, if and only if each of them is the first one in the list
to be bound to it and its tunnel points to it; when the physical device comes up and there
is a tunnel to bind again, the physical device also needs an address for that, and the
tunnel has to be one that has been bound before and has the family of the address. -/
theorem noticed_tpEv_iff {system : System} (faultless : system.fault = none)
    (homed : Homed system) (ndev : NdevId) (stack : TpAddr) :
    (Noticed system (tpEvDown system ndev) ndev .pdevdown WentDown ↔
        ∀ id ∈ boundDevices system ndev,
          First system ndev id ∧ (tunOf system id).tdev ≠ none) ∧
      (Noticed system (tpEvUp system ndev stack) ndev .pdevup
          (CameUp (system.netdev ndev)) ↔
        ∀ id ∈ boundDevices system ndev,
          First system ndev id ∧ Rebindable (system.netdev ndev) (tunOf system id)) :=
  ⟨noticed_iff rfl (by decide) (tpdevNdevdown_spec homed ndev),
    noticed_iff rfl (by decide) (tpdevNdevup_spec faultless homed ndev stack)⟩

/-- A physical device with an address, an ldt device with a tunnel that is bound to it, and
another one that can be bound to it too; then the physical device has another address. -/
def bindOne : List Label :=
  [.registerNetdev (ascii "eth0") 0, .setAddrs 0 (some [7]) (some []),
    .createDev 0 none (ascii "ldt0") true 0, .createDev 0 none (ascii "ldt1") true 0,
    .newtun 1 none true, .newtun 2 none true, .bind2dev 1 (ascii "eth0") ⟨2, 0, 0⟩,
    .setAddrs 0 (some [8]) (some [])]

/-- The local address of the tunnel of a device. -/
def localIp (system : System) (id : NdevId) : Option Nat :=
  (tunOf system id).tundata.map fun state => state.tdat.addr.laddr.ip

theorem exists_run_bindOne :
    ∃ system, run (step 100) boot bindOne = some system ∧ system.fault = none ∧
      boundDevices system 0 = [1] ∧ attached system 0 0 = false ∧
      (tunOf system 1).tdev = some 1 ∧ (tunOf system 1).tunops = some ⟨false⟩ ∧
      (system.netdev 0).ipPtr = some [8] ∧
      (∃ state, (tunOf system 1).tundata = some state ∧ Bindable state false) ∧
      localIp system 1 = some 7 ∧ localIp (tpEvUp system 0 ⟨2, 0, 0⟩) 1 = some 8 :=
  ⟨_, rfl, rfl, rfl, rfl, rfl, rfl, rfl, ⟨_, rfl, rfl, rfl, rfl, rfl⟩, rfl, rfl⟩

/-- One device that is bound to the physical one is told when it goes down and comes up, and
is bound to the other address then. -/
theorem noticed_bindOne :
    ∃ system, run (step 100) boot bindOne = some system ∧
      Noticed system (tpEvDown system 0) 0 .pdevdown WentDown ∧
      Noticed system (tpEvUp system 0 ⟨2, 0, 0⟩) 0 .pdevup (CameUp (system.netdev 0)) ∧
      localIp system 1 = some 7 ∧ localIp (tpEvUp system 0 ⟨2, 0, 0⟩) 1 = some 8 := by
  obtain ⟨system, ran, faultless, single, unattached, pointed, ops, addr, bindable, before,
    after⟩ := exists_run_bindOne
  have first : First system 0 1 := by
    intro earlier before
    rw [Nat.lt_one_iff.mp before]
    exact unattached
  have rebindable : Rebindable (system.netdev 0) (tunOf system 1) := by
    constructor
    · rw [pointed]
      exact Option.some_ne_none 1
    · intro tunops same
      rw [ops, Option.some.injEq] at same
      rw [← same]
      exact ⟨⟨8, [], addr⟩, bindable⟩
  have equivalence := noticed_tpEv_iff faultless (homed_of_run ran) 0 ⟨2, 0, 0⟩
  rw [single] at equivalence
  refine ⟨system, ran, equivalence.1.mpr ?_, equivalence.2.mpr ?_, before, after⟩
  · intro id member
    rw [List.mem_singleton.mp member]
    exact ⟨first, rebindable.1⟩
  · intro id member
    rw [List.mem_singleton.mp member]
    exact ⟨first, rebindable⟩

/-- The second device that is bound to the physical one is not told that it goes down. -/
theorem not_noticed_second :
    ∃ system, run (step 100) boot (bindOne ++ [.bind2dev 2 (ascii "eth0") ⟨2, 0, 0⟩]) =
        some system ∧
      ¬ Noticed system (tpEvDown system 0) 0 .pdevdown WentDown := by
  refine ⟨_, rfl, ?_⟩
  intro noticed
  obtain ⟨tun, down, netdev⟩ := noticed.processed 2 (by decide)
  have flag := congrArg (fun ndev => ndev.ldt.map fun tdev => tdev.tun.pdevdown) netdev
  rw [down] at flag
  exact absurd flag (by decide)

end Tunprox.PdevNotice
