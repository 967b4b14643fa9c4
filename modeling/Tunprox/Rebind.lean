import Tunprox.DeviceRequest

/-!
# Binding a tunnel to the address of a physical device

`tptun_rebind` takes the first address of the physical device that has the family of the
tunnel and calls `tp_bind` with it.  The list of addresses of either family may be absent or
empty.  `ldt_dev_bind2dev` stores the physical device before it gets there, and keeps it when
the tunnel is not bound.
-/

namespace Tunprox.Rebind

open Errno LabelledRun Event Device DeviceStep DeviceReference DeviceRequest ReferenceLedger
open Connection (ConnState mpdccptunBind)

/-- What `tptun_rebind` comes to: an error of its own, a read through a null pointer, or the
call of `tp_bind` with an address and the flags. -/
inductive RebindCall where
  | refused (ret : Int)
  | faulted (fault : Fault)
  | binds (addr : TpAddr) (flags : Nat)
  deriving DecidableEq

/-- `tun->tdev->pdev` -/
def physical (system : System) (tun : LdtTun) : Option NdevId :=
  tun.tdev.bind fun tdev => (system.netdev tdev).ldt.bind LdtDev.pdev

/-- `tptun_rebind` up to the call of `tp_bind`. -/
def tptunRebind (system : System) (tun : LdtTun) (tunops : LdtTunops) (flags : Nat)
    (stack : TpAddr) : RebindCall :=
  if tun.tdev.isNone then .faulted .tunTdev
  else
    match physical system tun with
    | none => .refused (-ENOENT)
    | some pdev =>
        match rebindAddr (system.netdev pdev) tunops.ipv6 stack with
        | .error fault => .faulted fault
        | .ok addr => .binds addr flags

/-- The rest of `ldt_tun_rebind`. -/
def RebindCall.finish (system : System) (id : NdevId) (tun : LdtTun) :
    RebindCall → Int × System
  | .refused ret => (ret, system)
  | .faulted fault => (0, { system with fault := some fault })
  | .binds addr flags =>
      requestRebind system id tun fun state => mpdccptunBind state (some addr) flags

/-- The list `tptun_rebind` takes the address from. -/
def addrList (pdev : NetDevice) (ipv6 : Bool) : Option (List Nat) :=
  if ipv6 then pdev.ip6Ptr else pdev.ipPtr

/-- The address has the family and is one of the addresses of the device. -/
def FromDevice (pdev : NetDevice) (ipv6 : Bool) (addr : TpAddr) : Prop :=
  addr.saFamily = (if ipv6 then AF_INET6 else AF_INET) ∧
    ∃ addrs, addrList pdev ipv6 = some addrs ∧ addr.ip ∈ addrs

/-- An error without a call, or a call with an address of the physical device. -/
def RebindCall.Safe (system : System) (tun : LdtTun) (ipv6 : Bool) : RebindCall → Prop
  | .refused ret => ret < 0
  | .faulted _ => False
  | .binds addr _ =>
      ∃ pdev, physical system tun = some pdev ∧ FromDevice (system.netdev pdev) ipv6 addr

theorem ldtTunRebind_eq (system : System) (id : NdevId) {tun : LdtTun} {tunops : LdtTunops}
    (ops : tun.tunops = some tunops) (flags : Nat) (stack : TpAddr) :
    ldtTunRebind system id tun flags stack =
      (tptunRebind system tun tunops flags stack).finish system id tun := by
  unfold ldtTunRebind tptunRebind physical
  simp only [ops]
  cases tun.tdev with
  | none => rfl
  | some tdev =>
      simp only [Option.isNone_some, Bool.false_eq_true, if_false, Option.bind_some]
      cases (system.netdev tdev).ldt.bind LdtDev.pdev with
      | none => rfl
      | some pdev =>
          simp only
          cases rebindAddr (system.netdev pdev) tunops.ipv6 stack with
          | error fault => rfl
          | ok addr => rfl

/-- The address is one of the device's exactly if its list is not empty: without a list
there is no address, and from an empty list of IPv6 addresses what the stack holds. -/
theorem fromDevice_iff (pdev : NetDevice) (ipv6 : Bool) (stack : TpAddr) :
    (∃ addr, rebindAddr pdev ipv6 stack = .ok addr ∧ FromDevice pdev ipv6 addr) ↔
      ∃ first rest, addrList pdev ipv6 = some (first :: rest) := by
  unfold rebindAddr FromDevice addrList
  cases ipv6 with
  | true =>
      simp only [if_true]
      rcases pdev.ip6Ptr with _ | _ | ⟨first, rest⟩
      · simp
      · simp
      · simp
  | false =>
      simp only [Bool.false_eq_true, if_false]
      rcases pdev.ipPtr with _ | _ | ⟨first, rest⟩
      · simp
      · simp
      · simp

/-- `tptun_rebind` is safe for a tunnel that points to its device if and only if the device
has no physical device or one with an address of the family. -/
theorem tptunRebind_safe_iff (system : System) (tun : LdtTun) (tunops : LdtTunops)
    (flags : Nat) (stack : TpAddr) :
    (tptunRebind system tun tunops flags stack).Safe system tun tunops.ipv6 ↔
      tun.tdev ≠ none ∧
        ∀ pdev, physical system tun = some pdev →
          ∃ first rest, addrList (system.netdev pdev) tunops.ipv6 = some (first :: rest) := by
  unfold tptunRebind
  by_cases null : tun.tdev = none
  · simp [null, RebindCall.Safe]
  · have pointed : tun.tdev.isNone = false := by
      rw [Option.isNone_eq_false_iff, Option.isSome_iff_ne_none]
      exact null
    simp only [pointed, Bool.false_eq_true, if_false, ne_eq, null, not_false_eq_true, true_and]
    cases bound : physical system tun with
    | none => simp [RebindCall.Safe, ENOENT]
    | some pdev =>
        simp only [Option.some.injEq, forall_eq', ← fromDevice_iff _ _ stack]
        cases rebindAddr (system.netdev pdev) tunops.ipv6 stack with
        | error fault => simp [RebindCall.Safe]
        | ok addr => simp [RebindCall.Safe, bound]

/-- A tunnel of the type is bound to the address of a physical device, which then loses its
addresses. -/
def loseAddrs (type : List UInt8) : List Device.Label :=
  [.registerNetdev (ascii "eth0") 0, .setAddrs 0 (some [7]) (some [9]),
    .createDev 0 none (ascii "ldt0") true 0, .newtun 1 (some type) true,
    .bind2dev 1 (ascii "eth0") ⟨0, 0, 0⟩, .setAddrs 0 (some []) (some [])]

/-- When the device comes up again, a tunnel over IPv4 reads through a null pointer, and one
over IPv6 is bound to what the stack holds. -/
theorem not_safe_loseAddrs :
    ∃ over4 over6, run (Device.step 100) boot (loseAddrs (ascii "dccp4")) = some over4 ∧
      run (Device.step 100) boot (loseAddrs (ascii "dccp6")) = some over6 ∧
      ¬ (tptunRebind over4 (tunOf over4 1) ⟨false⟩ LDT_TUN_BIND_F_ADDRCHG ⟨0, 0, 0⟩).Safe
        over4 (tunOf over4 1) false ∧
      ¬ (tptunRebind over6 (tunOf over6 1) ⟨true⟩ LDT_TUN_BIND_F_ADDRCHG ⟨0, 0, 0⟩).Safe
        over6 (tunOf over6 1) true := by
  refine ⟨_, _, rfl, rfl, id, ?_⟩
  rintro ⟨pdev, -, family, -⟩
  exact absurd family (by decide)

/-- `tp_bind` of the tunnel refuses the address: there is no tunnel structure, or the address
has another family. -/
def TunnelRefuses (tundata : Option ConnState) (addr : TpAddr) : Prop :=
  ∀ state, tundata = some state →
    state.tdat.tostop = false ∧ addr.saFamily ≠ state.tdat.addr.raddr.saFamily

/-- The physical device is known, but the tunnel refuses the address taken from it. -/
structure BindRefused (system : System) (id : NdevId) (tdev : LdtDev) (dev : List UInt8)
    (stack : TpAddr) (ndev : NdevId) : Prop where
  known : devGetByName system (system.netdev id).net dev = some ndev
  active : tdev.active = true
  pointed : tdev.tun.tdev = some id
  refused : ∃ tunops addr, tdev.tun.tunops = some tunops ∧
    rebindAddr (system.netdev ndev) tunops.ipv6 stack = .ok addr ∧
    TunnelRefuses tdev.tun.tundata addr

/-- What `ldt_dev_bind2dev` may change in a device: the physical device, its mark, and the
addresses of the tunnel. -/
def bindState (system : System) (id : NdevId) :
    Option (Option NdevId × Bool × Option TunAddr) :=
  (ldtdev system id).map fun tdev =>
    (tdev.pdev, tdev.tun.pdevdown, tdev.tun.tundata.map fun state => state.tdat.addr)

/-- The references to a device that were taken and not given back. -/
def heldRefs (log : List (Entry NdevId)) (ndev : NdevId) : Int :=
  gets log ndev - puts log ndev

/-- A request that returns an error leaves the device and the references as they were. -/
def BindAtomic (dev : List UInt8) (stack : TpAddr) (state : RefState) (id : NdevId)
    (tdev : LdtDev) : Prop :=
  (ldtDevBind2devRef dev stack state id tdev).1 < 0 →
    bindState (ldtDevBind2devRef dev stack state id tdev).2.system id =
        bindState state.system id ∧
      ∀ ndev, heldRefs (ldtDevBind2devRef dev stack state id tdev).2.log ndev =
        heldRefs state.log ndev

/-- `mpdccptun_bind` fails only for an address of another family. -/
theorem mpdccptunBind_spec (state : ConnState) (addr : TpAddr) :
    ((mpdccptunBind state (some addr) 0).1 < 0 ↔
        state.tdat.tostop = false ∧ addr.saFamily ≠ state.tdat.addr.raddr.saFamily) ∧
      ((mpdccptunBind state (some addr) 0).1 < 0 →
        (mpdccptunBind state (some addr) 0).2 = state) := by
  unfold mpdccptunBind ldtTunaddrBind
  by_cases stopped : state.tdat.tostop = true
  · simp [stopped]
  · have live : state.tdat.tostop = false := Bool.eq_false_iff.mpr stopped
    by_cases foreign : addr.saFamily = state.tdat.addr.raddr.saFamily
    · have plain : ¬ 0 &&& LDT_TUN_BIND_F_ADDRCHG ≠ 0 := by decide
      simp only [live, foreign, ne_eq, not_true_eq_false, if_false, if_neg plain,
        Bool.false_eq_true, Int.lt_irrefl, and_false, iff_false]
      split_ifs <;> simp
    · simp [live, foreign, EINVAL]

theorem callTunnel_bind (tundata : Option ConnState) (addr : TpAddr) :
    ((callTunnel (fun state => mpdccptunBind state (some addr) 0) tundata).1 < 0 ↔
        TunnelRefuses tundata addr) ∧
      ((callTunnel (fun state => mpdccptunBind state (some addr) 0) tundata).1 < 0 →
        (callTunnel (fun state => mpdccptunBind state (some addr) 0) tundata).2 =
          tundata) := by
  cases tundata with
  | none => simp [callTunnel, TunnelRefuses, EINVAL]
  | some state =>
      obtain ⟨failsIff, kept⟩ := mpdccptunBind_spec state addr
      simp only [callTunnel, TunnelRefuses, Option.some.injEq, forall_eq']
      exact ⟨failsIff, kept⟩

theorem requestRebind_ret (system : System) (id : NdevId) (tun : LdtTun)
    (operation : ConnState → Int × ConnState) :
    (requestRebind system id tun operation).1 = (callTunnel operation tun.tundata).1 := by
  unfold requestRebind
  split
  rename_i ret tundata called
  split_ifs <;> rw [called]

/-- The addresses of a network device are not those of an ldt device. -/
theorem rebindAddr_modifyLdt (system : System) (id ndev : NdevId) (change : LdtDev → LdtDev)
    (ipv6 : Bool) (stack : TpAddr) :
    rebindAddr ((modifyLdt system id change).netdev ndev) ipv6 stack =
      rebindAddr (system.netdev ndev) ipv6 stack := by
  by_cases same : ndev = id
  · subst same
    simp only [modifyLdt, modifyNetdev, Function.update_self, rebindAddr]
  · simp only [modifyLdt, modifyNetdev, Function.update_of_ne same]

/-- The device with the physical one stored in it. -/
def storePdev (system : System) (id ndev : NdevId) : System :=
  modifyLdt system id fun tdev => { tdev with pdev := some ndev }

/-- Rebinding to the stored device fails exactly if the tunnel refuses the address, and then
it changes nothing. -/
theorem ldtTunRebind_stored {system : System} {id : NdevId} (ndev : NdevId) {tdev : LdtDev}
    (found : ldtdev system id = some tdev)
    (homed : tdev.tun.tdev = none ∨ tdev.tun.tdev = some id) (stack : TpAddr) :
    ((ldtTunRebind (storePdev system id ndev) id tdev.tun 0 stack).1 < 0 ↔
        tdev.tun.tdev = some id ∧ ∃ tunops addr, tdev.tun.tunops = some tunops ∧
          rebindAddr (system.netdev ndev) tunops.ipv6 stack = .ok addr ∧
          TunnelRefuses tdev.tun.tundata addr) ∧
      ((ldtTunRebind (storePdev system id ndev) id tdev.tun 0 stack).1 < 0 →
        ldtdev (ldtTunRebind (storePdev system id ndev) id tdev.tun 0 stack).2 id =
          some { tdev with pdev := some ndev }) := by
  have stored : ldtdev (storePdev system id ndev) id = some { tdev with pdev := some ndev } :=
    ldtdev_modifyLdt_self found _
  cases ops : tdev.tun.tunops with
  | none =>
      rw [ldtTunRebind_of_tunops_none ops]
      simp
  | some tunops =>
      rw [ldtTunRebind_eq _ _ ops]
      unfold tptunRebind
      rcases homed with null | pointed
      · simp [null, RebindCall.finish]
      · have pdev : physical (storePdev system id ndev) tdev.tun = some ndev := by
          rw [physical, pointed, Option.bind_some, ldt_of_ldtdev stored, Option.bind_some]
        simp only [pointed, Option.isNone_some, Bool.false_eq_true, if_false, pdev]
        rw [storePdev, rebindAddr_modifyLdt, ← storePdev]
        cases address : rebindAddr (system.netdev ndev) tunops.ipv6 stack with
        | error fault => simp [RebindCall.finish, address]
        | ok addr =>
            obtain ⟨failsIff, kept⟩ := callTunnel_bind tdev.tun.tundata addr
            have rebound := requestRebind_rebound (storePdev system id ndev) id tdev.tun
              fun state => mpdccptunBind state (some addr) 0
            simp only [RebindCall.finish, requestRebind_ret]
            constructor
            · rw [failsIff]
              simp [address]
            · intro failed
              rw [rebound.ldtdev stored, kept failed, tunOf_of_ldtdev stored]

/-- A request to an active device for a known one stores it, takes its reference and gives
back that of the one before, and then binds the tunnel. -/
theorem ldtDevBind2devRef_active {state : RefState} {id ndev : NdevId} {tdev : LdtDev}
    {dev : List UInt8} (active : tdev.active = true)
    (known : devGetByName state.system (state.system.netdev id).net dev = some ndev)
    (stack : TpAddr) :
    (ldtDevBind2devRef dev stack state id tdev).1 =
        (ldtTunRebind (storePdev state.system id ndev) id tdev.tun 0 stack).1 ∧
      (ldtDevBind2devRef dev stack state id tdev).2.system =
        modifyTun (ldtTunRebind (storePdev state.system id ndev) id tdev.tun 0 stack).2 id
          (fun tun => { tun with pdevdown := false }) ∧
      ∀ resource, heldRefs (ldtDevBind2devRef dev stack state id tdev).2.log resource =
        heldRefs state.log resource + (if ndev = resource then 1 else 0) -
          (if tdev.pdev = some resource then 1 else 0) := by
  unfold ldtDevBind2devRef
  simp only [known, active, Bool.not_true, Bool.false_eq_true, if_false]
  cases tdev.pdev with
  | none =>
      simp only [onSystem, devHold, ldtDevBind2dev, known, active, Bool.not_true,
        Bool.false_eq_true, if_false]
      refine ⟨rfl, rfl, ?_⟩
      intro resource
      simp only [heldRefs, gets_get, puts_get, reduceCtorEq, if_false]
      push_cast
      omega
  | some pdev =>
      simp only [onSystem, devHold, devPut, ldtDevBind2dev, known, active, Bool.not_true,
        Bool.false_eq_true, if_false]
      refine ⟨rfl, rfl, ?_⟩
      intro resource
      simp only [heldRefs, gets_put, puts_put, gets_get, puts_get, Option.some.injEq]
      push_cast
      omega

/-- A request for an unknown device changes nothing. -/
theorem bindAtomic_of_unknown {state : RefState} {id : NdevId} {tdev : LdtDev}
    {dev : List UInt8} (stack : TpAddr)
    (unknown : devGetByName state.system (state.system.netdev id).net dev = none) :
    BindAtomic dev stack state id tdev := by
  have unchanged : (ldtDevBind2devRef dev stack state id tdev).2 = state := by
    simp only [ldtDevBind2devRef, unknown]
  rw [BindAtomic, unchanged]
  exact fun _ => ⟨rfl, fun _ => rfl⟩

/-- A device that is being removed gives the reference back. -/
theorem bindAtomic_of_inactive {state : RefState} {id ndev : NdevId} {tdev : LdtDev}
    {dev : List UInt8} (stack : TpAddr) (inactive : tdev.active = false)
    (known : devGetByName state.system (state.system.netdev id).net dev = some ndev) :
    BindAtomic dev stack state id tdev := by
  have unchanged : (ldtDevBind2devRef dev stack state id tdev).2 =
      devPut (devHold state ndev) ndev := by
    simp only [ldtDevBind2devRef, known, inactive, Bool.not_false, if_true]
  rw [BindAtomic, unchanged]
  refine fun _ => ⟨rfl, ?_⟩
  intro resource
  simp only [devPut, devHold, heldRefs, gets_put, puts_put, gets_get, puts_get]
  push_cast
  omega

theorem bindRefused_iff {state : RefState} {id ndev : NdevId} {tdev : LdtDev}
    {dev : List UInt8} (found : ldtdev state.system id = some tdev)
    (homed : tdev.tun.tdev = none ∨ tdev.tun.tdev = some id) (stack : TpAddr)
    (active : tdev.active = true)
    (known : devGetByName state.system (state.system.netdev id).net dev = some ndev) :
    BindRefused state.system id tdev dev stack ndev ↔
      (ldtTunRebind (storePdev state.system id ndev) id tdev.tun 0 stack).1 < 0 := by
  rw [(ldtTunRebind_stored ndev found homed stack).1]
  constructor
  · intro refused
    exact ⟨refused.pointed, refused.refused⟩
  · rintro ⟨pointed, refused⟩
    exact ⟨known, active, pointed, refused⟩

/-- Where the address is refused the new device is stored, its mark is cleared, and the old
device has lost its reference. -/
theorem bindAtomic_active_iff {state : RefState} {id ndev : NdevId} {tdev : LdtDev}
    {dev : List UInt8} (found : ldtdev state.system id = some tdev)
    (homed : tdev.tun.tdev = none ∨ tdev.tun.tdev = some id) (stack : TpAddr)
    (active : tdev.active = true)
    (known : devGetByName state.system (state.system.netdev id).net dev = some ndev) :
    BindAtomic dev stack state id tdev ↔
      (BindRefused state.system id tdev dev stack ndev →
        tdev.pdev = some ndev ∧ tdev.tun.pdevdown = false) := by
  obtain ⟨retEq, systemEq, logEq⟩ := ldtDevBind2devRef_active active known stack
  obtain ⟨-, storedEq⟩ := ldtTunRebind_stored ndev found homed stack
  have before : bindState state.system id = some (tdev.pdev, tdev.tun.pdevdown,
      tdev.tun.tundata.map fun state => state.tdat.addr) := by
    rw [bindState, found, Option.map_some]
  have after (failed :
      (ldtTunRebind (storePdev state.system id ndev) id tdev.tun 0 stack).1 < 0) :
      bindState (ldtDevBind2devRef dev stack state id tdev).2.system id =
        some (some ndev, false, tdev.tun.tundata.map fun state => state.tdat.addr) := by
    rw [systemEq, bindState, modifyTun, ldtdev_modifyLdt_self (storedEq failed),
      Option.map_some]
  rw [BindAtomic, retEq, before, bindRefused_iff found homed stack active known]
  constructor
  · intro atomic failed
    have same := (atomic failed).1
    rw [after failed, Option.some.injEq, Prod.mk.injEq, Prod.mk.injEq] at same
    exact ⟨same.1.symm, same.2.1.symm⟩
  · intro kept failed
    obtain ⟨pdevEq, upEq⟩ := kept failed
    constructor
    · rw [after failed, pdevEq, upEq]
    · intro resource
      rw [logEq, pdevEq]
      simp only [Option.some.injEq]
      omega

/-- A request that fails leaves the device and the references as they were if and only if
the tunnel did not refuse the address of a known device, or that device was the physical one
before and not marked as down. -/
theorem bindAtomic_iff {state : RefState} {id : NdevId} {tdev : LdtDev}
    (found : ldtdev state.system id = some tdev)
    (homed : tdev.tun.tdev = none ∨ tdev.tun.tdev = some id) (dev : List UInt8)
    (stack : TpAddr) :
    BindAtomic dev stack state id tdev ↔
      ∀ ndev, BindRefused state.system id tdev dev stack ndev →
        tdev.pdev = some ndev ∧ tdev.tun.pdevdown = false := by
  cases known : devGetByName state.system (state.system.netdev id).net dev with
  | none =>
      refine iff_of_true (bindAtomic_of_unknown stack known) ?_
      intro ndev refused
      have absent := refused.known
      rw [known] at absent
      contradiction
  | some ndev =>
      by_cases active : tdev.active = true
      · rw [bindAtomic_active_iff found homed stack active known]
        constructor
        · intro kept other refused
          obtain rfl : ndev = other := Option.some.inj (known.symm.trans refused.known)
          exact kept refused
        · intro kept
          exact kept ndev
      · have inactive : tdev.active = false := Bool.eq_false_iff.mpr active
        exact iff_of_true (bindAtomic_of_inactive stack inactive known)
          fun other refused => absurd refused.active active

/-- A device with a tunnel over IPv6, and a physical device without addresses. -/
def unaddressed : RefState where
  system := (run (Device.step 100) boot
    [.registerNetdev (ascii "eth0") 0, .setAddrs 0 (some []) (some []),
      .createDev 0 none (ascii "ldt0") true 0, .newtun 1 (some (ascii "dccp6")) true]).getD boot
  log := []

/-- A request for an unknown device fails and changes nothing. -/
theorem bindAtomic_unknown :
    ∃ tdev, ldtdev unaddressed.system 1 = some tdev ∧
      BindAtomic (ascii "eth1") ⟨0, 0, 0⟩ unaddressed 1 tdev := by
  refine ⟨_, rfl, (bindAtomic_iff rfl (Or.inr rfl) _ _).mpr ?_⟩
  intro ndev refused
  have known := refused.known
  contradiction

/-- A request whose address the tunnel refuses keeps the device and its reference. -/
theorem not_bindAtomic_unaddressed :
    ∃ tdev, ldtdev unaddressed.system 1 = some tdev ∧
      ¬ BindAtomic (ascii "eth0") ⟨0, 0, 0⟩ unaddressed 1 tdev := by
  refine ⟨_, rfl, ?_⟩
  intro atomic
  have kept := (atomic (by decide)).1
  exact absurd kept (by decide)

end Tunprox.Rebind
