import Tunprox.DeviceReference

/-!
# Requests to a device

What a request to the tunnel of a device leaves of the network devices, and what a handler
does with the device that has the name in the request.
-/

namespace Tunprox.DeviceRequest

open Errno Event Device DeviceStep DeviceReference
open Connection (ConnState)

/-- The network device with another tunnel in it. -/
def withTun (ndev : NetDevice) (tun : LdtTun) : NetDevice :=
  { ndev with ldt := ndev.ldt.map fun tdev => { tdev with tun := tun } }

theorem netdev_modifyTun (system : System) (id : NdevId) (change : LdtTun → LdtTun) :
    (modifyTun system id change).netdev =
      Function.update system.netdev id
        (withTun (system.netdev id) (change (tunOf system id))) := by
  simp only [modifyTun, modifyLdt, modifyNetdev, withTun, tunOf]
  cases (system.netdev id).ldt with
  | none => rfl
  | some tdev => rfl

theorem withTun_withTun (ndev : NetDevice) (first second : LdtTun) :
    withTun (withTun ndev first) second = withTun ndev second := by
  simp only [withTun, Option.map_map]
  rfl

/-- The tunnel has been bound again, with the event `rebind` at most. -/
structure Rebound (system next : System) (id : NdevId) (tun : LdtTun) : Prop where
  netdev : next.netdev = Function.update system.netdev id (withTun (system.netdev id) tun)
  fault : next.fault = system.fault
  sent : ∃ sent, next.sent = system.sent ++ sent ∧
    ∀ event ∈ sent, event.evtype = (EvType.rebind.num : Int)

theorem withTun_tunOf (system : System) (id : NdevId) :
    withTun (system.netdev id) (tunOf system id) = system.netdev id := by
  simp only [withTun, tunOf]
  cases found : (system.netdev id).ldt with
  | none =>
      rw [Option.map_none, ← found]
  | some tdev =>
      rw [Option.map_some, ← found]

theorem Rebound.refl (system : System) (id : NdevId) :
    Rebound system system id (tunOf system id) where
  netdev := by rw [withTun_tunOf, Function.update_eq_self]
  fault := rfl
  sent := ⟨[], (List.append_nil _).symm, nofun⟩

/-- The event that follows a request says that the tunnel was bound again. -/
theorem crsendTun_rebind (system : System) (id : NdevId) :
    ∃ net text, crsendTun system id .rebind =
      { system with sent := system.sent ++ [⟨net, EvType.rebind.num, text⟩] } :=
  ⟨_, _, rfl⟩

theorem requestRebind_rebound (system : System) (id : NdevId) (tun : LdtTun)
    (operation : ConnState → Int × ConnState) :
    Rebound system (requestRebind system id tun operation).2 id
      { tunOf system id with tundata := (callTunnel operation tun.tundata).2 } := by
  have changed := netdev_modifyTun system id fun current =>
    { current with tundata := (callTunnel operation tun.tundata).2 }
  unfold requestRebind
  simp only
  split
  · obtain ⟨net, text, sent⟩ := crsendTun_rebind
      (modifyTun system id fun current =>
        { current with tundata := (callTunnel operation tun.tundata).2 }) id
    rw [sent]
    refine ⟨changed, rfl, ⟨_, rfl, ?_⟩⟩
    intro event member
    rw [List.mem_singleton.mp member]
  · exact ⟨changed, rfl, ⟨[], (List.append_nil _).symm, nofun⟩⟩

theorem callTunnel_eq_map (operation : ConnState → Int × ConnState)
    (tundata : Option ConnState) :
    (callTunnel operation tundata).2 = tundata.map fun state => (operation state).2 := by
  cases tundata with
  | none => rfl
  | some state => rfl

theorem Rebound.ldtdev {system next : System} {id : NdevId} {tdev : LdtDev} {tun : LdtTun}
    (rebound : Rebound system next id tun) (found : Device.ldtdev system id = some tdev) :
    Device.ldtdev next id = some { tdev with tun := tun } := by
  have ldt := ldt_of_ldtdev found
  have registered : (system.netdev id).registered = true := by
    by_contra unregistered
    rw [Device.ldtdev, if_neg unregistered] at found
    contradiction
  simp only [Device.ldtdev, rebound.netdev, Function.update_self, withTun, registered, ldt,
    if_true, Option.map_some]

/-- The handler calls the operation of the device that has the name. -/
theorem ldtNlOnDev_onSystem {operation : System → NdevId → LdtDev → Int × System}
    {state : RefState} {net : NetId} {name : List UInt8} {id : NdevId} {tdev : LdtDev}
    (named : devGetByName state.system net name = some id)
    (found : Device.ldtdev state.system id = some tdev) :
    (ldtNlOnDev (onSystem operation) state net name).1 =
        (operation state.system id tdev).1 ∧
      (ldtNlOnDev (onSystem operation) state net name).2.system =
        (operation state.system id tdev).2 := by
  have foundHeld : Device.ldtdev (devHold state id).system id = some tdev := found
  have result : ldtNlOnDev (onSystem operation) state net name =
      ((operation state.system id tdev).1,
        devPutAfter (onSystem operation (devHold state id) id tdev).2 id) := by
    rw [ldtNlOnDev, ldtdevByname, named]
    simp only [foundHeld]
    rfl
  rw [result]
  exact ⟨rfl, system_devPutAfter _ id⟩

end Tunprox.DeviceRequest
