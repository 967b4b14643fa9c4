import Tunprox.DeviceReference

/-!
# What the devices are known by

The names of the registered devices, their namespaces, and which of them are ldt devices.
Apart from the functions that create and free a device, nothing in the module changes them.
-/

namespace Tunprox.DeviceIdentity

open Event Device DeviceStep DeviceReference

/-- What a registered device is known by; `active` is that of an ldt device. -/
structure Identity where
  name : List UInt8
  net : NetId
  active : Option Bool
  deriving DecidableEq

def identity (ndev : NetDevice) : Option Identity :=
  if ndev.registered then some ⟨ndev.name, ndev.net, ndev.ldt.map LdtDev.active⟩ else none

/-- The devices with what they are known by. -/
@[ext]
structure Census where
  count : Nat
  known : NdevId → Option Identity

def census (system : System) : Census where
  count := system.nextNdev
  known := fun id => identity (system.netdev id)

/-- Another device is registered. -/
def Census.add (before : Census) (added : Identity) : Census where
  count := before.count + 1
  known := Function.update before.known before.count (some added)

/-- A device is unregistered. -/
def Census.remove (before : Census) (id : NdevId) : Census :=
  { before with known := Function.update before.known id none }

section Known

variable (devices : Census) {id other : NdevId}

@[simp]
theorem count_add (added : Identity) : (devices.add added).count = devices.count + 1 :=
  rfl

theorem known_add_of_lt (added : Identity) (older : id < devices.count) :
    (devices.add added).known id = devices.known id :=
  Function.update_of_ne (Nat.ne_of_lt older) ..

@[simp]
theorem known_add_self (added : Identity) :
    (devices.add added).known devices.count = some added :=
  Function.update_self ..

@[simp]
theorem count_remove : (devices.remove id).count = devices.count :=
  rfl

@[simp]
theorem known_remove_self : (devices.remove id).known id = none :=
  Function.update_self ..

theorem known_remove_of_ne (different : other ≠ id) :
    (devices.remove id).known other = devices.known other :=
  Function.update_of_ne different ..

end Known

section Lookup

variable {system : System} {net : NetId} {name : List UInt8} {id : NdevId}

end Lookup

@[simp]
theorem census_fault (system : System) (fault : Option Fault) :
    census { system with fault := fault } = census system :=
  rfl

section Refs

variable (state : RefState)

end Refs

end Tunprox.DeviceIdentity
