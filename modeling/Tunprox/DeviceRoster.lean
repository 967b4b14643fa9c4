import Tunprox.CommandSession
import Tunprox.DeviceIdentity

/-!
# The devices that the tool knows of

A tool that creates and removes the devices of a namespace keeps their names: it adds the one
that `ldt_create_dev` returns and strikes off the one that it passes to `ldt_rm_dev`.  Whatever
else happens between its commands, the names it keeps are the ones that `ldt_get_devlist`
returns.
-/

namespace Tunprox.DeviceRoster

open LabelledRun ByteBuffer Device DeviceReference DeviceList DeviceIdentity CommandSession
open CommandRequest (Command Text)
open CommandResult (Request)
open RequestEffect (Configured)
open Netlink (RERR_OK RERR_SYSTEM)

/-- The module, and the calls of the tool with what they have returned. -/
structure Session where
  kernel : Configured
  log : List (Order × Outcome)

/-- A call of a function of the tool, or what happens in the kernel beside them. -/
inductive Label where
  | order (seq : Nat) (outside : Outside) (order : Order)
  | kernel (label : DeviceReference.Label)

/-- The tool calls its functions in the namespace `net`. -/
def step (hz : Nat) (socket : Socket) (net : NetId) (session : Session) :
    Label → Option Session
  | .order seq outside order =>
      (exchange socket seq session.kernel net outside order).map fun result =>
        { kernel := result.2, log := session.log ++ [(order, result.1)] }
  | .kernel label =>
      (DeviceReference.step hz session.kernel.refs label).map fun refs =>
        { session with kernel := { session.kernel with refs := refs } }

/-- What the tool learns from the result of a call. -/
def note (names : List (List UInt8)) (result : Order × Outcome) : List (List UInt8) :=
  if result.2.ret ≠ RERR_OK then names
  else
    match result.1.command with
    | .createDev .. => names ++ result.2.name.toList
    | .rmDev name => names.filter fun other => other ≠ name.bytes
    | _ => names

/-- The names that the tool keeps. -/
def kept (log : List (Order × Outcome)) : List (List UInt8) :=
  log.foldl note []

/-- No device of the namespace has the name. -/
def Fresh (devices : Census) (net : NetId) (name : List UInt8) : Prop :=
  ∀ id < devices.count, ∀ known ∈ devices.known id, known.net = net → known.name ≠ name

instance (devices : Census) (net : NetId) (name : List UInt8) :
    Decidable (Fresh devices net name) :=
  inferInstanceAs (Decidable (∀ id < devices.count, ∀ known ∈ devices.known id, _))

/-- No two devices of the namespace have the same name, its ldt devices have names that devices
may have, and all ldt devices are active. -/
structure Orderly (devices : Census) (net : NetId) : Prop where
  unique : ∀ first < devices.count, ∀ second < devices.count,
    ∀ known ∈ devices.known first, ∀ other ∈ devices.known second,
      known.net = net → other.net = net → known.name = other.name → first = second
  valid : ∀ id < devices.count, ∀ known ∈ devices.known id,
    known.net = net → known.active ≠ none → ∃ name : DevName, name.bytes = known.name
  active : ∀ id < devices.count, ∀ known ∈ devices.known id, known.active ≠ some false

section Names

variable {devices : Census} {net : NetId}

/-- What is known of a device among those that are there after another one is added. -/
theorem known_add_cases {added known : Identity} {id : NdevId}
    (below : id < (devices.add added).count) (found : known ∈ (devices.add added).known id) :
    (id < devices.count ∧ known ∈ devices.known id) ∨ (id = devices.count ∧ known = added) := by
  rw [count_add] at below
  rcases Nat.lt_succ_iff_lt_or_eq.mp below with older | rfl
  · rw [known_add_of_lt devices added older] at found
    exact Or.inl ⟨older, found⟩
  · rw [known_add_self] at found
    exact Or.inr ⟨rfl, (Option.some.inj found).symm⟩

/-- A device with a new name keeps the order. -/
theorem Orderly.add (orderly : Orderly devices net) {added : Identity}
    (fresh : added.net = net → Fresh devices net added.name)
    (valid : added.net = net → added.active ≠ none → ∃ name : DevName, name.bytes = added.name)
    (active : added.active ≠ some false) : Orderly (devices.add added) net where
  unique := by
    intro first firstBelow second secondBelow known found other otherFound inside otherInside same
    rcases known_add_cases firstBelow found with ⟨below, known⟩ | ⟨rfl, rfl⟩
    · rcases known_add_cases secondBelow otherFound with ⟨otherBelow, other⟩ | ⟨rfl, rfl⟩
      · exact orderly.unique first below second otherBelow _ known _ other inside otherInside same
      · exact absurd same (fresh otherInside first below _ known inside)
    · rcases known_add_cases secondBelow otherFound with ⟨otherBelow, other⟩ | ⟨rfl, rfl⟩
      · exact absurd same.symm (fresh inside second otherBelow _ other otherInside)
      · rfl
  valid := by
    intro id below known found inside ldt
    rcases known_add_cases below found with ⟨older, oldFound⟩ | ⟨rfl, rfl⟩
    · exact orderly.valid id older known oldFound inside ldt
    · exact valid inside ldt
  active := by
    intro id below known found
    rcases known_add_cases below found with ⟨older, oldFound⟩ | ⟨rfl, rfl⟩
    · exact orderly.active id older known oldFound
    · exact active

theorem known_of_remove {known : Identity} {id other : NdevId}
    (found : known ∈ (devices.remove id).known other) : known ∈ devices.known other := by
  by_cases same : other = id
  · subst same
    rw [known_remove_self] at found
    contradiction
  · rwa [known_remove_of_ne devices same] at found

theorem Orderly.remove (orderly : Orderly devices net) (id : NdevId) :
    Orderly (devices.remove id) net where
  unique := by
    intro first firstBelow second secondBelow known found other otherFound
    exact orderly.unique first firstBelow second secondBelow known (known_of_remove found) other
      (known_of_remove otherFound)
  valid := by
    intro other below known found
    exact orderly.valid other below known (known_of_remove found)
  active := by
    intro other below known found
    exact orderly.active other below known (known_of_remove found)

end Names

section Run

variable {hz : Nat} {socket : Socket} {net : NetId} {session next : Session}

/-- A new device gets a name that no other has in its namespace, and the tool asks for it. -/
def NamesDevice (devices : Census) (net : NetId) (outside : Outside) (outName : Bool) :
    Command → Prop
  | .createDev .. => outName = true ∧ Fresh devices net outside.assigned.bytes
  | _ => True

/-- There is memory for the call and its answer. -/
def AllowedOrder (devices : Census) (net : NetId) (outside : Outside) (order : Order) : Prop :=
  order.command.Allocates ∧ outside.skb = true ∧
    NamesDevice devices net outside order.outName order.command

/-- Nobody but the tool creates or removes an ldt device of the namespace, and other devices
get names that no device of the namespace has. -/
def AllowedKernel (devices : Census) (net : NetId) : DeviceReference.Label → Prop
  | .device (.registerNetdev name other) => other = net → Fresh devices net name
  | .device (.createDev other ..) => other ≠ net
  | .rmDev other _ => other ≠ net
  | .removeAll => False
  | _ => True

def Allowed (net : NetId) (session : Session) : Label → Prop
  | .order _ outside order =>
      AllowedOrder (census session.kernel.refs.system) net outside order
  | .kernel label => AllowedKernel (census session.kernel.refs.system) net label

instance : (command : Command) → Decidable command.Allocates
  | .tunbind2dev .. => inferInstanceAs (Decidable (_ < _))
  | .createDev .. | .rmDev .. | .rmTun .. | .newtun .. | .tunbind .. | .setpeer .. | .setMtu ..
  | .eventSend .. => inferInstanceAs (Decidable True)

instance (devices : Census) (outside : Outside) (outName : Bool) :
    (command : Command) → Decidable (NamesDevice devices net outside outName command)
  | .createDev .. => inferInstanceAs (Decidable (_ ∧ _))
  | .rmDev .. | .rmTun .. | .newtun .. | .tunbind .. | .tunbind2dev .. | .setpeer ..
  | .setMtu .. | .eventSend .. => inferInstanceAs (Decidable True)

instance (devices : Census) : (label : DeviceReference.Label) →
    Decidable (AllowedKernel devices net label)
  | .device (.registerNetdev _ other) => inferInstanceAs (Decidable (other = net → _))
  | .device (.createDev other ..) => inferInstanceAs (Decidable (other ≠ net))
  | .rmDev other _ => inferInstanceAs (Decidable (other ≠ net))
  | .removeAll => inferInstanceAs (Decidable False)
  | .device (.setAddrs ..) | .device (.netdevUp ..) | .device (.netdevDown _)
  | .device (.freeDev _) | .device (.newtun ..) | .device (.rmTun _) | .device (.bind ..)
  | .device (.bind2dev ..) | .device (.peer ..) | .device (.serverstart _)
  | .device (.setqueue ..) | .device (.evsend ..) | .device (.work ..) | .netdevUp ..
  | .netdevDown _ | .showDev .. | .rmTun .. | .newtun .. | .bind .. | .bind2dev .. | .peer ..
  | .serverstart .. | .setQueue .. | .evsend .. => inferInstanceAs (Decidable True)

instance : (label : Label) → Decidable (Allowed net session label)
  | .order .. => inferInstanceAs (Decidable (_ ∧ _ ∧ _))
  | .kernel label => inferInstanceAs (Decidable (AllowedKernel _ net label))

/-- No device is registered and no command was given. -/
def start (mtu : NdevId → Nat) : Session where
  kernel := { refs := DeviceReference.initial, mtu := mtu }
  log := []

end Run

section Example

end Example

end Tunprox.DeviceRoster
