import Tunprox.Device

/-!
# What a step does to the pointer of a tunnel

`tpdev_setup` leaves `tdev->tun.tdev` null; `ldt_dev_newtun` and `ldt_rm_tun`
are the only functions that set it, and they set it to the device itself.  The
events of kind `TUN` and `TUNFAIL` read through it.  The step lemma says, for
each device, what a step does to the pointer, and when a null one is read.
-/

namespace Tunprox.DeviceStep

open Event Device
open Connection (ConnState)

/-- The members of a device and its tunnel that decide what the pointer is. -/
structure Core where
  active : Bool
  hastun : Bool
  tunops : Option LdtTunops
  tdev : Option NdevId

def coreOf (tdev : LdtDev) : Core :=
  ⟨tdev.active, tdev.hastun, tdev.tun.tunops, tdev.tun.tdev⟩

def core (system : System) (id : NdevId) : Option Core :=
  (ldtdev system id).map coreOf

theorem core_congr {system next : System} (same : next.netdev = system.netdev) :
    core next = core system := by
  funext id
  simp only [core, ldtdev, same]

theorem core_modifyNetdev (system : System) (id : NdevId) {change : NetDevice → NetDevice}
    (registered : ∀ ndev, (change ndev).registered = ndev.registered)
    (ldt : ∀ ndev, (change ndev).ldt.map coreOf = ndev.ldt.map coreOf) :
    core (modifyNetdev system id change) = core system := by
  funext other
  simp only [core, ldtdev, modifyNetdev]
  by_cases same : other = id
  · subst same
    simp only [Function.update_self, registered]
    split
    · exact ldt _
    · rfl
  · simp only [Function.update_of_ne same]

theorem core_modifyLdt (system : System) (id : NdevId) {change : LdtDev → LdtDev}
    (keeps : ∀ tdev, coreOf (change tdev) = coreOf tdev) :
    core (modifyLdt system id change) = core system := by
  apply core_modifyNetdev
  · intro ndev
    rfl
  · intro ndev
    cases ndev.ldt with
    | none => rfl
    | some tdev => simp only [Option.map_some, keeps]

theorem core_modifyTun (system : System) (id : NdevId) {change : LdtTun → LdtTun}
    (tunops : ∀ tun, (change tun).tunops = tun.tunops)
    (tdev : ∀ tun, (change tun).tdev = tun.tdev) :
    core (modifyTun system id change) = core system := by
  apply core_modifyLdt
  intro dev
  simp only [coreOf, tunops, tdev]

theorem exists_crsendThroughTdev (system : System) (tun : LdtTun) (evtype : Int)
    (info : EvInfo) (add : NdevId → EventText → EventText) :
    ∃ sent fault, crsendThroughTdev system tun evtype info add =
      { system with sent := sent, fault := fault } := by
  unfold crsendThroughTdev
  split
  · exact ⟨_, _, rfl⟩
  · exact ⟨_, _, rfl⟩

/-- An event changes nothing but what has been sent, and the fault. -/
theorem exists_ldtEventCrsend (system : System) (evtype : Int) (dat : EvData) (reason : Int)
    (subflowReport : Option (List UInt8)) :
    ∃ sent fault, (ldtEventCrsend system evtype dat reason subflowReport).2 =
      { system with sent := sent, fault := fault } := by
  unfold ldtEventCrsend
  split
  · exact ⟨_, _, rfl⟩
  · rename_i info _
    split
    · exact ⟨_, _, rfl⟩
    · exact ⟨_, _, rfl⟩
    · simp only
      exact exists_crsendThroughTdev system _ evtype info _
    · exact ⟨_, _, rfl⟩
    · simp only
      exact exists_crsendThroughTdev system _ evtype info _
    · exact ⟨_, _, rfl⟩

/-- Only a null pointer faults. -/
theorem fault_crsendThroughTdev {system : System} {tun : LdtTun} {tdev : NdevId}
    (found : tun.tdev = some tdev) (evtype : Int) (info : EvInfo)
    (add : NdevId → EventText → EventText) :
    (crsendThroughTdev system tun evtype info add).fault = system.fault := by
  simp only [crsendThroughTdev, found]
  rfl

/-- The events whose text is made from `tun->tdev`. -/
def ReadsTdev (evtype : Int) : Prop :=
  ldtEventGetkind evtype = .ok .tun ∨ ldtEventGetkind evtype = .ok .tunfail

/-- An event of a kind that does not read the pointer, or with data that is not
a tunnel or points to a device, causes no fault. -/
theorem fault_ldtEventCrsend {system : System} {evtype : Int} {dat : EvData} {reason : Int}
    {subflowReport : Option (List UInt8)}
    (safe : ∀ owner tun, dat = .tun owner tun → tun.tdev = none → ¬ReadsTdev evtype) :
    (ldtEventCrsend system evtype dat reason subflowReport).2.fault = system.fault := by
  unfold ldtEventCrsend
  split
  · rfl
  · rename_i info found
    split
    · rfl
    · rfl
    · rename_i owner tun kind
      cases pointer : tun.tdev with
      | none =>
          exact absurd (.inl (by simp [ldtEventGetkind, found, kind, Except.map]))
            (safe owner tun rfl pointer)
      | some tdev => exact fault_crsendThroughTdev pointer ..
    · rfl
    · rename_i owner tun kind
      cases pointer : tun.tdev with
      | none =>
          exact absurd (.inr (by simp [ldtEventGetkind, found, kind, Except.map]))
            (safe owner tun rfl pointer)
      | some tdev => exact fault_crsendThroughTdev pointer ..
    · rfl

/-- An event that reads the pointer of a tunnel without one causes the fault. -/
theorem fault_ldtEventCrsend_of_null {system : System} {evtype : Int} {owner : NdevId}
    {tun : LdtTun} {reason : Int} {subflowReport : Option (List UInt8)}
    (reads : ReadsTdev evtype) (null : tun.tdev = none) :
    (ldtEventCrsend system evtype (.tun owner tun) reason subflowReport).2.fault =
      some .tunTdev := by
  unfold ldtEventCrsend
  split
  · rename_i ret failed
    simp [ReadsTdev, ldtEventGetkind, failed, Except.map] at reads
  · rename_i info found
    simp only [ReadsTdev, ldtEventGetkind, found, Except.map, Except.ok.injEq] at reads
    rcases reads with kind | kind
    · simp only [kind, crsendThroughTdev, null]
    · simp only [kind, crsendThroughTdev, null]

/-- The pointers of all devices stay as they are, and none of them is read while
it is null. -/
structure Frame (system next : System) : Prop where
  core : core next = core system
  nextNdev : next.nextNdev = system.nextNdev
  fault : next.fault = some .tunTdev → system.fault = some .tunTdev

theorem Frame.refl (system : System) : Frame system system :=
  ⟨rfl, rfl, id⟩

theorem Frame.trans {first second third : System} (left : Frame first second)
    (right : Frame second third) : Frame first third :=
  ⟨right.core.trans left.core, right.nextNdev.trans left.nextNdev, left.fault ∘ right.fault⟩

theorem ldtEventCrsend_frame {system : System} {evtype : Int} {dat : EvData} {reason : Int}
    {subflowReport : Option (List UInt8)}
    (safe : ∀ owner tun, dat = .tun owner tun → tun.tdev = none → ¬ReadsTdev evtype) :
    Frame system (ldtEventCrsend system evtype dat reason subflowReport).2 := by
  have faultEq : (ldtEventCrsend system evtype dat reason subflowReport).2.fault =
      system.fault := fault_ldtEventCrsend safe
  obtain ⟨sent, fault, sentEq⟩ := exists_ldtEventCrsend system evtype dat reason subflowReport
  rw [sentEq] at faultEq ⊢
  exact ⟨core_congr rfl, rfl, fun faulty => faultEq ▸ faulty⟩

theorem modifyNetdev_frame (system : System) (id : NdevId) (change : NetDevice → NetDevice)
    (registered : ∀ ndev, (change ndev).registered = ndev.registered)
    (ldt : ∀ ndev, (change ndev).ldt.map coreOf = ndev.ldt.map coreOf) :
    Frame system (modifyNetdev system id change) :=
  ⟨core_modifyNetdev system id registered ldt, rfl, fun faulty => faulty⟩

theorem modifyTun_frame (system : System) (id : NdevId) {change : LdtTun → LdtTun}
    (tunops : ∀ tun, (change tun).tunops = tun.tunops)
    (tdev : ∀ tun, (change tun).tdev = tun.tdev) :
    Frame system (modifyTun system id change) :=
  ⟨core_modifyTun system id tunops tdev, rfl, fun faulty => faulty⟩

/-- A tunnel whose device has the pointer. -/
theorem tunOf_tdev {system : System} {id : NdevId} {dev : Core}
    (known : core system id = some dev) : (tunOf system id).tdev = dev.tdev := by
  obtain ⟨tdev, found, rfl⟩ := Option.map_eq_some_iff.mp known
  simp only [ldtdev] at found
  split at found
  · simp only [tunOf, found, coreOf]
  · contradiction

theorem not_readsTdev_of_kind {type : EvType} (tun : type.kind ≠ .tun)
    (tunfail : type.kind ≠ .tunfail) : ¬ReadsTdev type.num := by
  rintro (kind | kind)
  · rw [ldtEventGetkind_num, Except.ok.injEq] at kind
    exact tun kind
  · rw [ldtEventGetkind_num, Except.ok.injEq] at kind
    exact tunfail kind

theorem crsendTun_frame {system : System} {id : NdevId} {type : EvType}
    (safe : (tunOf system id).tdev = none → ¬ReadsTdev type.num) :
    Frame system (crsendTun system id type) := by
  apply ldtEventCrsend_frame
  rintro owner tun ⟨⟩ null
  exact safe null

theorem tundata_frame (system : System) (id : NdevId) (tundata : Option ConnState) :
    Frame system (modifyTun system id fun tun => { tun with tundata := tundata }) :=
  modifyTun_frame system id (fun _ => rfl) fun _ => rfl

theorem pdevdown_frame (system : System) (id : NdevId) (down : Bool) :
    Frame system (modifyTun system id fun tun => { tun with pdevdown := down }) :=
  modifyTun_frame system id (fun _ => rfl) fun _ => rfl

theorem requestRebind_frame (system : System) (id : NdevId) (tun : LdtTun)
    (operation : ConnState → Int × ConnState) :
    Frame system (requestRebind system id tun operation).2 := by
  have called := tundata_frame system id (callTunnel operation tun.tundata).2
  unfold requestRebind
  simp only
  split
  · apply called.trans
    apply crsendTun_frame
    intro _
    exact not_readsTdev_of_kind (by decide) (by decide)
  · exact called

/-- A tunnel points to its own device or nowhere, and a tunnel with operations
points to its device. -/
structure WfDev (nextNdev id : NdevId) (dev : Core) : Prop where
  below : id < nextNdev
  active : dev.active = true
  own : dev.tdev = none ∨ dev.tdev = some id
  tunops : dev.tunops.isSome → dev.tdev = some id
  hastun : dev.hastun = true → dev.tdev = some id

def Wf (system : System) : Prop :=
  ∀ id dev, core system id = some dev → WfDev system.nextNdev id dev

theorem ldtTunRebind_frame (system : System) (id : NdevId) {tun : LdtTun}
    (pointed : tun.tunops.isSome → tun.tdev ≠ none) (flags : Nat) (stack : TpAddr) :
    Frame system (ldtTunRebind system id tun flags stack).2 := by
  unfold ldtTunRebind
  split
  · exact Frame.refl system
  · rename_i tunops tunopsEq
    split
    · rename_i null
      exact absurd null (pointed (by simp [tunopsEq]))
    · split
      · exact Frame.refl system
      · split
        · rename_i fault failed
          refine ⟨core_congr rfl, rfl, fun faulty => ?_⟩
          have ifaList : fault = .ifaList := by
            unfold rebindAddr at failed
            split at failed <;> split at failed <;> simp_all
          simp [ifaList] at faulty
        · exact requestRebind_frame system id tun _

/-- The label gives the device its pointer, unless it has it already. -/
def Prepares (system : System) : Label → NdevId → Prop
  | .newtun id _ _, other => other = id
  | .rmTun id, other => other = id ∧ (system.netdev id).iffUp = false
  | _, _ => False

/-- The label raises an event on the tunnel of the device that reads the pointer. -/
def Raises (system : System) : Label → NdevId → Prop
  | .evsend id evtype _, other => other = id ∧ ReadsTdev evtype
  | .netdevUp ndev _, other => tpEvFind system ndev = some other
  | .netdevDown ndev, other => tpEvFind system ndev = some other
  | _, _ => False

/-- What a step does to the pointer of one device. -/
inductive Outcome (system : System) (label : Label) (next : System) (id : NdevId) : Prop where
  | kept (quiet : ¬Prepares system label id) (same : core next id = core system id)
  | created (quiet : ¬Prepares system label id) (fresh : id = system.nextNdev)
      (larger : next.nextNdev = system.nextNdev + 1)
      (coreEq : core next id = some ⟨true, false, none, none⟩)
  | freed (known : core system id ≠ none) (gone : core next id = none)
  | prepared (prepares : Prepares system label id) (known : core system id ≠ none)
      (dev : Core) (coreEq : core next id = some dev) (active : dev.active = true)
      (pointed : dev.tdev = some id)

theorem core_of_ldtdev {system : System} {id : NdevId} {tdev : LdtDev}
    (found : ldtdev system id = some tdev) : core system id = some (coreOf tdev) := by
  simp only [core, found, Option.map_some]

theorem Wf.active_of_ldtdev {system : System} (wf : Wf system) {id : NdevId} {tdev : LdtDev}
    (found : ldtdev system id = some tdev) : tdev.active = true :=
  (wf id _ (core_of_ldtdev found)).active

theorem Wf.tdev_of_tunops {system : System} (wf : Wf system) {id : NdevId} {tdev : LdtDev}
    (found : ldtdev system id = some tdev) (tunops : tdev.tun.tunops.isSome) :
    tdev.tun.tdev = some id :=
  (wf id _ (core_of_ldtdev found)).tunops tunops

theorem Wf.rebind_pointed {system : System} (wf : Wf system) {id : NdevId} {tdev : LdtDev}
    (found : ldtdev system id = some tdev) :
    tdev.tun.tunops.isSome → tdev.tun.tdev ≠ none := by
  intro tunops
  rw [wf.tdev_of_tunops found tunops]
  exact Option.some_ne_none id

theorem ldtdev_modifyLdt_self {system : System} {id : NdevId} {tdev : LdtDev}
    (found : ldtdev system id = some tdev) (change : LdtDev → LdtDev) :
    ldtdev (modifyLdt system id change) id = some (change tdev) := by
  simp only [ldtdev] at found
  split at found
  · rename_i registered
    simp [ldtdev, modifyLdt, modifyNetdev, registered, found]
  · contradiction

theorem core_modifyLdt_of_ne {system : System} {id other : NdevId} (different : other ≠ id)
    (change : LdtDev → LdtDev) :
    core (modifyLdt system id change) other = core system other := by
  simp only [core, ldtdev, modifyLdt, modifyNetdev, Function.update_of_ne different]

theorem netdev_crsendTun (system : System) (id : NdevId) (type : EvType) :
    (crsendTun system id type).netdev = system.netdev := by
  obtain ⟨sent, fault, sentEq⟩ := exists_ldtEventCrsend system type.num
    (.tun id (tunOf system id)) 0 none
  simp only [crsendTun, sentEq]

/-- No other device changes, and no null pointer is read. -/
structure Touches (system next : System) (id : NdevId) : Prop where
  others : ∀ other, other ≠ id → core next other = core system other
  nextNdev : next.nextNdev = system.nextNdev
  fault : next.fault = some .tunTdev → system.fault = some .tunTdev

theorem Frame.touches {system next : System} (frame : Frame system next) (id : NdevId) :
    Touches system next id :=
  ⟨fun _ _ => by rw [frame.core], frame.nextNdev, frame.fault⟩

theorem Touches.trans {system middle next : System} {id : NdevId}
    (left : Touches system middle id) (right : Touches middle next id) :
    Touches system next id := by
  refine ⟨fun other different => ?_, ?_, left.fault ∘ right.fault⟩
  · rw [right.others other different, left.others other different]
  · rw [right.nextNdev, left.nextNdev]

theorem modifyNetdev_touches (system : System) (id : NdevId)
    (change : NetDevice → NetDevice) : Touches system (modifyNetdev system id change) id where
  others := fun other different => by
    simp only [core, ldtdev, modifyNetdev, Function.update_of_ne different]
  nextNdev := rfl
  fault := fun faulty => faulty

/-- The device gets its pointer. -/
structure Points (system next : System) (id : NdevId) : Prop
    extends Touches system next id where
  self : ∃ dev, core next id = some dev ∧ dev.active = true ∧ dev.tdev = some id

theorem Points.trans_frame {system middle next : System} {id : NdevId}
    (points : Points system middle id) (frame : Frame middle next) :
    Points system next id := by
  refine ⟨points.toTouches.trans (frame.touches id), ?_⟩
  rw [frame.core]
  exact points.self

theorem Points.crsendTun_frame {system next : System} {id : NdevId}
    (points : Points system next id) (type : EvType) :
    Frame next (crsendTun next id type) := by
  obtain ⟨dev, known, -, pointed⟩ := points.self
  apply DeviceStep.crsendTun_frame
  intro null
  rw [tunOf_tdev known, pointed] at null
  contradiction

theorem modifyLdt_points {system : System} {id : NdevId} {tdev : LdtDev}
    (found : ldtdev system id = some tdev) (change : LdtDev → LdtDev)
    (active : (change tdev).active = true) (pointed : (change tdev).tun.tdev = some id) :
    Points system (modifyLdt system id change) id :=
  ⟨modifyNetdev_touches system id _,
    ⟨_, core_of_ldtdev (ldtdev_modifyLdt_self found change), active, pointed⟩⟩

theorem ldtTunInit_tdev (id : NdevId) (type : Option (List UInt8)) (kmalloc : Bool) :
    (ldtTunInit id type kmalloc).2.tdev = some id := by
  unfold ldtTunInit
  simp only
  split
  · rfl
  · split
    · rfl
    · rfl

/-- Creating a tunnel sets the pointer, whether it succeeds or not. -/
theorem ldtDevNewtun_points {system : System} (wf : Wf system) {id : NdevId} {tdev : LdtDev}
    (found : ldtdev system id = some tdev) (type : Option (List UInt8)) (kmalloc : Bool) :
    Points system (ldtDevNewtun system id tdev type kmalloc).2 id := by
  have active := wf.active_of_ldtdev found
  have known := core_of_ldtdev found
  have pointed := ldtTunInit_tdev id type kmalloc
  unfold ldtDevNewtun
  split
  · rename_i inactive
    simp [active] at inactive
  · split
    · rename_i hastun
      exact ⟨(Frame.refl system).touches id, ⟨_, known, active, (wf id _ known).hastun hastun⟩⟩
    · simp only
      have stored : Points system
          (modifyTun system id fun _ => (ldtTunInit id type kmalloc).2) id :=
        modifyLdt_points found _ active pointed
      split
      · exact stored
      · have marked := modifyLdt_points (ldtdev_modifyLdt_self found
            fun tdev => { tdev with tun := (ldtTunInit id type kmalloc).2 })
          (fun tdev => { tdev with hastun := true }) active pointed
        have hastun : Points system _ id := ⟨stored.toTouches.trans marked.toTouches, marked.self⟩
        have ready := hastun.trans_frame (modifyNetdev_frame _ id
          (fun ndev => { ndev with
            neededHeadroom := max ndev.neededHeadroom
              (ldtTunNeedheadroom (ldtTunInit id type kmalloc).2) })
          (fun _ => rfl) fun _ => rfl)
        exact ready.trans_frame (ready.crsendTun_frame .tunup)

theorem tunOf_of_ldtdev {system : System} {id : NdevId} {tdev : LdtDev}
    (found : ldtdev system id = some tdev) : tunOf system id = tdev.tun := by
  simp only [ldtdev] at found
  split at found
  · simp only [tunOf, found]
  · contradiction

theorem ldt_of_ldtdev {system : System} {id : NdevId} {tdev : LdtDev}
    (found : ldtdev system id = some tdev) : (system.netdev id).ldt = some tdev := by
  unfold ldtdev at found
  split at found
  · exact found
  · contradiction

theorem tunOf_modifyTun {system : System} {id : NdevId} {tdev : LdtDev}
    (found : ldtdev system id = some tdev) (change : LdtTun → LdtTun) :
    tunOf (modifyTun system id change) id = change tdev.tun := by
  have ldt := ldt_of_ldtdev found
  simp only [tunOf, modifyTun, modifyLdt, modifyNetdev, Function.update_self, ldt,
    Option.map_some]

/-- `ldt_rm_tun2` raises its event only for a tunnel with operations. -/
theorem ldtRmTun2_eq {system : System} {id : NdevId}
    (pointed : (tunOf system id).tunops.isSome → (tunOf system id).tdev ≠ none) :
    ∃ noticed, Frame system noticed ∧ noticed.netdev = system.netdev ∧
      ldtRmTun2 system id = modifyLdt noticed id fun tdev =>
        { tdev with tun := ldtTunWith (some id), hastun := false } := by
  unfold ldtRmTun2
  simp only
  split
  · rename_i tunops
    refine ⟨_, ?_, netdev_crsendTun system id .tundown, rfl⟩
    apply crsendTun_frame
    intro null
    exact absurd null (pointed tunops)
  · exact ⟨system, Frame.refl system, rfl, rfl⟩

/-- Removing the tunnel sets the pointer. -/
theorem ldtRmTun2_points {system : System} (wf : Wf system) {id : NdevId} {tdev : LdtDev}
    (found : ldtdev system id = some tdev) : Points system (ldtRmTun2 system id) id := by
  obtain ⟨noticed, frame, netdev, removed⟩ := ldtRmTun2_eq
    (tunOf_of_ldtdev found ▸ wf.rebind_pointed found)
  have foundNoticed : ldtdev noticed id = some tdev := by
    rw [← found]
    simp only [ldtdev, netdev]
  have active := wf.active_of_ldtdev found
  have points := modifyLdt_points foundNoticed
    (fun tdev => { tdev with tun := ldtTunWith (some id), hastun := false }) active rfl
  rw [removed]
  exact ⟨(frame.touches id).trans points.toTouches, points.self⟩

theorem tunWork_frame {hz : Nat} {system next : System} (wf : Wf system) {id : NdevId}
    {tdev : LdtDev} (found : ldtdev system id = some tdev) {label : Connection.Label}
    (worked : tunWork hz system id tdev label = some next) : Frame system next := by
  unfold tunWork at worked
  split at worked
  · rename_i tunops state tunopsEq _
    have pointed := wf.tdev_of_tunops found (by simp [tunopsEq])
    split at worked
    · contradiction
    · rename_i nextState _
      have changed := tundata_frame system id (some nextState)
      simp only at worked
      split at worked
      · obtain rfl := Option.some.inj worked
        exact changed
      · obtain rfl := Option.some.inj worked
        apply changed.trans
        apply ldtEventCrsend_frame
        rintro owner tun ⟨⟩ null
        have known : core (modifyTun system id fun tun =>
            { tun with tundata := some nextState }) id = some (coreOf tdev) := by
          rw [changed.core]
          exact core_of_ldtdev found
        rw [tunOf_tdev known] at null
        simp [coreOf, pointed] at null
  · contradiction

theorem Wf.congr {system next : System} (wf : Wf system) (coreEq : core next = core system)
    (nextNdev : next.nextNdev = system.nextNdev) : Wf next := by
  unfold Wf
  rw [coreEq, nextNdev]
  exact wf

/-- The notice of a physical device raises an event on the tunnel of the ldt
device that is bound to it. -/
structure Notices (system next : System) (id : NdevId) : Prop where
  core : core next = core system
  nextNdev : next.nextNdev = system.nextNdev
  fault : ∀ dev, DeviceStep.core system id = some dev →
    (next.fault = some .tunTdev ↔ dev.tdev = none)

theorem crsendTun_notices {system changed : System} {id : NdevId} {type : EvType}
    (reads : ReadsTdev type.num) (faultless : system.fault = none)
    (frame : Frame system changed) : Notices system (crsendTun changed id type) id where
  core := by
    rw [core_congr (netdev_crsendTun changed id type), frame.core]
  nextNdev := by
    obtain ⟨sent, fault, sentEq⟩ := exists_ldtEventCrsend changed type.num
      (.tun id (tunOf changed id)) 0 none
    simp only [crsendTun, sentEq, frame.nextNdev]
  fault := by
    intro dev known
    have tdevEq : (tunOf changed id).tdev = dev.tdev := by
      apply tunOf_tdev
      rw [frame.core, known]
    constructor
    · intro faulty
      by_contra pointed
      have harmless : Frame changed (crsendTun changed id type) := by
        apply crsendTun_frame
        intro null
        exact absurd (tdevEq ▸ null) pointed
      have impossible := frame.fault (harmless.fault faulty)
      rw [faultless] at impossible
      contradiction
    · intro null
      exact fault_ldtEventCrsend_of_null reads (tdevEq.trans null)

theorem tpdevNdevdown_notices {system : System} (wf : Wf system) (faultless : system.fault = none)
    {id : NdevId} {tdev : LdtDev} (found : ldtdev system id = some tdev) :
    Notices system (tpdevNdevdown system id tdev).2 id := by
  unfold tpdevNdevdown
  simp only [wf.active_of_ldtdev found, Bool.not_true, Bool.false_eq_true, if_false]
  apply crsendTun_notices _ faultless
  · exact pdevdown_frame system id true
  · exact .inl (ldtEventGetkind_num .pdevdown)

theorem ldtTunRebind_of_tunops_none {system : System} {id : NdevId} {tun : LdtTun}
    (none : tun.tunops = none) (flags : Nat) (stack : TpAddr) :
    ldtTunRebind system id tun flags stack = (0, system) := by
  simp only [ldtTunRebind, none]

theorem tpdevNdevup_notices {system : System} (wf : Wf system) (faultless : system.fault = none)
    {id : NdevId} {tdev : LdtDev} (found : ldtdev system id = some tdev) (stack : TpAddr) :
    Notices system (tpdevNdevup system id tdev stack).2 id := by
  have frame : Frame system
      (ldtTunRebind system id tdev.tun LDT_TUN_BIND_F_ADDRCHG stack).2 :=
    ldtTunRebind_frame system id (wf.rebind_pointed found) _ stack
  unfold tpdevNdevup
  simp only [wf.active_of_ldtdev found, Bool.not_true, Bool.false_eq_true, if_false]
  split
  · rename_i faulty
    refine ⟨frame.core, frame.nextNdev, fun dev known => ?_⟩
    have tunops : tdev.tun.tunops.isSome := by
      by_contra none
      rw [Option.not_isSome_iff_eq_none] at none
      rw [ldtTunRebind_of_tunops_none none, faultless] at faulty
      contradiction
    have pointed := wf.tdev_of_tunops found tunops
    rw [core_of_ldtdev found, Option.some.injEq] at known
    subst known
    constructor
    · intro read
      have impossible := frame.fault read
      rw [faultless] at impossible
      contradiction
    · intro null
      simp [coreOf, pointed] at null
  · apply crsendTun_notices _ faultless
    · exact frame.trans (pdevdown_frame _ id false)
    · exact .inl (ldtEventGetkind_num .pdevup)

theorem tpEvFind_congr {system next : System} (nextNdev : next.nextNdev = system.nextNdev)
    (net : ∀ id, (next.netdev id).net = (system.netdev id).net)
    (ldt : ∀ id, ldtdev next id = ldtdev system id) (ndev : NdevId) :
    tpEvFind next ndev = tpEvFind system ndev := by
  simp only [tpEvFind, nextNdev, net, ldt]

theorem ldtdev_of_tpEvFind {system : System} {ndev id : NdevId}
    (bound : tpEvFind system ndev = some id) :
    ∃ tdev, ldtdev system id = some tdev ∧ tdev.pdev = some ndev := by
  have accepted := List.find?_some bound
  rw [Bool.and_eq_true] at accepted
  revert accepted
  split
  · simp
  · rename_i tdev found
    intro accepted
    exact ⟨tdev, found, by simpa using accepted.2⟩

/-- The whole of `tp_ev_up` or `tp_ev_down`. -/
theorem tpEvNotify_notices {system : System} (wf : Wf system) (faultless : system.fault = none)
    {notice : System → NdevId → LdtDev → Int × System}
    (notices : ∀ {system : System}, Wf system → system.fault = none →
      ∀ {id : NdevId} {tdev : LdtDev}, ldtdev system id = some tdev →
        Notices system (notice system id tdev).2 id)
    (ndev : NdevId) (type : EvType) :
    core (tpEvNotify system ndev type notice) = core system ∧
      (tpEvNotify system ndev type notice).nextNdev = system.nextNdev ∧
        ((tpEvNotify system ndev type notice).fault = some .tunTdev ↔
          ∃ id dev, tpEvFind system ndev = some id ∧ core system id = some dev ∧
            dev.tdev = none) := by
  have safe : ∀ owner tun, EvData.ndev ndev = .tun owner tun → tun.tdev = none →
      ¬ReadsTdev type.num := by
    intro owner tun impossible
    contradiction
  have frame : Frame system (ldtEventCrsend system type.num (.ndev ndev) 0 none).2 :=
    ldtEventCrsend_frame safe
  have noticedFaultless :
      (ldtEventCrsend system type.num (.ndev ndev) 0 none).2.fault = none := by
    rw [fault_ldtEventCrsend safe, faultless]
  have sameFind : tpEvFind (ldtEventCrsend system type.num (.ndev ndev) 0 none).2 ndev =
      tpEvFind system ndev := by
    obtain ⟨sent, fault, sentEq⟩ := exists_ldtEventCrsend system type.num (.ndev ndev) 0 none
    rw [sentEq]
    exact tpEvFind_congr rfl (fun _ => rfl) (fun _ => rfl) ndev
  have noticedWf : Wf (ldtEventCrsend system type.num (.ndev ndev) 0 none).2 :=
    wf.congr frame.core frame.nextNdev
  unfold tpEvNotify
  simp only [sameFind]
  split
  · rename_i unbound
    refine ⟨frame.core, frame.nextNdev, ?_⟩
    simp [noticedFaultless, unbound]
  · rename_i id bound
    obtain ⟨tdev, found, -⟩ := ldtdev_of_tpEvFind (sameFind.trans bound)
    simp only [found]
    have noticed := notices noticedWf noticedFaultless found
    refine ⟨noticed.core.trans frame.core, noticed.nextNdev.trans frame.nextNdev, ?_⟩
    have known := core_of_ldtdev found
    have knownBefore : core system id = some (coreOf tdev) := by
      rw [← frame.core]
      exact known
    rw [noticed.fault _ known]
    constructor
    · intro null
      exact ⟨id, _, bound, knownBefore, null⟩
    · rintro ⟨other, dev, same, otherKnown, null⟩
      obtain rfl := Option.some.inj (bound.symm.trans same)
      rw [knownBefore, Option.some.injEq] at otherKnown
      exact otherKnown ▸ null

/-- The flag `IFF_UP` decides nothing about the pointers. -/
theorem iffUp_frame (system : System) (id : NdevId) (up : Bool) :
    Frame system (modifyNetdev system id fun ndev => { ndev with iffUp := up }) :=
  modifyNetdev_frame system id _ (fun _ => rfl) fun _ => rfl

theorem tpEvFind_iffUp (system : System) (id ndev : NdevId) (up : Bool) :
    tpEvFind (modifyNetdev system id fun ndev => { ndev with iffUp := up }) ndev =
      tpEvFind system ndev := by
  apply tpEvFind_congr
  · rfl
  · intro other
    by_cases same : other = id
    · subst same
      simp [modifyNetdev]
    · simp [modifyNetdev, Function.update_of_ne same]
  · intro other
    by_cases same : other = id
    · subst same
      simp [ldtdev, modifyNetdev]
    · simp [ldtdev, modifyNetdev, Function.update_of_ne same]

theorem tpEvFind_eq_none {system : System} {ndev : NdevId}
    (unheld : ∀ id tdev, ldtdev system id = some tdev → tdev.pdev ≠ some ndev) :
    tpEvFind system ndev = none := by
  cases found : tpEvFind system ndev with
  | none => rfl
  | some id =>
      obtain ⟨tdev, known, bound⟩ := ldtdev_of_tpEvFind found
      exact absurd bound (unheld id tdev known)

theorem unheld_of_heldAsPdev {system : System} (wf : Wf system) {ndev : NdevId}
    (unheld : heldAsPdev system ndev = false) {id : NdevId} {tdev : LdtDev}
    (found : ldtdev system id = some tdev) : tdev.pdev ≠ some ndev := by
  intro bound
  have below := (wf id _ (core_of_ldtdev found)).below
  rw [heldAsPdev, List.any_eq_false] at unheld
  have unheldHere := unheld id (List.mem_range.mpr below)
  simp [found, bound] at unheldHere

/-- Taking down a device that no ldt device is bound to is only its event. -/
theorem tpEvDown_of_unheld {system : System} {id : NdevId}
    (unheld : ∀ other tdev, ldtdev system other = some tdev → tdev.pdev ≠ some id) :
    Frame system (tpEvDown system id) ∧ (tpEvDown system id).netdev = system.netdev := by
  have safe : ∀ owner tun, EvData.ndev id = .tun owner tun → tun.tdev = none →
      ¬ReadsTdev EvType.nifdown.num := by
    intro owner tun impossible
    contradiction
  have frame : Frame system
      (ldtEventCrsend system EvType.nifdown.num (.ndev id) 0 none).2 :=
    ldtEventCrsend_frame safe
  obtain ⟨sent, fault, sentEq⟩ := exists_ldtEventCrsend system EvType.nifdown.num
    (.ndev id) 0 none
  have unbound : tpEvFind (ldtEventCrsend system EvType.nifdown.num (.ndev id) 0 none).2 id =
      none := by
    apply tpEvFind_eq_none
    rw [sentEq]
    exact unheld
  unfold tpEvDown tpEvNotify
  simp only [unbound]
  refine ⟨frame, ?_⟩
  rw [sentEq]

/-- The last part of `ldt_free_dev`. -/
theorem unregister_touches {system : System} {id : NdevId}
    (pointed : (tunOf system id).tunops.isSome → (tunOf system id).tdev ≠ none) :
    Touches system
        (modifyNetdev (ldtRmTun2 system id) id fun ndev => { ndev with registered := false })
        id ∧
      core (modifyNetdev (ldtRmTun2 system id) id fun ndev =>
        { ndev with registered := false }) id = none := by
  obtain ⟨noticed, frame, -, removed⟩ := ldtRmTun2_eq pointed
  constructor
  · rw [removed]
    apply (frame.touches id).trans
    exact (modifyNetdev_touches noticed id _).trans (modifyNetdev_touches _ id _)
  · simp [core, ldtdev, modifyNetdev]

theorem stopDev_touches (system : System) (id : NdevId) :
    Touches system (stopDev system id) id := by
  apply (modifyNetdev_touches system id _).trans
  apply Frame.touches
  apply ldtEventCrsend_frame
  intro owner tun impossible
  contradiction

theorem netdev_stopDev (system : System) (id : NdevId) :
    (stopDev system id).netdev =
      (modifyLdt system id fun tdev => { tdev with active := false }).netdev := by
  obtain ⟨sent, fault, sentEq⟩ := exists_ldtEventCrsend
    (modifyLdt system id fun tdev => { tdev with active := false })
    EvType.ifdown.num (.tdev id) 0 none
  simp only [stopDev, sentEq]

/-- Stopping a device changes nobody's physical device. -/
theorem unheld_stopDev {system : System} (wf : Wf system) {id : NdevId} {tdev : LdtDev}
    (found : ldtdev system id = some tdev) (unheld : heldAsPdev system id = false)
    (other : NdevId) (dev : LdtDev)
    (known : ldtdev (modifyNetdev (stopDev system id) id fun ndev =>
      { ndev with iffUp := false }) other = some dev) : dev.pdev ≠ some id := by
  by_cases same : other = id
  · subst same
    have stoppedDev := ldtdev_modifyLdt_self found fun tdev => { tdev with active := false }
    have devEq : some dev = some { tdev with active := false } := by
      rw [← known, ← stoppedDev]
      simp [ldtdev, modifyNetdev, netdev_stopDev]
    have unbound := unheld_of_heldAsPdev wf unheld found
    rw [Option.some.inj devEq]
    exact unbound
  · have knownBefore : ldtdev system other = some dev := by
      rw [← known]
      simp [ldtdev, modifyNetdev, netdev_stopDev, modifyLdt, Function.update_of_ne same]
    exact unheld_of_heldAsPdev wf unheld knownBefore

theorem ldtFreeDev_touches {system : System} (wf : Wf system) {id : NdevId}
    {tdev : LdtDev} (found : ldtdev system id = some tdev)
    (unheld : heldAsPdev system id = false) :
    Touches system (ldtFreeDev system id tdev) id ∧
      core (ldtFreeDev system id tdev) id = none := by
  have stopped := stopDev_touches system id
  have stoppedDev : ldtdev (stopDev system id) id = some { tdev with active := false } := by
    rw [← ldtdev_modifyLdt_self found fun tdev => { tdev with active := false }]
    simp only [ldtdev, netdev_stopDev]
  have finish {down : System} (touched : Touches system down id)
      (tunEq : tunOf down id = tdev.tun) :
      Touches system
          (modifyNetdev (ldtRmTun2 down id) id fun ndev => { ndev with registered := false })
          id ∧
        core (modifyNetdev (ldtRmTun2 down id) id fun ndev =>
          { ndev with registered := false }) id = none := by
    obtain ⟨last, gone⟩ := unregister_touches (tunEq ▸ wf.rebind_pointed found)
    exact ⟨touched.trans last, gone⟩
  unfold ldtFreeDev
  simp only [wf.active_of_ldtdev found, Bool.not_true, Bool.false_eq_true, if_false]
  split
  · obtain ⟨frame, netdev⟩ := tpEvDown_of_unheld (unheld_stopDev wf found unheld)
    apply finish
    · apply stopped.trans
      apply (modifyNetdev_touches _ id _).trans
      exact frame.touches id
    · have downDev : ldtdev (modifyNetdev (stopDev system id) id fun ndev =>
          { ndev with iffUp := false }) id = some { tdev with active := false } := by
        rw [← stoppedDev]
        simp [ldtdev, modifyNetdev]
      rw [← tunOf_of_ldtdev downDev]
      simp only [tunOf, netdev]
  · have tunEq := tunOf_of_ldtdev stoppedDev
    exact finish stopped tunEq

theorem core_registerNetdev_of_ne (system : System) (ndev : NetDevice) {id : NdevId}
    (different : id ≠ system.nextNdev) :
    core (registerNetdev system ndev) id = core system id := by
  simp only [core, ldtdev, registerNetdev, Function.update_of_ne different]

theorem registerNetdev_frame {system : System} (wf : Wf system) (name : List UInt8)
    (net : NetId) :
    ∀ id, core (registerNetdev system (newNetdev name net none)) id = core system id := by
  intro id
  by_cases fresh : id = system.nextNdev
  · subst fresh
    have unknown : core system system.nextNdev = none := by
      cases known : core system system.nextNdev with
      | none => rfl
      | some dev => exact absurd ((wf _ dev known).below) (Nat.lt_irrefl _)
    rw [unknown]
    simp [core, ldtdev, registerNetdev, newNetdev]
  · exact core_registerNetdev_of_ne system _ fresh

/-- A device that `ldt_create_dev` has created is active and has no pointer. -/
theorem ldtCreateDev_cases {system : System} (net : NetId) (name : Option (List UInt8))
    (assigned : List UInt8) (alloc : Bool) (register : Int) :
    (ldtCreateDev system net name assigned alloc register).2 = system ∨
      (∀ id, id ≠ system.nextNdev →
        core (ldtCreateDev system net name assigned alloc register).2 id = core system id) ∧
      core (ldtCreateDev system net name assigned alloc register).2 system.nextNdev =
        some ⟨true, false, none, none⟩ ∧
      (ldtCreateDev system net name assigned alloc register).2.nextNdev =
        system.nextNdev + 1 ∧
      (ldtCreateDev system net name assigned alloc register).2.fault = system.fault := by
  unfold ldtCreateDev
  split
  · exact .inl rfl
  · split
    · exact .inl rfl
    · split
      · exact .inl rfl
      · right
        simp only
        have frame (active : System) : Frame active
            (ldtEventCrsend active EvType.ifup.num (.tdev system.nextNdev) 0 none).2 := by
          apply ldtEventCrsend_frame
          intro owner tun impossible
          contradiction
        refine ⟨fun id different => ?_, ?_, ?_, ?_⟩
        · rw [(frame _).core, core_modifyLdt_of_ne different,
            core_registerNetdev_of_ne system _ different]
        · rw [(frame _).core]
          simp [core, ldtdev, modifyLdt, modifyNetdev, registerNetdev, newNetdev, tpdevSetup,
            coreOf, ldtTunWith]
        · rw [(frame _).nextNdev]
          rfl
        · rw [fault_ldtEventCrsend]
          · rfl
          · intro owner tun impossible
            contradiction

theorem ldtDevEvsend_frame {system : System} {id : NdevId} {tdev : LdtDev}
    {evtype reason : Int} (safe : tdev.tun.tdev = none → ¬ReadsTdev evtype) :
    Frame system (ldtDevEvsend system id tdev evtype reason).2 := by
  have tunFrame : Frame system
      (ldtEventCrsend system evtype (.tun id tdev.tun) reason none).2 := by
    apply ldtEventCrsend_frame
    rintro owner tun ⟨⟩ null
    exact safe null
  have otherFrame {dat : EvData} (other : ∀ owner tun, dat ≠ .tun owner tun) :
      Frame system (ldtEventCrsend system evtype dat reason none).2 := by
    apply ldtEventCrsend_frame
    intro owner tun same
    exact absurd same (other owner tun)
  unfold ldtDevEvsend
  split
  · exact Frame.refl system
  · split
    · exact Frame.refl system
    · exact otherFrame (by simp)
    · exact otherFrame (by simp)
    · exact otherFrame (by simp)
    · exact tunFrame
    · exact tunFrame
    · exact tunFrame

theorem ldtDevEvsend_of_null {system : System} {id : NdevId} {tdev : LdtDev}
    {evtype reason : Int} (active : tdev.active = true) (reads : ReadsTdev evtype)
    (null : tdev.tun.tdev = none) :
    core (ldtDevEvsend system id tdev evtype reason).2 = core system ∧
      (ldtDevEvsend system id tdev evtype reason).2.nextNdev = system.nextNdev ∧
        (ldtDevEvsend system id tdev evtype reason).2.fault = some .tunTdev := by
  have sent : ldtDevEvsend system id tdev evtype reason =
      ldtEventCrsend system evtype (.tun id tdev.tun) reason none := by
    unfold ldtDevEvsend
    rcases reads with kind | kind
    · simp [active, kind]
    · simp [active, kind]
  obtain ⟨messages, fault, sentEq⟩ := exists_ldtEventCrsend system evtype
    (.tun id tdev.tun) reason none
  have faulty : (ldtEventCrsend system evtype (.tun id tdev.tun) reason none).2.fault =
      some .tunTdev := fault_ldtEventCrsend_of_null reads null
  rw [sent]
  refine ⟨?_, ?_, faulty⟩
  · rw [sentEq]
    exact core_congr rfl
  · rw [sentEq]

/-- A request to the tunnel reads no null pointer. -/
theorem requestQuiet_frame (system : System) (id : NdevId) (tdev : LdtDev)
    (operation : ConnState → Int × ConnState) :
    Frame system (requestQuiet system id tdev operation).2 := by
  unfold requestQuiet
  split
  · exact Frame.refl system
  · split
    · exact tundata_frame system id (callTunnel operation tdev.tun.tundata).2
    · exact Frame.refl system

theorem ldtDevBind_frame (system : System) (id : NdevId) (tdev : LdtDev) (laddr : TpAddr) :
    Frame system (ldtDevBind system id tdev laddr).2 := by
  unfold ldtDevBind
  split
  · exact Frame.refl system
  · unfold ldtTunBind
    split
    · exact requestRebind_frame system id tdev.tun _
    · exact Frame.refl system

theorem ldtDevPeer_frame (system : System) (id : NdevId) (tdev : LdtDev)
    (raddr : Option TpAddr) : Frame system (ldtDevPeer system id tdev raddr).2 := by
  unfold ldtDevPeer
  split
  · exact Frame.refl system
  · split
    · exact requestRebind_frame system id tdev.tun _
    · exact Frame.refl system

theorem ldtDevBind2dev_frame {system : System} (wf : Wf system) {id : NdevId} {tdev : LdtDev}
    (found : ldtdev system id = some tdev) (dev : List UInt8) (stack : TpAddr) :
    Frame system (ldtDevBind2dev system id tdev dev stack).2 := by
  unfold ldtDevBind2dev
  split
  · exact Frame.refl system
  · rename_i ndev _
    split
    · exact Frame.refl system
    · have held : Frame system
          (modifyLdt system id fun tdev => { tdev with pdev := some ndev }) :=
        ⟨core_modifyLdt system id fun _ => rfl, rfl, fun faulty => faulty⟩
      have rebound := held.trans
        (ldtTunRebind_frame _ id (wf.rebind_pointed found) 0 stack)
      exact rebound.trans (pdevdown_frame _ id false)

/-- What a step does to the pointers and whether it reads a null one. -/
structure StepSpec (system : System) (label : Label) (next : System) : Prop where
  outcome : ∀ id, Outcome system label next id
  nextNdev : system.nextNdev ≤ next.nextNdev
  fault : next.fault = some .tunTdev ↔
    ∃ id dev, Raises system label id ∧ core system id = some dev ∧ dev.tdev = none

section
variable {system next : System} {label : Label}

theorem StepSpec.fault_of_silent (faultless : system.fault = none)
    (harmless : next.fault = some .tunTdev → system.fault = some .tunTdev)
    (silent : ∀ id, ¬Raises system label id) :
    next.fault = some .tunTdev ↔
      ∃ id dev, Raises system label id ∧ core system id = some dev ∧ dev.tdev = none := by
  constructor
  · intro faulty
    have impossible := harmless faulty
    rw [faultless] at impossible
    contradiction
  · rintro ⟨id, dev, raises, -⟩
    exact absurd raises (silent id)

theorem StepSpec.of_frame (faultless : system.fault = none) (frame : Frame system next)
    (quiet : ∀ id, ¬Prepares system label id) (silent : ∀ id, ¬Raises system label id) :
    StepSpec system label next where
  outcome := fun id => .kept (quiet id) (by rw [frame.core])
  nextNdev := Nat.le_of_eq frame.nextNdev.symm
  fault := fault_of_silent faultless frame.fault silent

theorem StepSpec.of_points (faultless : system.fault = none) {id : NdevId} {tdev : LdtDev}
    (found : ldtdev system id = some tdev) (points : Points system next id)
    (prepares : ∀ other, Prepares system label other ↔ other = id)
    (silent : ∀ id, ¬Raises system label id) : StepSpec system label next where
  outcome := by
    intro other
    by_cases same : other = id
    · subst same
      obtain ⟨dev, coreEq, active, pointed⟩ := points.self
      have known : core system other ≠ none := by
        rw [core_of_ldtdev found]
        exact Option.some_ne_none _
      exact .prepared ((prepares other).mpr rfl) known dev coreEq active pointed
    · apply Outcome.kept
      · rw [prepares]
        exact same
      · exact points.others other same
  nextNdev := Nat.le_of_eq points.nextNdev.symm
  fault := fault_of_silent faultless points.fault silent

theorem StepSpec.of_notify (coreEq : core next = core system)
    (nextNdev : next.nextNdev = system.nextNdev) (ndev : NdevId)
    (fault : next.fault = some .tunTdev ↔
      ∃ id dev, tpEvFind system ndev = some id ∧ core system id = some dev ∧ dev.tdev = none)
    (quiet : ∀ id, ¬Prepares system label id)
    (raises : ∀ id, Raises system label id ↔ tpEvFind system ndev = some id) :
    StepSpec system label next where
  outcome := fun id => .kept (quiet id) (by rw [coreEq])
  nextNdev := Nat.le_of_eq nextNdev.symm
  fault := by
    simp only [fault, raises]

end

/-- Bringing a device up or down. -/
theorem netdev_stepSpec {system : System} (wf : Wf system) (faultless : system.fault = none)
    {label : Label} {type : EvType} {notice : System → NdevId → LdtDev → Int × System}
    (notices : ∀ {system : System}, Wf system → system.fault = none →
      ∀ {id : NdevId} {tdev : LdtDev}, ldtdev system id = some tdev →
        Notices system (notice system id tdev).2 id)
    (ndev : NdevId) (up : Bool) (quiet : ∀ id, ¬Prepares system label id)
    (raises : ∀ id, Raises system label id ↔ tpEvFind system ndev = some id) :
    StepSpec system label (tpEvNotify
      (modifyNetdev system ndev fun dev => { dev with iffUp := up }) ndev type notice) := by
  have frame := iffUp_frame system ndev up
  have flagged := wf.congr frame.core frame.nextNdev
  have faultlessFlagged : (modifyNetdev system ndev fun dev =>
      { dev with iffUp := up }).fault = none := faultless
  obtain ⟨coreEq, nextNdev, fault⟩ := tpEvNotify_notices flagged faultlessFlagged notices
    ndev type
  rw [frame.core] at coreEq
  rw [tpEvFind_iffUp, frame.core] at fault
  exact StepSpec.of_notify coreEq nextNdev ndev fault quiet raises

theorem evsend_stepSpec {system : System} (wf : Wf system) (faultless : system.fault = none)
    {id : NdevId} {tdev : LdtDev} (found : ldtdev system id = some tdev) (evtype reason : Int) :
    StepSpec system (.evsend id evtype reason)
      (ldtDevEvsend system id tdev evtype reason).2 := by
  have known := core_of_ldtdev found
  have quiet : ∀ other, ¬Prepares system (.evsend id evtype reason) other := by
    intro other
    simp [Prepares]
  by_cases faulty : tdev.tun.tdev = none ∧ ReadsTdev evtype
  · obtain ⟨coreEq, nextNdev, fault⟩ := ldtDevEvsend_of_null
      (wf.active_of_ldtdev found) faulty.2 faulty.1
    refine ⟨fun other => .kept (quiet other) (by rw [coreEq]), Nat.le_of_eq nextNdev.symm, ?_⟩
    constructor
    · intro _
      exact ⟨id, _, ⟨rfl, faulty.2⟩, known, faulty.1⟩
    · intro _
      exact fault
  · have frame : Frame system (ldtDevEvsend system id tdev evtype reason).2 := by
      apply ldtDevEvsend_frame
      intro null reads
      exact faulty ⟨null, reads⟩
    refine ⟨fun other => .kept (quiet other) (by rw [frame.core]),
      Nat.le_of_eq frame.nextNdev.symm, ?_⟩
    constructor
    · intro read
      have impossible := frame.fault read
      rw [faultless] at impossible
      contradiction
    · rintro ⟨other, dev, ⟨rfl, reads⟩, otherKnown, null⟩
      rw [known, Option.some.injEq] at otherKnown
      subst otherKnown
      exact absurd ⟨null, reads⟩ faulty

/-- The step lemma. -/
theorem step_stepSpec {hz : Nat} {system next : System} {label : Label} (wf : Wf system)
    (stepped : step hz system label = some next) :
    system.fault = none ∧ StepSpec system label next := by
  unfold step at stepped
  split at stepped
  · contradiction
  · rename_i notFaulty
    have faultless : system.fault = none := Option.not_isSome_iff_eq_none.mp notFaulty
    refine ⟨faultless, ?_⟩
    have request {id : NdevId} {effect : LdtDev → System}
        (requested : (ldtdev system id).map effect = some next)
        (frame : ∀ {tdev}, ldtdev system id = some tdev → Frame system (effect tdev))
        (quiet : ∀ id, ¬Prepares system label id) (silent : ∀ id, ¬Raises system label id) :
        StepSpec system label next := by
      obtain ⟨tdev, found, rfl⟩ := Option.map_eq_some_iff.mp requested
      exact StepSpec.of_frame faultless (frame found) quiet silent
    cases label with
    | registerNetdev name net =>
        obtain rfl := Option.some.inj stepped
        refine ⟨fun id => .kept (by simp [Prepares]) (registerNetdev_frame wf name net id),
          Nat.le_succ _, ?_⟩
        exact StepSpec.fault_of_silent faultless (fun faulty => faulty) (by simp [Raises])
    | setAddrs id ipPtr ip6Ptr =>
        obtain rfl := Option.some.inj stepped
        apply StepSpec.of_frame faultless
        · exact modifyNetdev_frame system id _ (fun _ => rfl) fun _ => rfl
        · simp [Prepares]
        · simp [Raises]
    | netdevUp id stack =>
        simp only at stepped
        split at stepped
        · obtain rfl := Option.some.inj stepped
          apply netdev_stepSpec wf faultless _ id true
          · simp [Prepares]
          · simp [Raises]
          · intro system wf faultless id tdev found
            exact tpdevNdevup_notices wf faultless found stack
        · contradiction
    | netdevDown id =>
        simp only at stepped
        split at stepped
        · obtain rfl := Option.some.inj stepped
          apply netdev_stepSpec wf faultless _ id false
          · simp [Prepares]
          · simp [Raises]
          · intro system wf faultless id tdev found
            exact tpdevNdevdown_notices wf faultless found
        · contradiction
    | createDev net name assigned alloc register =>
        obtain rfl := Option.some.inj stepped
        rcases ldtCreateDev_cases net name assigned alloc register with refused | created
        · rw [refused]
          exact StepSpec.of_frame faultless (Frame.refl system) (by simp [Prepares])
            (by simp [Raises])
        · obtain ⟨others, self, larger, fault⟩ := created
          refine ⟨fun id => ?_, ?_, ?_⟩
          · by_cases fresh : id = system.nextNdev
            · subst fresh
              exact .created (by simp [Prepares]) rfl larger self
            · exact .kept (by simp [Prepares]) (others id fresh)
          · rw [larger]
            exact Nat.le_succ _
          · apply StepSpec.fault_of_silent faultless
            · rw [fault]
              exact fun faulty => faulty
            · simp [Raises]
    | freeDev id =>
        simp only at stepped
        split at stepped
        · contradiction
        · rename_i unheld
          obtain ⟨tdev, found, rfl⟩ := Option.map_eq_some_iff.mp stepped
          obtain ⟨touches, gone⟩ := ldtFreeDev_touches wf found (by simpa using unheld)
          refine ⟨fun other => ?_, Nat.le_of_eq touches.nextNdev.symm, ?_⟩
          · by_cases same : other = id
            · subst same
              apply Outcome.freed _ gone
              rw [core_of_ldtdev found]
              exact Option.some_ne_none _
            · exact .kept (by simp [Prepares]) (touches.others other same)
          · exact StepSpec.fault_of_silent faultless touches.fault (by simp [Raises])
    | newtun id type kmalloc =>
        obtain ⟨tdev, found, rfl⟩ := Option.map_eq_some_iff.mp stepped
        apply StepSpec.of_points faultless found (ldtDevNewtun_points wf found type kmalloc)
        · simp [Prepares]
        · simp [Raises]
    | rmTun id =>
        obtain ⟨tdev, found, rfl⟩ := Option.map_eq_some_iff.mp stepped
        unfold ldtRmTun
        simp only [wf.active_of_ldtdev found, Bool.not_true, Bool.false_eq_true, if_false]
        split
        · rename_i up
          apply StepSpec.of_frame faultless (Frame.refl system)
          · simp [Prepares, up]
          · simp [Raises]
        · rename_i notUp
          apply StepSpec.of_points faultless found (ldtRmTun2_points wf found)
          · simp [Prepares, notUp]
          · simp [Raises]
    | bind id laddr =>
        exact request stepped (fun _ => ldtDevBind_frame system id _ laddr)
          (by simp [Prepares]) (by simp [Raises])
    | bind2dev id dev stack =>
        exact request stepped (fun found => ldtDevBind2dev_frame wf found dev stack)
          (by simp [Prepares]) (by simp [Raises])
    | peer id raddr =>
        exact request stepped (fun _ => ldtDevPeer_frame system id _ raddr)
          (by simp [Prepares]) (by simp [Raises])
    | serverstart id =>
        exact request stepped (fun _ => requestQuiet_frame system id _ _)
          (by simp [Prepares]) (by simp [Raises])
    | setqueue id txlen qpolicy txqlenRet qpolicyRet =>
        exact request stepped (fun _ => requestQuiet_frame system id _ _)
          (by simp [Prepares]) (by simp [Raises])
    | evsend id evtype reason =>
        obtain ⟨tdev, found, rfl⟩ := Option.map_eq_some_iff.mp stepped
        exact evsend_stepSpec wf faultless found evtype reason
    | work id label =>
        simp only at stepped
        split at stepped
        · obtain ⟨tdev, found, worked⟩ := Option.bind_eq_some_iff.mp stepped
          exact StepSpec.of_frame faultless (tunWork_frame wf found worked)
            (by simp [Prepares]) (by simp [Raises])
        · contradiction

end Tunprox.DeviceStep
