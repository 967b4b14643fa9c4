import Tunprox.DeviceStep
import Tunprox.LabelledRun

/-!
# The pointer from the tunnel back to its device

In every run the pointer of a device is set exactly when `ldt_dev_newtun` has
been called on it, or `ldt_rm_tun` while it was down, and a null pointer is
read exactly when an event of kind `TUN` or `TUNFAIL` is raised on a device
before that.
-/

namespace Tunprox.DevicePointer

open LabelledRun Event Device DeviceStep

theorem wf_boot : Wf boot := by
  intro id dev known
  simp [core, ldtdev, boot] at known

theorem wf_step {hz : Nat} {system next : System} {label : Label} (wf : Wf system)
    (stepped : step hz system label = some next) : Wf next := by
  obtain ⟨-, spec⟩ := step_stepSpec wf stepped
  intro id dev known
  cases spec.outcome id with
  | kept quiet same =>
      rw [same] at known
      have before := wf id dev known
      exact { before with below := Nat.lt_of_lt_of_le before.below spec.nextNdev }
  | created quiet fresh larger coreEq =>
      rw [coreEq, Option.some.injEq] at known
      subst known
      refine ⟨?_, rfl, .inl rfl, by simp, by simp⟩
      rw [fresh, larger]
      exact Nat.lt_succ_self _
  | freed before gone =>
      rw [gone] at known
      contradiction
  | prepared prepares before dev' coreEq active pointed =>
      rw [coreEq, Option.some.injEq] at known
      subst known
      obtain ⟨old, oldKnown⟩ := Option.ne_none_iff_exists'.mp before
      have below := (wf id old oldKnown).below
      exact ⟨Nat.lt_of_lt_of_le below spec.nextNdev, active, .inr pointed,
        fun _ => pointed, fun _ => pointed⟩

/-- The device with this number existed once. -/
def Gone (id : NdevId) (system : System) : Prop :=
  Wf system ∧ id < system.nextNdev ∧ core system id = none

theorem gone_step {hz : Nat} {id : NdevId} {system next : System} {label : Label}
    (gone : Gone id system) (stepped : step hz system label = some next) : Gone id next := by
  obtain ⟨wf, below, absent⟩ := gone
  obtain ⟨-, spec⟩ := step_stepSpec wf stepped
  refine ⟨wf_step wf stepped, Nat.lt_of_lt_of_le below spec.nextNdev, ?_⟩
  cases spec.outcome id with
  | kept quiet same =>
      rw [same]
      exact absent
  | created quiet fresh larger coreEq =>
      rw [fresh] at below
      exact absurd below (Nat.lt_irrefl _)
  | freed before absentNext =>
      exact absentNext
  | prepared prepares before dev coreEq active pointed =>
      exact absurd absent before

/-- The numbers of devices are not used again. -/
theorem core_eq_none_of_run {hz : Nat} {system final : System} {labels : List Label}
    (wf : Wf system) {id : NdevId} (below : id < system.nextNdev)
    (gone : core system id = none) (ran : run (step hz) system labels = some final) :
    core final id = none := by
  have goneAtEnd : Gone id final :=
    invariant_of_run gone_step ⟨wf, below, gone⟩ ran
  exact goneAtEnd.2.2

/-- Some step of the run gives the device its pointer. -/
def Prepared (hz : Nat) : System → List Label → NdevId → Prop
  | _, [], _ => False
  | system, label :: labels, id =>
      Prepares system label id ∨
        match step hz system label with
        | none => False
        | some next => Prepared hz next labels id

/-- The tunnel of the device points to it. -/
def PointsToItself (system : System) (id : NdevId) : Prop :=
  ∃ dev, core system id = some dev ∧ dev.tdev = some id

theorem pointsToItself_of_run {hz : Nat} {system final : System} {labels : List Label}
    (wf : Wf system) (ran : run (step hz) system labels = some final) {id : NdevId}
    (known : core final id ≠ none) :
    PointsToItself final id ↔ PointsToItself system id ∨ Prepared hz system labels id := by
  induction labels generalizing system with
  | nil =>
      obtain rfl := Option.some.inj ran
      simp [Prepared]
  | cons label labels ih =>
      obtain ⟨next, stepped, rest⟩ := run_cons_eq_some_iff.mp ran
      obtain ⟨-, spec⟩ := step_stepSpec wf stepped
      rw [ih (wf_step wf stepped) rest]
      simp only [Prepared, stepped]
      cases spec.outcome id with
      | kept quiet same =>
          simp [PointsToItself, same, quiet]
      | created quiet fresh larger coreEq =>
          have unknown : core system id = none := by
            cases old : core system id with
            | none => rfl
            | some dev => exact absurd (wf id dev old).below (fresh ▸ Nat.lt_irrefl _)
          simp [PointsToItself, coreEq, unknown, quiet]
      | freed before gone =>
          obtain ⟨old, oldKnown⟩ := Option.ne_none_iff_exists'.mp before
          have below := Nat.lt_of_lt_of_le (wf id old oldKnown).below spec.nextNdev
          exact absurd (core_eq_none_of_run (wf_step wf stepped) below gone rest) known
      | prepared prepares before dev coreEq active pointed =>
          simp [PointsToItself, coreEq, pointed, prepares]

theorem wf_of_run {hz : Nat} {final : System} {labels : List Label}
    (ran : run (step hz) boot labels = some final) : Wf final :=
  invariant_of_run wf_step wf_boot ran

theorem not_pointsToItself_boot (id : NdevId) : ¬PointsToItself boot id := by
  rintro ⟨dev, known, -⟩
  simp [core, ldtdev, boot] at known

/-- A step that raises an event on a device takes place on a device that exists. -/
theorem core_ne_none_of_raises {hz : Nat} {system next : System} {label : Label}
    (stepped : step hz system label = some next) {id : NdevId}
    (raises : Raises system label id) : core system id ≠ none := by
  have bound {ndev : NdevId} (found : tpEvFind system ndev = some id) :
      core system id ≠ none := by
    obtain ⟨tdev, known, -⟩ := ldtdev_of_tpEvFind found
    rw [core_of_ldtdev known]
    exact Option.some_ne_none _
  cases label with
  | evsend target evtype reason =>
      obtain ⟨rfl, -⟩ := raises
      unfold step at stepped
      split at stepped
      · contradiction
      · obtain ⟨tdev, known, -⟩ := Option.map_eq_some_iff.mp stepped
        rw [core_of_ldtdev known]
        exact Option.some_ne_none _
  | netdevUp ndev stack => exact bound raises
  | netdevDown ndev => exact bound raises
  | _ => exact raises.elim

theorem pointsToItself_iff_prepared {hz : Nat} {system : System} {labels : List Label}
    (ran : run (step hz) boot labels = some system) {id : NdevId}
    (known : core system id ≠ none) :
    PointsToItself system id ↔ Prepared hz boot labels id := by
  rw [pointsToItself_of_run wf_boot ran known]
  simp [not_pointsToItself_boot]

/-- A step that raises an event on a device that was not prepared reads a null
pointer. -/
theorem fault_of_unprepared {hz : Nat} {system next : System} {labels : List Label}
    {label : Label} (ran : run (step hz) boot labels = some system)
    (stepped : step hz system label = some next) {id : NdevId}
    (raises : Raises system label id) (unprepared : ¬Prepared hz boot labels id) :
    next.fault = some .tunTdev := by
  have wf := wf_of_run ran
  have known := core_ne_none_of_raises stepped raises
  obtain ⟨dev, coreEq⟩ := Option.ne_none_iff_exists'.mp known
  obtain ⟨-, spec⟩ := step_stepSpec wf stepped
  rw [spec.fault]
  refine ⟨id, dev, raises, coreEq, ?_⟩
  rcases (wf id dev coreEq).own with null | pointed
  · exact null
  · exact absurd ((pointsToItself_iff_prepared ran known).mp ⟨dev, coreEq, pointed⟩) unprepared

/-- Every event that reads the pointer of a device comes after a step that has
given the device its pointer. -/
def RaisesPrepared (hz : Nat) (labels : List Label) : Prop :=
  ∀ before label after system id, labels = before ++ label :: after →
    run (step hz) boot before = some system → Raises system label id →
      Prepared hz boot before id

theorem faultless_of_run_cons {hz : Nat} {system final : System} {label : Label}
    {labels : List Label} (wf : Wf system)
    (ran : run (step hz) system (label :: labels) = some final) : system.fault = none := by
  obtain ⟨next, stepped, -⟩ := run_cons_eq_some_iff.mp ran
  exact (step_stepSpec wf stepped).1

theorem fault_iff_raisesPrepared {hz : Nat} {labels : List Label} {final : System}
    (ran : run (step hz) boot labels = some final) :
    final.fault ≠ some .tunTdev ↔ RaisesPrepared hz labels := by
  constructor
  · intro unfaulty before label after system id labelsEq ranBefore raises
    subst labelsEq
    rw [run_append, ranBefore, Option.bind_some] at ran
    obtain ⟨next, stepped, rest⟩ := run_cons_eq_some_iff.mp ran
    by_contra unprepared
    have faulty := fault_of_unprepared ranBefore stepped raises unprepared
    cases after with
    | nil =>
        obtain rfl := Option.some.inj rest
        exact unfaulty faulty
    | cons following after =>
        have faultless := faultless_of_run_cons
          (wf_step (wf_of_run ranBefore) stepped) rest
        rw [faultless] at faulty
        contradiction
  · intro prepared faulty
    rcases List.eq_nil_or_concat' labels with rfl | ⟨before, label, rfl⟩
    · obtain rfl := Option.some.inj ran
      contradiction
    · obtain ⟨system, ranBefore, stepped⟩ := run_append_singleton_eq_some_iff.mp ran
      obtain ⟨-, spec⟩ := step_stepSpec (wf_of_run ranBefore) stepped
      obtain ⟨id, dev, raises, known, null⟩ := spec.fault.mp faulty
      have preparedHere := prepared before label [] system id rfl ranBefore raises
      have pointed := (pointsToItself_iff_prepared ranBefore (by simp [known])).mpr preparedHere
      obtain ⟨dev', known', tdev⟩ := pointed
      rw [known, Option.some.injEq] at known'
      subst known'
      rw [null] at tdev
      contradiction

/-- In every reachable state the tunnel of a registered device points to the
device exactly when `ldt_dev_newtun` has been called on it, or `ldt_rm_tun` while
it was down; and no null pointer has been read exactly when all events of kind
`TUN` and `TUNFAIL` came after that. -/
theorem tdev_iff_prepared (hz : Nat) (labels : List Label) (final : System)
    (ran : run (step hz) boot labels = some final) :
    (∀ id tdev, ldtdev final id = some tdev →
      (tdev.tun.tdev = some id ↔ Prepared hz boot labels id)) ∧
      (final.fault ≠ some .tunTdev ↔ RaisesPrepared hz labels) := by
  refine ⟨fun id tdev found => ?_, fault_iff_raisesPrepared ran⟩
  have known := core_of_ldtdev found
  rw [← pointsToItself_iff_prepared ran (by simp [known])]
  simp [PointsToItself, known, coreOf]

def createDev : Label :=
  .createDev 0 none (ascii "ldt0") true 0

/-- A tunnel is created, the request to send `LDT_EVTYPE_TUNDOWN` succeeds. -/
theorem tdev_after_newtun :
    ∃ final tdev, run (step 100) boot
        [createDev, .newtun 0 (some (ascii "mpdccp4")) true,
          .evsend 0 EvType.tundown.num 0] = some final ∧
      ldtdev final 0 = some tdev ∧ tdev.tun.tdev = some 0 ∧
      RaisesPrepared 100 [createDev, .newtun 0 (some (ascii "mpdccp4")) true,
        .evsend 0 EvType.tundown.num 0] := by
  refine ⟨_, _, rfl, rfl, ?_, ?_⟩
  · refine ((tdev_iff_prepared 100 [createDev, .newtun 0 (some (ascii "mpdccp4")) true,
      .evsend 0 EvType.tundown.num 0] _ rfl).1 0 _ rfl).mpr ?_
    exact .inr (.inl rfl)
  · refine (tdev_iff_prepared 100 [createDev, .newtun 0 (some (ascii "mpdccp4")) true,
      .evsend 0 EvType.tundown.num 0] _ rfl).2.mp ?_
    decide

/-- A new device has a tunnel that points nowhere.  A request to send
`LDT_EVTYPE_TUNDOWN` for it, or a physical device that goes down after the
device was bound to it, reads the null pointer. -/
theorem tdev_null_after_create :
    (∃ final tdev, run (step 100) boot [createDev] = some final ∧
        ldtdev final 0 = some tdev ∧ tdev.active = true ∧ tdev.tun.tdev = none) ∧
      (∃ final, run (step 100) boot [createDev, .evsend 0 EvType.tundown.num 0] = some final ∧
        final.fault = some .tunTdev) ∧
      ∃ final, run (step 100) boot
          [createDev, .registerNetdev (ascii "eth0") 0, .netdevUp 1 ⟨2, 0, 0⟩,
            .bind2dev 0 (ascii "eth0") ⟨2, 0, 0⟩, .netdevDown 1] = some final ∧
        final.fault = some .tunTdev := by
  refine ⟨⟨_, _, rfl, rfl, rfl, rfl⟩, ⟨_, rfl, rfl⟩, ⟨_, rfl, rfl⟩⟩

end Tunprox.DevicePointer
