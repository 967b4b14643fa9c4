import Mathlib.Data.List.Basic

/-!
# Runs of partial labelled transition functions

A component is given by a partial function `step` that takes a state and a
label to the next state, or to `none` when the label is not enabled.  A run is
a list of labels executed from left to right.  The file provides the induction
rules used throughout: an invariant that every step preserves, an invariant that
is preserved only by the steps meeting a guard, and the refinement of the steps
of one machine into runs of another.
-/

namespace Tunprox.LabelledRun

variable {State Label : Type*} (step : State → Label → Option State)

/-- Execute the labels in order, failing at the first disabled one. -/
def run : State → List Label → Option State
  | state, [] => some state
  | state, label :: labels =>
      (step state label).bind fun next => run next labels

/-- Every step of the run is taken in a state and with a label that meet
`guard`.  Steps after a disabled label carry no obligation. -/
def Guarded (guard : State → Label → Prop) : State → List Label → Prop
  | _, [] => True
  | state, label :: labels =>
      guard state label ∧
        match step state label with
        | none => True
        | some next => Guarded guard next labels

instance decidableGuarded (guard : State → Label → Prop)
    [∀ state label, Decidable (guard state label)] :
    ∀ (state : State) (labels : List Label),
      Decidable (Guarded step guard state labels)
  | _, [] => inferInstanceAs (Decidable True)
  | state, label :: labels =>
      match stepEq : step state label with
      | none => decidable_of_iff (guard state label) (by simp [Guarded, stepEq])
      | some next =>
          have := decidableGuarded guard next labels
          decidable_of_iff (guard state label ∧ Guarded step guard next labels)
            (by simp [Guarded, stepEq])

variable {step}

@[simp]
theorem run_nil (state : State) : run step state [] = some state :=
  rfl

theorem run_cons_eq_some_iff {state final : State} {label : Label}
    {labels : List Label} :
    run step state (label :: labels) = some final ↔
      ∃ next, step state label = some next ∧ run step next labels = some final := by
  simp [run, Option.bind_eq_some_iff]

theorem run_append (state : State) (first second : List Label) :
    run step state (first ++ second) =
      (run step state first).bind fun middle => run step middle second := by
  induction first generalizing state with
  | nil => rfl
  | cons label labels ih =>
      simp only [List.cons_append, run]
      cases step state label with
      | none => rfl
      | some next => exact ih next

theorem run_append_singleton_eq_some_iff {state final : State} {label : Label}
    {labels : List Label} :
    run step state (labels ++ [label]) = some final ↔
      ∃ middle, run step state labels = some middle ∧
        step middle label = some final := by
  simp [run_append, Option.bind_eq_some_iff, run]

/-- What every guarded step preserves holds at the end of a guarded run. -/
theorem invariant_of_guarded {guard : State → Label → Prop}
    {invariant : State → Prop}
    (preserved : ∀ {state label next}, guard state label → invariant state →
      step state label = some next → invariant next)
    {state final : State} {labels : List Label}
    (guarded : Guarded step guard state labels) (start : invariant state)
    (ran : run step state labels = some final) : invariant final := by
  induction labels generalizing state with
  | nil =>
      simp only [run_nil, Option.some.injEq] at ran
      exact ran ▸ start
  | cons label labels ih =>
      obtain ⟨next, stepped, rest⟩ := run_cons_eq_some_iff.mp ran
      simp only [Guarded, stepped] at guarded
      exact ih guarded.2 (preserved guarded.1 start stepped) rest

theorem guarded_of_forall {guard : State → Label → Prop}
    (always : ∀ state label, guard state label)
    (state : State) (labels : List Label) :
    Guarded step guard state labels := by
  induction labels generalizing state with
  | nil => trivial
  | cons label labels ih =>
      refine ⟨always state label, ?_⟩
      cases step state label with
      | none => trivial
      | some next => exact ih next

/-- What every step preserves holds at the end of a run. -/
theorem invariant_of_run {invariant : State → Prop}
    (preserved : ∀ {state label next}, invariant state →
      step state label = some next → invariant next)
    {state final : State} {labels : List Label} (start : invariant state)
    (ran : run step state labels = some final) : invariant final := by
  have unguarded : Guarded step (fun _ _ => True) state labels :=
    guarded_of_forall (fun _ _ => trivial) state labels
  exact invariant_of_guarded (fun _ holds stepped => preserved holds stepped) unguarded
    start ran

/-- If an invariant keeps every label enabled, every list of labels is a run. -/
theorem exists_run_of_enabled {invariant : State → Prop}
    (enabled : ∀ {state} label, invariant state →
      ∃ next, step state label = some next ∧ invariant next)
    {state : State} (start : invariant state) (labels : List Label) :
    ∃ final, run step state labels = some final ∧ invariant final := by
  induction labels generalizing state with
  | nil => exact ⟨state, rfl, start⟩
  | cons label labels ih =>
      obtain ⟨next, stepped, holds⟩ := enabled label start
      obtain ⟨final, ran, ends⟩ := ih holds
      exact ⟨final, run_cons_eq_some_iff.mpr ⟨next, stepped, ran⟩, ends⟩

/-- What the guard and an invariant imply of each step holds of all steps of a guarded
run. -/
theorem guarded_of_guarded {guard property : State → Label → Prop}
    {invariant : State → Prop}
    (preserved : ∀ {state label next}, guard state label → invariant state →
      step state label = some next → invariant next)
    (implied : ∀ {state label}, guard state label → invariant state → property state label)
    {state : State} {labels : List Label}
    (guarded : Guarded step guard state labels) (start : invariant state) :
    Guarded step property state labels := by
  induction labels generalizing state with
  | nil => trivial
  | cons label labels ih =>
      obtain ⟨allowed, rest⟩ := guarded
      refine ⟨implied allowed start, ?_⟩
      cases stepEq : step state label with
      | none => trivial
      | some next =>
          rw [stepEq] at rest
          exact ih rest (preserved allowed start stepEq)

/-- In a run, two guards that agree on the steps that can be taken while an invariant holds
allow the same. -/
theorem guarded_iff_of_run {guard property : State → Label → Prop}
    {invariant : State → Prop}
    (preserved : ∀ {state label next}, guard state label → invariant state →
      step state label = some next → invariant next)
    (agree : ∀ {state label next}, invariant state → step state label = some next →
      (guard state label ↔ property state label))
    {state final : State} {labels : List Label} (start : invariant state)
    (ran : run step state labels = some final) :
    Guarded step guard state labels ↔ Guarded step property state labels := by
  induction labels generalizing state with
  | nil => exact Iff.rfl
  | cons label labels ih =>
      obtain ⟨next, stepped, rest⟩ := run_cons_eq_some_iff.mp ran
      simp only [Guarded, stepped]
      rw [← agree start stepped]
      refine and_congr_right fun allowed => ?_
      exact ih (preserved allowed start stepped) rest

/-- A property holds of all states on the way if and only if it holds of the first one and
behind every step. -/
theorem forall_reached_iff {property : State → Prop} {start : State} {labels : List Label} :
    (∀ earlier, earlier <+: labels → ∀ state, run step start earlier = some state →
        property state) ↔
      property start ∧
        Guarded step (fun state label => ∀ next, step state label = some next → property next)
          start labels := by
  induction labels generalizing start with
  | nil =>
      constructor
      · intro reached
        exact ⟨reached [] List.prefix_rfl start rfl, trivial⟩
      · rintro ⟨holds, -⟩ earlier before state ran
        obtain rfl := List.prefix_nil.mp before
        exact Option.some.inj ran ▸ holds
  | cons label labels ih =>
      simp only [Guarded]
      constructor
      · intro reached
        refine ⟨reached [] List.nil_prefix start rfl, ?_, ?_⟩
        · intro next stepped
          refine reached [label] ?_ next ?_
          · exact List.prefix_append [label] labels
          · rw [run, stepped]
            rfl
        · cases stepEq : step start label with
          | none => trivial
          | some next =>
              refine (ih.mp ?_).2
              intro earlier before state ran
              refine reached (label :: earlier) (List.cons_prefix_cons.mpr ⟨rfl, before⟩) state ?_
              rw [run, stepEq]
              exact ran
      · rintro ⟨holds, behind, rest⟩ earlier before state ran
        cases earlier with
        | nil => exact Option.some.inj ran ▸ holds
        | cons first earlier =>
            obtain ⟨rfl, shorter⟩ := List.cons_prefix_cons.mp before
            obtain ⟨next, stepped, ranOn⟩ := run_cons_eq_some_iff.mp ran
            rw [stepped] at rest
            exact ih.mpr ⟨behind next stepped, rest⟩ earlier shorter state ranOn

/-- The guard on a run that is extended by one label splits into the guard on
the shorter run and the guard on the last step. -/
theorem guarded_append_singleton_iff {guard : State → Label → Prop}
    {state middle : State} {labels : List Label} {label : Label}
    (ran : run step state labels = some middle) :
    Guarded step guard state (labels ++ [label]) ↔
      Guarded step guard state labels ∧ guard middle label := by
  induction labels generalizing state with
  | nil =>
      simp only [run_nil, Option.some.injEq] at ran
      subst ran
      simp only [List.nil_append, Guarded, true_and]
      cases step state label <;> simp
  | cons first labels ih =>
      obtain ⟨next, stepped, rest⟩ := run_cons_eq_some_iff.mp ran
      simp only [List.cons_append, Guarded, stepped, ih rest, and_assoc]

/-- If each step of a machine, seen through `embed`, is a run of a second one with finer
steps, then each run is. -/
theorem exists_run_of_refined {Fine FineLabel : Type*}
    {fineStep : Fine → FineLabel → Option Fine} {embed : State → Fine}
    {allowed : Label → Prop}
    (refined : ∀ {state label next}, allowed label → step state label = some next →
      ∃ labels, run fineStep (embed state) labels = some (embed next))
    {state final : State} {labels : List Label} (allAllowed : ∀ label ∈ labels, allowed label)
    (ran : run step state labels = some final) :
    ∃ labels, run fineStep (embed state) labels = some (embed final) := by
  induction labels generalizing state with
  | nil =>
      simp only [run_nil, Option.some.injEq] at ran
      exact ⟨[], ran ▸ rfl⟩
  | cons label labels ih =>
      obtain ⟨next, stepped, rest⟩ := run_cons_eq_some_iff.mp ran
      obtain ⟨first, firstRan⟩ := refined (allAllowed label List.mem_cons_self) stepped
      obtain ⟨second, secondRan⟩ :=
        ih (fun later mem => allAllowed later (List.mem_cons_of_mem label mem)) rest
      refine ⟨first ++ second, ?_⟩
      rw [run_append, firstRan]
      exact secondRan

end Tunprox.LabelledRun
