import Mathlib.Init

/-!
# Rules for computations that may fail

What is said about a computation is said about its result and about its failure at once, and
it goes through the ways to put computations together.
-/

namespace Tunprox.ExceptRule

variable {α β ε : Type}

/-- A result is `good`, and a failure is `bad`. -/
def Holds (good : α → Prop) (bad : ε → Prop) : Except ε α → Prop
  | .ok result => good result
  | .error failure => bad failure

variable {good : α → Prop} {bad : ε → Prop} {computation : Except ε α}

theorem Holds.imp {better : α → Prop} (holds : Holds good bad computation)
    (implies : ∀ result, good result → better result) : Holds better bad computation := by
  cases computation with
  | ok result => exact implies result holds
  | error failure => exact holds

theorem Holds.map {next : α → β} {after : β → Prop} (holds : Holds good bad computation)
    (implies : ∀ result, good result → after (next result)) :
    Holds after bad (computation.map next) := by
  cases computation with
  | ok result => exact implies result holds
  | error failure => exact holds

theorem Holds.bind {next : α → Except ε β} {after : β → Prop} (holds : Holds good bad computation)
    (implies : ∀ result, good result → Holds after bad (next result)) :
    Holds after bad (computation >>= next) := by
  cases computation with
  | ok result => exact implies result holds
  | error failure => exact holds

/-- A computation for each member of a list. -/
theorem holds_mapM {step : α → Except ε β} {after : β → Prop} {members : List α}
    (each : ∀ member ∈ members, Holds after bad (step member)) :
    Holds (fun results => ∀ result ∈ results, after result) bad (members.mapM step) := by
  induction members with
  | nil => exact List.forall_mem_nil _
  | cons member members ih =>
      rw [List.forall_mem_cons] at each
      rw [List.mapM_cons]
      apply each.1.bind
      intro result here
      apply (ih each.2).bind
      intro results rest
      exact List.forall_mem_cons.mpr ⟨here, rest⟩

end Tunprox.ExceptRule
