import Mathlib.Data.List.Basic
import Mathlib.Logic.Function.Basic

/-!
# Rosters

A roster lists entries that live elsewhere, in numbered lists that grow, shrink and
are emptied on their own.  Entries are told apart by a key only, so striking one off
removes the first entry with its key.  The roster matches the living entries if both
have the same keys with the same multiplicities; then both have the same length.
-/

namespace Tunprox.Roster

variable {Entry Key : Type*} [BEq Key] [LawfulBEq Key] (key : Entry → Key)

/-- The roster has the keys of the living entries. -/
def Matches (roster living : List Entry) : Prop :=
  (roster.map key).Perm (living.map key)

/-- Strike off the first entry with the same key. -/
def strike (roster : List Entry) (entry : Entry) : List Entry :=
  roster.eraseP fun other => key entry == key other

/-- The entries of the lists below `bound`. -/
def gather (lists : Nat → List Entry) (bound : Nat) : List Entry :=
  (List.range bound).flatMap lists

variable {key}

omit [BEq Key] [LawfulBEq Key] in
theorem Matches.length_eq {roster living : List Entry} (same : Matches key roster living) :
    roster.length = living.length := by
  simpa using List.Perm.length_eq same

omit [BEq Key] [LawfulBEq Key] in
theorem Matches.of_perm {roster living other : List Entry}
    (same : Matches key roster living) (perm : living.Perm other) :
    Matches key roster other :=
  List.Perm.trans same (perm.map key)

omit [BEq Key] [LawfulBEq Key] in
theorem Matches.append {roster living : List Entry} (same : Matches key roster living)
    (entry : Entry) : Matches key (roster ++ [entry]) (entry :: living) := by
  unfold Matches
  rw [List.map_append]
  exact (List.perm_append_singleton (key entry) (roster.map key)).trans
    (List.Perm.cons (key entry) same)

theorem Matches.strike {roster living : List Entry} {entry : Entry}
    (same : Matches key roster (entry :: living)) :
    Matches key (strike key roster entry) living := by
  have erased := List.Perm.erase (key entry) same
  rw [List.map_cons, List.erase_cons_head, List.erase_eq_eraseP, List.eraseP_map] at erased
  exact erased

theorem Matches.foldl_strike {roster entries living : List Entry}
    (same : Matches key roster (entries ++ living)) :
    Matches key (entries.foldl (Roster.strike key) roster) living := by
  induction entries generalizing roster with
  | nil => exact same
  | cons entry entries ih => exact ih same.strike

/-- Replacing one of the lists replaces its entries. -/
theorem gather_update (lists : Nat → List Entry) {index bound : Nat} (below : index < bound) :
    ∃ rest, ∀ list, (gather (Function.update lists index list) bound).Perm (list ++ rest) := by
  induction bound with
  | zero => omega
  | succ bound ih =>
      unfold gather
      simp only [List.range_succ, List.flatMap_append, List.flatMap_singleton]
      by_cases last : index = bound
      · refine ⟨gather lists bound, fun list => ?_⟩
        have unchanged : (List.range bound).flatMap (Function.update lists index list) =
            gather lists bound := by
          apply List.flatMap_congr
          intro other member
          have lower := List.mem_range.mp member
          have different : other ≠ index := by omega
          rw [Function.update_of_ne different]
        rw [unchanged, last, Function.update_self]
        exact List.perm_append_comm
      · obtain ⟨rest, replaced⟩ := ih (by omega)
        refine ⟨rest ++ lists bound, fun list => ?_⟩
        rw [Function.update_of_ne (Ne.symm last), ← List.append_assoc]
        exact (replaced list).append_right (lists bound)

/-- A further list without entries adds nothing. -/
theorem gather_succ_of_nil {lists next : Nat → List Entry} {bound : Nat}
    (empty : next bound = []) (same : ∀ index < bound, next index = lists index) :
    gather next (bound + 1) = gather lists bound := by
  unfold gather
  rw [List.range_succ, List.flatMap_append, List.flatMap_singleton, empty, List.append_nil]
  apply List.flatMap_congr
  intro index member
  exact same index (List.mem_range.mp member)

theorem gather_eq_nil {lists : Nat → List Entry} {bound : Nat}
    (empty : ∀ index < bound, lists index = []) : gather lists bound = [] := by
  apply List.flatMap_eq_nil_iff.mpr
  intro index member
  exact empty index (List.mem_range.mp member)

end Tunprox.Roster
