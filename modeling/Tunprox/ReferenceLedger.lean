import Mathlib.Data.List.Infix
import Mathlib.Logic.Function.Basic

/-!
# Ledgers of reference counts

A ledger lists the references that were taken on resources and given back.  It is covered
if at no time more have been given back than taken.  The references that are not given
back are accounted for: some are stored by holders, which are numbered, and the others are
in the hands of whoever is running.
-/

namespace Tunprox.ReferenceLedger

variable {Resource : Type*} [DecidableEq Resource]

/-- A reference is taken, or given back. -/
inductive Entry (Resource : Type*) where
  | get (resource : Resource)
  | put (resource : Resource)
  deriving DecidableEq

def gets (log : List (Entry Resource)) (resource : Resource) : Nat :=
  log.count (.get resource)

def puts (log : List (Entry Resource)) (resource : Resource) : Nat :=
  log.count (.put resource)

/-- At no time more references have been given back than taken. -/
def Covered (log : List (Entry Resource)) : Prop :=
  ∀ earlier, earlier <+: log → ∀ resource, puts earlier resource ≤ gets earlier resource

theorem covered_nil : Covered ([] : List (Entry Resource)) := by
  intro earlier before resource
  obtain rfl := List.prefix_nil.mp before
  exact Nat.le_refl 0

theorem covered_concat {log : List (Entry Resource)} {entry : Entry Resource}
    (covered : Covered log)
    (last : ∀ resource, puts (log ++ [entry]) resource ≤ gets (log ++ [entry]) resource) :
    Covered (log ++ [entry]) := by
  intro earlier before
  rw [List.prefix_concat_iff] at before
  rcases before with rfl | before
  · exact last
  · exact covered earlier before

@[simp]
theorem gets_get (log : List (Entry Resource)) (taken resource : Resource) :
    gets (log ++ [.get taken]) resource =
      gets log resource + if taken = resource then 1 else 0 := by
  simp [gets, List.count_append, List.count_singleton]

@[simp]
theorem puts_get (log : List (Entry Resource)) (taken resource : Resource) :
    puts (log ++ [.get taken]) resource = puts log resource := by
  simp [puts, List.count_append]

@[simp]
theorem gets_put (log : List (Entry Resource)) (given resource : Resource) :
    gets (log ++ [.put given]) resource = gets log resource := by
  simp [gets, List.count_append]

@[simp]
theorem puts_put (log : List (Entry Resource)) (given resource : Resource) :
    puts (log ++ [.put given]) resource =
      puts log resource + if given = resource then 1 else 0 := by
  simp [puts, List.count_append, List.count_singleton]

/-- How many of the holders below `bound` store a reference to the resource. -/
def storedCount (stored : Nat → Option Resource) (resource : Resource) : Nat → Nat
  | 0 => 0
  | bound + 1 =>
      storedCount stored resource bound + if stored bound = some resource then 1 else 0

theorem storedCount_congr {stored other : Nat → Option Resource} {resource : Resource}
    {bound : Nat} (same : ∀ holder < bound, other holder = stored holder) :
    storedCount other resource bound = storedCount stored resource bound := by
  induction bound with
  | zero => rfl
  | succ bound ih =>
      have below : ∀ holder < bound, other holder = stored holder :=
        fun holder less => same holder (Nat.lt_succ_of_lt less)
      simp only [storedCount, ih below, same bound (Nat.lt_succ_self bound)]

theorem storedCount_update (stored : Nat → Option Resource) (resource : Resource)
    {bound holder : Nat} (below : holder < bound) (new : Option Resource) :
    storedCount (Function.update stored holder new) resource bound +
        (if stored holder = some resource then 1 else 0) =
      storedCount stored resource bound + if new = some resource then 1 else 0 := by
  induction bound with
  | zero => omega
  | succ bound ih =>
      simp only [storedCount]
      rcases Nat.lt_or_ge holder bound with less | reached
      · have unchanged : Function.update stored holder new bound = stored bound :=
          Function.update_of_ne (by omega) _ _
        have rest := ih less
        rw [unchanged]
        omega
      · obtain rfl : holder = bound := by omega
        have earlier : storedCount (Function.update stored holder new) resource holder =
            storedCount stored resource holder := by
          apply storedCount_congr
          intro other less
          exact Function.update_of_ne (by omega) _ _
        rw [earlier, Function.update_self]
        omega

/-- The ledger is covered, and each reference that was not given back is stored by a
holder below `bound` or is one of `own`. -/
structure Accounts (log : List (Entry Resource)) (stored : Nat → Option Resource)
    (bound : Nat) (own : List Resource) : Prop where
  covered : Covered log
  exact : ∀ resource, gets log resource =
    puts log resource + storedCount stored resource bound + own.count resource

section
variable {log : List (Entry Resource)} {stored other : Nat → Option Resource}
variable {bound holder : Nat} {own : List Resource} {resource : Resource}

theorem accounts_nil (stored : Nat → Option Resource) :
    Accounts ([] : List (Entry Resource)) stored 0 [] where
  covered := covered_nil
  exact := fun _ => rfl

theorem Accounts.congr (accounts : Accounts log stored bound own)
    (same : ∀ holder < bound, other holder = stored holder) :
    Accounts log other bound own where
  covered := accounts.covered
  exact := by
    intro resource
    rw [storedCount_congr same]
    exact accounts.exact resource

/-- A new holder that stores nothing. -/
theorem Accounts.succ (accounts : Accounts log stored bound own)
    (nothing : stored bound = none) : Accounts log stored (bound + 1) own where
  covered := accounts.covered
  exact := by
    intro resource
    have before := accounts.exact resource
    simp only [storedCount, nothing, reduceCtorEq, if_false]
    omega

theorem Accounts.get (accounts : Accounts log stored bound own) (resource : Resource) :
    Accounts (log ++ [.get resource]) stored bound (resource :: own) where
  covered := by
    apply covered_concat accounts.covered
    intro asked
    have before := accounts.exact asked
    rw [puts_get, gets_get]
    omega
  exact := by
    intro asked
    have before := accounts.exact asked
    rw [gets_get, puts_get, List.count_cons]
    simp only [beq_iff_eq]
    omega

/-- An own reference can be given back. -/
theorem Accounts.put (accounts : Accounts log stored bound (resource :: own)) :
    Accounts (log ++ [.put resource]) stored bound own where
  covered := by
    apply covered_concat accounts.covered
    intro asked
    have before := accounts.exact asked
    rw [List.count_cons] at before
    simp only [beq_iff_eq] at before
    rw [puts_put, gets_put]
    omega
  exact := by
    intro asked
    have before := accounts.exact asked
    rw [List.count_cons] at before
    simp only [beq_iff_eq] at before
    rw [puts_put, gets_put]
    omega

/-- A holder that stores nothing stores an own reference. -/
theorem Accounts.store (accounts : Accounts log stored bound (resource :: own))
    (below : holder < bound) (nothing : stored holder = none) :
    Accounts log (Function.update stored holder (some resource)) bound own where
  covered := accounts.covered
  exact := by
    intro asked
    have before := accounts.exact asked
    have updated := storedCount_update stored asked below (some resource)
    rw [List.count_cons] at before
    simp only [beq_iff_eq] at before
    simp only [nothing, reduceCtorEq, if_false, Option.some.injEq] at updated
    omega

/-- What a holder stores becomes an own reference. -/
theorem Accounts.unstore (accounts : Accounts log stored bound own) (below : holder < bound)
    (found : stored holder = some resource) :
    Accounts log (Function.update stored holder none) bound (resource :: own) where
  covered := accounts.covered
  exact := by
    intro asked
    have before := accounts.exact asked
    have updated := storedCount_update stored asked below none
    rw [List.count_cons]
    simp only [beq_iff_eq]
    simp only [found, reduceCtorEq, if_false, Option.some.injEq] at updated
    omega

end

end Tunprox.ReferenceLedger
