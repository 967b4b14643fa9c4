import Mathlib.Logic.Function.Basic
import Tunprox.LabelledRun

/-!
# Programs that share one lock

Several contexts run programs that take and give back one lock, test and change the
state that they share, and branch.  Giving back the lock frees it whoever holds it.  A
program is bracketed if each of its exits is reached with the lock given back exactly
once after it was taken, or never taken.  The contexts of bracketed programs exclude one
another: each gives back the lock only while it holds it, and at most one is between its
taking and its giving back.

A test can be assumed to hold, in which case only its branch for success has to be
bracketed, and the runs are those in which it does hold.
-/

namespace Tunprox.LockedProgram

open LabelledRun

/-- A program on a lock, with its branches written out. -/
inductive Program (Test Action : Type*) where
  | done
  | lock (next : Program Test Action)
  | unlock (next : Program Test Action)
  | reset (next : Program Test Action)
  | act (action : Action) (next : Program Test Action)
  | test (condition : Test) (yes no : Program Test Action)
  | choose (first second : Program Test Action)

/-- Where a program is with respect to its section. -/
inductive Phase where
  | outside
  | inside
  | released
  deriving DecidableEq

/-- From a point in `phase` the program takes the lock at most once, gives it back
exactly once if it took it, and nowhere else. -/
def bracketed {Test Action : Type*} (assumed : Test → Bool) :
    Phase → Program Test Action → Bool
  | phase, .done => decide (phase ≠ .inside)
  | phase, .lock next => decide (phase = .outside) && bracketed assumed .inside next
  | phase, .unlock next => decide (phase = .inside) && bracketed assumed .released next
  | phase, .reset next => bracketed assumed phase next
  | phase, .act _ next => bracketed assumed phase next
  | phase, .test condition yes no =>
      bracketed assumed phase yes && (assumed condition || bracketed assumed phase no)
  | phase, .choose first second =>
      bracketed assumed phase first && bracketed assumed phase second

/-- A lock that knows who holds it. -/
structure Locking (Lock Context : Type*) where
  holder : Lock → Option Context
  acquire : Context → Lock → Lock
  release : Lock → Lock
  reset : Lock → Lock
  holder_acquire : ∀ context lock, holder lock = none →
    holder (acquire context lock) = some context
  holder_release : ∀ lock, holder (release lock) = none
  holder_reset : ∀ lock, holder (reset lock) = none

/-- What the tests and the actions of the programs are. -/
structure Meaning (Test Action Shared : Type*) where
  holds : Test → Shared → Bool
  effect : Action → Shared → Shared

/-- A context with the rest of its program, and how often it has taken and given back
the lock since the program began. -/
structure Thread (Test Action : Type*) where
  program : Program Test Action
  locks : Nat
  unlocks : Nat

structure State (Context Lock Shared Test Action : Type*) where
  lock : Lock
  shared : Shared
  threads : Context → Thread Test Action

inductive Label (Context Operation : Type*) where
  | start (context : Context) (operation : Operation)
  | step (context : Context) (branch : Bool)

variable {Context Lock Shared Test Action Operation : Type*} [DecidableEq Context]
variable (locking : Locking Lock Context) (meaning : Meaning Test Action Shared)
variable (code : Operation → Program Test Action)

/-- One step of the rest of a program.  A context that waits for the lock takes none. -/
def advance (lock : Lock) (shared : Shared) (context : Context) (branch : Bool)
    (thread : Thread Test Action) : Option (Lock × Shared × Thread Test Action) :=
  match thread.program with
  | .done => none
  | .lock next =>
      if locking.holder lock = none then
        some (locking.acquire context lock, shared,
          { thread with program := next, locks := thread.locks + 1 })
      else none
  | .unlock next =>
      some (locking.release lock, shared,
        { thread with program := next, unlocks := thread.unlocks + 1 })
  | .reset next => some (locking.reset lock, shared, { thread with program := next })
  | .act action next =>
      some (lock, meaning.effect action shared, { thread with program := next })
  | .test condition yes no =>
      some (lock, shared,
        { thread with program := if meaning.holds condition shared then yes else no })
  | .choose first second =>
      some (lock, shared, { thread with program := if branch then first else second })

/-- The transition function: a context without a program begins one, or a context takes
a step of its program. -/
def step (state : State Context Lock Shared Test Action) :
    Label Context Operation → Option (State Context Lock Shared Test Action)
  | .start context operation =>
      match (state.threads context).program with
      | .done =>
          some { state with
            threads := Function.update state.threads context
              { program := code operation, locks := 0, unlocks := 0 } }
      | _ => none
  | .step context branch =>
      (advance locking meaning state.lock state.shared context branch
        (state.threads context)).map fun (lock, shared, thread) =>
          { lock := lock
            shared := shared
            threads := Function.update state.threads context thread }

/-- No context has a program, and the lock is free. -/
def Idle (state : State Context Lock Shared Test Action) : Prop :=
  locking.holder state.lock = none ∧
    ∀ context, state.threads context = { program := .done, locks := 0, unlocks := 0 }

/-- If the program is at an assumed test, then it holds, and if it is about to reset the
lock, then nobody holds it. -/
def AssumesAt (assumed : Test → Bool) (lock : Lock) (shared : Shared) :
    Program Test Action → Prop
  | .test condition _ _ => assumed condition = true → meaning.holds condition shared = true
  | .reset _ => locking.holder lock = none
  | _ => True

instance (assumed : Test → Bool) (lock : Lock) (shared : Shared) :
    (program : Program Test Action) →
      Decidable (AssumesAt locking meaning assumed lock shared program)
  | .test condition _ _ =>
      inferInstanceAs (Decidable
        (assumed condition = true → meaning.holds condition shared = true))
  | .reset _ => inferInstanceAs (Decidable (locking.holder lock = none))
  | .done | .lock _ | .unlock _ | .act _ _ | .choose _ _ => inferInstanceAs (Decidable True)

/-- An assumed test holds when it is made, and the lock is not reset while it is held. -/
def Assumes (assumed : Test → Bool) (state : State Context Lock Shared Test Action) :
    Label Context Operation → Prop
  | .start _ _ => True
  | .step context _ =>
      AssumesAt locking meaning assumed state.lock state.shared
        (state.threads context).program

instance (assumed : Test → Bool) (state : State Context Lock Shared Test Action) :
    (label : Label Context Operation) →
      Decidable (Assumes locking meaning assumed state label)
  | .start _ _ => inferInstanceAs (Decidable True)
  | .step context _ =>
      inferInstanceAs (Decidable (AssumesAt locking meaning assumed state.lock state.shared
        (state.threads context).program))

/-- The context has taken the lock and not yet given it back. -/
def Inside (state : State Context Lock Shared Test Action) (context : Context) : Prop :=
  (state.threads context).unlocks < (state.threads context).locks

instance (state : State Context Lock Shared Test Action) (context : Context) :
    Decidable (Inside state context) :=
  Nat.decLt _ _

/-- The lock is given back by its holder only, a program that is over has given it back
as often as it took it and took it at most once, and at most one context is inside. -/
structure Exclusive (state : State Context Lock Shared Test Action) : Prop where
  heldAtUnlock : ∀ context next, (state.threads context).program = .unlock next →
    locking.holder state.lock = some context
  balanced : ∀ context, (state.threads context).program = .done →
    (state.threads context).locks = (state.threads context).unlocks ∧
      (state.threads context).locks ≤ 1
  atMostOne : ∀ first second, Inside state first → Inside state second → first = second

/-- The counters and the holder of the lock fit a phase in which the rest of the program
is bracketed. -/
inductive Fits (assumed : Test → Bool) (held : Prop) : Thread Test Action → Prop where
  | outside {program : Program Test Action}
      (rest : bracketed assumed .outside program = true) (free : ¬ held) :
      Fits assumed held ⟨program, 0, 0⟩
  | inside {program : Program Test Action}
      (rest : bracketed assumed .inside program = true) (holds : held) :
      Fits assumed held ⟨program, 1, 0⟩
  | released {program : Program Test Action}
      (rest : bracketed assumed .released program = true) (free : ¬ held) :
      Fits assumed held ⟨program, 1, 1⟩

variable {locking meaning code}

omit [DecidableEq Context] in
/-- A step that changes neither the counters nor the holder keeps the phase. -/
theorem fits_of_bracketed {assumed : Test → Bool} {held : Prop}
    {program next : Program Test Action} {locks unlocks : Nat}
    (kept : ∀ phase, bracketed assumed phase program = true →
      bracketed assumed phase next = true)
    (fits : Fits assumed held ⟨program, locks, unlocks⟩) :
    Fits assumed held ⟨next, locks, unlocks⟩ := by
  cases fits with
  | outside rest free => exact .outside (kept _ rest) free
  | inside rest holds => exact .inside (kept _ rest) holds
  | released rest free => exact .released (kept _ rest) free

/-- What a step of a bracketed program does to the lock: it takes the free lock, gives back
the lock it holds, or leaves the holder as it is. -/
inductive Advances (assumed : Test → Bool) (context : Context)
    (before after : Option Context) (next : Thread Test Action) : Prop where
  | locks (free : before = none) (taken : after = some context)
      (fits : Fits assumed True next)
  | unlocks (held : before = some context) (given : after = none)
      (fits : Fits assumed False next)
  | keeps (same : after = before) (fits : Fits assumed (before = some context) next)

omit [DecidableEq Context] in
theorem advances_of_advance {assumed : Test → Bool} {lock nextLock : Lock}
    {shared nextShared : Shared} {context : Context} {branch : Bool}
    {thread next : Thread Test Action}
    (fits : Fits assumed (locking.holder lock = some context) thread)
    (assumes : AssumesAt locking meaning assumed lock shared thread.program)
    (advanced : advance locking meaning lock shared context branch thread =
      some (nextLock, nextShared, next)) :
    Advances assumed context (locking.holder lock) (locking.holder nextLock) next := by
  obtain ⟨program, locks, unlocks⟩ := thread
  cases program with
  | done => simp [advance] at advanced
  | lock rest =>
      simp only [advance, Option.ite_none_right_eq_some, Option.some.injEq,
        Prod.mk.injEq] at advanced
      obtain ⟨free, rfl, rfl, rfl⟩ := advanced
      cases fits with
      | outside bracket _ =>
          simp only [bracketed, decide_true, Bool.true_and] at bracket
          exact .locks free (locking.holder_acquire context lock free)
            (.inside bracket trivial)
      | inside bracket _ => simp [bracketed] at bracket
      | released bracket _ => simp [bracketed] at bracket
  | unlock rest =>
      simp only [advance, Option.some.injEq, Prod.mk.injEq] at advanced
      obtain ⟨rfl, rfl, rfl⟩ := advanced
      cases fits with
      | outside bracket _ => simp [bracketed] at bracket
      | inside bracket held =>
          simp only [bracketed, decide_true, Bool.true_and] at bracket
          exact .unlocks held (locking.holder_release lock)
            (.released bracket not_false)
      | released bracket _ => simp [bracketed] at bracket
  | reset rest =>
      simp only [advance, Option.some.injEq, Prod.mk.injEq] at advanced
      obtain ⟨rfl, rfl, rfl⟩ := advanced
      have free : locking.holder lock = none := assumes
      have same : locking.holder (locking.reset lock) = locking.holder lock := by
        rw [locking.holder_reset, free]
      apply Advances.keeps same
      apply fits_of_bracketed (fun phase bracket => ?_) fits
      simpa only [bracketed] using bracket
  | act action rest =>
      simp only [advance, Option.some.injEq, Prod.mk.injEq] at advanced
      obtain ⟨rfl, rfl, rfl⟩ := advanced
      apply Advances.keeps rfl
      apply fits_of_bracketed (fun phase bracket => ?_) fits
      simpa only [bracketed] using bracket
  | test condition yes no =>
      simp only [advance, Option.some.injEq, Prod.mk.injEq] at advanced
      obtain ⟨rfl, rfl, rfl⟩ := advanced
      apply Advances.keeps rfl
      apply fits_of_bracketed (fun phase bracket => ?_) fits
      simp only [bracketed, Bool.and_eq_true, Bool.or_eq_true] at bracket
      have success : assumed condition = true → meaning.holds condition shared = true := assumes
      cases holdsEq : meaning.holds condition shared with
      | true => exact bracket.1
      | false =>
          rw [holdsEq] at success
          have checked : assumed condition ≠ true := fun trusted => by simpa using success trusted
          exact bracket.2.resolve_left checked
  | choose first second =>
      simp only [advance, Option.some.injEq, Prod.mk.injEq] at advanced
      obtain ⟨rfl, rfl, rfl⟩ := advanced
      apply Advances.keeps rfl
      apply fits_of_bracketed (fun phase bracket => ?_) fits
      simp only [bracketed, Bool.and_eq_true] at bracket
      cases branch with
      | true => exact bracket.1
      | false => exact bracket.2

variable (locking) in
/-- The invariant: every context fits the holder of the lock. -/
def AllFit (assumed : Test → Bool) (state : State Context Lock Shared Test Action) : Prop :=
  ∀ context, Fits assumed (locking.holder state.lock = some context) (state.threads context)

omit [DecidableEq Context] in
theorem allFit_of_idle {assumed : Test → Bool}
    {state : State Context Lock Shared Test Action} (idle : Idle locking state) :
    AllFit locking assumed state := by
  intro context
  rw [idle.2 context]
  exact .outside rfl (by simp [idle.1])

theorem allFit_of_step {assumed : Test → Bool}
    {state next : State Context Lock Shared Test Action} {label : Label Context Operation}
    (bracketedCode : ∀ operation, bracketed assumed .outside (code operation) = true)
    (assumes : Assumes locking meaning assumed state label)
    (allFit : AllFit locking assumed state)
    (stepped : step locking meaning code state label = some next) :
    AllFit locking assumed next := by
  cases label with
  | start context operation =>
      simp only [step] at stepped
      split at stepped
      · rename_i ended
        obtain rfl := Option.some.inj stepped
        intro other
        obtain rfl | different := eq_or_ne other context
        · have free : locking.holder state.lock ≠ some other := by
            have fits := allFit other
            intro held
            cases threadEq : state.threads other with
            | mk program locks unlocks =>
                rw [threadEq] at ended fits
                obtain rfl : program = .done := ended
                cases fits with
                | outside _ free => exact free held
                | inside rest _ => simp [bracketed] at rest
                | released _ free => exact free held
          simp only [Function.update_self]
          exact .outside (bracketedCode operation) free
        · simp only [Function.update_of_ne different]
          exact allFit other
      · contradiction
  | step context branch =>
      simp only [step, Option.map_eq_some_iff] at stepped
      obtain ⟨⟨nextLock, nextShared, thread⟩, advanced, rfl⟩ := stepped
      have advances :=
        advances_of_advance (allFit context) assumes advanced
      intro other
      have otherFits := allFit other
      obtain rfl | different := eq_or_ne other context
      · simp only [Function.update_self]
        cases advances with
        | locks _ taken fits => simpa [taken] using fits
        | unlocks _ given fits => simpa [given] using fits
        | keeps same fits => rwa [same]
      · simp only [Function.update_of_ne different]
        cases advances with
        | locks free taken _ =>
            simpa [free, taken, Option.some.injEq, different.symm] using otherFits
        | unlocks held given _ =>
            simpa [held, given, Option.some.injEq, different.symm] using otherFits
        | keeps same _ => rwa [same]

omit [DecidableEq Context] in
/-- A context that is inside holds the lock. -/
theorem holder_of_inside {assumed : Test → Bool}
    {state : State Context Lock Shared Test Action} {context : Context}
    (allFit : AllFit locking assumed state) (inside : Inside state context) :
    locking.holder state.lock = some context := by
  have fits := allFit context
  unfold Inside at inside
  generalize state.threads context = thread at fits inside
  cases fits with
  | outside _ _ => simp at inside
  | inside _ holds => exact holds
  | released _ _ => simp at inside

omit [DecidableEq Context] in
theorem exclusive_of_allFit {assumed : Test → Bool}
    {state : State Context Lock Shared Test Action} (allFit : AllFit locking assumed state) :
    Exclusive locking state := by
  constructor
  · intro context next atUnlock
    have fits := allFit context
    generalize state.threads context = thread at fits atUnlock
    cases fits with
    | outside rest _ =>
        obtain rfl := atUnlock
        simp [bracketed] at rest
    | inside _ holds => exact holds
    | released rest _ =>
        obtain rfl := atUnlock
        simp [bracketed] at rest
  · intro context ended
    have fits := allFit context
    generalize state.threads context = thread at fits ended
    cases fits with
    | outside _ _ => simp
    | inside rest _ =>
        obtain rfl := ended
        simp [bracketed] at rest
    | released _ _ => simp
  · intro first second firstInside secondInside
    have firstHolds := holder_of_inside allFit firstInside
    have secondHolds := holder_of_inside allFit secondInside
    rw [firstHolds] at secondHolds
    exact Option.some.inj secondHolds

/-- Contexts that run bracketed programs exclude one another. -/
theorem exclusive_of_guarded {assumed : Test → Bool}
    {state final : State Context Lock Shared Test Action}
    {labels : List (Label Context Operation)}
    (bracketedCode : ∀ operation, bracketed assumed .outside (code operation) = true)
    (idle : Idle locking state)
    (guarded : Guarded (step locking meaning code) (Assumes locking meaning assumed) state
      labels)
    (ran : run (step locking meaning code) state labels = some final) :
    Exclusive locking final := by
  have allFit : AllFit locking assumed final :=
    invariant_of_guarded
      (fun assumes fits stepped => allFit_of_step bracketedCode assumes fits stepped)
      guarded (allFit_of_idle idle) ran
  exact exclusive_of_allFit allFit

end Tunprox.LockedProgram
