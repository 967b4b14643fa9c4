import Mathlib.Data.List.Basic

/-!
# Loops that read a sequence of inputs

A loop that takes one input after the other and stops at the first one it can
decide, and a loop around such a loop that stops at the first of its values it
can decide.  A reader carries the proof that it consumes input, which makes the
outer loops terminate.  A loop around a loop is the loop over the composed
decision.
-/

namespace Tunprox.InputLoop

variable {Input Value Result : Type*}

/-- A function that reads a value from the inputs and takes at least one of them
off, or finds no value at all. -/
@[ext]
structure Reader (Input Value : Type*) where
  read : List Input → Option (Value × List Input)
  shrinks : ∀ {inputs value rest}, read inputs = some (value, rest) →
    rest.length < inputs.length

/-- Read until the first input that is decided. -/
def readUntil (choose : Input → Option Value) : List Input → Option (Value × List Input)
  | [] => none
  | input :: inputs =>
      match choose input with
      | none => readUntil choose inputs
      | some value => some (value, inputs)

theorem readUntil_eq_some_iff {choose : Input → Option Value} {inputs rest : List Input}
    {value : Value} :
    readUntil choose inputs = some (value, rest) ↔
      ∃ before input, inputs = before ++ input :: rest ∧
        (∀ earlier ∈ before, choose earlier = none) ∧ choose input = some value := by
  induction inputs with
  | nil =>
      simp [readUntil]
  | cons input inputs ih =>
      simp only [readUntil]
      cases chosen : choose input with
      | none =>
          simp only [ih]
          constructor
          · rintro ⟨before, decided, rfl, earlier, found⟩
            refine ⟨input :: before, decided, rfl, ?_, found⟩
            simp only [List.mem_cons, forall_eq_or_imp]
            exact ⟨chosen, earlier⟩
          · rintro ⟨before, decided, split, earlier, found⟩
            cases before with
            | nil =>
                simp only [List.nil_append, List.cons.injEq] at split
                rw [← split.1, chosen] at found
                contradiction
            | cons first before =>
                simp only [List.cons_append, List.cons.injEq] at split
                refine ⟨before, decided, split.2, ?_, found⟩
                intro other member
                exact earlier other (List.mem_cons_of_mem _ member)
      | some other =>
          simp only [Option.some.injEq, Prod.mk.injEq]
          constructor
          · rintro ⟨rfl, rfl⟩
            exact ⟨[], input, rfl, by simp, chosen⟩
          · rintro ⟨before, decided, split, earlier, found⟩
            cases before with
            | nil =>
                simp only [List.nil_append, List.cons.injEq] at split
                rw [← split.1, chosen, Option.some.injEq] at found
                exact ⟨found, split.2⟩
            | cons first before =>
                simp only [List.cons_append, List.cons.injEq] at split
                have undecided := earlier first List.mem_cons_self
                rw [← split.1, chosen] at undecided
                contradiction

/-- Undecided inputs are passed over. -/
theorem readUntil_append {choose : Input → Option Value} {before : List Input}
    (undecided : ∀ input ∈ before, choose input = none) (rest : List Input) :
    readUntil choose (before ++ rest) = readUntil choose rest := by
  induction before with
  | nil => rfl
  | cons input before ih =>
      have first := undecided input List.mem_cons_self
      simp only [List.cons_append, readUntil, first]
      exact ih fun other member => undecided other (List.mem_cons_of_mem _ member)

/-- Inputs and values are translated. -/
theorem readUntil_map {Other Image : Type*} {choose : Input → Option Value}
    {otherChoose : Other → Option Image} {input : Other → Input} {image : Value → Image}
    (same : ∀ other, (choose (input other)).map image = otherChoose other)
    (others : List Other) :
    (readUntil choose (others.map input)).map (Prod.map image List.length) =
      (readUntil otherChoose others).map (Prod.map id List.length) := by
  induction others with
  | nil => rfl
  | cons other others ih =>
      have first := same other
      simp only [List.map_cons, readUntil]
      cases chosen : choose (input other) with
      | none =>
          rw [chosen] at first
          rw [← first]
          exact ih
      | some value =>
          rw [chosen] at first
          rw [← first]
          simp

/-- The innermost loop. -/
def Reader.until (choose : Input → Option Value) : Reader Input Value where
  read := readUntil choose
  shrinks := by
    intro inputs value rest found
    obtain ⟨before, input, rfl, -⟩ := readUntil_eq_some_iff.mp found
    simp only [List.length_append, List.length_cons]
    omega

/-- Call the reader until the first of its values that is decided. -/
def Reader.loop (reader : Reader Input Value) (choose : Value → Option Result)
    (inputs : List Input) : Option (Result × List Input) :=
  match _found : reader.read inputs with
  | none => none
  | some (value, rest) =>
      match choose value with
      | none => reader.loop choose rest
      | some result => some (result, rest)
termination_by inputs.length
decreasing_by exact reader.shrinks _found

theorem Reader.loop_eq (reader : Reader Input Value) (choose : Value → Option Result)
    (inputs : List Input) :
    reader.loop choose inputs =
      match reader.read inputs with
      | none => none
      | some (value, rest) =>
          match choose value with
          | none => reader.loop choose rest
          | some result => some (result, rest) := by
  rw [Reader.loop]
  split <;> simp_all

theorem Reader.loop_shrinks (reader : Reader Input Value) (choose : Value → Option Result)
    {inputs : List Input} {result : Result} {rest : List Input}
    (found : reader.loop choose inputs = some (result, rest)) :
    rest.length < inputs.length := by
  fun_induction Reader.loop reader choose inputs with
  | case1 inputs readEq => contradiction
  | case2 inputs value middle readEq undecided ih =>
      exact Nat.lt_trans (ih found) (reader.shrinks readEq)
  | case3 inputs value middle readEq decided chosen =>
      obtain ⟨rfl, rfl⟩ := Prod.mk.inj (Option.some.inj found)
      exact reader.shrinks readEq

/-- The loop around a reader, as a reader. -/
def Reader.again (reader : Reader Input Value) (choose : Value → Option Result) :
    Reader Input Result where
  read := reader.loop choose
  shrinks := reader.loop_shrinks choose

theorem Reader.until_loop (inner : Input → Option Value) (outer : Value → Option Result)
    (inputs : List Input) :
    (Reader.until inner).loop outer inputs =
      readUntil (fun input => (inner input).bind outer) inputs := by
  induction inputs with
  | nil =>
      rw [Reader.loop_eq]
      rfl
  | cons input inputs ih =>
      rw [Reader.loop_eq]
      simp only [Reader.until, readUntil]
      cases chosen : inner input with
      | none =>
          rw [← ih, Reader.loop_eq]
          rfl
      | some value =>
          simp only [Option.bind_some]
          cases outer value with
          | none => exact ih
          | some result => rfl

/-- A loop around a loop is one loop over the composed decision. -/
theorem Reader.until_again (inner : Input → Option Value) (outer : Value → Option Result) :
    (Reader.until inner).again outer = Reader.until fun input => (inner input).bind outer := by
  apply Reader.ext
  funext inputs
  exact Reader.until_loop inner outer inputs

end Tunprox.InputLoop
