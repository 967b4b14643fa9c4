import Mathlib.Data.List.Nodup
import Mathlib.Logic.Function.Basic

/-!
# Doubly linked lists in memory

Cells with a value and two nullable links live at addresses, and a link is
followed only if a live cell stands at its end.  `Segment` says which entries are
met on the way from one pointer to another.  The backward link of the first cell
is left free: a list whose first cell keeps some other pointer there, even to a
cell that is gone, is still a list.
-/

namespace Tunprox.LinkedList

/-- What goes wrong when links are followed: a null pointer, a cell that is not live, or
a walk without an end. -/
inductive Fault where
  | null
  | dangling
  | endless
  deriving DecidableEq, Repr

structure Cell (Address Value : Type*) where
  value : Value
  next : Option Address
  prev : Option Address
  deriving DecidableEq, Repr

/-- The live cells. -/
abbrev Heap (Address Value : Type*) :=
  Address → Option (Cell Address Value)

section Access

variable {Address Value : Type*}

/-- Read the cell behind a pointer. -/
def read (heap : Heap Address Value) : Option Address → Except Fault (Cell Address Value)
  | none => .error .null
  | some address =>
      match heap address with
      | none => .error .dangling
      | some cell => .ok cell

/-- Write to the cell behind a pointer. -/
def write [DecidableEq Address] (heap : Heap Address Value) :
    Option Address → (Cell Address Value → Cell Address Value) →
      Except Fault (Heap Address Value)
  | none, _ => .error .null
  | some address, change =>
      match heap address with
      | none => .error .dangling
      | some cell => .ok (Function.update heap address (some (change cell)))

/-- Follow the forward links to the first value that passes the test.  The walk has no end
if it takes more steps than there are cells. -/
def search (heap : Heap Address Value) (test : Value → Bool) :
    Nat → Option Address → Except Fault (Option Address)
  | _, none => .ok none
  | 0, some _ => .error .endless
  | cells + 1, some address =>
      match heap address with
      | none => .error .dangling
      | some cell =>
          if test cell.value then .ok (some address) else search heap test cells cell.next

/-- From `start` the forward links pass through the entries and end at `stop`, and every
backward link but that of a first cell leads to the cell before. -/
def Segment (heap : Heap Address Value) :
    Option Address → Option Address → List (Address × Value) → Option Address → Prop
  | _, start, [], stop => start = stop
  | before, start, (address, value) :: entries, stop =>
      start = some address ∧
        ∃ next prev, heap address = some ⟨value, next, prev⟩ ∧
          (before = none ∨ prev = before) ∧ Segment heap (some address) next entries stop

/-- The last address of the entries, `before` if there is none. -/
def lastOf (before : Option Address) : List (Address × Value) → Option Address
  | [] => before
  | entry :: entries => lastOf (some entry.1) entries

end Access

variable {Address Value : Type*}

theorem read_of_live {heap : Heap Address Value} {address : Address}
    {cell : Cell Address Value} (live : heap address = some cell) :
    read heap (some address) = .ok cell := by
  rw [read, live]

theorem write_of_live [DecidableEq Address] {heap : Heap Address Value} {address : Address}
    {cell : Cell Address Value} (live : heap address = some cell)
    (change : Cell Address Value → Cell Address Value) :
    write heap (some address) change =
      .ok (Function.update heap address (some (change cell))) := by
  rw [write, live]

theorem lastOf_append_singleton (before : Option Address) (entries : List (Address × Value))
    (entry : Address × Value) : lastOf before (entries ++ [entry]) = some entry.1 := by
  induction entries generalizing before with
  | nil => rfl
  | cons first entries ih => exact ih (some first.1)

namespace Segment

/-- Only the cells of the entries matter. -/
theorem congr {heap other : Heap Address Value} {before start stop : Option Address}
    {entries : List (Address × Value)} (segment : Segment heap before start entries stop)
    (same : ∀ address ∈ entries.map Prod.fst, other address = heap address) :
    Segment other before start entries stop := by
  induction entries generalizing before start with
  | nil => exact segment
  | cons entry entries ih =>
      obtain ⟨started, next, prev, live, linked, rest⟩ := segment
      refine ⟨started, next, prev, ?_, linked, ih rest ?_⟩
      · rw [same entry.1 (by simp), live]
      · intro address member
        exact same address (List.mem_cons_of_mem _ member)

/-- Nothing else looks at the backward link of a first cell. -/
theorem forget {heap : Heap Address Value} {before start stop : Option Address}
    {entries : List (Address × Value)} (segment : Segment heap before start entries stop) :
    Segment heap none start entries stop := by
  cases entries with
  | nil => exact segment
  | cons entry entries =>
      obtain ⟨started, next, prev, live, -, rest⟩ := segment
      exact ⟨started, next, prev, live, .inl rfl, rest⟩

theorem append_iff {heap : Heap Address Value} {before start stop : Option Address}
    {front back : List (Address × Value)} :
    Segment heap before start (front ++ back) stop ↔
      ∃ middle, Segment heap before start front middle ∧
        Segment heap (lastOf before front) middle back stop := by
  induction front generalizing before start with
  | nil => exact ⟨fun segment => ⟨start, rfl, segment⟩, fun ⟨_, rfl, segment⟩ => segment⟩
  | cons entry front ih =>
      constructor
      · rintro ⟨started, next, prev, live, linked, rest⟩
        obtain ⟨middle, first, second⟩ := ih.mp rest
        exact ⟨middle, ⟨started, next, prev, live, linked, first⟩, second⟩
      · rintro ⟨middle, ⟨started, next, prev, live, linked, first⟩, second⟩
        exact ⟨started, next, prev, live, linked, ih.mpr ⟨middle, first, second⟩⟩

/-- The cell of every entry is live. -/
theorem live {heap : Heap Address Value} {before start stop : Option Address}
    {entries : List (Address × Value)} (segment : Segment heap before start entries stop)
    {entry : Address × Value} (member : entry ∈ entries) :
    ∃ next prev, heap entry.1 = some ⟨entry.2, next, prev⟩ := by
  induction entries generalizing before start with
  | nil => exact absurd member List.not_mem_nil
  | cons first entries ih =>
      obtain ⟨-, next, prev, live, -, rest⟩ := segment
      rcases List.mem_cons.mp member with rfl | later
      · exact ⟨next, prev, live⟩
      · exact ih rest later

/-- With a step for every cell the search finds the first entry that passes the test, and
never leaves the list. -/
theorem search_eq {heap : Heap Address Value} {before start : Option Address}
    {entries : List (Address × Value)} (segment : Segment heap before start entries none)
    (test : Value → Bool) {cells : Nat} (enough : entries.length ≤ cells) :
    search heap test cells start =
      .ok ((entries.find? fun entry => test entry.2).map Prod.fst) := by
  induction entries generalizing before start cells with
  | nil =>
      cases cells <;> rw [segment] <;> rfl
  | cons entry entries ih =>
      obtain ⟨started, next, prev, live, -, rest⟩ := segment
      cases cells with
      | zero => simp at enough
      | succ cells =>
          rw [started, search, live]
          have shorter : entries.length ≤ cells := by simpa using enough
          cases passes : test entry.2 with
          | true => simp [passes]
          | false => simp [passes, ih rest shorter]

section Update

variable [DecidableEq Address] {heap : Heap Address Value} {before start stop : Option Address}
variable {entries : List (Address × Value)} {address : Address} {value : Value}

/-- A cell outside the list may change. -/
theorem update_of_notMem (segment : Segment heap before start entries stop)
    (outside : address ∉ entries.map Prod.fst) (cell : Option (Cell Address Value)) :
    Segment (Function.update heap address cell) before start entries stop := by
  apply segment.congr
  intro other member
  have different : other ≠ address := fun same => outside (same ▸ member)
  exact Function.update_of_ne different cell heap

/-- The backward link of the first cell can be led to any cell, which then stands before
the list. -/
theorem setPrev (segment : Segment heap before start ((address, value) :: entries) stop)
    (distinct : (((address, value) :: entries).map Prod.fst).Nodup)
    (previous : Option Address) :
    ∃ cell, heap address = some cell ∧
      Segment (Function.update heap address (some { cell with prev := previous })) previous
        start ((address, value) :: entries) stop := by
  obtain ⟨started, next, prev, live, -, rest⟩ := segment
  have outside : address ∉ entries.map Prod.fst := (List.nodup_cons.mp distinct).1
  refine ⟨_, live, started, next, previous, ?_, .inr rfl, rest.update_of_notMem outside _⟩
  rw [Function.update_self]

/-- The forward link of the last cell can be led elsewhere. -/
theorem setNext
    (segment : Segment heap before start (entries ++ [(address, value)]) stop)
    (distinct : ((entries ++ [(address, value)]).map Prod.fst).Nodup)
    (target : Option Address) :
    ∃ cell, heap address = some cell ∧
      Segment (Function.update heap address (some { cell with next := target })) before
        start (entries ++ [(address, value)]) target := by
  obtain ⟨middle, first, second⟩ := append_iff.mp segment
  obtain ⟨started, next, prev, live, linked, -⟩ := second
  have outside : address ∉ entries.map Prod.fst := by
    rw [List.map_append, List.nodup_append] at distinct
    intro member
    exact distinct.2.2 address member address (by simp) rfl
  refine ⟨_, live, append_iff.mpr ⟨middle, first.update_of_notMem outside _, ?_⟩⟩
  refine ⟨started, target, prev, ?_, linked, rfl⟩
  rw [Function.update_self]

end Update

end Segment

end Tunprox.LinkedList
