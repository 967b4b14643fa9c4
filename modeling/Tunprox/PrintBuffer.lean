import Mathlib.Data.List.Basic

/-!
# Printing into buffers

Memory whose bytes hold nothing until they are written, `snprintf` into a part of it, and
the sequence of calls in which each one prints behind the text of the one before and adds
the length its text would have had.  Such a sequence is one `snprintf` of the whole text.
The second half is about texts that are printed one behind the other into memory that is
enlarged by an estimate of the length before each of them.
-/

namespace Tunprox.PrintBuffer

/-- Memory; a byte that has not been written is `none`. -/
abbrev Memory := List (Option UInt8)

def malloc (size : Nat) : Memory :=
  List.replicate size none

@[simp]
theorem length_malloc (size : Nat) : (malloc size).length = size :=
  List.length_replicate

/-- `realloc`, which keeps what fits. -/
def realloc (memory : Memory) (size : Nat) : Memory :=
  memory.take size ++ malloc (size - memory.length)

/-- The bytes at the address, or nothing if they reach outside of the memory. -/
def write (memory : Memory) (address : Nat) (bytes : List UInt8) : Option Memory :=
  if address + bytes.length ≤ memory.length then
    some (memory.take address ++ bytes.map some ++ memory.drop (address + bytes.length))
  else none

/-- The number of bytes that have been written. -/
def written (memory : Memory) : Nat :=
  memory.countP Option.isSome

/-- A function that prints into `size` bytes at an address and returns the length that its
text has without the limit. -/
abbrev Printer := Nat → Nat → Memory → Option (Memory × Nat)

/-- `snprintf`, which writes nothing at all if there is no room. -/
def snprintf (text : List UInt8) : Printer := fun address size memory =>
  if size = 0 then some (memory, text.length)
  else (write memory address (text.take (size - 1) ++ [0])).map (·, text.length)

/-- Two calls `len += f (address + len, size > len ? size - len : 0)`. -/
def andThen (first second : Printer) : Printer := fun address size memory => do
  let (memory, firstLen) ← first address size memory
  let (memory, secondLen) ← second (address + firstLen) (size - firstLen) memory
  some (memory, firstLen + secondLen)

theorem length_write {memory memory' : Memory} {address : Nat} {bytes : List UInt8}
    (writes : write memory address bytes = some memory') :
    address + bytes.length ≤ memory.length ∧ memory'.length = memory.length := by
  rw [write] at writes
  split at writes
  · rename_i inside
    cases writes
    refine ⟨inside, ?_⟩
    simp only [List.length_append, List.length_take, List.length_map, List.length_drop]
    omega
  · cases writes

/-- What stands before the address is kept. -/
theorem take_write {memory memory' : Memory} {address : Nat} {bytes : List UInt8}
    (writes : write memory address bytes = some memory') :
    memory'.take (address + bytes.length) = memory.take address ++ bytes.map some := by
  have inside := (length_write writes).1
  rw [write, if_pos inside] at writes
  cases writes
  apply List.take_left'
  simp only [List.length_append, List.length_take, List.length_map]
  omega

/-- The bytes go behind what has been written. -/
theorem write_append {done rest : Memory} {bytes : List UInt8}
    (room : bytes.length ≤ rest.length) :
    write (done ++ rest) done.length bytes =
      some (done ++ bytes.map some ++ rest.drop bytes.length) := by
  have inside : done.length + bytes.length ≤ (done ++ rest).length := by
    rw [List.length_append]
    omega
  rw [write, if_pos inside, List.take_left, List.drop_length_add_append]

theorem write_eq_none {memory : Memory} {address : Nat} (bytes : List UInt8)
    (outside : memory.length < address + bytes.length) : write memory address bytes = none := by
  rw [write, if_neg (by omega)]

/-- The second text overwrites the end of the first. -/
theorem write_write (memory : Memory) (address : Nat) (first : List UInt8)
    {last second : List UInt8} (covered : last.length ≤ second.length) :
    ((write memory address (first ++ last)).bind fun memory =>
        write memory (address + first.length) second) =
      write memory address (first ++ second) := by
  by_cases inside : address + (first ++ second).length ≤ memory.length
  · obtain ⟨before, rest, rfl, rfl⟩ :
        ∃ before rest, memory = before ++ rest ∧ address = before.length :=
      ⟨memory.take address, memory.drop address, (List.take_append_drop _ _).symm,
        by rw [List.length_take]; omega⟩
    rw [List.length_append, List.length_append] at inside
    have roomFirst : (first ++ last).length ≤ rest.length := by
      rw [List.length_append]
      omega
    have roomBoth : (first ++ second).length ≤ rest.length := by
      rw [List.length_append]
      omega
    have roomSecond : second.length ≤
        (last.map some ++ rest.drop (first ++ last).length).length := by
      simp only [List.length_append, List.length_map, List.length_drop]
      omega
    have start : before.length + first.length = (before ++ first.map some).length := by
      rw [List.length_append, List.length_map]
    have regroup : before ++ (first ++ last).map some ++ rest.drop (first ++ last).length =
        before ++ first.map some ++ (last.map some ++ rest.drop (first ++ last).length) := by
      simp only [List.map_append, List.append_assoc]
    have behind : (last.map some ++ rest.drop (first ++ last).length).drop second.length =
        rest.drop (first ++ second).length := by
      rw [List.drop_append, List.drop_of_length_le (by rwa [List.length_map]), List.nil_append,
        List.drop_drop, List.length_map, List.length_append, List.length_append]
      congr 1
      omega
    rw [write_append roomFirst, Option.bind_some, regroup, start, write_append roomSecond,
      write_append roomBoth, behind]
    simp only [List.map_append, List.append_assoc]
  · rw [write_eq_none (first ++ second) (by omega)]
    cases writes : write memory address (first ++ last) with
    | none => rfl
    | some memory' =>
        have same := (length_write writes).2
        rw [List.length_append] at inside
        exact write_eq_none second (by omega)

/-- Text behind text. -/
theorem snprintf_andThen (first second : List UInt8) :
    andThen (snprintf first) (snprintf second) = snprintf (first ++ second) := by
  funext address size memory
  by_cases noRoom : size = 0
  · subst noRoom
    simp [andThen, snprintf]
  · rw [andThen]
    by_cases full : size ≤ first.length
    · have cut : (first ++ second).take (size - 1) = first.take (size - 1) :=
        List.take_append_of_le_length (by omega)
      have nothing : size - first.length = 0 := by omega
      simp only [snprintf, if_neg noRoom, cut, List.length_append]
      cases write memory address (first.take (size - 1) ++ [0]) with
      | none => rfl
      | some memory' => simp [nothing]
    · have whole : first.take (size - 1) = first := List.take_of_length_le (by omega)
      have some_room : size - first.length ≠ 0 := by omega
      have joined : (first ++ second).take (size - 1) =
          first ++ second.take (size - first.length - 1) := by
        rw [List.take_append, whole]
        congr 2
        omega
      have covered : ([0] : List UInt8).length ≤
          (second.take (size - first.length - 1) ++ [0]).length := by
        simp
      simp only [snprintf, if_neg noRoom, whole, joined]
      rw [List.append_assoc, ← write_write memory address first covered]
      cases write memory address (first ++ [0]) with
      | none => rfl
      | some memory' =>
          simp only [if_neg some_room, Option.map_some, Option.bind_eq_bind, Option.bind_some,
            List.length_append]
          cases write memory' (address + first.length)
              (second.take (size - first.length - 1) ++ [0]) with
          | none => rfl
          | some memory'' => rfl

/-- Calls of `snprintf` one after the other. -/
def printAll : List (List UInt8) → Printer
  | [] => fun _ _ memory => some (memory, 0)
  | text :: texts => andThen (snprintf text) (printAll texts)

theorem andThen_nil (printer : Printer) : andThen printer (printAll []) = printer := by
  funext address size memory
  simp only [andThen, printAll, Option.bind_eq_bind, Option.bind_some, Nat.add_zero]
  cases printer address size memory with
  | none => rfl
  | some result => rfl

theorem nil_andThen (printer : Printer) : andThen (printAll []) printer = printer := by
  funext address size memory
  simp only [andThen, printAll, Option.bind_eq_bind, Option.bind_some, Nat.add_zero, Nat.sub_zero,
    Nat.zero_add]
  cases printer address size memory with
  | none => rfl
  | some result => rfl

/-- They print one text. -/
theorem printAll_cons (text : List UInt8) (texts : List (List UInt8)) :
    printAll (text :: texts) = snprintf (text :: texts).flatten := by
  induction texts generalizing text with
  | nil => rw [printAll, andThen_nil, List.flatten_singleton]
  | cons next texts ih =>
      rw [printAll, ih, snprintf_andThen]
      rfl

theorem printAll_append (first second : List (List UInt8)) :
    andThen (printAll first) (printAll second) = printAll (first ++ second) := by
  cases first with
  | nil => exact nil_andThen _
  | cons text texts =>
      cases second with
      | nil => rw [andThen_nil, List.append_nil]
      | cons next others =>
          rw [printAll_cons, printAll_cons, snprintf_andThen, List.cons_append, printAll_cons,
            ← List.cons_append, List.flatten_append]

/-- Memory of `size` bytes, and the place behind the text in it. -/
structure OutBuffer where
  memory : Memory
  position : Nat
  size : Nat

/-- A text, and the length it was expected to have. -/
structure Entry where
  sized : Nat
  text : List UInt8

/-- The memory grows by the expected length; the text is cut off behind it. -/
def OutBuffer.append (buffer : OutBuffer) (entry : Entry) : Option OutBuffer :=
  let memory := realloc buffer.memory (buffer.size + entry.sized)
  (snprintf entry.text buffer.position (entry.sized + 1) memory).map fun (memory, len) =>
    { memory := memory
      position := buffer.position + len
      size := buffer.size + entry.sized }

def OutBuffer.appendAll (buffer : OutBuffer) : List Entry → Option OutBuffer
  | [] => some buffer
  | entry :: entries => (buffer.append entry).bind fun buffer => buffer.appendAll entries

theorem OutBuffer.appendAll_append (buffer : OutBuffer) (first second : List Entry) :
    buffer.appendAll (first ++ second) =
      (buffer.appendAll first).bind fun buffer => buffer.appendAll second := by
  induction first generalizing buffer with
  | nil => rfl
  | cons entry first ih =>
      rw [List.cons_append, OutBuffer.appendAll, OutBuffer.appendAll, Option.bind_assoc]
      exact Option.bind_congr fun next _ => ih next

/-- The texts one behind the other. -/
def texts (entries : List Entry) : List UInt8 :=
  entries.flatMap Entry.text

theorem texts_cons (entry : Entry) (entries : List Entry) :
    texts (entry :: entries) = entry.text ++ texts entries :=
  rfl

/-- No text is longer than it was expected to be. -/
def Fits (entries : List Entry) : Prop :=
  ∀ entry ∈ entries, entry.text.length ≤ entry.sized

/-- The buffer holds a text, and has at least `slack` more bytes. -/
structure OutBuffer.Filled (buffer : OutBuffer) (done : List UInt8) (slack : Nat) : Prop where
  memory : ∃ rest : Memory, buffer.memory = done.map some ++ rest ∧ slack ≤ rest.length
  position : buffer.position = done.length
  size : buffer.size = buffer.memory.length

theorem realloc_grown (memory : Memory) (more : Nat) :
    realloc memory (memory.length + more) = memory ++ malloc more := by
  rw [realloc, List.take_of_length_le (by omega), Nat.add_sub_cancel_left]

/-- Where the `snprintf` of `OutBuffer.append` writes. -/
theorem OutBuffer.append_eq (buffer : OutBuffer) (entry : Entry)
    (size : buffer.size = buffer.memory.length) :
    buffer.append entry =
      (write (buffer.memory ++ malloc entry.sized) buffer.position
          (entry.text.take entry.sized ++ [0])).map fun memory =>
        { memory := memory
          position := buffer.position + entry.text.length
          size := buffer.size + entry.sized } := by
  have positive : entry.sized + 1 ≠ 0 := by omega
  rw [OutBuffer.append, size, realloc_grown, snprintf, if_neg positive, Nat.add_sub_cancel,
    Option.map_map]
  rfl

/-- A text that fits is appended, and leaves as much room as there was. -/
theorem OutBuffer.Filled.append {buffer : OutBuffer} {done : List UInt8} {slack : Nat}
    {entry : Entry} (filled : buffer.Filled done slack) (positive : 1 ≤ slack)
    (fits : entry.text.length ≤ entry.sized) :
    ∃ buffer', buffer.append entry = some buffer' ∧
      buffer'.Filled (done ++ entry.text) slack := by
  obtain ⟨rest, memory, enough⟩ := filled.memory
  have room : (entry.text ++ [0]).length ≤ (rest ++ malloc entry.sized).length := by
    simp only [List.length_append, List.length_singleton, length_malloc]
    omega
  have start : buffer.position = (done.map some).length := by
    rw [filled.position, List.length_map]
  rw [buffer.append_eq entry filled.size, List.take_of_length_le fits, memory,
    List.append_assoc, start, write_append room, Option.map_some]
  refine ⟨_, rfl, ⟨some 0 :: (rest ++ malloc entry.sized).drop (entry.text ++ [0]).length, ?_, ?_⟩,
    ?_, ?_⟩
  · simp only [List.map_append, List.map_cons, List.map_nil, List.append_assoc,
      List.cons_append, List.nil_append]
  · simp only [List.length_append, List.length_cons, List.length_nil, List.length_drop,
      length_malloc]
    omega
  · simp only [List.length_append, List.length_map]
  · simp only [filled.size, memory, List.length_append, List.length_cons, List.length_nil,
      List.length_drop, List.length_map, length_malloc] at room ⊢
    omega

theorem OutBuffer.Filled.appendAll {entries : List Entry} {buffer : OutBuffer}
    {done : List UInt8} {slack : Nat} (filled : buffer.Filled done slack)
    (positive : 1 ≤ slack) (fits : Fits entries) :
    ∃ buffer', buffer.appendAll entries = some buffer' ∧
      buffer'.Filled (done ++ texts entries) slack := by
  induction entries generalizing buffer done with
  | nil => exact ⟨buffer, rfl, by rwa [texts, List.flatMap_nil, List.append_nil]⟩
  | cons entry entries ih =>
      obtain ⟨first, appended, firstFilled⟩ :=
        filled.append positive (fits entry List.mem_cons_self)
      obtain ⟨last, rest, lastFilled⟩ :=
        ih firstFilled fun other member => fits other (List.mem_cons_of_mem _ member)
      refine ⟨last, ?_, ?_⟩
      · rw [OutBuffer.appendAll, appended, Option.bind_some, rest]
      · rwa [texts_cons, ← List.append_assoc]

/-- Bytes before the address stay as they are. -/
theorem getElem?_write_of_lt {memory memory' : Memory} {address index : Nat}
    {bytes : List UInt8} (writes : write memory address bytes = some memory')
    (before : index < address) : memory'[index]? = memory[index]? := by
  have inside := (length_write writes).1
  have kept := congrArg (fun part => part[index]?) (take_write writes)
  rw [List.getElem?_take_of_lt (by omega), List.getElem?_append_left
    (by rw [List.length_take]; omega), List.getElem?_take_of_lt before] at kept
  exact kept

theorem getElem?_write_of_le {memory memory' : Memory} {address index : Nat}
    {bytes : List UInt8} (writes : write memory address bytes = some memory')
    (within : index < bytes.length) :
    memory'[address + index]? = (bytes.map some)[index]? := by
  have inside := (length_write writes).1
  have kept := congrArg (fun part => part[address + index]?) (take_write writes)
  have length : (memory.take address).length = address := by
    rw [List.length_take]
    omega
  rw [List.getElem?_take_of_lt (by omega), List.getElem?_append_right
    (by rw [length]; omega), length, Nat.add_sub_cancel_left] at kept
  exact kept

/-- What can be said of an appended text, whatever its length. -/
structure OutBuffer.Appended (buffer buffer' : OutBuffer) (entry : Entry) : Prop where
  size : buffer'.size = buffer'.memory.length
  position : buffer'.position = buffer.position + entry.text.length
  inside : buffer.position + min entry.text.length entry.sized < buffer'.memory.length
  kept : ∀ index < buffer.position, index < buffer.memory.length →
    buffer'.memory[index]? = buffer.memory[index]?
  cut : entry.sized < entry.text.length →
    buffer'.memory[buffer.position + entry.sized]? = some (some 0)

theorem OutBuffer.appended {buffer buffer' : OutBuffer} {entry : Entry}
    (size : buffer.size = buffer.memory.length) (append : buffer.append entry = some buffer') :
    buffer.Appended buffer' entry := by
  rw [buffer.append_eq entry size, Option.map_eq_some_iff] at append
  obtain ⟨memory, writes, rfl⟩ := append
  obtain ⟨inside, same⟩ := length_write writes
  simp only [List.length_append, List.length_take, List.length_singleton, length_malloc]
    at inside same
  refine ⟨?_, rfl, ?_, ?_, ?_⟩
  · rw [same, size]
  · show buffer.position + min entry.text.length entry.sized < memory.length
    omega
  · intro index before old
    rw [getElem?_write_of_lt writes before, List.getElem?_append_left old]
  · intro long
    have last : (entry.text.take entry.sized).length = entry.sized := by
      rw [List.length_take]
      omega
    have ended : ((entry.text.take entry.sized).map some).length = entry.sized := by
      rw [List.length_map, last]
    have zero : (([0] : List UInt8).map some)[entry.sized - entry.sized]? = some (some 0) := by
      simp
    rw [getElem?_write_of_le writes
        (by rw [List.length_append, last, List.length_singleton]; omega), List.map_append,
      List.getElem?_append_right (Nat.le_of_eq ended), ended, zero]

/-- Texts that are appended later change nothing before their place. -/
theorem OutBuffer.getElem?_appendAll {entries : List Entry} {buffer buffer' : OutBuffer}
    {index : Nat} (size : buffer.size = buffer.memory.length)
    (appended : buffer.appendAll entries = some buffer') (before : index < buffer.position)
    (old : index < buffer.memory.length) : buffer'.memory[index]? = buffer.memory[index]? := by
  induction entries generalizing buffer with
  | nil =>
      cases appended
      rfl
  | cons entry entries ih =>
      obtain ⟨first, append, rest⟩ := Option.bind_eq_some_iff.mp appended
      have step := OutBuffer.appended size append
      have same := step.kept index before old
      have position := step.position
      have present : index < first.memory.length := by
        have inside := step.inside
        omega
      rw [ih step.size rest (by omega) present, same]

/-- The places of buffers of which one grows from the other. -/
theorem OutBuffer.appendAll_position {entries : List Entry} {buffer buffer' : OutBuffer}
    (size : buffer.size = buffer.memory.length)
    (appended : buffer.appendAll entries = some buffer') :
    buffer'.position = buffer.position + (texts entries).length := by
  induction entries generalizing buffer with
  | nil =>
      cases appended
      rfl
  | cons entry entries ih =>
      obtain ⟨first, append, rest⟩ := Option.bind_eq_some_iff.mp appended
      have step := OutBuffer.appended size append
      rw [ih step.size rest, step.position, texts_cons, List.length_append, Nat.add_assoc]

/-- A text that is too long leaves a zero byte in its midst. -/
theorem OutBuffer.fits_of_appendAll {entries : List Entry} {buffer buffer' : OutBuffer}
    (size : buffer.size = buffer.memory.length)
    (appended : buffer.appendAll entries = some buffer')
    (nonzero : ∀ entry ∈ entries, 0 ∉ entry.text)
    (right : ∀ index < (texts entries).length,
      buffer'.memory[buffer.position + index]? = ((texts entries).map some)[index]?) :
    Fits entries := by
  induction entries generalizing buffer with
  | nil => simp [Fits]
  | cons entry entries ih =>
      obtain ⟨first, append, rest⟩ := Option.bind_eq_some_iff.mp appended
      have step := OutBuffer.appended size append
      have position := step.position
      rw [texts_cons, List.length_append] at right
      have short : entry.text.length ≤ entry.sized := by
        by_contra long
        have inside := step.inside
        have kept : buffer'.memory[buffer.position + entry.sized]? =
            first.memory[buffer.position + entry.sized]? :=
          OutBuffer.getElem?_appendAll step.size rest (by omega) (by omega)
        rw [right entry.sized (by omega), step.cut (by omega), List.map_append,
          List.getElem?_append_left (by rw [List.length_map]; omega), List.getElem?_map,
          List.getElem?_eq_getElem (by omega), Option.map_some] at kept
        have zero := Option.some.inj (Option.some.inj kept)
        exact nonzero entry List.mem_cons_self (zero ▸ List.getElem_mem _)
      have others := ih step.size rest
        (fun other member => nonzero other (List.mem_cons_of_mem _ member)) (by
          intro index bound
          rw [position, Nat.add_assoc, right (entry.text.length + index) (by omega),
            List.map_append, List.getElem?_append_right (by rw [List.length_map]; omega),
            List.length_map, Nat.add_sub_cancel_left])
      intro other member
      rcases List.mem_cons.mp member with rfl | later
      · exact short
      · exact others other later

/-- Bytes that are there have been written. -/
theorem length_le_written {memory : Memory} {count : Nat} {bytes : List UInt8}
    (holds : memory.take count = bytes.map some) : bytes.length ≤ written memory := by
  have all : (bytes.map some).countP Option.isSome = bytes.length := by
    have whole : bytes.countP (Option.isSome ∘ some) = bytes.length :=
      List.countP_eq_length.mpr fun byte _ => rfl
    rw [List.countP_map, whole]
  rw [← all, ← holds]
  exact (List.take_sublist count memory).countP_le

theorem written_le (memory : Memory) : written memory ≤ memory.length :=
  List.countP_le_length

/-- A text that is printed into new memory for the expected length. -/
theorem exists_snprintf_malloc (text : List UInt8) (sized : Nat) :
    ∃ memory, snprintf text 0 (sized + 1) (malloc (sized + 1)) = some (memory, text.length) ∧
      memory.length = sized + 1 ∧ (text.length ≤ sized → text.length ≤ written memory) := by
  have inside : (text.take sized ++ [0]).length ≤ (malloc (sized + 1)).length := by
    rw [List.length_append, List.length_take, List.length_singleton, length_malloc]
    omega
  have positive : sized + 1 ≠ 0 := by omega
  have writes : write (malloc (sized + 1)) 0 (text.take sized ++ [0]) = some
      ((text.take sized ++ [0]).map some ++
        (malloc (sized + 1)).drop (text.take sized ++ [0]).length) :=
    @write_append [] _ _ inside
  refine ⟨_, by rw [snprintf, if_neg positive]; exact congrArg (Option.map (·, text.length)) writes,
    ?_, ?_⟩
  · rw [(length_write writes).2, length_malloc]
  · intro short
    rw [List.take_of_length_le short, List.map_append, List.append_assoc]
    exact length_le_written (List.take_left' (List.length_map _))

/-- `strcpy` of a last text behind the others. -/
def OutBuffer.close (buffer : OutBuffer) (text : List UInt8) : Option Memory :=
  write buffer.memory buffer.position (text ++ [0])

/-- If there is room for the last text, then all texts stand in the memory, without gaps, if
and only if none of them is longer than expected. -/
theorem OutBuffer.Filled.right_iff {entries : List Entry} {buffer : OutBuffer}
    {done last : List UInt8} {slack : Nat} (filled : buffer.Filled done slack)
    (room : last.length < slack) (nonzero : ∀ entry ∈ entries, 0 ∉ entry.text) :
    (∃ buffer' memory, buffer.appendAll entries = some buffer' ∧
        buffer'.close last = some memory ∧
        memory.take (buffer'.position + last.length) =
          (done ++ texts entries ++ last).map some) ↔
      Fits entries := by
  constructor
  · rintro ⟨buffer', memory, appended, closed, right⟩
    refine OutBuffer.fits_of_appendAll filled.size appended nonzero ?_
    intro index bound
    have position := OutBuffer.appendAll_position filled.size appended
    have place := filled.position
    have kept : memory[buffer.position + index]? = buffer'.memory[buffer.position + index]? :=
      getElem?_write_of_lt closed (by omega)
    have read := congrArg (fun part => part[buffer.position + index]?) right
    rw [List.getElem?_take_of_lt (by omega), kept, List.append_assoc, List.map_append,
      List.getElem?_append_right (by rw [List.length_map]; omega), List.length_map, place,
      Nat.add_sub_cancel_left, List.map_append,
      List.getElem?_append_left (by rw [List.length_map]; omega)] at read
    rw [place]
    exact read
  · intro fits
    obtain ⟨buffer', appended, filled'⟩ := filled.appendAll (by omega) fits
    obtain ⟨rest, memory, enough⟩ := filled'.memory
    have start : buffer'.position = ((done ++ texts entries).map some).length := by
      rw [filled'.position, List.length_map]
    have fitting : (last ++ [0]).length ≤ rest.length := by
      rw [List.length_append, List.length_singleton]
      omega
    refine ⟨buffer', _, appended, by rw [OutBuffer.close, memory, start, write_append fitting], ?_⟩
    have regroup : (done ++ texts entries).map some ++ (last ++ [0]).map some =
        (done ++ texts entries ++ last).map some ++ [some 0] := by
      simp only [List.map_append, List.append_assoc, List.map_cons, List.map_nil]
    rw [regroup, List.append_assoc]
    apply List.take_left'
    rw [start, List.map_append, List.length_append, List.length_map, List.length_map]

end Tunprox.PrintBuffer
