import Tunprox.Connection
import Tunprox.StatusReport

/-!
# The table of subflows

`tp_subflow_report` keeps the names of the subflows in an array of strings that grows by one
when it is full and is compacted in place when a name is removed.  The model has the array with
its bounds: an access outside of them, a string that does not fit or does not end, and an `int`
that overflows have no result.
-/

namespace Tunprox.SubflowTable

open LabelledRun
open Connection (ConnState SubflowAction)

/-- An `int` after an arithmetic operation, which must not overflow. -/
def int (value : Int) : Option Int :=
  if -2 ^ 31 ≤ value ∧ value < 2 ^ 31 then some value else none

/-- `subflow_str` -/
structure SubflowStr where
  s : List UInt8
  size : s.length = IFNAMSIZ + 1

namespace SubflowStr

/-- The string in the array, which must have its end there. -/
def string (slot : SubflowStr) : Option (List UInt8) :=
  if 0 ∈ slot.s then some (slot.s.takeWhile (· != 0)) else none

/-- `strcpy` into the array, which must be large enough. -/
def strcpy (slot : SubflowStr) (source : List UInt8) : Option SubflowStr :=
  if fits : source.length < IFNAMSIZ + 1 then
    some {
      s := source ++ 0 :: slot.s.drop (source.length + 1)
      size := by
        simp only [List.length_append, List.length_cons, List.length_drop, slot.size]
        omega }
  else none

/-- `s[0] = 0` -/
def clear (slot : SubflowStr) : SubflowStr where
  s := slot.s.set 0 0
  size := by simp [slot.size]

end SubflowStr

/-- A name of at most `IFNAMSIZ` bytes. -/
structure LinkName where
  bytes : List UInt8
  bounded : bytes.length ≤ IFNAMSIZ
  nonzero : 0 ∉ bytes

/-- `struct mpdccp_link_info` -/
structure MpdccpLinkInfo where
  isDevlink : Bool
  ndevName : Option LinkName
  name : Option LinkName

def unnamed : LinkName where
  bytes := ascii "unnamed"
  bounded := by decide
  nonzero := by decide

/-- The name under which a subflow is reported. -/
def MpdccpLinkInfo.reportName (link : MpdccpLinkInfo) : LinkName :=
  (if link.isDevlink then link.ndevName else link.name).getD unnamed

/-- The arguments of `tp_subflow_report`: whether `meta_sk` points to the tunnel, and the link.
`krealloc` is called at most once; the memory that it gets is what lies behind the old array. -/
structure Report where
  action : SubflowAction
  metaSk : Bool
  link : Option MpdccpLinkInfo
  krealloc : Kmalloc SubflowStr

/-- The members of `struct mpdccptun` that `tp_subflow_report` uses. -/
structure Table where
  tostop : Bool
  subflow : List SubflowStr
  numSubflow : Int
  bufszSubflow : Int
  subflowReport : SubflowStr

/-- The members after `mpdccptun_new`. -/
def mpdccptunNew : Table where
  tostop := false
  subflow := []
  numSubflow := 0
  bufszSubflow := 0
  subflowReport := ⟨List.replicate (IFNAMSIZ + 1) 0, List.length_replicate⟩

/-- `tdat->subflow[i]`, which must be below `bufsz_subflow` and in the memory of the array. -/
def slotAt (table : Table) (i : Int) : Option SubflowStr :=
  if 0 ≤ i ∧ i < table.bufszSubflow then table.subflow[i.toNat]? else none

/-- A change of `tdat->subflow[i]`. -/
def setSlot (table : Table) (i : Int) (slot : SubflowStr) : Table :=
  { table with subflow := table.subflow.set i.toNat slot }

/-- The string `tdat->subflow[i].s`. -/
def stringAt (table : Table) (i : Int) : Option (List UInt8) := do
  let slot ← slotAt table i
  slot.string

/-- `strcpy (tdat->subflow[i].s, source)` -/
def strcpyAt (table : Table) (i : Int) (source : List UInt8) : Option Table := do
  let slot ← slotAt table i
  let copied ← slot.strcpy source
  return setSlot table i copied

/-- `tdat->subflow[i].s[0] = 0` -/
def clearAt (table : Table) (i : Int) : Option Table := do
  let slot ← slotAt table i
  return setSlot table i slot.clear

/-- The room for one more name; the inner `none` if there is no memory for it. -/
def makeRoom (table : Table) (krealloc : Kmalloc SubflowStr) : Option (Option Table) :=
  if table.bufszSubflow ≤ table.numSubflow then do
    let bufsz ← int (table.bufszSubflow + 1)
    match krealloc.fresh ((IFNAMSIZ + 1) * bufsz % 2 ^ 64).toNat with
    | none => return none
    | some slot =>
        return some { table with subflow := table.subflow ++ [slot], bufszSubflow := bufsz }
  else some (some table)

/-- The name is added behind the others. -/
def addName (table : Table) (name : List UInt8) : Option Table := do
  let added ← strcpyAt table table.numSubflow name
  let num ← int (added.numSubflow + 1)
  return { added with numSubflow := num }

/-- The inner loop of the removal with `rounds` left, and where it ends. -/
def moveDown (table : Table) : Nat → Int → Option (Table × Int)
  | 0, i => some (table, i)
  | rounds + 1, i => do
      let source ← stringAt table (i + 1)
      let moved ← strcpyAt table i source
      moveDown moved rounds (i + 1)

/-- What is done with the name that was found. -/
def removeAt (table : Table) (i : Int) : Option Table := do
  let (moved, last) ← moveDown table (table.numSubflow - 1 - i).toNat i
  let cleared ← clearAt moved last
  let num ← int (cleared.numSubflow - 1)
  return { cleared with numSubflow := num }

/-- The outer loop of the removal with `rounds` left. -/
def removeName (table : Table) (name : List UInt8) : Nat → Int → Option Table
  | 0, _ => some table
  | rounds + 1, i => do
      let stored ← stringAt table i
      if kernelStrcaseeq name stored then removeAt table i
      else removeName table name rounds (i + 1)

/-- `strcpy (tdat->subflow_report.s, name)`, for the event. -/
def strcpyReport (table : Table) (name : List UInt8) : Option Table := do
  let copied ← table.subflowReport.strcpy name
  return { table with subflowReport := copied }

/-- The name that is reported to a tunnel that is not being removed. -/
def reported (table : Table) (report : Report) : Option LinkName :=
  match report.link with
  | none => none
  | some link => if !report.metaSk || table.tostop then none else some link.reportName

/-- `tp_subflow_report` -/
def tpSubflowReport (table : Table) (report : Report) : Option Table :=
  match reported table report with
  | none => some table
  | some name =>
      match report.action with
      | .create => do
          match ← makeRoom table report.krealloc with
          | none => return table
          | some roomy =>
              let added ← addName roomy name.bytes
              strcpyReport added name.bytes
      | .destroy => do
          let removed ← removeName table name.bytes table.numSubflow.toNat 0
          strcpyReport removed name.bytes

/-- What the reports so far are to leave: the names, and for how many names memory was
granted. -/
structure Expected where
  names : List (List UInt8)
  slots : Nat

def noSubflows : Expected where
  names := []
  slots := 0

/-- The name of a report that is about a link of the tunnel. -/
def Report.subject (report : Report) : Option (List UInt8) :=
  match report.link with
  | none => none
  | some link => if report.metaSk then some link.reportName.bytes else none

/-- What a report is to do.  The name of a new subflow goes behind the others unless no slot is
free and memory for a further one is refused; of the names equal to that of a subflow that is
gone, the first is deleted. -/
def Expected.after (expected : Expected) (report : Report) : Expected :=
  match report.subject with
  | none => expected
  | some name =>
      match report.action with
      | .create =>
          if expected.names.length < expected.slots then
            { expected with names := expected.names ++ [name] }
          else if report.krealloc.Grants ((IFNAMSIZ + 1) * (expected.slots + 1)) then
            { names := expected.names ++ [name], slots := expected.slots + 1 }
          else expected
      | .destroy => { expected with names := expected.names.eraseP (kernelStrcaseeq name) }

/-- The table beside what it is to hold. -/
structure History where
  table : Table
  expected : Expected

def initial : History where
  table := mpdccptunNew
  expected := noSubflows

/-- One report.  It is not enabled if the table is accessed out of its bounds. -/
def step (history : History) (report : Report) : Option History :=
  (tpSubflowReport history.table report).map fun table =>
    { table := table, expected := history.expected.after report }

/-- The strings of the first `num_subflow` entries. -/
def entries (table : Table) : List (Option (List UInt8)) :=
  (table.subflow.take table.numSubflow.toNat).map SubflowStr.string

/-- The table is within its bounds, and its entries are the names the reports are to leave. -/
structure Tabulates (history : History) : Prop where
  nonneg : 0 ≤ history.table.numSubflow
  bounded : history.table.numSubflow ≤ history.table.bufszSubflow
  memory : history.table.bufszSubflow = history.table.subflow.length
  slots : history.table.bufszSubflow = history.expected.slots
  entries : entries history.table = history.expected.names.map some

/-- The first slots hold the names. -/
def Begins (slots : List SubflowStr) (names : List (List UInt8)) : Prop :=
  names.map some <+: slots.map SubflowStr.string

/-- The invariant of the table.  It stays so small that the counters do not overflow. -/
structure Holds (table : Table) (names : List (List UInt8)) : Prop where
  count : table.numSubflow = names.length
  memory : table.bufszSubflow = table.subflow.length
  begins : Begins table.subflow names
  limited : (IFNAMSIZ + 1) * table.subflow.length < KMALLOC_LIMIT

theorem SubflowStr.bounds_of_string {slot : SubflowStr} {string : List UInt8}
    (holds : slot.string = some string) : string.length ≤ IFNAMSIZ ∧ 0 ∉ string := by
  unfold SubflowStr.string at holds
  split at holds
  · rename_i ended
    obtain rfl := Option.some.inj holds
    constructor
    · have shorter : slot.s.takeWhile (· != 0) ≠ slot.s := by
        intro whole
        rw [← whole] at ended
        simpa using List.mem_takeWhile_imp ended
      have length := (List.takeWhile_prefix (l := slot.s) (· != 0)).length_le
      have different : (slot.s.takeWhile (· != 0)).length ≠ slot.s.length := fun same =>
        shorter ((List.takeWhile_prefix _).eq_of_length same)
      have size := slot.size
      omega
    · intro mem
      simpa using List.mem_takeWhile_imp mem
  · contradiction

/-- What is copied into a slot is read from it. -/
theorem SubflowStr.exists_strcpy (slot : SubflowStr) {source : List UInt8}
    (bounded : source.length ≤ IFNAMSIZ) (nonzero : 0 ∉ source) :
    ∃ copied, slot.strcpy source = some copied ∧ copied.string = some source := by
  have fits : source.length < IFNAMSIZ + 1 := by omega
  have noneZero : ∀ byte ∈ source, (byte != 0) = true := by
    intro byte mem
    simp only [bne_iff_ne]
    rintro rfl
    exact nonzero mem
  refine ⟨_, by rw [SubflowStr.strcpy, dif_pos fits], ?_⟩
  rw [SubflowStr.string, if_pos (by simp), List.takeWhile_append_of_pos noneZero]
  simp

@[simp]
theorem SubflowStr.string_clear (slot : SubflowStr) : slot.clear.string = some [] := by
  obtain ⟨bytes, size⟩ := slot
  cases bytes with
  | nil => contradiction
  | cons first rest => simp [SubflowStr.clear, SubflowStr.string]

theorem Begins.length_le {slots : List SubflowStr} {names : List (List UInt8)}
    (begins : Begins slots names) : names.length ≤ slots.length := by
  simpa using List.IsPrefix.length_le begins

theorem Begins.lt_length {slots : List SubflowStr} {before after : List (List UInt8)}
    {name : List UInt8} (begins : Begins slots (before ++ name :: after)) :
    before.length < slots.length := by
  have length := begins.length_le
  simp only [List.length_append, List.length_cons] at length
  omega

theorem Begins.string_eq {slots : List SubflowStr} {before after : List (List UInt8)}
    {name : List UInt8} (begins : Begins slots (before ++ name :: after)) :
    (slots.get ⟨before.length, begins.lt_length⟩).string = some name := by
  have short := begins.lt_length
  obtain ⟨rest, split⟩ := begins
  have stored := congrArg (·[before.length]?) split
  simpa [List.getElem?_eq_getElem short] using stored.symm

theorem Begins.set {slots : List SubflowStr} {before after : List (List UInt8)}
    {old name : List UInt8} (begins : Begins slots (before ++ old :: after)) {slot : SubflowStr}
    (holds : slot.string = some name) :
    Begins (slots.set before.length slot) (before ++ name :: after) := by
  obtain ⟨rest, split⟩ := begins
  refine ⟨rest, ?_⟩
  rw [List.map_set, ← split, holds]
  simp

/-- A name is written behind the others. -/
theorem Begins.add {slots : List SubflowStr} {names : List (List UInt8)} {name : List UInt8}
    (begins : Begins slots names) (short : names.length < slots.length) {slot : SubflowStr}
    (holds : slot.string = some name) :
    Begins (slots.set names.length slot) (names ++ [name]) := by
  obtain ⟨rest, split⟩ := begins
  cases rest with
  | nil =>
      have lengths := congrArg List.length split
      simp only [List.append_nil, List.length_map] at lengths
      omega
  | cons first rest =>
      refine ⟨rest, ?_⟩
      rw [List.map_set, ← split, holds]
      simp

theorem Begins.of_append {slots : List SubflowStr} {names more : List (List UInt8)}
    (begins : Begins slots (names ++ more)) : Begins slots names := by
  apply List.IsPrefix.trans _ begins
  rw [List.map_append]
  exact List.prefix_append _ _

section Operations

variable {table : Table} (memory : table.bufszSubflow = table.subflow.length)

include memory

/-- An index below the length of the array is within the bounds. -/
theorem slotAt_eq {i : Nat} (short : i < table.subflow.length) :
    slotAt table i = some table.subflow[i] := by
  rw [slotAt, if_pos (by omega)]
  exact List.getElem?_eq_getElem short

theorem stringAt_eq {before after : List (List UInt8)} {name : List UInt8}
    (begins : Begins table.subflow (before ++ name :: after)) :
    stringAt table before.length = some name := by
  rw [stringAt, slotAt_eq memory begins.lt_length]
  exact begins.string_eq

theorem exists_strcpyAt {i : Nat} (short : i < table.subflow.length) {source : List UInt8}
    (bounded : source.length ≤ IFNAMSIZ) (nonzero : 0 ∉ source) :
    ∃ copied, strcpyAt table i source = some (setSlot table i copied) ∧
      copied.string = some source := by
  obtain ⟨copied, done, string⟩ := table.subflow[i].exists_strcpy bounded nonzero
  refine ⟨copied, ?_, string⟩
  simp only [strcpyAt, slotAt_eq memory short, done, Option.bind_eq_bind, Option.bind_some]
  rfl

theorem clearAt_eq {i : Nat} (short : i < table.subflow.length) :
    clearAt table i = some (setSlot table i table.subflow[i].clear) := by
  simp only [clearAt, slotAt_eq memory short, Option.bind_eq_bind, Option.bind_some]
  rfl

/-- The names behind the one at `i` are moved down by one, and the last stays twice. -/
theorem exists_moveDown {before after : List (List UInt8)} {name : List UInt8}
    (begins : Begins table.subflow (before ++ name :: after)) :
    ∃ slots last, moveDown table after.length before.length =
        some ({ table with subflow := slots }, ((before ++ after).length : Int)) ∧
      slots.length = table.subflow.length ∧ Begins slots (before ++ after ++ [last]) := by
  induction after generalizing table before name with
  | nil =>
      exact ⟨table.subflow, name, by simp [moveDown], rfl, by simpa using begins⟩
  | cons next after ih =>
      have shifted : Begins table.subflow ((before ++ [name]) ++ next :: after) := by
        simpa using begins
      obtain ⟨bounded, nonzero⟩ := SubflowStr.bounds_of_string shifted.string_eq
      have source := stringAt_eq memory shifted
      obtain ⟨copied, moved, string⟩ :=
        exists_strcpyAt memory begins.lt_length bounded nonzero
      have further : Begins (table.subflow.set before.length copied)
          ((before ++ [next]) ++ next :: after) := by
        simpa using begins.set string
      have nextMemory : (setSlot table before.length copied).bufszSubflow =
          (setSlot table before.length copied).subflow.length := memory.trans (by simp [setSlot])
      obtain ⟨slots, last, rest, same, ends⟩ := ih nextMemory further
      refine ⟨slots, last, ?_, by simpa [setSlot] using same, by simpa using ends⟩
      simp only [List.length_append, List.length_singleton, Nat.cast_add, Nat.cast_one]
        at source rest
      simp only [List.length_cons, moveDown, source, moved, rest, Option.bind_eq_bind,
        Option.bind_some]
      refine congrArg some (Prod.ext rfl ?_)
      simp only [List.length_append, List.length_cons]
      omega

end Operations

section Table

variable {table : Table}

theorem int_eq {value : Int} (low : -1 ≤ value) (high : value ≤ KMALLOC_LIMIT) :
    int value = some value := by
  unfold KMALLOC_LIMIT at high
  rw [int, if_pos (by omega)]

theorem Holds.length_lt {names : List (List UInt8)} (holds : Holds table names) :
    names.length < KMALLOC_LIMIT := by
  have length := holds.begins.length_le
  have limited := holds.limited
  unfold IFNAMSIZ at limited
  omega

/-- The name that was found is taken out. -/
theorem exists_removeAt {before after : List (List UInt8)} {name : List UInt8}
    (holds : Holds table (before ++ name :: after)) :
    ∃ slots, removeAt table before.length =
        some { table with subflow := slots, numSubflow := (before ++ after).length } ∧
      Holds { table with subflow := slots, numSubflow := (before ++ after).length }
        (before ++ after) := by
  obtain ⟨moved, last, ran, length, begins⟩ := exists_moveDown holds.memory holds.begins
  have memory : table.bufszSubflow = moved.length := by
    rw [length]
    exact holds.memory
  have small := holds.length_lt
  have count := holds.count
  simp only [List.length_append, List.length_cons] at small count
  have rounds : (table.numSubflow - 1 - before.length).toNat = after.length := by
    omega
  have cleared : clearAt { table with subflow := moved } (before ++ after).length = _ :=
    clearAt_eq memory begins.lt_length
  have num : int (table.numSubflow - 1) = some ((before ++ after).length : Int) := by
    rw [int_eq (by omega) (by omega), count, List.length_append]
    congr 1
    omega
  refine ⟨moved.set (before ++ after).length
    (moved.get ⟨(before ++ after).length, begins.lt_length⟩).clear, ?_, ?_⟩
  · simp only [removeAt, rounds, ran, cleared, Option.bind_eq_bind, Option.bind_some, setSlot, num,
      Int.toNat_natCast]
    rfl
  · exact {
      count := rfl
      memory := by simpa using memory
      begins := (begins.set (SubflowStr.string_clear _)).of_append
      limited := by simpa [length] using holds.limited }

/-- The first of the names equal to the one that is gone is taken out. -/
theorem exists_removeName (name : List UInt8) {before after : List (List UInt8)}
    (holds : Holds table (before ++ after)) :
    ∃ slots, removeName table name after.length before.length =
        some { table with
          subflow := slots
          numSubflow := (before ++ after.eraseP (kernelStrcaseeq name)).length } ∧
      Holds { table with
          subflow := slots
          numSubflow := (before ++ after.eraseP (kernelStrcaseeq name)).length }
        (before ++ after.eraseP (kernelStrcaseeq name)) := by
  induction after generalizing before with
  | nil =>
      have unchanged : { table with numSubflow := ((before ++ []).length : Int) } = table := by
        rw [← holds.count]
      rw [List.eraseP_nil]
      refine ⟨table.subflow, ?_, ?_⟩
      · rw [unchanged]
        rfl
      · rw [unchanged]
        exact holds
  | cons stored after ih =>
      have read := stringAt_eq holds.memory holds.begins
      simp only [List.length_cons, removeName, read, Option.bind_eq_bind, Option.bind_some]
      by_cases equal : kernelStrcaseeq name stored = true
      · rw [if_pos equal, List.eraseP_cons_of_pos equal]
        exact exists_removeAt holds
      · rw [if_neg equal, List.eraseP_cons_of_neg equal]
        have further : Holds table ((before ++ [stored]) ++ after) := by
          simpa using holds
        simpa using ih further

theorem exists_addName {names : List (List UInt8)} (holds : Holds table names)
    (short : names.length < table.subflow.length) (name : LinkName) :
    ∃ slots, addName table name.bytes =
        some { table with subflow := slots, numSubflow := (names ++ [name.bytes]).length } ∧
      Holds { table with subflow := slots, numSubflow := (names ++ [name.bytes]).length }
        (names ++ [name.bytes]) := by
  obtain ⟨copied, written, string⟩ :=
    exists_strcpyAt holds.memory short name.bounded name.nonzero
  have small := holds.length_lt
  have num : int (table.numSubflow + 1) = some ((names ++ [name.bytes]).length : Int) := by
    rw [holds.count, int_eq (by omega) (by omega), List.length_append, List.length_singleton,
      Nat.cast_add, Nat.cast_one]
  refine ⟨table.subflow.set names.length copied, ?_, ?_⟩
  · rw [← holds.count] at written
    simp only [addName, written, Option.bind_eq_bind, Option.bind_some, setSlot, num]
    simp only [holds.count, Int.toNat_natCast]
    rfl
  · exact {
      count := rfl
      memory := by simpa using holds.memory
      begins := holds.begins.add short string
      limited := by simpa using holds.limited }

theorem Begins.grow {slots : List SubflowStr} {names : List (List UInt8)}
    (begins : Begins slots names) (slot : SubflowStr) : Begins (slots ++ [slot]) names := by
  apply List.IsPrefix.trans begins
  rw [List.map_append]
  exact List.prefix_append _ _

theorem bufszSubflow_lt {names : List (List UInt8)} (holds : Holds table names) :
    table.bufszSubflow < 2 ^ 26 := by
  have limited := holds.limited
  rw [holds.memory]
  unfold IFNAMSIZ KMALLOC_LIMIT at limited
  omega

/-- The product of the sizes does not wrap. -/
theorem size_eq {slots : Nat} (small : slots < 2 ^ 26) :
    (((IFNAMSIZ : Nat) + 1 : Int) * ((slots : Int) + 1) % 2 ^ 64).toNat =
      (IFNAMSIZ + 1) * (slots + 1) := by
  have size : (IFNAMSIZ : Int) = 16 := rfl
  have fits : ((IFNAMSIZ : Int) + 1) * ((slots : Int) + 1) % 2 ^ 64 = 17 * (slots + 1) := by
    rw [size]
    apply Int.emod_eq_of_lt <;> omega
  rw [fits, IFNAMSIZ]
  omega

/-- There is room for a further name, or no memory for it and the array is full. -/
theorem makeRoom_cases {names : List (List UInt8)} (holds : Holds table names)
    (krealloc : Kmalloc SubflowStr) :
    (makeRoom table krealloc = some none ∧ ¬ table.numSubflow < table.bufszSubflow ∧
        krealloc.fresh ((IFNAMSIZ + 1) * (table.subflow.length + 1)) = none) ∨
      (makeRoom table krealloc = some (some table) ∧ table.numSubflow < table.bufszSubflow) ∨
        ∃ slot, krealloc.fresh ((IFNAMSIZ + 1) * (table.subflow.length + 1)) = some slot ∧
          ¬ table.numSubflow < table.bufszSubflow ∧
            makeRoom table krealloc = some (some { table with
              subflow := table.subflow ++ [slot]
              bufszSubflow := table.bufszSubflow + 1 }) := by
  have small := bufszSubflow_lt holds
  have memory := holds.memory
  unfold makeRoom
  split
  · rename_i full
    have bufsz : int (table.bufszSubflow + 1) = some (table.bufszSubflow + 1) := by
      rw [int, if_pos (by omega)]
    have size := size_eq (show table.subflow.length < 2 ^ 26 by omega)
    rw [← memory] at size
    simp only [bufsz, Option.bind_eq_bind, Option.bind_some, size]
    cases fresh : krealloc.fresh ((IFNAMSIZ + 1) * (table.subflow.length + 1)) with
    | none => exact .inl ⟨rfl, by omega, rfl⟩
    | some slot => exact .inr (.inr ⟨slot, rfl, by omega, rfl⟩)
  · rename_i notFull
    exact .inr (.inl ⟨rfl, by omega⟩)

theorem exists_strcpyReport (table : Table) (name : LinkName) :
    ∃ copied, strcpyReport table name.bytes = some { table with subflowReport := copied } := by
  obtain ⟨copied, done, -⟩ := table.subflowReport.exists_strcpy name.bounded name.nonzero
  refine ⟨copied, ?_⟩
  simp only [strcpyReport, done, Option.bind_eq_bind, Option.bind_some]
  rfl

/-- The copy for the event is no part of the array. -/
theorem Holds.subflowReport {names : List (List UInt8)} (holds : Holds table names)
    (copied : SubflowStr) : Holds { table with subflowReport := copied } names where
  count := holds.count
  memory := holds.memory
  begins := holds.begins
  limited := holds.limited

/-- A subflow for which there is room is added. -/
theorem exists_created {names : List (List UInt8)} (holds : Holds table names)
    (short : table.numSubflow < table.bufszSubflow) (name : LinkName) :
    ∃ next, ((addName table name.bytes).bind fun added => strcpyReport added name.bytes) =
        some next ∧
      Holds next (names ++ [name.bytes]) ∧ next.bufszSubflow = table.bufszSubflow ∧
        next.tostop = table.tostop := by
  have room : names.length < table.subflow.length := by
    have count := holds.count
    have memory := holds.memory
    omega
  obtain ⟨slots, added, holdsMore⟩ := exists_addName holds room name
  obtain ⟨copied, reported⟩ := exists_strcpyReport
    { table with subflow := slots, numSubflow := (names ++ [name.bytes]).length } name
  rw [added, Option.bind_some, reported]
  exact ⟨_, rfl, holdsMore.subflowReport copied, rfl, rfl⟩

theorem exists_destroyed {names : List (List UInt8)} (holds : Holds table names)
    (name : LinkName) :
    ∃ next, ((removeName table name.bytes table.numSubflow.toNat 0).bind fun removed =>
          strcpyReport removed name.bytes) = some next ∧
      Holds next (names.eraseP (kernelStrcaseeq name.bytes)) ∧
        next.bufszSubflow = table.bufszSubflow ∧ next.tostop = table.tostop := by
  have holdsAll : Holds table ([] ++ names) := holds
  have count := holds.count
  obtain ⟨slots, removed, holdsRest⟩ := exists_removeName name.bytes holdsAll
  obtain ⟨copied, reported⟩ := exists_strcpyReport
    { table with
      subflow := slots
      numSubflow := ([] ++ names.eraseP (kernelStrcaseeq name.bytes)).length } name
  have rounds : table.numSubflow.toNat = names.length := by
    omega
  rw [List.length_nil, Nat.cast_zero] at removed
  rw [rounds, removed, Option.bind_some, reported]
  exact ⟨_, rfl, holdsRest.subflowReport copied, rfl, rfl⟩

/-- The array after it has grown by one. -/
theorem Holds.grow {names : List (List UInt8)} (holds : Holds table names) {slot : SubflowStr}
    {krealloc : Kmalloc SubflowStr}
    (granted : krealloc.fresh ((IFNAMSIZ + 1) * (table.subflow.length + 1)) = some slot) :
    Holds { table with
      subflow := table.subflow ++ [slot]
      bufszSubflow := table.bufszSubflow + 1 } names where
  count := holds.count
  memory := by
    rw [holds.memory, List.length_append, List.length_singleton, Nat.cast_add, Nat.cast_one]
  begins := holds.begins.grow slot
  limited := by
    rw [List.length_append, List.length_singleton]
    exact krealloc.limited _ slot granted

/-- The invariant of a run: the tunnel is not being removed, and its table holds what the
reports are to leave. -/
structure Follows (history : History) : Prop where
  running : history.table.tostop = false
  holds : Holds history.table history.expected.names
  slots : history.table.bufszSubflow = history.expected.slots

/-- The name that is reported is that of the report, as the tunnel is not being removed. -/
theorem map_bytes_reported (running : table.tostop = false) (report : Report) :
    (reported table report).map LinkName.bytes = report.subject := by
  unfold reported Report.subject
  cases report.link with
  | none => rfl
  | some link =>
      cases report.metaSk with
      | false => simp
      | true => simp [running]

/-- The name of a new subflow is added, or there is no slot and no memory for it. -/
theorem follows_create {history : History} (follows : Follows history) {report : Report}
    {name : LinkName} (reportedEq : reported history.table report = some name)
    (action : report.action = .create) :
    ∃ next, tpSubflowReport history.table report = some next ∧
      Follows { table := next, expected := history.expected.after report } := by
  obtain ⟨running, holds, slots⟩ := follows
  have subject : report.subject = some name.bytes := by
    rw [← map_bytes_reported running report, reportedEq, Option.map_some]
  have count := holds.count
  have memory := holds.memory
  have length := holds.begins.length_le
  have sameSlots : history.expected.slots = history.table.subflow.length := by omega
  simp only [tpSubflowReport, reportedEq, Expected.after, subject, action, Kmalloc.Grants,
    sameSlots]
  rcases makeRoom_cases holds report.krealloc with
    ⟨noMemory, full, refused⟩ | ⟨enough, short⟩ | ⟨slot, granted, full, grown⟩
  · rw [if_neg (by omega), refused, if_neg (by simp)]
    simp only [noMemory, Option.bind_eq_bind, Option.bind_some]
    exact ⟨history.table, rfl, running, holds, slots⟩
  · rw [if_pos (by omega)]
    simp only [enough, Option.bind_eq_bind, Option.bind_some]
    obtain ⟨next, created, holdsMore, same, stays⟩ := exists_created holds short name
    exact ⟨next, created, stays.trans running, holdsMore, same.trans memory⟩
  · rw [if_neg (by omega), granted, if_pos (by simp)]
    simp only [grown, Option.bind_eq_bind, Option.bind_some]
    obtain ⟨next, created, holdsMore, same, stays⟩ :=
      exists_created (holds.grow granted) (by simp only; omega) name
    refine ⟨next, created, stays.trans running, holdsMore, ?_⟩
    rw [same, memory, Nat.cast_add, Nat.cast_one]

theorem follows_destroy {history : History} (follows : Follows history) {report : Report}
    {name : LinkName} (reportedEq : reported history.table report = some name)
    (action : report.action = .destroy) :
    ∃ next, tpSubflowReport history.table report = some next ∧
      Follows { table := next, expected := history.expected.after report } := by
  obtain ⟨running, holds, slots⟩ := follows
  have subject : report.subject = some name.bytes := by
    rw [← map_bytes_reported running report, reportedEq, Option.map_some]
  simp only [tpSubflowReport, reportedEq, Expected.after, subject, action]
  obtain ⟨next, destroyed, holdsRest, same, stays⟩ := exists_destroyed holds name
  exact ⟨next, destroyed, stays.trans running, holdsRest, same.trans slots⟩

/-- A report keeps the table within its bounds and does to the names what it is to do. -/
theorem exists_step_follows {history : History} (report : Report) (follows : Follows history) :
    ∃ next, step history report = some next ∧ Follows next := by
  have done : ∃ table, tpSubflowReport history.table report = some table ∧
      Follows { table := table, expected := history.expected.after report } := by
    cases reportedEq : reported history.table report with
    | none =>
        have subject : report.subject = none := by
          rw [← map_bytes_reported follows.running report, reportedEq, Option.map_none]
        simp only [tpSubflowReport, reportedEq, Expected.after, subject]
        exact ⟨history.table, rfl, follows⟩
    | some name =>
        cases action : report.action with
        | create => exact follows_create follows reportedEq action
        | destroy => exact follows_destroy follows reportedEq action
  obtain ⟨table, reportDone, followsNext⟩ := done
  exact ⟨_, by rw [step, reportDone, Option.map_some], followsNext⟩

/-- The tunnel of the connection model has the names and the size of the table. -/
structure Represents (table : Table) (tdat : Mpdccptun) : Prop where
  holds : Holds table tdat.subflow
  bufsz : table.bufszSubflow = tdat.bufszSubflow
  tostop : table.tostop = tdat.tostop

/-- The function of the connection model does to the names what the one with the array does. -/
theorem represents_tpSubflowReport {state : ConnState} (represents : Represents table state.tdat)
    (metaSock : SockId) (action : SubflowAction) (link : MpdccpLinkInfo)
    (krealloc : Kmalloc SubflowStr) :
    ∃ next, tpSubflowReport table
        { action, metaSk := (state.sockets metaSock).userData, link := some link, krealloc } =
          some next ∧
      Represents next (Connection.tpSubflowReport state action metaSock link.reportName.bytes
        (krealloc.fresh ((IFNAMSIZ + 1) * (state.tdat.bufszSubflow + 1))).isSome).tdat := by
  obtain ⟨holds, bufsz, tostop⟩ := represents
  have count := holds.count
  have memory := holds.memory
  have length := holds.begins.length_le
  have slots : table.subflow.length = state.tdat.bufszSubflow := by omega
  simp only [tpSubflowReport, reported, tostop, Connection.tpSubflowReport]
  by_cases ignored : (!(state.sockets metaSock).userData || state.tdat.tostop) = true
  · simp only [if_pos ignored]
    exact ⟨table, rfl, holds, bufsz, tostop⟩
  simp only [if_neg ignored]
  cases action with
  | create =>
      simp only [Mpdccptun.numSubflow, ← slots]
      rcases makeRoom_cases holds krealloc with
        ⟨noMemory, full, denied⟩ | ⟨enough, short⟩ | ⟨slot, granted, full, grown⟩
      · rw [if_neg (by omega), denied]
        simp only [noMemory, Option.bind_eq_bind, Option.bind_some]
        exact ⟨table, rfl, holds, bufsz, tostop⟩
      · rw [if_pos (by omega)]
        simp only [enough, Option.bind_eq_bind, Option.bind_some]
        obtain ⟨next, created, holdsMore, same, running⟩ :=
          exists_created holds short link.reportName
        exact ⟨next, created, holdsMore, same.trans memory, running.trans tostop⟩
      · rw [if_neg (by omega), granted]
        simp only [grown, Option.bind_eq_bind, Option.bind_some, Option.isSome_some, if_true]
        obtain ⟨next, created, holdsMore, same, running⟩ :=
          exists_created (holds.grow granted) (by simp only; omega) link.reportName
        refine ⟨next, created, holdsMore, ?_, running.trans tostop⟩
        rw [same, memory, Nat.cast_add, Nat.cast_one]
  | destroy =>
      obtain ⟨next, destroyed, holdsRest, same, running⟩ :=
        exists_destroyed holds link.reportName
      exact ⟨next, destroyed, holdsRest, same.trans bufsz, running.trans tostop⟩

theorem Follows.tabulates {history : History} (follows : Follows history) :
    Tabulates history := by
  obtain ⟨-, holds, slots⟩ := follows
  have count := holds.count
  have memory := holds.memory
  have length := holds.begins.length_le
  refine ⟨by omega, by omega, memory, slots, ?_⟩
  have first := List.prefix_iff_eq_take.mp holds.begins
  rw [List.length_map] at first
  rw [entries, count, Int.toNat_natCast, List.map_take]
  exact first.symm

theorem follows_initial : Follows initial where
  running := rfl
  holds := {
    count := rfl
    memory := rfl
    begins := List.nil_prefix
    limited := by decide }
  slots := rfl

/-- Any reports can follow each other: no access is outside of the array, `num_subflow` is at
most `bufsz_subflow`, and the entries are the names that the reports are to leave. -/
theorem exists_run_tabulates (reports : List Report) :
    ∃ history, run step initial reports = some history ∧ Tabulates history := by
  obtain ⟨history, ran, follows⟩ :=
    exists_run_of_enabled exists_step_follows follows_initial reports
  exact ⟨history, ran, follows.tabulates⟩

end Table

/-- Memory that was used for something else. -/
def usedSlot : SubflowStr where
  s := List.replicate (IFNAMSIZ + 1) 255
  size := List.length_replicate

/-- The report of a link of the physical device `name`. -/
def reportOf (action : SubflowAction) (name : LinkName) (krealloc : Kmalloc SubflowStr) :
    Report where
  action := action
  metaSk := true
  link := some ⟨true, some name, none⟩
  krealloc := krealloc

def eth0 : LinkName where
  bytes := ascii "eth0"
  bounded := by decide
  nonzero := by decide

def upperEth0 : LinkName where
  bytes := ascii "ETH0"
  bounded := by decide
  nonzero := by decide

def wlan0 : LinkName where
  bytes := ascii "wlan0"
  bounded := by decide
  nonzero := by decide

/-- Two subflows come, a third finds no memory, the first one goes, and there is a slot for
the third without memory. -/
def comingAndGoing : List Report :=
  [reportOf .create eth0 (.generous usedSlot), reportOf .create wlan0 (.generous usedSlot),
    reportOf .create unnamed .exhausted, reportOf .destroy upperEth0 .exhausted,
    reportOf .create unnamed .exhausted]

theorem tabulates_comingAndGoing :
    ∃ history, run step initial comingAndGoing = some history ∧
      entries history.table = [some (ascii "wlan0"), some (ascii "unnamed")] ∧
      Tabulates history := by
  obtain ⟨history, ran, tabulates⟩ := exists_run_tabulates comingAndGoing
  have left : (run step initial comingAndGoing).map (fun last => entries last.table) =
      some [some (ascii "wlan0"), some (ascii "unnamed")] := by
    decide
  rw [ran, Option.map_some, Option.some.injEq] at left
  exact ⟨history, ran, left, tabulates⟩

end Tunprox.SubflowTable
