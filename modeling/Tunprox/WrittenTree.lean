import Mathlib.Data.List.TakeWhile
import Tunprox.ElementText

/-!
# Trees that are written as text

Trees of named elements with attributes, as an XML parser returns them: without the white
space between the elements, and without that at the ends of a text.  A relation tells which
bytes are a way to write a list of trees; no element is inside of one with the same name.  The
reader at the end takes every such text apart again.
-/

namespace Tunprox.WrittenTree

open ElementText

inductive Tree where
  | text (bytes : List UInt8)
  | tag (name : List UInt8) (attrs : List (List UInt8 × List UInt8)) (subs : List Tree)

/-- A name of small letters and digits. -/
def isNameByte (byte : UInt8) : Bool :=
  (97 ≤ byte && byte ≤ 122) || (48 ≤ byte && byte ≤ 57)

structure IsName (name : List UInt8) : Prop where
  nonempty : name ≠ []
  bytes : ∀ byte ∈ name, isNameByte byte = true

/-- White space, and nothing else. -/
def White (gap : List UInt8) : Prop :=
  ∀ byte ∈ gap, isspace byte = true

/-- A text that stays as it is when the white space at its ends is dropped. -/
structure IsText (text : List UInt8) : Prop where
  nonempty : text ≠ []
  plain : Plain text
  strip : strip text = text

def attrsText (attrs : List (List UInt8 × List UInt8)) : List UInt8 :=
  attrs.flatMap fun attr => [32] ++ attr.1 ++ [61, 34] ++ attr.2 ++ [34]

/-- A byte that is no white space and means nothing in XML. -/
def isWordByte (byte : UInt8) : Bool :=
  isPlain byte && !isspace byte

structure IsWord (text : List UInt8) : Prop where
  nonempty : text ≠ []
  bytes : ∀ byte ∈ text, isWordByte byte = true

/-- What stands between the angle brackets of a tag that opens. -/
def tagHead (name : List UInt8) (attrs : List (List UInt8 × List UInt8)) : List UInt8 :=
  name ++ attrsText attrs

def opening (name : List UInt8) (attrs : List (List UInt8 × List UInt8)) : List UInt8 :=
  [60] ++ tagHead name attrs ++ [62]

def closing (name : List UInt8) : List UInt8 :=
  [60, 47] ++ name ++ [62]

/-- A tag that opens and closes at once. -/
def single (name : List UInt8) (attrs : List (List UInt8 × List UInt8)) : List UInt8 :=
  [60] ++ tagHead name attrs ++ [47, 62]

structure IsHead (name : List UInt8) (attrs : List (List UInt8 × List UInt8)) : Prop where
  name : IsName name
  vars : ∀ attr ∈ attrs, IsName attr.1
  values : ∀ attr ∈ attrs, Plain attr.2

/-- The bytes are a way to write the trees inside of elements with the names `outer`. -/
inductive Writes : List (List UInt8) → List Tree → List UInt8 → Prop where
  | white {outer : List (List UInt8)} {gap : List UInt8} (isWhite : White gap) :
      Writes outer [] gap
  | leaf {outer : List (List UInt8)} {gap name text bytes : List UInt8}
      {attrs : List (List UInt8 × List UInt8)} {trees : List Tree} (isWhite : White gap)
      (head : IsHead name attrs) (fresh : name ∉ outer) (isText : IsText text)
      (rest : Writes outer trees bytes) :
      Writes outer (.tag name attrs [.text text] :: trees)
        (gap ++ (opening name attrs ++ (text ++ (closing name ++ bytes))))
  | empty {outer : List (List UInt8)} {gap name bytes : List UInt8}
      {attrs : List (List UInt8 × List UInt8)} {trees : List Tree} (isWhite : White gap)
      (head : IsHead name attrs) (fresh : name ∉ outer) (rest : Writes outer trees bytes) :
      Writes outer (.tag name attrs [] :: trees) (gap ++ (single name attrs ++ bytes))
  | node {outer : List (List UInt8)} {gap name inner bytes : List UInt8}
      {attrs : List (List UInt8 × List UInt8)} {subs trees : List Tree} (isWhite : White gap)
      (head : IsHead name attrs) (fresh : name ∉ outer)
      (inside : Writes (name :: outer) subs inner) (rest : Writes outer trees bytes) :
      Writes outer (.tag name attrs subs :: trees)
        (gap ++ (opening name attrs ++ (inner ++ (closing name ++ bytes))))

theorem white_append {first second : List UInt8} (one : White first) (two : White second) :
    White (first ++ second) :=
  List.forall_mem_append.mpr ⟨one, two⟩

theorem IsWord.plain {text : List UInt8} (word : IsWord text) : Plain text := by
  intro byte member
  exact (Bool.and_eq_true_iff.mp (word.bytes byte member)).1

theorem IsWord.isText {text : List UInt8} (word : IsWord text) : IsText text where
  nonempty := word.nonempty
  plain := word.plain
  strip := strip_of_no_space fun byte member => by
    simpa using (Bool.and_eq_true_iff.mp (word.bytes byte member)).2

theorem IsName.of_isTag {tag : List UInt8} (isTag : IsTag tag) : IsName tag where
  nonempty := isTag.1
  bytes := fun byte member => by
    have letter := isTag.2 byte member
    simp [isNameByte, letter.1, letter.2]

/-- White space before the trees is no part of them. -/
theorem Writes.white_append {outer : List (List UInt8)} {trees : List Tree}
    {gap bytes : List UInt8} (isWhite : White gap) (writes : Writes outer trees bytes) :
    Writes outer trees (gap ++ bytes) := by
  cases writes with
  | white more => exact .white (WrittenTree.white_append isWhite more)
  | leaf more head fresh isText rest =>
      rw [← List.append_assoc]
      exact .leaf (WrittenTree.white_append isWhite more) head fresh isText rest
  | empty more head fresh rest =>
      rw [← List.append_assoc]
      exact .empty (WrittenTree.white_append isWhite more) head fresh rest
  | node more head fresh inside rest =>
      rw [← List.append_assoc]
      exact .node (WrittenTree.white_append isWhite more) head fresh inside rest

/-- Trees that are written one after the other. -/
theorem Writes.append {outer : List (List UInt8)} {first second : List Tree}
    {one two : List UInt8} (writes : Writes outer first one) (more : Writes outer second two) :
    Writes outer (first ++ second) (one ++ two) := by
  induction writes with
  | white isWhite => exact more.white_append isWhite
  | leaf isWhite head fresh isText _ ih =>
      simp only [List.append_assoc]
      exact .leaf isWhite head fresh isText (ih more)
  | empty isWhite head fresh _ ih =>
      simp only [List.append_assoc]
      exact .empty isWhite head fresh (ih more)
  | node isWhite head fresh inside _ _ ih =>
      simp only [List.append_assoc]
      exact .node isWhite head fresh inside (ih more)

/-- The attributes behind the name, each of which begins with a blank. -/
def readAttrs : Nat → List UInt8 → List (List UInt8 × List UInt8)
  | 0, _ => []
  | _ + 1, [] => []
  | fuel + 1, _ :: bytes =>
      let value := (after 61 bytes).drop 1
      (bytes.takeWhile (· ≠ 61), value.takeWhile (· ≠ 34)) :: readAttrs fuel (after 34 value)

def readTag (head : List UInt8) (subs : List Tree) : Tree :=
  let attrs := head.dropWhile (· ≠ 32)
  .tag (head.takeWhile (· ≠ 32)) (readAttrs attrs.length attrs) subs

/-- A text before a tag, if it is more than white space. -/
def readText (bytes : List UInt8) : List Tree :=
  if strip bytes = [] then [] else [.text (strip bytes)]

/-- The trees up to the first closing tag that closes none of them, and what follows it. -/
def readTrees : Nat → List UInt8 → List Tree × List UInt8
  | 0, _ => ([], [])
  | fuel + 1, bytes =>
      let texts := readText (bytes.takeWhile (· ≠ 60))
      match bytes.dropWhile (· ≠ 60) with
      | [] => (texts, [])
      | _ :: rest =>
          let head := rest.takeWhile (· ≠ 62)
          let behind := after 62 rest
          if head.head? = some 47 then (texts, behind)
          else if head.getLast? = some 47 then
            let siblings := readTrees fuel behind
            (texts ++ readTag head.dropLast [] :: siblings.1, siblings.2)
          else
            let inner := readTrees fuel behind
            let siblings := readTrees fuel inner.2
            (texts ++ readTag head inner.1 :: siblings.1, siblings.2)

theorem not_mem_of_isName {name : List UInt8} (isName : IsName name) {byte : UInt8}
    (other : isNameByte byte = false) : byte ∉ name := by
  intro member
  rw [isName.bytes byte member] at other
  contradiction

theorem not_mem_of_white {gap : List UInt8} (isWhite : White gap) {byte : UInt8}
    (solid : isspace byte = false) : byte ∉ gap := by
  intro member
  rw [isWhite byte member] at solid
  contradiction

theorem strip_of_white {gap : List UInt8} (isWhite : White gap) : strip gap = [] := by
  have dropped : gap.dropWhile isspace = [] := List.dropWhile_eq_nil_iff.mpr isWhite
  rw [strip, dropped]
  rfl

theorem readText_of_white {gap : List UInt8} (isWhite : White gap) : readText gap = [] := by
  rw [readText, if_pos (strip_of_white isWhite)]

theorem readText_of_isText {text : List UInt8} (isText : IsText text) :
    readText text = [.text text] := by
  rw [readText, isText.strip, if_neg isText.nonempty]

theorem attrsText_cons (var value : List UInt8) (attrs : List (List UInt8 × List UInt8)) :
    attrsText ((var, value) :: attrs) =
      32 :: (var ++ 61 :: (34 :: (value ++ 34 :: attrsText attrs))) := by
  simp [attrsText]

theorem length_le_attrsText (attrs : List (List UInt8 × List UInt8)) :
    attrs.length ≤ (attrsText attrs).length := by
  induction attrs with
  | nil => exact Nat.zero_le _
  | cons attr attrs ih =>
      obtain ⟨var, value⟩ := attr
      rw [attrsText_cons]
      simp only [List.length_cons, List.length_append]
      omega

/-- The attributes are read back. -/
theorem readAttrs_eq {attrs : List (List UInt8 × List UInt8)} {fuel : Nat}
    (vars : ∀ attr ∈ attrs, IsName attr.1) (values : ∀ attr ∈ attrs, (34 : UInt8) ∉ attr.2)
    (enough : attrs.length ≤ fuel) : readAttrs fuel (attrsText attrs) = attrs := by
  induction attrs generalizing fuel with
  | nil =>
      cases fuel with
      | zero => rfl
      | succ fuel => rfl
  | cons attr attrs ih =>
      obtain ⟨var, value⟩ := attr
      have noEqual := not_mem_of_isName (vars _ List.mem_cons_self)
        (show isNameByte 61 = false by decide)
      have noQuote := values _ List.mem_cons_self
      cases fuel with
      | zero => simp at enough
      | succ fuel =>
          have rest := ih (fun other member => vars other (List.mem_cons_of_mem _ member))
            (fun other member => values other (List.mem_cons_of_mem _ member))
            (Nat.le_of_succ_le_succ enough)
          have behind : (34 :: (value ++ 34 :: attrsText attrs)).drop 1 =
              value ++ 34 :: attrsText attrs := rfl
          rw [attrsText_cons, readAttrs, takeWhile_append_stop noEqual, after_append noEqual,
            behind, takeWhile_append_stop noQuote, after_append noQuote, rest]

section
variable {name : List UInt8} {attrs : List (List UInt8 × List UInt8)}

theorem readTag_tagHead (named : IsName name) (vars : ∀ attr ∈ attrs, IsName attr.1)
    (values : ∀ attr ∈ attrs, (34 : UInt8) ∉ attr.2) (subs : List Tree) :
    readTag (tagHead name attrs) subs = .tag name attrs subs := by
  have noBlank := not_mem_of_isName named (show isNameByte 32 = false by decide)
  cases attrs with
  | nil =>
      have whole : name.takeWhile (· ≠ 32) = name :=
        List.takeWhile_eq_self_iff.mpr (ne_of_not_mem noBlank)
      have nothing : name.dropWhile (· ≠ 32) = [] :=
        List.dropWhile_eq_nil_iff.mpr (ne_of_not_mem noBlank)
      rw [readTag, tagHead, attrsText, List.flatMap_nil, List.append_nil, whole, nothing]
      rfl
  | cons attr attrs =>
      obtain ⟨var, value⟩ := attr
      have read := readAttrs_eq vars values (length_le_attrsText _)
      rw [readTag, tagHead, attrsText_cons, takeWhile_append_stop noBlank,
        dropWhile_append_stop noBlank, ← attrsText_cons, read]

theorem IsHead.readTag (head : IsHead name attrs) (subs : List Tree) :
    readTag (tagHead name attrs) subs = .tag name attrs subs :=
  readTag_tagHead head.name head.vars
    (fun attr member => not_mem_of_plain (head.values attr member) (by decide)) subs

theorem not_mem_tagHead (head : IsHead name attrs) : (62 : UInt8) ∉ tagHead name attrs := by
  have noName := not_mem_of_isName head.name (show isNameByte 62 = false by decide)
  rw [tagHead, attrsText, List.mem_append, List.mem_flatMap]
  rintro (member | ⟨attr, attrMem, member⟩)
  · exact noName member
  · have noVar := not_mem_of_isName (head.vars attr attrMem) (show isNameByte 62 = false by decide)
    have noValue := not_mem_of_plain (head.values attr attrMem) (show isPlain 62 = false by decide)
    simp [noVar, noValue] at member

/-- A tag that opens does not begin with a slash, nor does it end with one. -/
theorem head?_tagHead (named : IsName name) (more : List UInt8) :
    (tagHead name attrs ++ more).head? ≠ some 47 := by
  have noSlash := not_mem_of_isName named (show isNameByte 47 = false by decide)
  obtain ⟨first, letters, nameEq⟩ := List.exists_cons_of_ne_nil named.nonempty
  rw [tagHead, nameEq]
  intro same
  obtain rfl := Option.some.inj same
  exact noSlash (nameEq ▸ List.mem_cons_self)

theorem getLast?_tagHead (named : IsName name) :
    (tagHead name attrs).getLast? ≠ some 47 := by
  have noSlash := not_mem_of_isName named (show isNameByte 47 = false by decide)
  rcases List.eq_nil_or_concat attrs with rfl | ⟨before, attr, rfl⟩
  · rw [tagHead, attrsText, List.flatMap_nil, List.append_nil]
    intro last
    exact noSlash (List.mem_of_getLast? last)
  · rw [tagHead, attrsText, List.concat_eq_append, List.flatMap_append, List.flatMap_singleton,
      ← List.append_assoc, ← List.append_assoc, List.getLast?_concat]
    decide

end

/-- The reader at a tag. -/
theorem readTrees_tag (fuel : Nat) {gap head : List UInt8} (noLess : (60 : UInt8) ∉ gap)
    (noGreater : (62 : UInt8) ∉ head) (behind : List UInt8) :
    readTrees (fuel + 1) (gap ++ 60 :: (head ++ 62 :: behind)) =
      if head.head? = some 47 then (readText gap, behind)
      else if head.getLast? = some 47 then
        (readText gap ++ readTag head.dropLast [] :: (readTrees fuel behind).1,
          (readTrees fuel behind).2)
      else
        (readText gap ++ readTag head (readTrees fuel behind).1 ::
            (readTrees fuel (readTrees fuel behind).2).1,
          (readTrees fuel (readTrees fuel behind).2).2) := by
  rw [readTrees, takeWhile_append_stop noLess, dropWhile_append_stop noLess]
  simp only
  rw [takeWhile_append_stop noGreater, after_append noGreater]

/-- The end of a list of trees, and what follows it. -/
inductive Ends : List UInt8 → List UInt8 → Prop where
  | stop : Ends [] []
  | closed {name : List UInt8} (isName : IsName name) (left : List UInt8) :
      Ends (closing name ++ left) left

theorem readTrees_ends {tail left bytes : List UInt8} (ends : Ends tail left) (fuel : Nat)
    (noLess : (60 : UInt8) ∉ bytes) :
    readTrees (fuel + 1) (bytes ++ tail) = (readText bytes, left) := by
  cases ends with
  | stop =>
      have whole : bytes.takeWhile (· ≠ 60) = bytes :=
        List.takeWhile_eq_self_iff.mpr (ne_of_not_mem noLess)
      have nothing : bytes.dropWhile (· ≠ 60) = [] :=
        List.dropWhile_eq_nil_iff.mpr (ne_of_not_mem noLess)
      rw [List.append_nil, readTrees, whole, nothing]
  | @closed name isName =>
      have noName := not_mem_of_isName isName (show isNameByte 62 = false by decide)
      have noGreater : (62 : UInt8) ∉ 47 :: name := by simpa using noName
      have line : bytes ++ (closing name ++ left) =
          bytes ++ 60 :: ((47 :: name) ++ 62 :: left) := by
        simp [closing]
      rw [line, readTrees_tag fuel noLess noGreater, if_pos List.head?_cons]

/-- Trees are read back from all ways to write them. -/
theorem readTrees_writes {outer : List (List UInt8)} {trees : List Tree} {bytes : List UInt8}
    (writes : Writes outer trees bytes) {fuel : Nat} {tail left : List UInt8}
    (enough : bytes.length < fuel) (ends : Ends tail left) :
    readTrees fuel (bytes ++ tail) = (trees, left) := by
  induction writes generalizing fuel tail left with
  | white isWhite =>
      obtain ⟨fuel, rfl⟩ := Nat.exists_eq_succ_of_ne_zero (Nat.ne_zero_of_lt enough)
      rw [readTrees_ends ends fuel (not_mem_of_white isWhite (by decide)),
        readText_of_white isWhite]
  | @leaf outer gap name text bytes attrs trees isWhite head fresh isText rest ih =>
      obtain ⟨fuel, rfl⟩ := Nat.exists_eq_succ_of_ne_zero (Nat.ne_zero_of_lt enough)
      simp only [List.length_append, opening, closing, List.length_cons, List.length_nil] at enough
      have line : gap ++ (opening name attrs ++ (text ++ (closing name ++ bytes))) ++ tail =
          gap ++ 60 :: (tagHead name attrs ++ 62 ::
            (text ++ (closing name ++ (bytes ++ tail)))) := by
        simp [opening]
      have inner : readTrees fuel (text ++ (closing name ++ (bytes ++ tail))) =
          ([.text text], bytes ++ tail) := by
        obtain ⟨less, rfl⟩ := Nat.exists_eq_succ_of_ne_zero (show fuel ≠ 0 by omega)
        rw [readTrees_ends (.closed head.name _) less
          (not_mem_of_plain isText.plain (by decide)), readText_of_isText isText]
      have opened : (tagHead name attrs ++ []).head? ≠ some 47 := head?_tagHead head.name []
      rw [List.append_nil] at opened
      rw [line, readTrees_tag fuel (not_mem_of_white isWhite (by decide)) (not_mem_tagHead head),
        if_neg opened, if_neg (getLast?_tagHead head.name), inner, ih (by omega) ends,
        head.readTag, readText_of_white isWhite, List.nil_append]
  | @empty outer gap name bytes attrs trees isWhite head fresh rest ih =>
      obtain ⟨fuel, rfl⟩ := Nat.exists_eq_succ_of_ne_zero (Nat.ne_zero_of_lt enough)
      simp only [List.length_append, single, List.length_cons, List.length_nil] at enough
      have line : gap ++ (single name attrs ++ bytes) ++ tail =
          gap ++ 60 :: ((tagHead name attrs ++ [47]) ++ 62 :: (bytes ++ tail)) := by
        simp [single]
      have noGreater : (62 : UInt8) ∉ tagHead name attrs ++ [47] := by
        simpa using not_mem_tagHead head
      rw [line, readTrees_tag fuel (not_mem_of_white isWhite (by decide)) noGreater,
        if_neg (head?_tagHead head.name [47]), if_pos List.getLast?_concat, ih (by omega) ends,
        List.dropLast_concat, head.readTag, readText_of_white isWhite, List.nil_append]
  | @node outer gap name inner bytes attrs subs trees isWhite head fresh inside rest insideIh ih =>
      obtain ⟨fuel, rfl⟩ := Nat.exists_eq_succ_of_ne_zero (Nat.ne_zero_of_lt enough)
      simp only [List.length_append, opening, closing, List.length_cons, List.length_nil] at enough
      have line : gap ++ (opening name attrs ++ (inner ++ (closing name ++ bytes))) ++ tail =
          gap ++ 60 :: (tagHead name attrs ++ 62 ::
            (inner ++ (closing name ++ (bytes ++ tail)))) := by
        simp [opening]
      have opened : (tagHead name attrs ++ []).head? ≠ some 47 := head?_tagHead head.name []
      rw [List.append_nil] at opened
      rw [line, readTrees_tag fuel (not_mem_of_white isWhite (by decide)) (not_mem_tagHead head),
        if_neg opened, if_neg (getLast?_tagHead head.name),
        insideIh (by omega) (.closed head.name _), ih (by omega) ends, head.readTag,
        readText_of_white isWhite, List.nil_append]

/-- All trees of a text. -/
def readAll (bytes : List UInt8) : List Tree :=
  (readTrees (bytes.length + 1) bytes).1

theorem readAll_writes {trees : List Tree} {bytes : List UInt8}
    (writes : Writes [] trees bytes) : readAll bytes = trees := by
  have read := readTrees_writes writes (Nat.lt_succ_self _) Ends.stop
  rw [List.append_nil] at read
  rw [readAll, read]

end Tunprox.WrittenTree
