import Tunprox.XmlNormalize
import Tunprox.XmlTree

/-!
# What the XML parser accepts

Texts with tags, attributes and declarations, written as XML allows it, and the entries that
they stand for.  An element may be inside of one with the same name, but a tag that opens and
closes at once may not, for the parser looks for another tag that closes it.  `parse_body`
returns the entries of all these texts.
-/

namespace Tunprox.XmlContent

open ElementText (after after_append takeWhile_append_stop dropWhile_append_stop ne_of_not_mem)
open WrittenTree (White)
open XmlParser

/-- A name that the parser takes for one. -/
structure IsTagName (name : List UInt8) : Prop where
  nonempty : name ≠ []
  chars : ∀ byte ∈ name, isNameChar byte = true

/-- The bytes behind the name of a tag are attributes with quoted values. -/
inductive AttrText : List (List UInt8 × List UInt8) → List UInt8 → Prop where
  | gap {gap : List UInt8} (isWhite : White gap) : AttrText [] gap
  | attr {gap var before behind value bytes : List UInt8}
      {attrs : List (List UInt8 × List UInt8)} (apart : gap ≠ []) (isWhite : White gap)
      (named : IsTagName var) (whiteBefore : White before) (whiteBehind : White behind)
      (noQuote : (34 : UInt8) ∉ value) (rest : AttrText attrs bytes) :
      AttrText ((var, value) :: attrs)
        (gap ++ (var ++ (before ++ 61 :: (behind ++ 34 :: (value ++ 34 :: bytes)))))

/-- No `>` in the text is outside of quotation marks, and all of these are closed. -/
def Closed (text : List UInt8) : Prop :=
  findEndOfTag false text = some { head := text, rest := none }

def quotedAttrs (attrs : List (List UInt8 × List UInt8)) : List Attr :=
  attrs.map fun attr => (attr.1, some attr.2)

/-- A text is no entry if it is empty. -/
def textSubs (str : List UInt8) : List XmlSub :=
  if str = [] then [] else [textSub str]

/-- The bytes are a way to write the entries inside of elements with the names `outer`. -/
inductive Content : List (List UInt8) → List XmlSub → List UInt8 → Prop where
  | text {outer : List (List UInt8)} {str : List UInt8} (noLess : (60 : UInt8) ∉ str) :
      Content outer (textSubs str) str
  | declaration {outer : List (List UInt8)} {gap text bytes : List UInt8} {subs : List XmlSub}
      (noLess : (60 : UInt8) ∉ gap) (closed : Closed text) (rest : Content outer subs bytes) :
      Content outer (textSubs gap ++ .questionTag (63 :: text) :: subs)
        (gap ++ 60 :: (63 :: (text ++ 62 :: bytes)))
  | single {outer : List (List UInt8)} {gap name attrText bytes : List UInt8}
      {attrs : List (List UInt8 × List UInt8)} {subs : List XmlSub}
      (noLess : (60 : UInt8) ∉ gap) (named : IsTagName name) (isAttrs : AttrText attrs attrText)
      (fresh : ∀ other ∈ outer, strcaseeq name other = false) (rest : Content outer subs bytes) :
      Content outer (textSubs gap ++ .tag name (quotedAttrs attrs) [] :: subs)
        (gap ++ 60 :: (name ++ (attrText ++ 47 :: 62 :: bytes)))
  | node {outer : List (List UInt8)} {gap name attrText body tailGap bytes : List UInt8}
      {attrs : List (List UInt8 × List UInt8)} {inner subs : List XmlSub}
      (noLess : (60 : UInt8) ∉ gap) (named : IsTagName name) (isAttrs : AttrText attrs attrText)
      (inside : Content (name :: outer) inner body) (isWhite : White tailGap)
      (rest : Content outer subs bytes) :
      Content outer (textSubs gap ++ .tag name (quotedAttrs attrs) inner :: subs)
        (gap ++ 60 :: (name ++ (attrText ++ 62 ::
          (body ++ 60 :: (47 :: (name ++ (tailGap ++ 62 :: bytes)))))))

section Bytes

theorem isspace_of_isNameChar {byte : UInt8} (isName : isNameChar byte = true) :
    isspace byte = false := by
  have all : ∀ byte, isNameChar byte = true → isspace byte = false :=
    XmlTree.forall_byte (by decide +kernel)
  exact all byte isName

theorem isNameChar_of_white {byte : UInt8} (isWhite : isspace byte = true) :
    isNameChar byte = false := by
  have all : ∀ byte, isspace byte = true → isNameChar byte = false :=
    XmlTree.forall_byte (by decide +kernel)
  exact all byte isWhite

theorem ne_of_isNameChar {byte mark : UInt8} (isName : isNameChar byte = true)
    (other : isNameChar mark = false) : byte ≠ mark := by
  rintro rfl
  rw [isName] at other
  contradiction

theorem ne_of_white {byte mark : UInt8} (isWhite : isspace byte = true)
    (other : isspace mark = false) : byte ≠ mark := by
  rintro rfl
  rw [isWhite] at other
  contradiction

/-- `tolower` leaves a character for names one, and others none. -/
theorem isNameChar_tolower (byte : UInt8) : isNameChar (tolower byte) = isNameChar byte := by
  have all : ∀ byte, isNameChar (tolower byte) = isNameChar byte :=
    XmlTree.forall_byte (by decide +kernel)
  exact all byte

theorem IsTagName.exists_cons {name : List UInt8} (named : IsTagName name) :
    ∃ first letters, name = first :: letters ∧ isNameChar first = true := by
  obtain ⟨first, letters, rfl⟩ := List.exists_cons_of_ne_nil named.nonempty
  exact ⟨first, letters, rfl, named.chars first List.mem_cons_self⟩

end Bytes

section Tags

def shift (text : List UInt8) (tagEnd : TagEnd) : TagEnd :=
  { tagEnd with head := text ++ tagEnd.head }

/-- `find_end_of_tag` goes on behind a text that is closed. -/
theorem findEndOfTag_append {quoted : Bool} {text : List UInt8}
    (closed : findEndOfTag quoted text = some { head := text, rest := none })
    (rest : List UInt8) :
    findEndOfTag quoted (text ++ rest) = (findEndOfTag false rest).map (shift text) := by
  induction text generalizing quoted with
  | nil =>
      cases quoted with
      | true => contradiction
      | false =>
          have same : shift ([] : List UInt8) = id := rfl
          rw [List.nil_append, same, Option.map_id, id]
  | cons byte text ih =>
      rw [findEndOfTag] at closed
      rw [List.cons_append, findEndOfTag]
      split at closed
      · cases closed
      · rename_i inside
        obtain ⟨tagEnd, found, same⟩ := Option.map_eq_some_iff.mp closed
        simp only [TagEnd.mk.injEq, List.cons.injEq, true_and] at same
        have shorter : findEndOfTag (quoted != (byte == 34)) text =
            some { head := text, rest := none } := by
          rw [found, ← same.1, ← same.2]
        rw [if_neg inside, ih shorter, Option.map_map]
        rfl

theorem findEndOfTag_end {text : List UInt8} (closed : Closed text) (rest : List UInt8) :
    findEndOfTag false (text ++ 62 :: rest) = some { head := text, rest := some rest } := by
  rw [findEndOfTag_append closed, findEndOfTag, if_pos ⟨rfl, rfl⟩, Option.map_some, shift,
    List.append_nil]

theorem closed_append {first second : List UInt8} (one : Closed first) (two : Closed second) :
    Closed (first ++ second) := by
  rw [Closed, findEndOfTag_append one, two]
  rfl

theorem closed_of_free {text : List UInt8} (free : ∀ byte ∈ text, byte ≠ 34 ∧ byte ≠ 62) :
    Closed text := by
  induction text with
  | nil => rfl
  | cons byte text ih =>
      rw [List.forall_mem_cons] at free
      have inside : ¬ (byte = 62 ∧ false = false) := fun greater => free.1.2 greater.1
      have noQuote : (byte == 34) = false := beq_eq_false_iff_ne.mpr free.1.1
      have rest : findEndOfTag false text = some { head := text, rest := none } := ih free.2
      rw [Closed, findEndOfTag, if_neg inside, noQuote, Bool.bne_false, rest]
      rfl

/-- Between quotation marks. -/
theorem closed_quoted {value : List UInt8} (noQuote : (34 : UInt8) ∉ value) :
    Closed (34 :: (value ++ [34])) := by
  have inside : findEndOfTag true (value ++ [34]) =
      some { head := value ++ [34], rest := none } := by
    induction value with
    | nil => rfl
    | cons byte value ih =>
        have other : byte ≠ 34 := fun quote => noQuote (quote ▸ List.mem_cons_self)
        have quoted : ¬ (byte = 62 ∧ true = false) := fun greater => absurd greater.2 (by decide)
        rw [List.cons_append, findEndOfTag, if_neg quoted, beq_eq_false_iff_ne.mpr other,
          Bool.bne_false, ih fun member => noQuote (List.mem_cons_of_mem _ member)]
        rfl
  rw [Closed, findEndOfTag, if_neg fun greater => absurd greater.1 (by decide),
    beq_self_eq_true, Bool.bne_true, Bool.not_false, inside]
  rfl

theorem closed_of_white {gap : List UInt8} (isWhite : White gap) : Closed gap :=
  closed_of_free fun byte member =>
    ⟨ne_of_white (isWhite byte member) (by decide), ne_of_white (isWhite byte member) (by decide)⟩

theorem IsTagName.closed {name : List UInt8} (named : IsTagName name) : Closed name :=
  closed_of_free fun byte member =>
    ⟨ne_of_isNameChar (named.chars byte member) (by decide),
      ne_of_isNameChar (named.chars byte member) (by decide)⟩

theorem AttrText.closed {attrs : List (List UInt8 × List UInt8)} {bytes : List UInt8}
    (isAttrs : AttrText attrs bytes) : Closed bytes := by
  induction isAttrs with
  | gap isWhite => exact closed_of_white isWhite
  | @attr gap var before behind value bytes attrs apart isWhite named whiteBefore whiteBehind
      noQuote _ ih =>
      have line : gap ++ (var ++ (before ++ 61 :: (behind ++ 34 :: (value ++ 34 :: bytes)))) =
          gap ++ (var ++ (before ++ ([61] ++ (behind ++ (34 :: (value ++ [34]) ++ bytes))))) := by
        simp
      have equal : Closed [61] := rfl
      rw [line]
      apply closed_append (closed_of_white isWhite)
      apply closed_append named.closed
      apply closed_append (closed_of_white whiteBefore)
      apply closed_append equal
      apply closed_append (closed_of_white whiteBehind)
      exact closed_append (closed_quoted noQuote) ih

end Tags

section Attributes

theorem dropWhile_white {gap : List UInt8} (isWhite : White gap) (rest : List UInt8) :
    (gap ++ rest).dropWhile isspace = rest.dropWhile isspace :=
  List.dropWhile_append_of_pos isWhite

/-- A name is read up to the first byte that cannot be in it. -/
theorem takeWhile_name {name : List UInt8} (named : IsTagName name) {rest : List UInt8}
    (stops : rest.head?.any isNameChar = false) :
    (name ++ rest).takeWhile isNameChar = name := by
  rw [List.takeWhile_append_of_pos named.chars]
  cases rest with
  | nil => rw [List.takeWhile_nil, List.append_nil]
  | cons byte rest =>
      have other : isNameChar byte = false := stops
      rw [List.takeWhile_cons_of_neg (by simp [other]), List.append_nil]

theorem dropWhile_name {name : List UInt8} (named : IsTagName name) {rest : List UInt8}
    (stops : rest.head?.any isNameChar = false) :
    (name ++ rest).dropWhile isNameChar = rest := by
  rw [List.dropWhile_append_of_pos named.chars]
  cases rest with
  | nil => rfl
  | cons byte rest =>
      have other : isNameChar byte = false := stops
      rw [List.dropWhile_cons_of_neg (by simp [other])]

theorem dropWhile_space_name {name : List UInt8} (named : IsTagName name) (rest : List UInt8) :
    (name ++ rest).dropWhile isspace = name ++ rest := by
  obtain ⟨first, letters, rfl, isName⟩ := named.exists_cons
  have solid : isspace first = false := isspace_of_isNameChar isName
  rw [List.cons_append, List.dropWhile_cons_of_neg (by simp [solid])]

/-- White space does not begin a name. -/
theorem stops_of_white {gap : List UInt8} (isWhite : White gap) {rest : List UInt8}
    (stops : rest.head?.any isNameChar = false) :
    (gap ++ rest).head?.any isNameChar = false := by
  cases gap with
  | nil => exact stops
  | cons byte gap => exact isNameChar_of_white (isWhite byte List.mem_cons_self)

theorem parseAttr_white {gap : List UInt8} (isWhite : White gap) (fuel : Nat)
    (rest : List UInt8) : parseAttr fuel (gap ++ rest) = parseAttr fuel rest := by
  cases fuel with
  | zero => rfl
  | succ fuel => rw [parseAttr, parseAttr, dropWhile_white isWhite]

/-- `parse_attr` at a name with a quoted value. -/
theorem parseAttr_attr {var before behind value : List UInt8} (named : IsTagName var)
    (whiteBefore : White before) (whiteBehind : White behind) (noQuote : (34 : UInt8) ∉ value)
    (fuel : Nat) (bytes : List UInt8) :
    parseAttr (fuel + 1) (var ++ (before ++ 61 :: (behind ++ 34 :: (value ++ 34 :: bytes)))) =
      (parseAttr fuel bytes).map ((var, some value) :: ·) := by
  have stops : (before ++ 61 :: (behind ++ 34 :: (value ++ 34 :: bytes))).head?.any isNameChar =
      false := stops_of_white whiteBefore rfl
  have valueAt : (behind ++ 34 :: (value ++ 34 :: bytes)).dropWhile
      (fun byte => isspace byte || byte == 61) = 34 :: (value ++ 34 :: bytes) := by
    rw [List.dropWhile_append_of_pos fun byte member => by simp [whiteBehind byte member]]
    rfl
  have behindAt : ((behind ++ 34 :: (value ++ 34 :: bytes)).dropWhile isspace).dropWhile
      (fun byte => isspace byte || byte == 61) = 34 :: (value ++ 34 :: bytes) := by
    rw [dropWhile_white whiteBehind]
    rfl
  have taken : (value ++ 34 :: bytes).takeWhile (fun byte => !decide (byte = 34)) = value := by
    simpa using takeWhile_append_stop noQuote bytes
  have start := dropWhile_space_name named
    (before ++ 61 :: (behind ++ 34 :: (value ++ 34 :: bytes)))
  have name := takeWhile_name named stops
  have rest := dropWhile_name named stops
  have nameChar := named.chars
  obtain ⟨first, letters, rfl, isName⟩ := named.exists_cons
  have noEnd : ¬ (first = 62 ∨ first = 47 ∧ ((letters ++ (before ++ 61 :: (behind ++ 34 ::
      (value ++ 34 :: bytes)))) = [] ∨ (letters ++ (before ++ 61 :: (behind ++ 34 ::
      (value ++ 34 :: bytes)))).head? = some 62)) := by
    rintro (greater | ⟨slash, -⟩)
    · exact ne_of_isNameChar isName (by decide) greater
    · exact ne_of_isNameChar isName (by decide) slash
  rw [List.cons_append] at start name rest ⊢
  rw [parseAttr, start]
  simp only [if_neg noEnd, isName, name, rest]
  cases before with
  | nil =>
      simp only [List.nil_append, behindAt]
      simp [taken, after_append noQuote]
  | cons white before =>
      have isWhite : isspace white = true := whiteBefore white List.mem_cons_self
      have noGreater : ¬ white = 62 := ne_of_white isWhite (by decide)
      have equal : (before ++ 61 :: (behind ++ 34 :: (value ++ 34 :: bytes))).dropWhile isspace =
          61 :: (behind ++ 34 :: (value ++ 34 :: bytes)) := by
        rw [dropWhile_white fun byte member => whiteBefore byte (List.mem_cons_of_mem _ member)]
        rfl
      have equalAt : (61 :: (behind ++ 34 :: (value ++ 34 :: bytes))).dropWhile
          (fun byte => isspace byte || byte == 61) = 34 :: (value ++ 34 :: bytes) := by
        rw [List.dropWhile_cons_of_pos rfl, valueAt]
      simp only [List.cons_append, equal, equalAt]
      simp [noGreater, taken, after_append noQuote]

theorem AttrText.two_mul_length_le {attrs : List (List UInt8 × List UInt8)} {bytes : List UInt8}
    (isAttrs : AttrText attrs bytes) : 2 * attrs.length ≤ bytes.length := by
  induction isAttrs with
  | gap => exact Nat.zero_le _
  | attr =>
      simp only [List.length_append, List.length_cons]
      omega

theorem parseAttr_attrText {attrs : List (List UInt8 × List UInt8)} {bytes : List UInt8}
    (isAttrs : AttrText attrs bytes) {fuel : Nat} (enough : attrs.length < fuel) :
    parseAttr fuel bytes = .ok (quotedAttrs attrs) := by
  induction isAttrs generalizing fuel with
  | @gap gap isWhite =>
      have line := parseAttr_white isWhite fuel []
      rw [List.append_nil] at line
      rw [line]
      cases fuel with
      | zero => simp at enough
      | succ fuel => rfl
  | attr apart isWhite named whiteBefore whiteBehind noQuote _ ih =>
      rw [List.length_cons] at enough
      obtain ⟨fuel, rfl⟩ := Nat.exists_eq_succ_of_ne_zero (Nat.ne_zero_of_lt enough)
      rw [parseAttr_white isWhite, parseAttr_attr named whiteBefore whiteBehind noQuote,
        ih (by omega)]
      rfl

/-- White space stands between the name and the attributes. -/
theorem AttrText.white_of_cons {attrs : List (List UInt8 × List UInt8)} {byte : UInt8}
    {rest : List UInt8} (isAttrs : AttrText attrs (byte :: rest)) : isspace byte = true := by
  generalize eq : byte :: rest = bytes at isAttrs
  cases isAttrs with
  | gap isWhite =>
      subst eq
      exact isWhite byte List.mem_cons_self
  | attr apart isWhite =>
      obtain ⟨first, gap, rfl⟩ := List.exists_cons_of_ne_nil apart
      rw [List.cons_append] at eq
      rw [(List.cons.inj eq).1]
      exact isWhite first List.mem_cons_self

/-- `parse_tag` on a name with attributes behind it. -/
theorem parseTag_attrText {name bytes : List UInt8} {attrs : List (List UInt8 × List UInt8)}
    (named : IsTagName name) (isAttrs : AttrText attrs bytes) :
    parseTag (name ++ bytes) = .ok (name, quotedAttrs attrs) := by
  cases bytes with
  | nil =>
      have none_ : attrs = [] := by
        have short := isAttrs.two_mul_length_le
        simpa using short
      rw [none_, parseTag, takeWhile_name named rfl, dropWhile_name named rfl]
      rfl
  | cons byte rest =>
      have isWhite := isAttrs.white_of_cons
      have stops : (byte :: rest).head?.any isNameChar = false := isNameChar_of_white isWhite
      have mark : ¬ (byte = 62 ∨ byte = 47) := by
        rintro (greater | slash)
        · exact ne_of_white isWhite (by decide) greater
        · exact ne_of_white isWhite (by decide) slash
      have blank : White [byte] := fun other member => List.mem_singleton.mp member ▸ isWhite
      have short := isAttrs.two_mul_length_le
      rw [List.length_cons] at short
      have read := parseAttr_attrText isAttrs (show attrs.length < rest.length + 1 by omega)
      rw [← List.singleton_append, parseAttr_white blank] at read
      rw [parseTag, takeWhile_name named stops, dropWhile_name named stops]
      simp only [if_neg mark, read]
      rfl

end Attributes

section Names

theorem length_of_strcaseeq {first second : List UInt8}
    (same : strcaseeq first second = true) : first.length = second.length := by
  have lower : first.map tolower = second.map tolower := beq_iff_eq.mp same
  simpa using congrArg List.length lower

theorem strcaseeq_of_length {first second : List UInt8} (other : first.length ≠ second.length) :
    strcaseeq first second = false := by
  cases same : strcaseeq first second with
  | false => rfl
  | true => exact absurd (length_of_strcaseeq same) other

theorem strcaseeq_self (name : List UInt8) : strcaseeq name name = true :=
  beq_self_eq_true _

variable {name other rest : List UInt8}

/-- `cmp_tag_name` compares whole names: behind a shorter name there is a byte that is in no
name, and a longer one goes on. -/
theorem strcaseeq_take (named : IsTagName name) (isOther : IsTagName other)
    (stops : rest.head?.any isNameChar = false) :
    (strcaseeq ((other ++ rest).take name.length) name &&
      !((other ++ rest).drop name.length).head?.any isNameChar) = strcaseeq other name := by
  rcases Nat.lt_trichotomy other.length name.length with shorter | same | longer
  · rw [strcaseeq_of_length (Nat.ne_of_lt shorter), Bool.and_eq_false_iff]
    left
    cases eq : strcaseeq ((other ++ rest).take name.length) name with
    | false => rfl
    | true =>
        have lower : ((other ++ rest).take name.length).map tolower = name.map tolower :=
          beq_iff_eq.mp eq
        have byteAt := congrArg (·[other.length]?) lower
        simp only [List.getElem?_map, List.getElem?_take, if_pos shorter,
          List.getElem?_append_right (Nat.le_refl _), Nat.sub_self,
          List.getElem?_eq_getElem shorter, Option.map_some] at byteAt
        obtain ⟨byte, first, lowerEq⟩ := Option.map_eq_some_iff.mp byteAt
        have noName : isNameChar byte = false := by
          rw [← List.head?_eq_getElem?] at first
          simpa [first] using stops
        have isName := named.chars _ (List.getElem_mem shorter)
        rw [← isNameChar_tolower, ← lowerEq, isNameChar_tolower, noName] at isName
        contradiction
  · rw [← same, List.take_left', List.drop_left', stops, Bool.not_false, Bool.and_true]
    · rfl
    · rfl
  · rw [strcaseeq_of_length (Nat.ne_of_gt longer), Bool.and_eq_false_iff]
    right
    obtain ⟨byte, letters, eq⟩ := List.exists_cons_of_ne_nil
      (List.ne_nil_of_length_pos (l := other.drop name.length) (by simp; omega))
    have isName : isNameChar byte = true :=
      isOther.chars byte (List.mem_of_mem_drop (eq ▸ List.mem_cons_self))
    rw [List.drop_append_of_le_length (Nat.le_of_lt longer), eq]
    simp [isName]

theorem skipOpen_name (isOther : IsTagName other) (rest : List UInt8) :
    skipOpen (60 :: (other ++ rest)) = other ++ rest :=
  dropWhile_space_name isOther rest

theorem skipOpen_bare (isOther : IsTagName other) (rest : List UInt8) :
    skipOpen (other ++ rest) = other ++ rest := by
  have noLess : ¬ (other ++ rest).head? = some 60 := by
    obtain ⟨first, letters, rfl, isName⟩ := isOther.exists_cons
    exact fun less => ne_of_isNameChar isName (by decide) (Option.some.inj less)
  rw [skipOpen, skipAngle, if_neg noLess, dropWhile_space_name isOther]

/-- What begins with a name is nothing but a tag. -/
theorem isQuestionTag_name (isOther : IsTagName other) {ptr : List UInt8}
    (start : skipOpen ptr = other ++ rest) : isQuestionTag ptr = false := by
  rw [isQuestionTag, start]
  obtain ⟨first, letters, rfl, isName⟩ := isOther.exists_cons
  exact beq_eq_false_iff_ne.mpr fun same =>
    ne_of_isNameChar isName (by decide) (Option.some.inj same)

theorem isComment_name (isOther : IsTagName other) {ptr : List UInt8}
    (start : skipOpen ptr = other ++ rest) : isComment ptr = false := by
  rw [isComment, start]
  obtain ⟨first, letters, rfl, isName⟩ := isOther.exists_cons
  have noExclam : ((33 : UInt8) == first) = false :=
    beq_eq_false_iff_ne.mpr (ne_of_isNameChar isName (by decide)).symm
  rw [List.cons_append, List.isPrefixOf, noExclam, Bool.false_and]

theorem isExclamTag_name (isOther : IsTagName other) {ptr : List UInt8}
    (start : skipOpen ptr = other ++ rest) : isExclamTag ptr = false := by
  rw [isExclamTag, start]
  obtain ⟨first, letters, rfl, isName⟩ := isOther.exists_cons
  have noExclam : ((first :: letters ++ rest).head? == some 33) = false :=
    beq_eq_false_iff_ne.mpr fun exclam =>
      ne_of_isNameChar isName (by decide) (Option.some.inj exclam)
  rw [noExclam, Bool.false_and]

/-- `find_end_tag` at a tag that opens. -/
theorem nest_opening (named : IsTagName name) (isOther : IsTagName other)
    (stops : rest.head?.any isNameChar = false) (numNested : Nat) :
    nest name (60 :: (other ++ rest)) numNested =
      if strcaseeq other name then numNested + 1 else numNested := by
  have noSlash : ((other ++ rest).head? == some 47) = false := by
    obtain ⟨first, letters, rfl, isName⟩ := isOther.exists_cons
    exact beq_eq_false_iff_ne.mpr fun same =>
      ne_of_isNameChar isName (by decide) (Option.some.inj same)
  have angle : skipAngle (60 :: (other ++ rest)) = other ++ rest := rfl
  rw [nest, if_neg (by rw [isQuestionTag_name isOther (skipOpen_name isOther _)]; decide),
    cmpTagName, angle]
  simp only [noSlash, Bool.false_eq_true, if_false, dropWhile_space_name isOther,
    strcaseeq_take named isOther stops]
  split <;> simp_all

theorem nest_closing (named : IsTagName name) (isOther : IsTagName other)
    (stops : rest.head?.any isNameChar = false) (numNested : Nat) :
    nest name (60 :: (47 :: (other ++ rest))) numNested =
      if strcaseeq other name then numNested - 1 else numNested := by
  have angle : skipAngle (60 :: (47 :: (other ++ rest))) = 47 :: (other ++ rest) := rfl
  have noQuestion : isQuestionTag (60 :: (47 :: (other ++ rest))) = false := rfl
  rw [nest, if_neg (by rw [noQuestion]; decide), cmpTagName, angle]
  simp only [List.head?_cons, beq_self_eq_true, if_true, List.drop_one, List.tail_cons,
    dropWhile_space_name isOther, strcaseeq_take named isOther stops]
  split <;> simp_all

end Names

section EndTag

/-- More rounds than bytes make no difference. -/
theorem findEndTag_fuel (name : List UInt8) {first second : Nat} {ptr : List UInt8}
    (numNested : Nat) (one : ptr.length < first) (two : ptr.length < second) :
    findEndTag name first numNested ptr = findEndTag name second numNested ptr := by
  induction first generalizing second numNested ptr with
  | zero => exact absurd one (Nat.not_lt_zero _)
  | succ first ih =>
      obtain ⟨second, rfl⟩ := Nat.exists_eq_succ_of_ne_zero (Nat.ne_zero_of_lt two)
      rw [findEndTag, findEndTag]
      cases skipped : skipComment (ptr.dropWhile (· ≠ 60)) with
      | none => rfl
      | some pair =>
          obtain ⟨comment, here⟩ := pair
          simp only
          split
          · rfl
          · split
            · rfl
            · cases found : findEndOfTag false here with
              | none => rfl
              | some tagEnd =>
                  obtain ⟨head, rest⟩ := tagEnd
                  cases rest with
                  | none => rfl
                  | some rest =>
                      have whole := congrArg List.length (eq_of_skipComment skipped)
                      have tag := congrArg List.length (eq_of_findEndOfTag found)
                      have dropped := (List.dropWhile_suffix (l := ptr) (· ≠ 60)).length_le
                      simp only [List.length_append, List.length_cons] at whole tag
                      have same : findEndTag name first (nest name here numNested) rest =
                          findEndTag name second (nest name here numNested) rest :=
                        ih _ (by omega) (by omega)
                      simp only [same]

/-- `find_end_tag` with as many rounds as it needs. -/
def endTag (name : List UInt8) (numNested : Nat) (ptr : List UInt8) :
    List UInt8 × List UInt8 :=
  findEndTag name (ptr.length + 1) numNested ptr

/-- A body that begins with the bytes. -/
def prepend (bytes : List UInt8) (found : List UInt8 × List UInt8) :
    List UInt8 × List UInt8 :=
  (bytes ++ found.1, found.2)

theorem prepend_prepend (first second : List UInt8) (found : List UInt8 × List UInt8) :
    prepend first (prepend second found) = prepend (first ++ second) found := by
  rw [prepend, prepend, prepend, List.append_assoc]

variable {name : List UInt8}

theorem endTag_text {str : List UInt8} (noLess : (60 : UInt8) ∉ str) (numNested : Nat)
    (tail : List UInt8) :
    endTag name numNested (str ++ tail) = prepend str (endTag name numNested tail) := by
  have more : findEndTag name (tail.length + 1) numNested tail =
      findEndTag name ((str ++ tail).length + 1) numNested tail :=
    findEndTag_fuel name numNested (Nat.lt_succ_self _) (by rw [List.length_append]; omega)
  have taken : (str ++ tail).takeWhile (· ≠ 60) = str ++ tail.takeWhile (· ≠ 60) :=
    List.takeWhile_append_of_pos (ne_of_not_mem noLess)
  have dropped : (str ++ tail).dropWhile (· ≠ 60) = tail.dropWhile (· ≠ 60) :=
    List.dropWhile_append_of_pos (ne_of_not_mem noLess)
  rw [endTag, endTag, more, findEndTag, findEndTag, taken, dropped]
  cases skipComment (tail.dropWhile (· ≠ 60)) with
  | none => rfl
  | some pair =>
      obtain ⟨comment, here⟩ := pair
      simp only
      split
      · rfl
      · split
        · rw [prepend, List.append_assoc]
        · split
          · rw [prepend, List.append_assoc]
          · rfl

/-- `find_end_tag` goes past a tag that is not the one it looks for. -/
theorem endTag_tag {inside rest : List UInt8} {numNested left : Nat}
    (noComment : isComment (60 :: (inside ++ 62 :: rest)) = false)
    (closed : Closed inside)
    (nested : nest name (60 :: (inside ++ 62 :: rest)) numNested = left + 1) :
    endTag name numNested (60 :: (inside ++ 62 :: rest)) =
      prepend (60 :: (inside ++ [62])) (endTag name (left + 1) rest) := by
  have more : findEndTag name (rest.length + 1) (left + 1) rest =
      findEndTag name (60 :: (inside ++ 62 :: rest)).length (left + 1) rest :=
    findEndTag_fuel name (left + 1) (Nat.lt_succ_self _)
      (by simp only [List.length_cons, List.length_append]; omega)
  have opened : Closed [60] := rfl
  have found := findEndOfTag_end (closed_append opened closed) rest
  have dropped : (60 :: (inside ++ 62 :: rest)).dropWhile (· ≠ 60) =
      60 :: (inside ++ 62 :: rest) := rfl
  rw [endTag, findEndTag, dropped, skipComment, if_neg (by rw [noComment]; decide)]
  simp only [nested, reduceCtorEq, if_false, Nat.add_eq_zero_iff, Nat.one_ne_zero, and_false]
  rw [← List.singleton_append, ← List.append_assoc, found]
  simp only [endTag, more, prepend]
  simp

/-- The tag that closes the element is cut off. -/
theorem endTag_closing (named : IsTagName name) {gap : List UInt8} (isWhite : White gap)
    (rest : List UInt8) :
    endTag name 1 (60 :: (47 :: (name ++ (gap ++ 62 :: rest)))) = ([], rest) := by
  have stops : (gap ++ 62 :: rest).head?.any isNameChar = false := stops_of_white isWhite rfl
  have nested := nest_closing named named stops 1
  rw [if_pos (strcaseeq_self name)] at nested
  have slash : Closed [47] := rfl
  have closed : Closed ([47] ++ (name ++ gap)) :=
    closed_append slash (closed_append named.closed (closed_of_white isWhite))
  have line : 47 :: (name ++ (gap ++ 62 :: rest)) = [47] ++ (name ++ gap) ++ 62 :: rest := by
    simp
  have ended : behindTag (47 :: (name ++ (gap ++ 62 :: rest))) = rest := by
    rw [behindTag, line, findEndOfTag_end closed]
    rfl
  have noComment : isComment (60 :: (47 :: (name ++ (gap ++ 62 :: rest)))) = false := rfl
  have dropped : (60 :: (47 :: (name ++ (gap ++ 62 :: rest)))).dropWhile (· ≠ 60) =
      60 :: (47 :: (name ++ (gap ++ 62 :: rest))) := rfl
  rw [endTag, findEndTag, dropped, skipComment, if_neg (by rw [noComment]; decide)]
  simp only [nested, reduceCtorEq, if_false, Nat.sub_self, if_true, List.drop_one,
    List.tail_cons, ended]
  rfl

/-- What follows the name in a tag does not go on with it. -/
theorem AttrText.stops {attrs : List (List UInt8 × List UInt8)} {bytes : List UInt8}
    (isAttrs : AttrText attrs bytes) {rest : List UInt8}
    (stops : rest.head?.any isNameChar = false) :
    (bytes ++ rest).head?.any isNameChar = false := by
  cases bytes with
  | nil => exact stops
  | cons byte bytes => exact isNameChar_of_white isAttrs.white_of_cons

/-- The tags in the content of an element do not change how deep `find_end_tag` is behind
them. -/
theorem endTag_content {outer : List (List UInt8)} {subs : List XmlSub} {bytes : List UInt8}
    (content : Content outer subs bytes) (named : IsTagName name) (member : name ∈ outer)
    (numNested : Nat) (tail : List UInt8) :
    endTag name (numNested + 1) (bytes ++ tail) =
      prepend bytes (endTag name (numNested + 1) tail) := by
  induction content generalizing numNested tail with
  | text noLess => exact endTag_text noLess _ tail
  | @declaration outer gap text bytes subs noLess closed rest ih =>
      have question : Closed [63] := rfl
      have line : gap ++ 60 :: (63 :: (text ++ 62 :: bytes)) ++ tail =
          gap ++ 60 :: (([63] ++ text) ++ 62 :: (bytes ++ tail)) := by
        simp
      have nested : nest name (60 :: (([63] ++ text) ++ 62 :: (bytes ++ tail))) (numNested + 1) =
          numNested + 1 := if_pos rfl
      rw [line, endTag_text noLess, endTag_tag rfl (closed_append question closed) nested,
        ih member, prepend_prepend, prepend_prepend]
      simp
  | @single outer gap other attrText bytes attrs subs noLess isOther isAttrs fresh rest ih =>
      have slash : Closed [47] := rfl
      have line : gap ++ 60 :: (other ++ (attrText ++ 47 :: 62 :: bytes)) ++ tail =
          gap ++ 60 :: ((other ++ (attrText ++ [47])) ++ 62 :: (bytes ++ tail)) := by
        simp
      have closed : Closed (other ++ (attrText ++ [47])) :=
        closed_append isOther.closed (closed_append isAttrs.closed slash)
      have stops : (attrText ++ 47 :: 62 :: (bytes ++ tail)).head?.any isNameChar = false :=
        isAttrs.stops rfl
      have nested := nest_opening named isOther stops (numNested + 1)
      rw [fresh name member, if_neg (by decide)] at nested
      have tagLine : other ++ (attrText ++ 47 :: 62 :: (bytes ++ tail)) =
          (other ++ (attrText ++ [47])) ++ 62 :: (bytes ++ tail) := by
        simp
      have noComment := isComment_name isOther
        (skipOpen_name isOther (attrText ++ 47 :: 62 :: (bytes ++ tail)))
      rw [tagLine] at nested noComment
      rw [line, endTag_text noLess, endTag_tag noComment closed nested, ih member,
        prepend_prepend, prepend_prepend]
      simp
  | @node outer gap other attrText body tailGap bytes attrs inner subs noLess isOther isAttrs
      inside isWhite rest insideIh ih =>
      have slash : Closed [47] := rfl
      have line : gap ++ 60 :: (other ++ (attrText ++ 62 ::
            (body ++ 60 :: (47 :: (other ++ (tailGap ++ 62 :: bytes)))))) ++ tail =
          gap ++ 60 :: ((other ++ attrText) ++ 62 ::
            (body ++ 60 :: (([47] ++ (other ++ tailGap)) ++ 62 :: (bytes ++ tail)))) := by
        simp
      have opened : Closed (other ++ attrText) := closed_append isOther.closed isAttrs.closed
      have closes : Closed ([47] ++ (other ++ tailGap)) :=
        closed_append slash (closed_append isOther.closed (closed_of_white isWhite))
      generalize moreEq : body ++ 60 :: (([47] ++ (other ++ tailGap)) ++ 62 :: (bytes ++ tail)) =
        more at line
      have attrStops : (attrText ++ 62 :: more).head?.any isNameChar = false := isAttrs.stops rfl
      have gapStops : (tailGap ++ 62 :: (bytes ++ tail)).head?.any isNameChar = false :=
        stops_of_white isWhite rfl
      have noComment := isComment_name isOther (skipOpen_name isOther (attrText ++ 62 :: more))
      have openLine : other ++ (attrText ++ 62 :: more) = (other ++ attrText) ++ 62 :: more := by
        simp
      have closeLine : 47 :: (other ++ (tailGap ++ 62 :: (bytes ++ tail))) =
          ([47] ++ (other ++ tailGap)) ++ 62 :: (bytes ++ tail) := by
        simp
      -- the tag with the name counts, and the one that closes it takes that back
      have nestOpen := nest_opening named isOther attrStops (numNested + 1)
      have nestClose := nest_closing named isOther gapStops
        (if strcaseeq other name then numNested + 2 else numNested + 1)
      rw [openLine] at nestOpen noComment
      rw [closeLine] at nestClose
      have opening : nest name (60 :: ((other ++ attrText) ++ 62 :: more)) (numNested + 1) =
          (if strcaseeq other name then numNested + 1 else numNested) + 1 := by
        rw [nestOpen]
        split <;> rfl
      have closing : nest name (60 :: (([47] ++ (other ++ tailGap)) ++ 62 :: (bytes ++ tail)))
          ((if strcaseeq other name then numNested + 1 else numNested) + 1) = numNested + 1 := by
        cases same : strcaseeq other name with
        | false => simpa [same] using nestClose
        | true => simpa [same] using nestClose
      rw [line, endTag_text noLess, endTag_tag noComment opened opening, ← moreEq,
        insideIh (List.mem_cons_of_mem _ member), endTag_tag rfl closes closing, ih member,
        prepend_prepend, prepend_prepend, prepend_prepend, prepend_prepend]
      simp

/-- `parse_node` finds the end of an element. -/
theorem endTag_body {outer : List (List UInt8)} {subs : List XmlSub}
    {body gap : List UInt8} (content : Content (name :: outer) subs body)
    (named : IsTagName name) (isWhite : White gap) (rest : List UInt8) :
    endTag name 1 (body ++ 60 :: (47 :: (name ++ (gap ++ 62 :: rest)))) = (body, rest) := by
  rw [endTag_content content named List.mem_cons_self, endTag_closing named isWhite, prepend,
    List.append_nil]

end EndTag

section Body

theorem AttrText.getLast?_ne {attrs : List (List UInt8 × List UInt8)} {bytes : List UInt8}
    (isAttrs : AttrText attrs bytes) {before : List UInt8} (noSlash : before.getLast? ≠ some 47) :
    (before ++ bytes).getLast? ≠ some 47 := by
  induction isAttrs generalizing before with
  | @gap gap isWhite =>
      rcases List.eq_nil_or_concat gap with rfl | ⟨white, byte, rfl⟩
      · rwa [List.append_nil]
      · have last : isspace byte = true := isWhite byte (by simp)
        rw [List.concat_eq_append, ← List.append_assoc, List.getLast?_concat]
        exact fun same => ne_of_white last (by decide) (Option.some.inj same)
  | @attr gap var front behind value bytes attrs apart isWhite named whiteBefore whiteBehind
      noQuote rest ih =>
      have line : before ++ (gap ++ (var ++ (front ++ 61 ::
            (behind ++ 34 :: (value ++ 34 :: bytes))))) =
          (before ++ (gap ++ (var ++ (front ++ 61 :: (behind ++ 34 :: value)))) ++ [34]) ++
            bytes := by
        simp
      rw [line]
      apply ih
      rw [List.getLast?_concat]
      decide

theorem IsTagName.getLast?_ne {name : List UInt8} (named : IsTagName name) :
    name.getLast? ≠ some 47 := by
  intro last
  exact ne_of_isNameChar (named.chars 47 (List.mem_of_getLast? last)) (by decide) rfl

variable {name attrText : List UInt8} {attrs : List (List UInt8 × List UInt8)}
variable (parseBody : List UInt8 → Parse (List XmlSub))

theorem parseNode_single (named : IsTagName name) (isAttrs : AttrText attrs attrText)
    (rest : List UInt8) :
    parseNode parseBody (name ++ (attrText ++ 47 :: 62 :: rest)) =
      .ok (.tag name (quotedAttrs attrs) [], rest) := by
  have slash : Closed [47] := rfl
  have closed : Closed ((name ++ attrText) ++ [47]) :=
    closed_append (closed_append named.closed isAttrs.closed) slash
  have line : name ++ (attrText ++ 47 :: 62 :: rest) =
      ((name ++ attrText) ++ [47]) ++ 62 :: rest := by
    simp
  rw [parseNode, line, findEndOfTag_end closed]
  simp only [List.getLast?_concat, beq_self_eq_true, if_true, List.dropLast_concat,
    parseTag_attrText named isAttrs]
  rfl

theorem parseNode_node (named : IsTagName name) (isAttrs : AttrText attrs attrText)
    (rest : List UInt8) :
    parseNode parseBody (name ++ (attrText ++ 62 :: rest)) =
      (parseBody (endTag name 1 rest).1).map fun subs =>
        (.tag name (quotedAttrs attrs) subs, (endTag name 1 rest).2) := by
  have closed : Closed (name ++ attrText) := closed_append named.closed isAttrs.closed
  have line : name ++ (attrText ++ 62 :: rest) = (name ++ attrText) ++ 62 :: rest := by simp
  have noSlash : ((name ++ attrText).getLast? == some 47) = false :=
    beq_eq_false_iff_ne.mpr (isAttrs.getLast?_ne named.getLast?_ne)
  rw [parseNode, line, findEndOfTag_end closed]
  simp only [noSlash, Bool.false_eq_true, if_false, parseTag_attrText named isAttrs]
  cases read : parseBody (endTag name 1 rest).1 with
  | error fault =>
      rw [endTag] at read
      simp [read, Bind.bind, Except.bind, Except.map]
  | ok subs =>
      rw [endTag] at read
      simp [read, Bind.bind, Except.bind, Except.map, endTag]

/-- The loop of `parse_body` at a text before a tag. -/
theorem enterBody_gap {gap ptr : List UInt8} {subs : List XmlSub} {fuel : Nat}
    (noLess : (60 : UInt8) ∉ gap) (same : skipOpen ptr = skipOpen (60 :: ptr))
    (read : ∀ fuel, ptr.length < fuel → bodyLoop fuel true (60 :: ptr) = .ok subs)
    (enough : (gap ++ 60 :: ptr).length < fuel) :
    enterBody (bodyLoop fuel) (gap ++ 60 :: ptr) = .ok (textSubs gap ++ subs) := by
  rw [List.length_append, List.length_cons] at enough
  cases gap with
  | nil => exact read fuel (by omega)
  | cons byte gap =>
      obtain ⟨fuel, rfl⟩ := Nat.exists_eq_succ_of_ne_zero (Nat.ne_zero_of_lt enough)
      obtain ⟨fuel, rfl⟩ := Nat.exists_eq_succ_of_ne_zero (show fuel ≠ 0 by
        rw [List.length_cons] at enough
        omega)
      rw [List.length_cons] at enough
      have other : byte ≠ 60 := fun less => noLess (less ▸ List.mem_cons_self)
      have noTag : ((byte :: gap ++ 60 :: ptr).head? == some 60) = false :=
        beq_eq_false_iff_ne.mpr fun less => other (Option.some.inj less)
      have tag : bodyLoop (fuel + 1) true ptr = .ok subs := by
        rw [← read (fuel + 1) (by omega), bodyLoop, bodyLoop, same]
      have nonempty : ¬ byte :: gap ++ 60 :: ptr = [] := List.cons_ne_nil _ _
      rw [enterBody, if_neg nonempty, noTag, bodyLoop, takeWhile_append_stop noLess,
        dropWhile_append_stop noLess]
      simp only [tag]
      rfl

/-- `parse_body` returns the entries of all texts that are a way to write them. -/
theorem enterBody_content {outer : List (List UInt8)} {subs : List XmlSub} {bytes : List UInt8}
    (content : Content outer subs bytes) {fuel : Nat} (enough : bytes.length < fuel) :
    enterBody (bodyLoop fuel) bytes = .ok subs := by
  induction content generalizing fuel with
  | @text outer str noLess =>
      cases str with
      | nil => rfl
      | cons byte str =>
          obtain ⟨fuel, rfl⟩ := Nat.exists_eq_succ_of_ne_zero (Nat.ne_zero_of_lt enough)
          have other : byte ≠ 60 := fun less => noLess (less ▸ List.mem_cons_self)
          have noTag : ((byte :: str).head? == some 60) = false :=
            beq_eq_false_iff_ne.mpr fun less => other (Option.some.inj less)
          have whole : (byte :: str).takeWhile (· ≠ 60) = byte :: str :=
            List.takeWhile_eq_self_iff.mpr (ne_of_not_mem noLess)
          have nothing : (byte :: str).dropWhile (· ≠ 60) = [] :=
            List.dropWhile_eq_nil_iff.mpr (ne_of_not_mem noLess)
          rw [enterBody, if_neg (List.cons_ne_nil _ _), noTag, bodyLoop, whole, nothing]
          rfl
  | @declaration outer gap text bytes subs noLess closed rest ih =>
      apply enterBody_gap noLess rfl _ enough
      intro fuel enough
      obtain ⟨fuel, rfl⟩ := Nat.exists_eq_succ_of_ne_zero (Nat.ne_zero_of_lt enough)
      simp only [List.length_append, List.length_cons] at enough
      have question : Closed [63] := rfl
      have start : skipOpen (60 :: (63 :: (text ++ 62 :: bytes))) = 63 :: text ++ 62 :: bytes := rfl
      have isQuestion : isQuestionTag (63 :: text ++ 62 :: bytes) = true := rfl
      have found := findEndOfTag_end (closed_append question closed) bytes
      rw [List.singleton_append] at found
      rw [bodyLoop, start]
      simp only [isQuestion, if_true, found, ih (show bytes.length < fuel by omega)]
      rfl
  | @single outer gap name attrText bytes attrs subs noLess named isAttrs fresh rest ih =>
      have bare := skipOpen_bare named (attrText ++ 47 :: 62 :: bytes)
      have start := skipOpen_name named (attrText ++ 47 :: 62 :: bytes)
      apply enterBody_gap noLess (bare.trans start.symm) _ enough
      intro fuel enough
      obtain ⟨fuel, rfl⟩ := Nat.exists_eq_succ_of_ne_zero (Nat.ne_zero_of_lt enough)
      simp only [List.length_append, List.length_cons] at enough
      rw [bodyLoop, start]
      simp only [isQuestionTag_name named bare, isComment_name named bare,
        isExclamTag_name named bare, Bool.false_eq_true, if_false,
        parseNode_single _ named isAttrs bytes]
      simp only [Bind.bind, Except.bind, ih (show bytes.length < fuel by omega)]
      rfl
  | @node outer gap name attrText body tailGap bytes attrs inner subs noLess named isAttrs
      inside isWhite rest insideIh ih =>
      generalize moreEq : body ++ 60 :: (47 :: (name ++ (tailGap ++ 62 :: bytes))) = more at enough
      have bare := skipOpen_bare named (attrText ++ 62 :: more)
      have start := skipOpen_name named (attrText ++ 62 :: more)
      have longer := congrArg List.length moreEq
      simp only [List.length_append, List.length_cons] at longer
      apply enterBody_gap noLess (bare.trans start.symm) _ enough
      intro fuel enough
      obtain ⟨fuel, rfl⟩ := Nat.exists_eq_succ_of_ne_zero (Nat.ne_zero_of_lt enough)
      simp only [List.length_append, List.length_cons] at enough
      have ended := endTag_body inside named isWhite bytes
      rw [moreEq] at ended
      rw [bodyLoop, start]
      simp only [isQuestionTag_name named bare, isComment_name named bare,
        isExclamTag_name named bare, Bool.false_eq_true, if_false,
        parseNode_node _ named isAttrs more, ended, insideIh (show body.length < fuel by omega)]
      simp only [Except.map, Bind.bind, Except.bind, ih (show bytes.length < fuel by omega)]

theorem parseBody_content {subs : List XmlSub} {bytes : List UInt8}
    (content : Content [] subs bytes) : XmlParser.parseBody bytes = .ok subs :=
  enterBody_content content (Nat.lt_succ_self _)

/-- An element inside of one with the same name. -/
theorem parseBody_nested :
    XmlParser.parseBody (ascii "<a><a>t</a></a>") =
      .ok [.tag (ascii "a") [] [.tag (ascii "a") [] [.text (ascii "t")]]] := by
  have noLess : (60 : UInt8) ∉ ([] : List UInt8) := List.not_mem_nil
  have named : IsTagName (ascii "a") := ⟨by decide, List.all_eq_true.mp (by decide)⟩
  have isWhite : White [] := List.forall_mem_nil _
  have inner : Content [ascii "a"] (textSubs [] ++ .tag (ascii "a") (quotedAttrs [])
      (textSubs (ascii "t")) :: textSubs []) (ascii "<a>t</a>") :=
    .node noLess named (.gap isWhite) (.text (by decide)) isWhite (.text noLess)
  exact parseBody_content (.node noLess named (.gap isWhite) inner isWhite (.text noLess))

end Body

end Tunprox.XmlContent
