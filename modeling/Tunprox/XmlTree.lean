import Mathlib.Data.List.Nodup
import Tunprox.Utf8Text
import Tunprox.WrittenTree
import Tunprox.XmlDocument

/-!
# Trees that are written in XML

The ways to write trees that are well-formed in XML: the texts and the values of attributes
are characters that stand for themselves, and other characters than ASCII are in UTF-8.  Such a
text is the content of an XML document, and the reader at the end, which knows the quotation
marks, takes it apart.
-/

namespace Tunprox.XmlTree

open ElementText WrittenTree Utf8Text
open XmlDocument (isXmlChar isXmlSpace quot isName isNameStart isNameChar AttValue Attributes
  CharData Node Markup Content textNodes)

/-- The white space of XML. -/
def isBlank (byte : UInt8) : Bool :=
  byte == 32 || byte == 9 || byte == 10

/-- A name that begins with a letter. -/
structure IsXmlName (name : List UInt8) : Prop where
  isName : IsName name
  letter : ∀ first ∈ name.head?, 97 ≤ first

def IsXmlText (text : List UInt8) : Prop :=
  ∃ chars, utf8 chars = text ∧ CharData chars

/-- The value of an attribute as it stands between double quotation marks. -/
structure PlainValue (chars : List Char) : Prop where
  plain : ∀ char ∈ chars, isXmlChar char = true ∧ char ≠ '<' ∧ char ≠ '&' ∧ char ≠ quot
  solid : ∀ char ∈ chars, isXmlSpace char = false

def IsXmlValue (value : List UInt8) : Prop :=
  ∃ chars, utf8 chars = value ∧ PlainValue chars

structure IsXmlHead (name : List UInt8) (attrs : List (List UInt8 × List UInt8)) : Prop where
  name : IsXmlName name
  vars : ∀ attr ∈ attrs, IsXmlName attr.1
  values : ∀ attr ∈ attrs, IsXmlValue attr.2
  unique : (attrs.map Prod.fst).Nodup

/-- The bytes are a way to write the trees in XML, inside of elements with the names `outer`. -/
inductive WritesXml : List (List UInt8) → List Tree → List UInt8 → Prop where
  | white {outer : List (List UInt8)} {gap : List UInt8}
      (blank : ∀ byte ∈ gap, isBlank byte = true) : WritesXml outer [] gap
  | leaf {outer : List (List UInt8)} {gap name text bytes : List UInt8}
      {attrs : List (List UInt8 × List UInt8)} {trees : List Tree}
      (blank : ∀ byte ∈ gap, isBlank byte = true) (head : IsXmlHead name attrs)
      (fresh : name ∉ outer) (isText : IsXmlText text) (rest : WritesXml outer trees bytes) :
      WritesXml outer (.tag name attrs (readText text) :: trees)
        (gap ++ (opening name attrs ++ (text ++ (closing name ++ bytes))))
  | empty {outer : List (List UInt8)} {gap name bytes : List UInt8}
      {attrs : List (List UInt8 × List UInt8)} {trees : List Tree}
      (blank : ∀ byte ∈ gap, isBlank byte = true) (head : IsXmlHead name attrs)
      (fresh : name ∉ outer) (rest : WritesXml outer trees bytes) :
      WritesXml outer (.tag name attrs [] :: trees) (gap ++ (single name attrs ++ bytes))
  | node {outer : List (List UInt8)} {gap name inner bytes : List UInt8}
      {attrs : List (List UInt8 × List UInt8)} {subs trees : List Tree}
      (blank : ∀ byte ∈ gap, isBlank byte = true) (head : IsXmlHead name attrs)
      (fresh : name ∉ outer) (inside : WritesXml (name :: outer) subs inner)
      (rest : WritesXml outer trees bytes) :
      WritesXml outer (.tag name attrs subs :: trees)
        (gap ++ (opening name attrs ++ (inner ++ (closing name ++ bytes))))

section Append

variable {outer : List (List UInt8)} {gap : List UInt8}

/-- Blanks before the trees are no part of them. -/
theorem WritesXml.blank_append {trees : List Tree} {bytes : List UInt8}
    (blank : ∀ byte ∈ gap, isBlank byte = true) (writes : WritesXml outer trees bytes) :
    WritesXml outer trees (gap ++ bytes) := by
  cases writes with
  | white more => exact .white (List.forall_mem_append.mpr ⟨blank, more⟩)
  | leaf more head fresh isText rest =>
      rw [← List.append_assoc]
      exact .leaf (List.forall_mem_append.mpr ⟨blank, more⟩) head fresh isText rest
  | empty more head fresh rest =>
      rw [← List.append_assoc]
      exact .empty (List.forall_mem_append.mpr ⟨blank, more⟩) head fresh rest
  | node more head fresh inside rest =>
      rw [← List.append_assoc]
      exact .node (List.forall_mem_append.mpr ⟨blank, more⟩) head fresh inside rest

theorem WritesXml.append {first second : List Tree} {one two : List UInt8}
    (writes : WritesXml outer first one) (more : WritesXml outer second two) :
    WritesXml outer (first ++ second) (one ++ two) := by
  induction writes with
  | white blank => exact more.blank_append blank
  | leaf blank head fresh isText _ ih =>
      simp only [List.append_assoc]
      exact .leaf blank head fresh isText (ih more)
  | empty blank head fresh _ ih =>
      simp only [List.append_assoc]
      exact .empty blank head fresh (ih more)
  | node blank head fresh inside _ _ ih =>
      simp only [List.append_assoc]
      exact .node blank head fresh inside (ih more)

end Append

/-- What holds of the 256 numbers holds of all bytes. -/
theorem forall_byte {property : UInt8 → Prop}
    (all : ∀ value < 256, property (UInt8.ofNat value)) (byte : UInt8) : property byte := by
  have here := all byte.toNat byte.toNat_lt
  rwa [UInt8.ofNat_toNat] at here

/-- The bytes of other characters are no ASCII bytes. -/
theorem not_mem_utf8 {chars : List Char} {byte : UInt8} (low : byte < 128)
    (free : Char.ofNat byte.toNat ∉ chars) : byte ∉ utf8 chars := by
  intro member
  obtain ⟨char, charMem, inside⟩ := List.mem_flatMap.mp member
  rcases encode_cases char with ⟨single, -⟩ | high
  · have encoded : String.utf8EncodeChar char = [byte] := by
      rw [single] at inside ⊢
      rw [List.mem_singleton.mp inside]
    exact free (char_of_encode low encoded ▸ charMem)
  · exact absurd (high byte inside) (UInt8.not_le.mpr low)

theorem IsXmlText.less_not_mem {text : List UInt8} (isText : IsXmlText text) :
    (60 : UInt8) ∉ text := by
  obtain ⟨chars, rfl, isData⟩ := isText
  exact not_mem_utf8 (by decide) fun member => (isData.noMarkup _ member).1 rfl

theorem IsXmlValue.quote_not_mem {value : List UInt8} (isValue : IsXmlValue value) :
    (34 : UInt8) ∉ value := by
  obtain ⟨chars, rfl, plain⟩ := isValue
  exact not_mem_utf8 (by decide) fun member => (plain.plain _ member).2.2.2 rfl

section Ascii

/-- A byte that is a character in XML. -/
def isXmlByte (byte : UInt8) : Bool :=
  byte == 9 || byte == 10 || 32 ≤ byte && byte < 127

/-- The bytes are characters that stand for themselves. -/
def isDataByte (byte : UInt8) : Bool :=
  isXmlByte byte && byte != 38 && byte != 60 && byte != 62

theorem isDataByte_of_isBlank : ∀ byte, isBlank byte = true → isDataByte byte = true :=
  forall_byte (by decide +kernel)

theorem char_of_isDataByte : ∀ byte, isDataByte byte = true →
    byte < 128 ∧ isXmlChar (Char.ofNat byte.toNat) = true ∧ Char.ofNat byte.toNat ≠ '<' ∧
      Char.ofNat byte.toNat ≠ '&' ∧ Char.ofNat byte.toNat ≠ '>' :=
  forall_byte (by decide +kernel)

theorem char_of_isNameByte : ∀ byte, isNameByte byte = true →
    byte < 128 ∧ isNameChar (Char.ofNat byte.toNat) = true ∧
      (97 ≤ byte → isNameStart (Char.ofNat byte.toNat) = true) :=
  forall_byte (by decide +kernel)

theorem charData_asciiChars {bytes : List UInt8}
    (data : ∀ byte ∈ bytes, isDataByte byte = true) : CharData (asciiChars bytes) := by
  have chars : ∀ char ∈ asciiChars bytes, isXmlChar char = true ∧ char ≠ '<' ∧ char ≠ '&' ∧
      char ≠ '>' := by
    intro char member
    obtain ⟨byte, byteMem, rfl⟩ := List.mem_map.mp member
    exact (char_of_isDataByte byte (data byte byteMem)).2
  constructor
  · exact fun char member => (chars char member).1
  · exact fun char member => ⟨(chars char member).2.1, (chars char member).2.2.1⟩
  · intro ends
    have greater : '>' ∈ asciiChars bytes := ends.subset (by decide)
    exact (chars _ greater).2.2.2 rfl

theorem utf8_data {bytes : List UInt8} (data : ∀ byte ∈ bytes, isDataByte byte = true) :
    utf8 (asciiChars bytes) = bytes :=
  utf8_asciiChars fun byte member => (char_of_isDataByte byte (data byte member)).1

theorem isXmlText_of_data {text : List UInt8} (data : ∀ byte ∈ text, isDataByte byte = true) :
    IsXmlText text :=
  ⟨asciiChars text, utf8_data data, charData_asciiChars data⟩

theorem isXmlValue_of_data {value : List UInt8}
    (data : ∀ byte ∈ value, isDataByte byte = true)
    (solid : ∀ byte ∈ value, byte ≠ 34 ∧ isBlank byte = false) : IsXmlValue value := by
  have chars : ∀ byte, isDataByte byte = true →
      (byte ≠ 34 → Char.ofNat byte.toNat ≠ quot) ∧
        (isBlank byte = false → isXmlSpace (Char.ofNat byte.toNat) = false) :=
    forall_byte (by decide +kernel)
  have isData := charData_asciiChars data
  refine ⟨asciiChars value, utf8_data data, ?_, ?_⟩
  · intro char member
    obtain ⟨noLess, noAmp⟩ := isData.noMarkup char member
    refine ⟨isData.isChar char member, noLess, noAmp, ?_⟩
    obtain ⟨byte, byteMem, rfl⟩ := List.mem_map.mp member
    exact (chars byte (data byte byteMem)).1 (solid byte byteMem).1
  · intro char member
    obtain ⟨byte, byteMem, rfl⟩ := List.mem_map.mp member
    exact (chars byte (data byte byteMem)).2 (solid byte byteMem).2

/-- White space in XML. -/
theorem charData_blank {gap : List UInt8} (blank : ∀ byte ∈ gap, isBlank byte = true) :
    CharData (asciiChars gap) ∧ utf8 (asciiChars gap) = gap := by
  have data : ∀ byte ∈ gap, isDataByte byte = true := fun byte member =>
    isDataByte_of_isBlank byte (blank byte member)
  exact ⟨charData_asciiChars data, utf8_data data⟩

theorem utf8_name {name : List UInt8} (named : IsXmlName name) : utf8 (asciiChars name) = name :=
  utf8_asciiChars fun byte member =>
    (char_of_isNameByte byte (named.isName.bytes byte member)).1

theorem isName_asciiChars {name : List UInt8} (named : IsXmlName name) :
    isName (asciiChars name) = true := by
  obtain ⟨first, letters, rfl⟩ := List.exists_cons_of_ne_nil named.isName.nonempty
  have bytes := List.forall_mem_cons.mp named.isName.bytes
  have start := (char_of_isNameByte first bytes.1).2.2 (named.letter first rfl)
  have rest : (asciiChars letters).all isNameChar = true := by
    rw [List.all_eq_true]
    intro char member
    obtain ⟨byte, byteMem, rfl⟩ := List.mem_map.mp member
    exact (char_of_isNameByte byte (bytes.2 byte byteMem)).2.1
  exact Bool.and_eq_true_iff.mpr ⟨start, rest⟩

end Ascii

section Lettered

mutual

/-- The tree has no attributes, and the names in it begin with a letter. -/
def isLettered : Tree → Bool
  | .text _ => true
  | .tag name attrs subs =>
      name.head?.all (97 ≤ ·) && attrs.isEmpty && areLettered subs

def areLettered : List Tree → Bool
  | [] => true
  | tree :: trees => isLettered tree && areLettered trees

end

theorem areLettered_append (first second : List Tree) :
    areLettered (first ++ second) = (areLettered first && areLettered second) := by
  induction first with
  | nil => rfl
  | cons tree first ih => rw [List.cons_append, areLettered, areLettered, ih, Bool.and_assoc]

/-- ASCII text in which no character means anything but the tags. -/
theorem writesXml_of_writes {outer : List (List UInt8)} {trees : List Tree} {bytes : List UInt8}
    (writes : Writes outer trees bytes) (isAscii : bytes.all isXmlByte = true)
    (lettered : areLettered trees = true) : WritesXml outer trees bytes := by
  have blanks : ∀ byte, isspace byte = true → isXmlByte byte = true → isBlank byte = true :=
    forall_byte (by decide +kernel)
  have data : ∀ byte, isPlain byte = true → isXmlByte byte = true → isDataByte byte = true :=
    forall_byte (by decide +kernel)
  have headOf : ∀ {name : List UInt8} {attrs : List (List UInt8 × List UInt8)},
      IsHead name attrs → name.head?.all (97 ≤ ·) = true → attrs.isEmpty = true →
        IsXmlHead name attrs := by
    intro name attrs head letter noAttrs
    obtain rfl := List.isEmpty_iff.mp noAttrs
    refine ⟨⟨head.name, ?_⟩, List.forall_mem_nil _, List.forall_mem_nil _, List.nodup_nil⟩
    intro first found
    simpa [show name.head? = some first from found] using letter
  have gapOf : ∀ {gap : List UInt8}, White gap → gap.all isXmlByte = true →
      ∀ byte ∈ gap, isBlank byte = true := by
    intro gap isWhite isXml byte member
    exact blanks byte (isWhite byte member) (List.all_eq_true.mp isXml byte member)
  induction writes with
  | white isWhite => exact .white (gapOf isWhite isAscii)
  | @leaf outer gap name text bytes attrs trees isWhite head fresh isText rest ih =>
      simp only [List.all_append, Bool.and_eq_true] at isAscii
      simp only [areLettered, isLettered, Bool.and_eq_true] at lettered
      have isXml : ∀ byte ∈ text, isDataByte byte = true := fun byte member =>
        data byte (isText.plain byte member) (List.all_eq_true.mp isAscii.2.2.1 byte member)
      have line := WritesXml.leaf (gapOf isWhite isAscii.1)
        (headOf head lettered.1.1.1 lettered.1.1.2) fresh
        ⟨_, utf8_data isXml, charData_asciiChars isXml⟩ (ih isAscii.2.2.2.2 lettered.2)
      rwa [readText_of_isText isText] at line
  | empty isWhite head fresh _ ih =>
      simp only [List.all_append, Bool.and_eq_true] at isAscii
      simp only [areLettered, isLettered, Bool.and_eq_true] at lettered
      exact .empty (gapOf isWhite isAscii.1) (headOf head lettered.1.1.1 lettered.1.1.2) fresh
        (ih isAscii.2.2 lettered.2)
  | node isWhite head fresh _ _ insideIh ih =>
      simp only [List.all_append, Bool.and_eq_true] at isAscii
      simp only [areLettered, isLettered, Bool.and_eq_true] at lettered
      exact .node (gapOf isWhite isAscii.1) (headOf head lettered.1.1.1 lettered.1.1.2) fresh
        (insideIh isAscii.2.2.1 lettered.1.2) (ih isAscii.2.2.2.2 lettered.2)

end Lettered

section Content

variable {name value chars : List Char} {attrs : List (List Char × List Char)}

theorem encode_marks :
    String.utf8EncodeChar ' ' = [32] ∧ String.utf8EncodeChar quot = [34] ∧
      String.utf8EncodeChar '/' = [47] ∧ String.utf8EncodeChar '<' = [60] ∧
        String.utf8EncodeChar '=' = [61] ∧ String.utf8EncodeChar '>' = [62] := by
  decide

theorem white_nil : XmlDocument.White [] :=
  List.forall_mem_nil _

/-- An attribute as it is written most simply. -/
theorem attributes_cons (named : isName name = true) (plain : PlainValue value)
    (rest : Attributes attrs chars) :
    Attributes ((name, value) :: attrs)
      (' ' :: (name ++ '=' :: quot :: (value ++ quot :: chars))) := by
  have blank : XmlDocument.White [' '] := by
    intro char member
    rw [List.mem_singleton.mp member]
    rfl
  have isValue : AttValue quot value value :=
    XmlDocument.attValue_of_plain plain.plain plain.solid
  exact .cons (List.cons_ne_nil _ _) blank named white_nil white_nil (.inl rfl) isValue rest

/-- The attributes in a tag are attributes of XML. -/
theorem exists_attributes {attrs : List (List UInt8 × List UInt8)}
    (vars : ∀ attr ∈ attrs, IsXmlName attr.1) (values : ∀ attr ∈ attrs, IsXmlValue attr.2) :
    ∃ attrs' chars, Attributes attrs' chars ∧ utf8 chars = attrsText attrs ∧
      (attrs'.map Prod.fst).map utf8 = attrs.map Prod.fst := by
  induction attrs with
  | nil => exact ⟨[], [], .nil, rfl, rfl⟩
  | cons attr attrs ih =>
      obtain ⟨var, value⟩ := attr
      rw [List.forall_mem_cons] at vars values
      obtain ⟨attrs', chars, isAttrs, text, names⟩ := ih vars.2 values.2
      obtain ⟨valueChars, valueText, plain⟩ := values.1
      have line := attributes_cons (isName_asciiChars vars.1) plain isAttrs
      have varText : utf8 (asciiChars var) = var := utf8_name vars.1
      refine ⟨_, _, line, ?_, ?_⟩
      · rw [attrsText_cons]
        simp only [utf8_cons, utf8_append, encode_marks, varText, valueText, text,
          List.cons_append, List.nil_append]
      · simp only [List.map_cons, varText, names]

/-- A tag as it is written most simply. -/
theorem exists_tag {name : List UInt8} {attrs : List (List UInt8 × List UInt8)}
    (head : IsXmlHead name attrs) :
    ∃ attrs' chars, Attributes attrs' chars ∧ (attrs'.map Prod.fst).Nodup ∧
      isName (asciiChars name) = true ∧
        utf8 (asciiChars name ++ chars) = tagHead name attrs := by
  obtain ⟨attrs', chars, isAttrs, text, names⟩ := exists_attributes head.vars head.values
  refine ⟨attrs', chars, isAttrs, ?_, isName_asciiChars head.name, ?_⟩
  · have unique := head.unique
    rw [← names] at unique
    exact unique.of_map
  · rw [utf8_append, text, utf8_name head.name]
    rfl

/-- Every such text is the content of elements in XML. -/
theorem exists_content {outer : List (List UInt8)} {trees : List Tree} {bytes : List UInt8}
    (writes : WritesXml outer trees bytes) :
    ∃ nodes chars, Content nodes chars ∧ utf8 chars = bytes := by
  have elementOf : ∀ {gap name inner bytes : List UInt8} {nodes children : List Node}
      {attrs : List (List UInt8 × List UInt8)} {chars innerChars : List Char},
      (∀ byte ∈ gap, isBlank byte = true) → IsXmlHead name attrs →
        Content children innerChars → utf8 innerChars = inner → Content nodes chars →
          utf8 chars = bytes → ∃ nodes chars, Content nodes chars ∧
            utf8 chars = gap ++ (opening name attrs ++ (inner ++ (closing name ++ bytes))) := by
    rintro gap name _ _ nodes children attrs chars innerChars blank head inside rfl isRest rfl
    obtain ⟨isData, gapText⟩ := charData_blank blank
    obtain ⟨attrs', attrChars, isAttrs, unique, named, text⟩ := exists_tag head
    have markup := Markup.element named isAttrs unique white_nil inside white_nil
    refine ⟨_, _, .cons isData markup isRest, ?_⟩
    rw [opening, closing, ← text]
    simp only [utf8_cons, utf8_append, encode_marks, utf8_name head.name, gapText,
      List.append_assoc, List.cons_append, List.nil_append]
  induction writes with
  | white blank =>
      obtain ⟨isData, gapText⟩ := charData_blank blank
      exact ⟨_, _, .chars isData, gapText⟩
  | leaf blank head fresh isText rest ih =>
      obtain ⟨nodes, chars, isRest, restText⟩ := ih
      obtain ⟨textChars, textEq, isData⟩ := isText
      exact elementOf blank head (.chars isData) textEq isRest restText
  | @empty outer gap name bytes attrs trees blank head fresh rest ih =>
      obtain ⟨nodes, chars, isRest, rfl⟩ := ih
      obtain ⟨isData, gapText⟩ := charData_blank blank
      obtain ⟨attrs', attrChars, isAttrs, unique, named, text⟩ := exists_tag head
      have markup := Markup.empty named isAttrs unique white_nil
      refine ⟨_, _, .cons isData markup isRest, ?_⟩
      rw [single, ← text]
      simp only [utf8_cons, utf8_append, encode_marks, gapText, List.append_assoc,
        List.cons_append, List.nil_append]
  | node blank head fresh inside rest insideIh ih =>
      obtain ⟨children, inner, isInside, insideText⟩ := insideIh
      obtain ⟨nodes, chars, isRest, restText⟩ := ih
      exact elementOf blank head isInside insideText isRest restText

end Content

/-- What stands before the first `>` outside of quotation marks, and what follows it. -/
def splitHead : Bool → List UInt8 → List UInt8 × List UInt8
  | _, [] => ([], [])
  | quoted, byte :: bytes =>
      if byte = 62 ∧ quoted = false then ([], bytes)
      else
        let split := splitHead (quoted != (byte == 34)) bytes
        (byte :: split.1, split.2)

/-- `readTrees` with quotation marks. -/
def readXmlTrees : Nat → List UInt8 → List Tree × List UInt8
  | 0, _ => ([], [])
  | fuel + 1, bytes =>
      let texts := readText (bytes.takeWhile (· ≠ 60))
      match bytes.dropWhile (· ≠ 60) with
      | [] => (texts, [])
      | _ :: rest =>
          let split := splitHead false rest
          if split.1.head? = some 47 then (texts, split.2)
          else if split.1.getLast? = some 47 then
            let siblings := readXmlTrees fuel split.2
            (texts ++ readTag split.1.dropLast [] :: siblings.1, siblings.2)
          else
            let inner := readXmlTrees fuel split.2
            let siblings := readXmlTrees fuel inner.2
            (texts ++ readTag split.1 inner.1 :: siblings.1, siblings.2)

section Reader

theorem splitHead_append {quoted : Bool} {text : List UInt8}
    (free : ∀ byte ∈ text, byte ≠ 34 ∧ (byte = 62 → quoted = true)) (rest : List UInt8) :
    splitHead quoted (text ++ rest) =
      (text ++ (splitHead quoted rest).1, (splitHead quoted rest).2) := by
  induction text with
  | nil => rfl
  | cons byte text ih =>
      rw [List.forall_mem_cons] at free
      have inside : ¬ (byte = 62 ∧ quoted = false) := by
        rintro ⟨greater, outside⟩
        rw [free.1.2 greater] at outside
        contradiction
      have noQuote : (byte == 34) = false := beq_eq_false_iff_ne.mpr free.1.1
      rw [List.cons_append, splitHead, if_neg inside, noQuote, Bool.bne_false, ih free.2]
      rfl

theorem splitHead_quote (quoted : Bool) (rest : List UInt8) :
    splitHead quoted (34 :: rest) =
      (34 :: (splitHead (!quoted) rest).1, (splitHead (!quoted) rest).2) := by
  rw [splitHead, if_neg (fun greater => absurd greater.1 (by decide)), beq_self_eq_true,
    Bool.bne_true]

/-- A name is outside of quotation marks. -/
theorem free_of_isName {name : List UInt8} (isName : IsName name) :
    ∀ byte ∈ name, byte ≠ 34 ∧ (byte = 62 → false = true) := by
  intro byte member
  constructor
  · rintro rfl
    exact not_mem_of_isName isName (by decide) member
  · rintro rfl
    exact absurd member (not_mem_of_isName isName (by decide))

variable {attrs : List (List UInt8 × List UInt8)}

theorem splitHead_attrsText (vars : ∀ attr ∈ attrs, IsName attr.1)
    (values : ∀ attr ∈ attrs, (34 : UInt8) ∉ attr.2) (rest : List UInt8) :
    splitHead false (attrsText attrs ++ rest) =
      (attrsText attrs ++ (splitHead false rest).1, (splitHead false rest).2) := by
  induction attrs with
  | nil => rfl
  | cons attr attrs ih =>
      obtain ⟨var, value⟩ := attr
      rw [List.forall_mem_cons] at vars values
      have opened : ∀ byte ∈ 32 :: (var ++ [61]), byte ≠ 34 ∧ (byte = 62 → false = true) := by
        simp only [List.forall_mem_cons, List.forall_mem_append, List.not_mem_nil,
          false_implies, implies_true, and_true]
        exact ⟨by decide, free_of_isName vars.1, by decide⟩
      have inside : ∀ byte ∈ value, byte ≠ 34 ∧ (byte = 62 → true = true) := by
        intro byte member
        exact ⟨fun quote => values.1 (quote ▸ member), fun _ => rfl⟩
      have line : attrsText ((var, value) :: attrs) ++ rest =
          (32 :: (var ++ [61])) ++ 34 :: (value ++ 34 :: (attrsText attrs ++ rest)) := by
        rw [attrsText_cons]
        simp only [List.cons_append, List.append_assoc, List.nil_append]
      rw [line, splitHead_append opened, splitHead_quote, Bool.not_false,
        splitHead_append inside, splitHead_quote, Bool.not_true, ih vars.2 values.2,
        attrsText_cons]
      simp only [List.cons_append, List.append_assoc, List.nil_append]

variable {name : List UInt8}

theorem splitHead_tagHead (head : IsXmlHead name attrs) (rest : List UInt8) :
    splitHead false (tagHead name attrs ++ rest) =
      (tagHead name attrs ++ (splitHead false rest).1, (splitHead false rest).2) := by
  have attributes := splitHead_attrsText (fun attr member => (head.vars attr member).isName)
    (fun attr member => (head.values attr member).quote_not_mem) rest
  rw [tagHead, List.append_assoc, splitHead_append (free_of_isName head.name.isName), attributes,
    List.append_assoc]

theorem IsXmlHead.readTag (head : IsXmlHead name attrs) (subs : List Tree) :
    readTag (tagHead name attrs) subs = .tag name attrs subs :=
  readTag_tagHead head.name.isName (fun attr member => (head.vars attr member).isName)
    (fun attr member => (head.values attr member).quote_not_mem) subs

/-- The reader at a tag. -/
theorem readXmlTrees_tag (fuel : Nat) {gap bytes head behind : List UInt8}
    (noLess : (60 : UInt8) ∉ gap) (split : splitHead false bytes = (head, behind)) :
    readXmlTrees (fuel + 1) (gap ++ 60 :: bytes) =
      if head.head? = some 47 then (readText gap, behind)
      else if head.getLast? = some 47 then
        (readText gap ++ readTag head.dropLast [] :: (readXmlTrees fuel behind).1,
          (readXmlTrees fuel behind).2)
      else
        (readText gap ++ readTag head (readXmlTrees fuel behind).1 ::
            (readXmlTrees fuel (readXmlTrees fuel behind).2).1,
          (readXmlTrees fuel (readXmlTrees fuel behind).2).2) := by
  rw [readXmlTrees, takeWhile_append_stop noLess, dropWhile_append_stop noLess]
  simp only [split]

theorem readXmlTrees_ends {tail left bytes : List UInt8} (ends : Ends tail left) (fuel : Nat)
    (noLess : (60 : UInt8) ∉ bytes) :
    readXmlTrees (fuel + 1) (bytes ++ tail) = (readText bytes, left) := by
  cases ends with
  | stop =>
      have whole : bytes.takeWhile (· ≠ 60) = bytes :=
        List.takeWhile_eq_self_iff.mpr (ne_of_not_mem noLess)
      have nothing : bytes.dropWhile (· ≠ 60) = [] :=
        List.dropWhile_eq_nil_iff.mpr (ne_of_not_mem noLess)
      rw [List.append_nil, readXmlTrees, whole, nothing]
  | @closed name isName =>
      have free : ∀ byte ∈ 47 :: name, byte ≠ 34 ∧ (byte = 62 → false = true) :=
        List.forall_mem_cons.mpr ⟨by decide, free_of_isName isName⟩
      have split : splitHead false ((47 :: name) ++ 62 :: left) = (47 :: name, left) := by
        rw [splitHead_append free, splitHead, if_pos ⟨rfl, rfl⟩, List.append_nil]
      have line : closing name ++ left = 60 :: ((47 :: name) ++ 62 :: left) := by
        simp [closing]
      rw [line, readXmlTrees_tag fuel noLess split, if_pos List.head?_cons]

theorem less_not_mem_of_blank {gap : List UInt8} (blank : ∀ byte ∈ gap, isBlank byte = true) :
    (60 : UInt8) ∉ gap := fun member => absurd (blank 60 member) (by decide)

theorem readText_of_blank {gap : List UInt8} (blank : ∀ byte ∈ gap, isBlank byte = true) :
    readText gap = [] := by
  have white : ∀ byte, isBlank byte = true → isspace byte = true :=
    forall_byte (by decide +kernel)
  exact readText_of_white fun byte member => white byte (blank byte member)

/-- The reader at a tag that opens an element with something in it. -/
theorem readXmlTrees_opening {gap inner bytes tail left : List UInt8} {subs trees : List Tree}
    {fuel : Nat} (blank : ∀ byte ∈ gap, isBlank byte = true) (head : IsXmlHead name attrs)
    (inside : readXmlTrees fuel (inner ++ (closing name ++ (bytes ++ tail))) =
      (subs, bytes ++ tail))
    (rest : readXmlTrees fuel (bytes ++ tail) = (trees, left)) :
    readXmlTrees (fuel + 1)
        (gap ++ (opening name attrs ++ (inner ++ (closing name ++ bytes))) ++ tail) =
      (.tag name attrs subs :: trees, left) := by
  have line : gap ++ (opening name attrs ++ (inner ++ (closing name ++ bytes))) ++ tail =
      gap ++ 60 :: (tagHead name attrs ++ 62 ::
        (inner ++ (closing name ++ (bytes ++ tail)))) := by
    simp [opening]
  have split : splitHead false (tagHead name attrs ++ 62 ::
        (inner ++ (closing name ++ (bytes ++ tail)))) =
      (tagHead name attrs, inner ++ (closing name ++ (bytes ++ tail))) := by
    rw [splitHead_tagHead head, splitHead, if_pos ⟨rfl, rfl⟩, List.append_nil]
  have opened : (tagHead name attrs ++ []).head? ≠ some 47 := head?_tagHead head.name.isName []
  rw [List.append_nil] at opened
  rw [line, readXmlTrees_tag fuel (less_not_mem_of_blank blank) split, if_neg opened,
    if_neg (getLast?_tagHead head.name.isName), inside, rest, head.readTag,
    readText_of_blank blank, List.nil_append]

/-- Trees are read back from all ways to write them. -/
theorem readXmlTrees_writes {outer : List (List UInt8)} {trees : List Tree} {bytes : List UInt8}
    (writes : WritesXml outer trees bytes) {fuel : Nat} {tail left : List UInt8}
    (enough : bytes.length < fuel) (ends : Ends tail left) :
    readXmlTrees fuel (bytes ++ tail) = (trees, left) := by
  induction writes generalizing fuel tail left with
  | white blank =>
      obtain ⟨fuel, rfl⟩ := Nat.exists_eq_succ_of_ne_zero (Nat.ne_zero_of_lt enough)
      rw [readXmlTrees_ends ends fuel (less_not_mem_of_blank blank), readText_of_blank blank]
  | @leaf outer gap name text bytes attrs trees blank head fresh isText rest ih =>
      obtain ⟨fuel, rfl⟩ := Nat.exists_eq_succ_of_ne_zero (Nat.ne_zero_of_lt enough)
      simp only [List.length_append, opening, closing, List.length_cons, List.length_nil] at enough
      have inside : readXmlTrees fuel (text ++ (closing name ++ (bytes ++ tail))) =
          (readText text, bytes ++ tail) := by
        obtain ⟨less, rfl⟩ := Nat.exists_eq_succ_of_ne_zero (show fuel ≠ 0 by omega)
        exact readXmlTrees_ends (.closed head.name.isName _) less isText.less_not_mem
      exact readXmlTrees_opening blank head inside (ih (by omega) ends)
  | @empty outer gap name bytes attrs trees blank head fresh rest ih =>
      obtain ⟨fuel, rfl⟩ := Nat.exists_eq_succ_of_ne_zero (Nat.ne_zero_of_lt enough)
      simp only [List.length_append, single, List.length_cons, List.length_nil] at enough
      have line : gap ++ (single name attrs ++ bytes) ++ tail =
          gap ++ 60 :: (tagHead name attrs ++ 47 :: 62 :: (bytes ++ tail)) := by
        simp [single]
      have split : splitHead false (tagHead name attrs ++ 47 :: 62 :: (bytes ++ tail)) =
          (tagHead name attrs ++ [47], bytes ++ tail) := by
        rw [splitHead_tagHead head]
        rfl
      rw [line, readXmlTrees_tag fuel (less_not_mem_of_blank blank) split,
        if_neg (head?_tagHead head.name.isName [47]), if_pos List.getLast?_concat,
        ih (by omega) ends, List.dropLast_concat, head.readTag, readText_of_blank blank,
        List.nil_append]
  | @node outer gap name inner bytes attrs subs trees blank head fresh inside rest insideIh ih =>
      obtain ⟨fuel, rfl⟩ := Nat.exists_eq_succ_of_ne_zero (Nat.ne_zero_of_lt enough)
      simp only [List.length_append, opening, closing, List.length_cons, List.length_nil] at enough
      exact readXmlTrees_opening blank head
        (insideIh (by omega) (.closed head.name.isName (bytes ++ tail))) (ih (by omega) ends)

/-- All trees of a text. -/
def readXml (bytes : List UInt8) : List Tree :=
  (readXmlTrees (bytes.length + 1) bytes).1

theorem readXml_writes {trees : List Tree} {bytes : List UInt8}
    (writes : WritesXml [] trees bytes) : readXml bytes = trees := by
  have read := readXmlTrees_writes writes (Nat.lt_succ_self _) Ends.stop
  rw [List.append_nil] at read
  rw [readXml, read]

end Reader

/-- The parser reads the trees of all texts that are a way to write them in XML. -/
def ReadsXml (xmlParse : List UInt8 → Except Int (List Tree)) : Prop :=
  ∀ trees bytes, WritesXml [] trees bytes → xmlParse bytes = .ok trees

theorem readsXml_readXml : ReadsXml fun bytes => .ok (readXml bytes) :=
  fun _ _ writes => congrArg Except.ok (readXml_writes writes)

end Tunprox.XmlTree
