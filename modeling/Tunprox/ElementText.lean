import Mathlib.Data.List.Basic
import Tunprox.CString

/-!
# Documents of elements with texts

An XML document of a simple kind: a root element with one attribute, and below it elements
that hold a text each, one on a line.  The file has the way such a document is written, what
a search for an element gives, and a reader that finds the elements again.
-/

namespace Tunprox.ElementText

/-- Neither the zero byte nor one of the characters that mean something in XML. -/
def isPlain (byte : UInt8) : Bool :=
  !(byte == 0 || byte == 34 || byte == 38 || byte == 39 || byte == 60 || byte == 62)

def Plain (text : List UInt8) : Prop :=
  ∀ byte ∈ text, isPlain byte = true

/-- A name of small letters. -/
def IsTag (tag : List UInt8) : Prop :=
  tag ≠ [] ∧ ∀ byte ∈ tag, 97 ≤ byte ∧ byte ≤ 122

instance (text : List UInt8) : Decidable (Plain text) :=
  List.decidableBAll (fun byte => isPlain byte = true) text

instance (tag : List UInt8) : Decidable (IsTag tag) :=
  have : Decidable (∀ byte ∈ tag, 97 ≤ byte ∧ byte ≤ 122) :=
    List.decidableBAll (fun byte => 97 ≤ byte ∧ byte ≤ 122) tag
  instDecidableAnd

/-- A text without the white space at its two ends. -/
def strip (text : List UInt8) : List UInt8 :=
  ((text.dropWhile isspace).reverse.dropWhile isspace).reverse

structure Element where
  tag : List UInt8
  text : List UInt8

structure Document where
  root : List UInt8
  attr : List UInt8
  value : List UInt8
  children : List Element

def Element.bytes (element : Element) : List UInt8 :=
  ascii "  <" ++ element.tag ++ ascii ">" ++ element.text ++ ascii "</" ++ element.tag ++
    ascii ">\n"

def Document.opening (document : Document) : List UInt8 :=
  ascii "<" ++ document.root ++ ascii " " ++ document.attr ++ ascii "=\"" ++ document.value ++
    ascii "\">\n"

def Document.closing (document : Document) : List UInt8 :=
  ascii "</" ++ document.root ++ ascii ">\n"

def Document.bytes (document : Document) : List UInt8 :=
  document.opening ++ document.children.flatMap Element.bytes ++ document.closing

/-- The names are tags, and the texts hold no character that means something in XML. -/
structure WellFormed (document : Document) : Prop where
  root : IsTag document.root
  attr : IsTag document.attr
  value : Plain document.value
  tags : ∀ element ∈ document.children, IsTag element.tag
  texts : ∀ element ∈ document.children, Plain element.text

/-- The text of the first element with the tag, without the white space at its ends. -/
def find (elements : List Element) (tag : List UInt8) : Option (List UInt8) :=
  (elements.find? fun element => element.tag == tag).map fun element => strip element.text

/-- What follows the first occurrence of the byte. -/
def after (byte : UInt8) (bytes : List UInt8) : List UInt8 :=
  (bytes.dropWhile (· ≠ byte)).drop 1

/-- The elements up to the first closing tag that closes none of them. -/
def readElements : Nat → List UInt8 → List Element
  | 0, _ => []
  | fuel + 1, bytes =>
      match after 60 bytes with
      | [] => []
      | first :: rest =>
          if first = 47 then []
          else
            let body := after 62 (first :: rest)
            ⟨(first :: rest).takeWhile (· ≠ 62), body.takeWhile (· ≠ 60)⟩ ::
              readElements fuel (after 62 (body.dropWhile (· ≠ 60)))

/-- The elements below the root. -/
def readDocument (bytes : List UInt8) : List Element :=
  readElements bytes.length (after 62 bytes)

/-- An element that is there or not. -/
def optionalElement (tag : List UInt8) (text : Option (List UInt8)) : List Element :=
  (text.map (Element.mk tag)).toList

theorem strip_of_no_space {text : List UInt8} (solid : ∀ byte ∈ text, isspace byte = false) :
    strip text = text := by
  have kept {bytes : List UInt8} (same : ∀ byte ∈ bytes, isspace byte = false) :
      bytes.dropWhile isspace = bytes := by
    cases bytes with
    | nil => rfl
    | cons first rest => rw [List.dropWhile_cons, same first List.mem_cons_self]; rfl
  have reversed : ∀ byte ∈ text.reverse, isspace byte = false := by
    intro byte member
    exact solid byte (List.mem_reverse.mp member)
  rw [strip, kept solid, kept reversed, List.reverse_reverse]

section
variable {byte : UInt8} {before : List UInt8}

theorem ne_of_not_mem (free : byte ∉ before) :
    ∀ other ∈ before, decide (other ≠ byte) = true := by
  intro other member
  exact decide_eq_true fun same => free (same ▸ member)

theorem dropWhile_append_stop (free : byte ∉ before) (rest : List UInt8) :
    (before ++ byte :: rest).dropWhile (· ≠ byte) = byte :: rest := by
  rw [List.dropWhile_append_of_pos (ne_of_not_mem free)]
  simp

theorem takeWhile_append_stop (free : byte ∉ before) (rest : List UInt8) :
    (before ++ byte :: rest).takeWhile (· ≠ byte) = before := by
  rw [List.takeWhile_append_of_pos (ne_of_not_mem free)]
  simp

theorem after_append (free : byte ∉ before) (rest : List UInt8) :
    after byte (before ++ byte :: rest) = rest := by
  rw [after, dropWhile_append_stop free]
  rfl

end

theorem not_mem_of_plain {text : List UInt8} (plain : Plain text) {byte : UInt8}
    (special : isPlain byte = false) : byte ∉ text := by
  intro member
  rw [plain byte member] at special
  contradiction

theorem not_mem_of_isTag {tag : List UInt8} (isTag : IsTag tag) {byte : UInt8}
    (small : byte < 97) : byte ∉ tag := by
  intro member
  exact absurd (isTag.2 byte member).1 (UInt8.not_le.mpr small)

/-- An element is read, and reading goes on at the end of its line. -/
theorem readElements_element {gap : List UInt8} {element : Element} (fuel : Nat)
    (noTag : (60 : UInt8) ∉ gap) (tag : IsTag element.tag) (text : Plain element.text)
    (rest : List UInt8) :
    readElements (fuel + 1) (gap ++ (element.bytes ++ rest)) =
      element :: readElements fuel ([10] ++ rest) := by
  have noLess := not_mem_of_plain text (show isPlain 60 = false by decide)
  have noGreater := not_mem_of_isTag tag (show (62 : UInt8) < 97 by decide)
  have noSlash := not_mem_of_isTag tag (show (47 : UInt8) < 97 by decide)
  obtain ⟨first, letters, tagEq⟩ := List.exists_cons_of_ne_nil tag.1
  have opened : after 60 (gap ++ (element.bytes ++ rest)) =
      element.tag ++ 62 :: (element.text ++ 60 :: (47 :: element.tag ++ 62 :: 10 :: rest)) := by
    have line : gap ++ (element.bytes ++ rest) = (gap ++ [32, 32]) ++ 60 ::
        (element.tag ++ 62 ::
          (element.text ++ 60 :: (47 :: element.tag ++ 62 :: 10 :: rest))) := by
      simp only [Element.bytes, show ascii "  <" = [32, 32, 60] by decide,
        show ascii ">" = [62] by decide, show ascii "</" = [60, 47] by decide,
        show ascii ">\n" = [62, 10] by decide, List.append_assoc, List.cons_append,
        List.nil_append]
    rw [line, after_append]
    simpa using noTag
  have letter : first ≠ 47 := by
    rintro rfl
    exact noSlash (tagEq ▸ List.mem_cons_self)
  have ended : (62 : UInt8) ∉ 60 :: 47 :: element.tag := by
    simpa using noGreater
  rw [readElements, opened]
  have head : element.tag ++ 62 ::
        (element.text ++ 60 :: (47 :: element.tag ++ 62 :: 10 :: rest)) =
      first :: (letters ++ 62 ::
        (element.text ++ 60 :: (47 :: element.tag ++ 62 :: 10 :: rest))) := by
    rw [tagEq]
    rfl
  rw [head]
  simp only [if_neg letter]
  rw [← head, takeWhile_append_stop noGreater, after_append noGreater,
    takeWhile_append_stop noLess, dropWhile_append_stop noLess]
  exact congrArg (fun bytes => element :: readElements fuel bytes)
    (after_append ended (10 :: rest))

/-- The closing tag of the root ends the elements. -/
theorem readElements_closing {gap : List UInt8} (fuel : Nat) (noTag : (60 : UInt8) ∉ gap)
    (document : Document) : readElements fuel (gap ++ document.closing) = [] := by
  cases fuel with
  | zero => rfl
  | succ fuel =>
      have closed : after 60 (gap ++ document.closing) = 47 :: (document.root ++ [62, 10]) := by
        rw [Document.closing, show ascii "</" = [60, 47] by decide,
          show ascii ">\n" = [62, 10] by decide]
        exact after_append noTag (47 :: (document.root ++ [62, 10]))
      rw [readElements, closed]
      simp

theorem readElements_flatMap {gap : List UInt8} {elements : List Element} {fuel : Nat}
    (noTag : (60 : UInt8) ∉ gap) (tags : ∀ element ∈ elements, IsTag element.tag)
    (texts : ∀ element ∈ elements, Plain element.text) (enough : elements.length ≤ fuel)
    (document : Document) :
    readElements fuel (gap ++ (elements.flatMap Element.bytes ++ document.closing)) =
      elements := by
  induction elements generalizing gap fuel with
  | nil => exact readElements_closing fuel noTag document
  | cons element elements ih =>
      cases fuel with
      | zero => simp at enough
      | succ fuel =>
          rw [List.flatMap_cons, List.append_assoc,
            readElements_element fuel noTag (tags element List.mem_cons_self)
              (texts element List.mem_cons_self)]
          rw [ih (by decide) (fun other member => tags other (List.mem_cons_of_mem _ member))
            (fun other member => texts other (List.mem_cons_of_mem _ member))
            (by simpa using enough)]

theorem length_le_flatMap (elements : List Element) :
    elements.length ≤ (elements.flatMap Element.bytes).length := by
  induction elements with
  | nil => exact Nat.le_refl _
  | cons element elements ih =>
      have line : 1 ≤ element.bytes.length := by
        have indented : (ascii "  <").length = 3 := by decide
        simp only [Element.bytes, List.length_append, indented]
        omega
      rw [List.flatMap_cons, List.length_append, List.length_cons]
      omega

/-- A document is read back. -/
theorem readDocument_bytes {document : Document} (wellFormed : WellFormed document) :
    readDocument document.bytes = document.children := by
  have noRoot := not_mem_of_isTag wellFormed.root (show (62 : UInt8) < 97 by decide)
  have noAttr := not_mem_of_isTag wellFormed.attr (show (62 : UInt8) < 97 by decide)
  have noValue := not_mem_of_plain wellFormed.value (show isPlain 62 = false by decide)
  have opened : after 62 document.bytes =
      [10] ++ (document.children.flatMap Element.bytes ++ document.closing) := by
    have line : document.bytes =
        (60 :: document.root ++ 32 :: document.attr ++ 61 :: 34 :: document.value ++ [34]) ++
          62 :: ([10] ++ (document.children.flatMap Element.bytes ++ document.closing)) := by
      simp only [Document.bytes, Document.opening, show ascii "<" = [60] by decide,
        show ascii " " = [32] by decide, show ascii "=\"" = [61, 34] by decide,
        show ascii "\">\n" = [34, 62, 10] by decide, List.append_assoc, List.cons_append,
        List.nil_append]
    rw [line, after_append]
    simp [noRoot, noAttr, noValue]
  have enough : document.children.length ≤ document.bytes.length := by
    have inner := length_le_flatMap document.children
    simp only [Document.bytes, List.length_append]
    omega
  rw [readDocument, opened]
  exact readElements_flatMap (by decide) wellFormed.tags wellFormed.texts enough document

/-- A document is a string. -/
theorem bytes_ne_zero {document : Document} (wellFormed : WellFormed document) :
    ∀ byte ∈ document.bytes, byte ≠ 0 := by
  have tagFree {tag : List UInt8} (isTag : IsTag tag) : (0 : UInt8) ∉ tag :=
    not_mem_of_isTag isTag (by decide)
  have textFree {text : List UInt8} (plain : Plain text) : (0 : UInt8) ∉ text :=
    not_mem_of_plain plain (by decide)
  have root := tagFree wellFormed.root
  have children : (0 : UInt8) ∉ document.children.flatMap Element.bytes := by
    intro member
    obtain ⟨element, elementMem, inLine⟩ := List.mem_flatMap.mp member
    have tag := tagFree (wellFormed.tags element elementMem)
    have text := textFree (wellFormed.texts element elementMem)
    have marks : (0 : UInt8) ∉ ascii "  <" ∧ (0 : UInt8) ∉ ascii ">" ∧
        (0 : UInt8) ∉ ascii "</" ∧ (0 : UInt8) ∉ ascii ">\n" := by decide
    simp only [Element.bytes, List.mem_append, tag, text, marks, or_self] at inLine
  have marks : (0 : UInt8) ∉ ascii "<" ∧ (0 : UInt8) ∉ ascii " " ∧
      (0 : UInt8) ∉ ascii "=\"" ∧ (0 : UInt8) ∉ ascii "\">\n" ∧ (0 : UInt8) ∉ ascii "</" ∧
        (0 : UInt8) ∉ ascii ">\n" := by decide
  rintro byte member rfl
  simp only [Document.bytes, Document.opening, Document.closing, List.mem_append, root,
    tagFree wellFormed.attr, textFree wellFormed.value, children, marks, or_self] at member

end Tunprox.ElementText
