import Tunprox.XmlTree

/-!
# Documents of elements in XML

A document of elements with texts is well-formed in XML if its strings stand for themselves,
and then a processor finds the texts of the elements as they have been written.
-/

namespace Tunprox.ElementXml

open ElementText WrittenTree Utf8Text XmlTree
open XmlDocument (Attributes CharData Node Markup Content Misc textNodes child innerText)

/-- The names are tags, and the texts stand for themselves in XML. -/
structure XmlFormed (document : Document) : Prop where
  root : IsTag document.root
  attr : IsTag document.attr
  value : IsXmlValue document.value
  tags : ∀ element ∈ document.children, IsTag element.tag
  texts : ∀ element ∈ document.children, IsXmlText element.text
  others : ∀ element ∈ document.children, element.tag ≠ document.root

/-- The tree of an element, without the white space at the ends of its text. -/
def textTree (element : Element) : Tree :=
  .tag element.tag [] (readText element.text)

def documentTree (document : Document) : Tree :=
  .tag document.root [(document.attr, document.value)] (document.children.map textTree)

theorem isXmlName_of_isTag {tag : List UInt8} (isTag : IsTag tag) : IsXmlName tag where
  isName := .of_isTag isTag
  letter := by
    intro first found
    exact (isTag.2 first (List.mem_of_mem_head? found)).1

theorem isXmlHead_of_isTag {tag : List UInt8} (isTag : IsTag tag) : IsXmlHead tag [] :=
  ⟨isXmlName_of_isTag isTag, List.forall_mem_nil _, List.forall_mem_nil _, List.nodup_nil⟩

theorem blank_newline : ∀ byte ∈ ([10] : List UInt8), isBlank byte = true :=
  List.all_eq_true.mp (by decide)

theorem blank_indent : ∀ byte ∈ ([32, 32] : List UInt8), isBlank byte = true :=
  List.all_eq_true.mp (by decide)

theorem marks_eq :
    ascii "  <" = [32, 32, 60] ∧ ascii "<" = [60] ∧ ascii ">" = [62] ∧ ascii "</" = [60, 47] ∧
      ascii ">\n" = [62, 10] ∧ ascii " " = [32] ∧ ascii "=\"" = [61, 34] ∧
        ascii "\">\n" = [34, 62, 10] := by
  decide

/-- The lines of the elements are a way to write their trees. -/
theorem writesXml_elements {outer : List (List UInt8)} {elements : List Element}
    (tags : ∀ element ∈ elements, IsTag element.tag)
    (fresh : ∀ element ∈ elements, element.tag ∉ outer)
    (texts : ∀ element ∈ elements, IsXmlText element.text) :
    WritesXml outer (elements.map textTree) (elements.flatMap Element.bytes) := by
  induction elements with
  | nil => exact .white (List.forall_mem_nil _)
  | cons element elements ih =>
      rw [List.forall_mem_cons] at tags fresh texts
      have rest := (ih tags.2 fresh.2 texts.2).blank_append blank_newline
      have line := WritesXml.leaf blank_indent (isXmlHead_of_isTag tags.1) fresh.1 texts.1 rest
      simpa [textTree, Element.bytes, marks_eq, opening, closing, tagHead, attrsText] using line

/-- The document is a way to write its tree. -/
theorem writesXml_document {document : Document} (formed : XmlFormed document) :
    WritesXml [] [documentTree document] document.bytes := by
  have head : IsXmlHead document.root [(document.attr, document.value)] := by
    constructor
    · exact isXmlName_of_isTag formed.root
    · simpa using isXmlName_of_isTag formed.attr
    · simpa using formed.value
    · exact List.nodup_singleton _
  have elements : WritesXml [document.root] (document.children.map textTree) _ :=
    writesXml_elements formed.tags
      (fun element member => by simpa using formed.others element member) formed.texts
  have tree := WritesXml.node (List.forall_mem_nil _) head List.not_mem_nil
    (elements.blank_append blank_newline) (.white blank_newline)
  simpa [documentTree, Document.bytes, Document.opening, Document.closing, marks_eq, opening,
    closing, tagHead, attrsText] using tree

theorem innerText_textNodes (chars : List Char) : innerText (textNodes chars) = chars := by
  unfold textNodes
  split
  · rename_i empty
    rw [empty]
    rfl
  · exact List.append_nil chars

theorem child_textNodes (name chars : List Char) (nodes : List Node) :
    child name (textNodes chars ++ nodes) = child name nodes := by
  unfold textNodes
  split
  · rfl
  · rfl

theorem asciiChars_inj {first second : List UInt8} (isTag : IsTag first)
    (isTag' : IsTag second) : asciiChars first = asciiChars second ↔ first = second := by
  constructor
  · intro same
    rw [← utf8_name (isXmlName_of_isTag isTag), same, utf8_name (isXmlName_of_isTag isTag')]
  · rintro rfl
    rfl

/-- The lines of the elements in XML, where each element has the text that is written. -/
theorem exists_content_elements {elements : List Element}
    (tags : ∀ element ∈ elements, IsTag element.tag)
    (texts : ∀ element ∈ elements, IsXmlText element.text) {gap : List UInt8}
    (blank : ∀ byte ∈ gap, isBlank byte = true) :
    ∃ nodes chars, Content nodes chars ∧
      utf8 chars = gap ++ elements.flatMap Element.bytes ∧
        ∀ query, IsTag query →
          (child (asciiChars query) nodes).map (fun inner => utf8 (innerText inner)) =
            (elements.find? fun element => element.tag == query).map Element.text := by
  induction elements generalizing gap with
  | nil =>
      obtain ⟨isData, gapText⟩ := charData_blank blank
      refine ⟨_, _, .chars isData, by rw [gapText, List.flatMap_nil, List.append_nil], ?_⟩
      intro query isTag
      rw [← List.append_nil (textNodes _), child_textNodes]
      rfl
  | cons element elements ih =>
      rw [List.forall_mem_cons] at tags texts
      obtain ⟨isData, gapText⟩ := charData_blank (List.forall_mem_append.mpr ⟨blank, blank_indent⟩)
      obtain ⟨textChars, textEq, isText⟩ := texts.1
      obtain ⟨nodes, chars, isRest, restText, found⟩ := ih tags.2 texts.2 blank_newline
      have named := isXmlName_of_isTag tags.1
      have markup := Markup.element (isName_asciiChars named) .nil List.nodup_nil white_nil
        (.chars isText) white_nil
      refine ⟨_, _, .cons isData markup isRest, ?_, ?_⟩
      · simp only [utf8_append, utf8_cons, gapText, restText, textEq, encode_marks,
          utf8_name named, List.flatMap_cons, Element.bytes, marks_eq, List.append_assoc,
          List.cons_append, List.nil_append]
      · intro query isTag
        rw [child_textNodes, List.singleton_append, child, List.findSome?_cons, List.find?_cons]
        by_cases same : element.tag = query
        · have equal := (asciiChars_inj tags.1 isTag).mpr same
          simp only [if_pos equal, beq_iff_eq.mpr same, Option.map_some, innerText_textNodes,
            textEq]
        · have differ := (asciiChars_inj tags.1 isTag).not.mpr same
          simp only [if_neg differ, beq_eq_false_iff_ne.mpr same]
          exact found query isTag

/-- A document of elements in XML. -/
theorem exists_document {document : Document} (formed : XmlFormed document) :
    ∃ chars attrs nodes, utf8 chars = document.bytes ∧
      XmlDocument.Document (.element (asciiChars document.root) attrs nodes) chars ∧
        ∀ query, IsTag query →
          (child (asciiChars query) nodes).map (fun inner => utf8 (innerText inner)) =
            (document.children.find? fun element => element.tag == query).map Element.text := by
  obtain ⟨value, valueText, plain⟩ := formed.value
  obtain ⟨nodes, inner, content, innerEq, found⟩ :=
    exists_content_elements formed.tags formed.texts blank_newline
  have root := isXmlName_of_isTag formed.root
  have attr := isXmlName_of_isTag formed.attr
  have attributes := attributes_cons (isName_asciiChars attr) plain .nil
  have markup := Markup.element (isName_asciiChars root) attributes (List.nodup_singleton _)
    white_nil content white_nil
  have newline : Misc [Char.ofNat 10] := .space (by decide) .nil
  have newlineText : String.utf8EncodeChar (Char.ofNat 10) = [10] := by decide
  refine ⟨_, _, nodes, ?_, .mk .nil markup newline, found⟩
  simp only [Document.bytes, Document.opening, Document.closing, marks_eq, utf8_cons,
    utf8_append, utf8_nil, encode_marks, newlineText, utf8_name root, utf8_name attr, valueText,
    innerEq, List.append_assoc, List.cons_append, List.nil_append]

end Tunprox.ElementXml
