import Tunprox.ElementXml
import Tunprox.StatusReport

/-!
# The description of a device in XML

The name of a device is printed between quotation marks as it is.  If it stands for itself
there, the description is a document whose element `dev` has the name for its attribute, and
the list of all devices is a way to write the tree that the tool takes apart.
-/

namespace Tunprox.DevInfoXml

open ByteBuffer Device DevInfo StatusReport StatusParse
open ElementText (Element IsTag)
open ElementXml (blank_newline isXmlName_of_isTag isXmlHead_of_isTag)
open EventRoundTrip (decimal runs)
open Utf8Text (utf8 utf8_append utf8_cons)
open WrittenTree (Tree opening closing tagHead attrsText IsName)
open XmlDocument (Document Misc Markup isName)
open XmlTree

theorem areLettered_elementTrees {elements : List Element}
    (tags : ∀ element ∈ elements, IsTag element.tag) :
    areLettered (elements.map elementTree) = true := by
  induction elements with
  | nil => rfl
  | cons element elements ih =>
      rw [List.forall_mem_cons] at tags
      have letter : element.tag.head?.all (97 ≤ ·) = true := by
        obtain ⟨first, letters, tagEq⟩ := List.exists_cons_of_ne_nil tags.1.1
        have lower := (tags.1.2 first (by rw [tagEq]; exact List.mem_cons_self)).1
        rw [tagEq, List.head?_cons, Option.all_some]
        exact decide_eq_true lower
      rw [List.map_cons, areLettered, ih tags.2, elementTree, isLettered, letter]
      rfl

/-- The names of all elements of a tunnel begin with a letter. -/
theorem areLettered_tunTrees (tun : LdtTun) : areLettered (tunTrees tun) = true := by
  cases running : runs tun with
  | false =>
      rw [tunTrees_of_stopped running]
      rfl
  | true =>
      obtain ⟨state, tundata⟩ := exists_tundata running
      have addresses := areLettered_elementTrees (isTag_tunaddrElements state.tdat.addr)
      have ipv6 : areLettered (if state.tdat.addr.laddr.isIpv6
          then [.tag (ascii "ipv6") [] []] else []) = true := by
        split
        · decide
        · rfl
      have typeTree : areLettered [elementTree ⟨ascii "type", typeText state.tdat⟩] = true := rfl
      have last : areLettered [elementTree ⟨ascii "status",
            statusText state.tdat.numSubflow tun.pdevdown⟩,
          .tag (ascii "subflowlist") [] []] = true := rfl
      rw [tunTrees_of_runs running tundata, mpdccptunTrees, tunaddrTrees]
      simp only [areLettered_append, addresses, ipv6, typeTree, last, Bool.and_self]

/-- What is printed between the two tags of a device is XML. -/
theorem writesXml_devBody (numbers : DevNumbers) (tun : LdtTun) :
    WritesXml devOuter
      [elementTree ⟨ascii "mtu", decimal numbers.mtu⟩,
        elementTree ⟨ascii "ctime", decimal numbers.ctime⟩,
        elementTree ⟨ascii "mtime", decimal numbers.mtime⟩,
        .tag (ascii "tun") [] (tunTrees tun)]
      (devBody numbers tun) := by
  have isXml : ∀ byte, isLineByte byte = true → isXmlByte byte = true :=
    forall_byte (by decide +kernel)
  have isAscii : (devBody numbers tun).all isXmlByte = true :=
    List.all_eq_true.mpr fun byte member =>
      isXml byte (List.all_eq_true.mp (all_devBody numbers tun) byte member)
  have tunLettered : isLettered (.tag (ascii "tun") [] (tunTrees tun)) = true := by
    rw [isLettered, areLettered_tunTrees]
    rfl
  refine writesXml_of_writes (writes_devBody numbers tun) isAscii ?_
  simp only [areLettered, tunLettered]
  rfl

/-- The description of a device is a document. -/
theorem exists_document_devText {name : List UInt8} {value : List Char}
    (valueText : utf8 value = cstring name) (plain : PlainValue value) (numbers : DevNumbers)
    (tun : LdtTun) :
    ∃ chars children, utf8 chars = devText name numbers tun ∧
      Document (.element "dev".toList [("name".toList, value)] children) chars := by
  obtain ⟨children, inner, content, innerText⟩ :=
    exists_content ((writesXml_devBody numbers tun).blank_append blank_newline)
  have attributes := attributes_cons (show isName "name".toList = true by decide) plain .nil
  have markup := Markup.element (show isName "dev".toList = true by decide) attributes
    (List.nodup_singleton _) white_nil content white_nil
  have newline : Misc [Char.ofNat 10] := .space (by decide) .nil
  refine ⟨_, children, ?_, .mk .nil markup newline⟩
  have names : utf8 "dev".toList = ascii "dev" ∧ utf8 "name".toList = ascii "name" ∧
      String.utf8EncodeChar (Char.ofNat 10) = [10] := by decide
  simp only [devText_node, opening, closing, tagHead, attrsText, List.flatMap_cons,
    List.flatMap_nil, utf8_cons, utf8_append, Utf8Text.utf8_nil, encode_marks, names, valueText,
    innerText, List.append_assoc, List.cons_append, List.nil_append]

/-- It is a way to write its tree. -/
theorem writesXml_devText {name : List UInt8} (isValue : IsXmlValue (cstring name))
    (numbers : DevNumbers) (tun : LdtTun) :
    WritesXml [ascii "ldtlist"] [devTree name numbers tun] (devText name numbers tun) := by
  have tags : IsTag (ascii "dev") ∧ IsTag (ascii "name") := by decide
  have fresh : ascii "dev" ∉ [ascii "ldtlist"] := by decide
  have head : IsXmlHead (ascii "dev") [(ascii "name", cstring name)] := by
    constructor
    · exact isXmlName_of_isTag tags.1
    · intro attr member
      rw [List.mem_singleton.mp member]
      exact isXmlName_of_isTag tags.2
    · intro attr member
      rw [List.mem_singleton.mp member]
      exact isValue
    · exact List.nodup_singleton _
  have body := (writesXml_devBody numbers tun).blank_append blank_newline
  have dev : WritesXml [ascii "ldtlist"] [devTree name numbers tun] _ :=
    .node (List.forall_mem_nil _) head fresh body (.white blank_newline)
  simpa only [devText_node, List.nil_append] using dev

section
variable (numbers : NdevId → DevNumbers) (system : System)

theorem writesXml_descriptions {ids : List NdevId}
    (values : ∀ id ∈ ids, IsXmlValue (cstring (system.netdev id).name)) :
    WritesXml [ascii "ldtlist"]
      (ids.map fun id => devTree (system.netdev id).name (numbers id) (tunOf system id))
      (ids.map (description numbers system)).flatten := by
  induction ids with
  | nil => exact .white (List.forall_mem_nil _)
  | cons id ids ih =>
      rw [List.forall_mem_cons] at values
      have here := writesXml_devText values.1 (numbers id) (tunOf system id)
      exact here.append (ih values.2)

/-- The list of all devices is a way to write its tree. -/
theorem writesXml_listText {ids : List NdevId}
    (values : ∀ id ∈ describedDevices system ids, IsXmlValue (cstring (system.netdev id).name)) :
    WritesXml [] [listTree numbers system ids] (listText numbers system ids) := by
  have isTag : IsTag (ascii "ldtlist") := by decide
  have inside := (writesXml_descriptions numbers system values).blank_append blank_newline
  have list : WritesXml [] [listTree numbers system ids] _ :=
    .node (List.forall_mem_nil _) (isXmlHead_of_isTag isTag) List.not_mem_nil inside
      (.white blank_newline)
  simpa only [listText_node, List.nil_append] using list

end

end Tunprox.DevInfoXml
