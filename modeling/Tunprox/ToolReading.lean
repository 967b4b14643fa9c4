import Tunprox.XmlReading

/-!
# What the tool reads with its own parser

The kernel prints the name of a device between quotation marks and between tags, and the tool
parses it with frlib.  Names with brackets, which are no XML, get through, and so do most
ampersands; what does not is a reference that the parser replaces.  The file tells exactly which
names the tool shows as they are, for the status as well as for events.
-/

namespace Tunprox.ToolReading

open DevInfo Device StatusReport StatusParse
open ElementText (Element Document IsTag Plain WellFormed strip not_mem_of_plain)
open ElementXml (textTree documentTree)
open Event (EvInfo EventText)
open EventRoundTrip (ReadsElements document elementsOf)
open Netlink (XmlEvent)
open CommandResult (Request)
open NameInXml
open WaitEvent (ldtIfaceevParse2 tpGetparseflags)
open WrittenTree (Tree White IsName readText attrsText opening closing tagHead)
open XmlParser XmlNormalize XmlContent XmlReading

section Elements

variable {outer : List (List UInt8)}

theorem plainAttrs_nil : PlainAttrs [] :=
  ⟨List.forall_mem_nil _, List.forall_mem_nil _⟩

/-- A text and what the parser makes of it. -/
structure ShowsText (text shown : List UInt8) : Prop where
  noLess : (60 : UInt8) ∉ text
  normal : normalizeString text = some shown

theorem showsText_of_plain {text : List UInt8} (plain : Plain text) : ShowsText text text where
  noLess := not_mem_of_plain plain (by decide)
  normal := normalizeString_plain (not_mem_of_plain plain (by decide))
    (not_mem_of_plain plain (by decide))

/-- The lines of elements with texts; `shown` are the elements as they are read. -/
theorem reads_elements {elements shown : List Element}
    (tags : ∀ element ∈ elements, IsTag element.tag)
    (texts : List.Forall₂ (fun element element' => element.tag = element'.tag ∧
      ShowsText element.text element'.text) elements shown)
    {gap : List UInt8} (isWhite : White gap) :
    Reads outer (shown.map textTree) (gap ++ elements.flatMap Element.bytes) := by
  induction texts generalizing gap with
  | nil =>
      rw [List.flatMap_nil, List.append_nil]
      exact reads_white isWhite
  | @cons element element' elements shown here _ ih =>
      obtain ⟨tag, text⟩ := element
      obtain ⟨tag', text'⟩ := element'
      obtain ⟨rfl, shows⟩ := here
      rw [List.forall_mem_cons] at tags
      have blanks : White (gap ++ [32, 32]) :=
        WrittenTree.white_append isWhite (List.all_eq_true.mp (by decide))
      have inside : Reads (tag :: outer) (readText text') text :=
        reads_text shows.noLess shows.normal
      have line := reads_element blanks (.of_isTag tags.1) plainAttrs_nil inside
        (ih tags.2 white_newline)
      simpa [textTree, Element.bytes, ElementXml.marks_eq, opening, closing, tagHead, attrsText]
        using line

theorem plainAttrs_singleton {attr value : List UInt8} (isTag : IsTag attr)
    (plain : (34 : UInt8) ∉ value ∧ (38 : UInt8) ∉ value ∧ (0 : UInt8) ∉ value) :
    PlainAttrs [(attr, value)] where
  vars := by simpa using IsName.of_isTag isTag
  values := by simpa using plain

/-- The document of an event, as the tool reads it. -/
theorem reads_document {written read : Document} (root : IsTag written.root)
    (head : PlainAttrs [(written.attr, written.value)]) (rootEq : read.root = written.root)
    (attrEq : read.attr = written.attr) (valueEq : read.value = written.value)
    (tags : ∀ element ∈ written.children, IsTag element.tag)
    (texts : List.Forall₂ (fun element element' => element.tag = element'.tag ∧
      ShowsText element.text element'.text) written.children read.children) :
    Reads [] [documentTree read] written.bytes := by
  have children : Reads (written.root :: []) (read.children.map textTree) _ :=
    reads_elements tags texts white_newline
  have same : documentTree read =
      .tag written.root [(written.attr, written.value)] (read.children.map textTree) := by
    rw [documentTree, rootEq, attrEq, valueEq]
  have noGap : White [] := List.forall_mem_nil _
  have tree := reads_element noGap (.of_isTag root) head children (reads_white white_newline)
  rw [same]
  simpa [Document.bytes, Document.opening, Document.closing, ElementXml.marks_eq, opening,
    closing, tagHead, attrsText] using tree

end Elements

section Search

variable {query : List UInt8}

theorem strcaseeq_of_isTag {tag : List UInt8} (isTag : IsTag tag) (isQuery : IsTag query) :
    strcaseeq tag query = (tag == query) := by
  cases same : tag == query with
  | true =>
      rw [beq_iff_eq.mp same]
      exact strcaseeq_self query
  | false =>
      exact strcaseeq_of_isName (.of_isTag isTag) (.of_isTag isQuery) (beq_eq_false_iff_ne.mp same)

theorem findChild_textTrees {elements : List Element} (isQuery : IsTag query)
    (tags : ∀ element ∈ elements, IsTag element.tag) :
    findChild query (elements.map textTree) =
      (elements.find? fun element => element.tag == query).map fun element =>
        readText element.text := by
  induction elements with
  | nil => rfl
  | cons element elements ih =>
      rw [List.forall_mem_cons] at tags
      have rest := ih tags.2
      have name := strcaseeq_of_isTag tags.1 isQuery
      unfold findChild at rest ⊢
      rw [List.map_cons, List.findSome?_cons, textTree, List.find?_cons]
      simp only [name]
      cases element.tag == query with
      | true => rfl
      | false => exact rest

theorem searchSubs_readText (query text : List UInt8) :
    searchSubs query (readText text) = none := by
  unfold readText
  split <;> simp [searchSubs, searchTag]

theorem findChild_readText (query text : List UInt8) :
    findChild query (readText text) = none := by
  unfold readText
  split <;> rfl

theorem searchSubs_textTrees (query : List UInt8) (elements : List Element) :
    searchSubs query (elements.map textTree) = none := by
  induction elements with
  | nil => simp [searchSubs]
  | cons element elements ih =>
      have attr : xmltagGetattr [] query = none := rfl
      rw [List.map_cons, searchSubs, textTree, searchTag, attr]
      simp only [findChild_readText, searchSubs_readText, ih]

/-- `xml_search` finds the text of the first element with the name. -/
theorem xmlSearch_documentTree {document : Document} (isQuery : IsTag query)
    (root : IsTag document.root) (attr : IsTag document.attr)
    (tags : ∀ element ∈ document.children, IsTag element.tag) (noRoot : document.root ≠ query)
    (noAttr : document.attr ≠ query) :
    xmlSearch [documentTree document] query = ElementText.find document.children query := by
  have otherRoot : strcaseeq document.root query = false := by
    rw [strcaseeq_of_isTag root isQuery]
    exact beq_eq_false_iff_ne.mpr noRoot
  have otherAttr : strcaseeq document.attr query = false := by
    rw [strcaseeq_of_isTag attr isQuery]
    exact beq_eq_false_iff_ne.mpr noAttr
  have noAttrs : xmltagGetattr [] query = none := rfl
  have below : xmltagGetattr [(document.attr, document.value)] query = none := by
    simp [xmltagGetattr, otherAttr]
  have top : findChild query [documentTree document] = none := by
    simp [findChild, documentTree, otherRoot]
  have inside : searchTag query (documentTree document) =
      ElementText.find document.children query := by
    rw [documentTree, searchTag, below, ElementText.find]
    simp only [findChild_textTrees isQuery tags]
    cases document.children.find? fun element => element.tag == query with
    | none => exact searchSubs_textTrees query document.children
    | some element => exact congrArg some (tagText_readText element.text)
  rw [xmlSearch, searchTag, noAttrs]
  simp only [top, searchSubs, inside]
  cases ElementText.find document.children query with
  | none => rfl
  | some found => rfl

/-- The parser takes the documents of events apart. -/
theorem readsElements_frParse (undef : List UInt8 → Except Int (List Tree)) :
    ReadsElements fun bytes => (frParse undef bytes).map eventOf := by
  intro document wellFormed root attr
  have texts : List.Forall₂ (fun element element' => element.tag = element'.tag ∧
      ShowsText element.text element'.text) document.children document.children :=
    List.forall₂_same.mpr fun element member =>
      ⟨rfl, showsText_of_plain (wellFormed.texts element member)⟩
  have value := wellFormed.value
  have head : PlainAttrs [(document.attr, document.value)] :=
    plainAttrs_singleton wellFormed.attr ⟨not_mem_of_plain value (by decide),
      not_mem_of_plain value (by decide), not_mem_of_plain value (by decide)⟩
  have read := frParse_of_reads (reads_document wellFormed.root head rfl rfl rfl wellFormed.tags
    texts) undef
  have queries : IsTag (ascii "iface") ∧ IsTag (ascii "pdev") ∧ IsTag (ascii "desc") ∧
      IsTag (ascii "remaddr") ∧ IsTag (ascii "remport") ∧ IsTag (ascii "subflow") := by decide
  have search : ∀ query, IsTag query → ascii "event" ≠ query → ascii "type" ≠ query →
      xmlSearch [documentTree document] query = ElementText.find document.children query := by
    intro query isQuery noRoot noAttr
    exact xmlSearch_documentTree isQuery wellFormed.root wellFormed.attr wellFormed.tags
      (root ▸ noRoot) (attr ▸ noAttr)
  have event : eventOf [documentTree document] = elementsOf document.children := by
    rw [eventOf, elementsOf, search _ queries.1 (by decide) (by decide),
      search _ queries.2.1 (by decide) (by decide), search _ queries.2.2.1 (by decide) (by decide),
      search _ queries.2.2.2.1 (by decide) (by decide),
      search _ queries.2.2.2.2.1 (by decide) (by decide),
      search _ queries.2.2.2.2.2 (by decide) (by decide)]
  simp only [read, Except.map, event]

/-- frlib's parser reads all texts that the other results ask a parser to read, whatever it does
with texts for which C does not say it. -/
theorem reads_frParse (undef : List UInt8 → Except Int (List Tree)) :
    ReadsTrees (frParse undef) ∧ XmlTree.ReadsXml (frParse undef) ∧
      ReadsElements fun bytes => (frParse undef bytes).map eventOf :=
  ⟨readsTrees_frParse undef, readsXml_frParse undef, readsElements_frParse undef⟩

end Search

section Undefined

variable {outer : List (List UInt8)} {gap name bytes : List UInt8}

/-- The parser takes the bytes apart. -/
def Parses (outer : List (List UInt8)) (bytes : List UInt8) : Prop :=
  ∃ subs, Content outer subs bytes

/-- The parser takes the bytes apart, but one of the references in them is not defined. -/
def Undefined (outer : List (List UInt8)) (bytes : List UInt8) : Prop :=
  ∃ subs, Content outer subs bytes ∧ stripEntries subs = .error .wild

theorem parses_of_reads {trees : List Tree} (reads : Reads outer trees bytes) :
    Parses outer bytes := by
  obtain ⟨subs, -, content, -⟩ := reads
  exact ⟨subs, content⟩

theorem Undefined.parses (undefined : Undefined outer bytes) : Parses outer bytes := by
  obtain ⟨subs, content, -⟩ := undefined
  exact ⟨subs, content⟩

theorem frParse_of_undefined (undefined : Undefined [] bytes)
    (undef : List UInt8 → Except Int (List Tree)) : frParse undef bytes = undef bytes := by
  obtain ⟨subs, content, wild⟩ := undefined
  rw [frParse, xmlParse_of_content content, wild]

theorem stripEntries_append_wild {first second kept : List XmlSub}
    (one : stripEntries first = .ok kept) (wild : stripEntries second = .error .wild) :
    stripEntries (first ++ second) = .error .wild := by
  induction first generalizing kept with
  | nil => exact wild
  | cons sub first ih =>
      rw [stripEntries] at one
      rw [List.cons_append, stripEntries]
      cases here : stripEntry sub with
      | error fault => simp [here, Bind.bind, Except.bind] at one
      | ok left =>
          cases rest : stripEntries first with
          | error fault => simp [here, rest, Bind.bind, Except.bind] at one
          | ok others => simp [ih rest, Bind.bind, Except.bind]

theorem noLess_of_white (isWhite : White gap) : (60 : UInt8) ∉ gap := fun member =>
  absurd (isWhite 60 member) (by decide)

theorem undefined_text {str : List UInt8} (noLess : (60 : UInt8) ∉ str)
    (wild : normalizeString str = none) : Undefined outer str := by
  have solid : str.all isspace = false := by
    by_contra white
    rw [Bool.not_eq_false] at white
    have isWhite : White str := List.all_eq_true.mp white
    have nonzero : (0 : UInt8) ∉ str := fun member => absurd (isWhite 0 member) (by decide)
    rw [normalizeString_plain (amp_not_mem_of_white isWhite) nonzero] at wild
    contradiction
  have nonempty : str ≠ [] := by
    rintro rfl
    contradiction
  have entry : textSubs str = [.text str] := by
    rw [textSubs, if_neg nonempty, textSub, solid, if_neg Bool.false_ne_true]
  refine ⟨_, .text noLess, ?_⟩
  rw [entry, stripEntries, stripEntry, stripText, normalized, wild]
  rfl

section Node

variable {raw shown : List (List UInt8 × List UInt8)} {inner : List UInt8}
variable (isWhite : White gap) (named : IsName name) (isAttrs : AttrText raw (attrsText raw))
include isWhite named isAttrs

theorem undefined_node {entries more : List XmlSub}
    (content : Content (name :: outer) entries inner)
    (rest : Content outer more bytes)
    (wild : stripEntries (.tag name (quotedAttrs raw) entries :: more) = .error .wild) :
    Undefined outer (gap ++ (opening name raw ++ (inner ++ (closing name ++ bytes)))) := by
  have node : Content outer _ _ := .node (noLess_of_white isWhite) (isTagName_of_isName named)
    isAttrs content (List.forall_mem_nil _) rest
  refine ⟨_, ?_, stripEntries_append_wild (stripEntries_white isWhite) wild⟩
  simpa [opening, closing, tagHead] using node

theorem undefined_rest (shows : Shows raw shown) {subs : List Tree}
    (inside : Reads (name :: outer) subs inner) (rest : Undefined outer bytes) :
    Undefined outer (gap ++ (opening name raw ++ (inner ++ (closing name ++ bytes)))) := by
  obtain ⟨entries, kept, content, stripped, -⟩ := inside
  obtain ⟨more, isRest, wild⟩ := rest
  apply undefined_node isWhite named isAttrs content isRest
  rw [stripEntries, stripEntry, normalizeAttr_shows shows, stripped, wild]
  rfl

theorem undefined_inside (shows : Shows raw shown) (inside : Undefined (name :: outer) inner)
    (rest : Parses outer bytes) :
    Undefined outer (gap ++ (opening name raw ++ (inner ++ (closing name ++ bytes)))) := by
  obtain ⟨entries, content, wild⟩ := inside
  obtain ⟨more, isRest⟩ := rest
  apply undefined_node isWhite named isAttrs content isRest
  rw [stripEntries, stripEntry, normalizeAttr_shows shows, wild]
  rfl

theorem undefined_attr (wild : (quotedAttrs raw).mapM normalizeAttr = .error .wild)
    (inside : Parses (name :: outer) inner) (rest : Parses outer bytes) :
    Undefined outer (gap ++ (opening name raw ++ (inner ++ (closing name ++ bytes)))) := by
  obtain ⟨entries, content⟩ := inside
  obtain ⟨more, isRest⟩ := rest
  apply undefined_node isWhite named isAttrs content isRest
  rw [stripEntries, stripEntry, wild]
  rfl

end Node

end Undefined

section Status

variable (numbers : NdevId → DevNumbers) (system : System)

/-- The name of a device is in quotation marks that it does not end, and the parser makes
`shown` of it. -/
structure ShowsName (name shown : List UInt8) : Prop where
  noQuote : (34 : UInt8) ∉ name
  normal : normalizeString name = some shown

theorem nameAttr_text {name : List UInt8} (noQuote : (34 : UInt8) ∉ name) :
    AttrText [(ascii "name", name)] (attrsText [(ascii "name", name)]) := by
  have named : IsName (ascii "name") := .of_isTag (by decide)
  apply attrText_attrsText
  · simpa using named
  · simpa using noQuote

/-- What is below the element of a device. -/
def devSubs (id : NdevId) : List Tree :=
  [elementTree ⟨ascii "mtu", EventRoundTrip.decimal (numbers id).mtu⟩,
    elementTree ⟨ascii "ctime", EventRoundTrip.decimal (numbers id).ctime⟩,
    elementTree ⟨ascii "mtime", EventRoundTrip.decimal (numbers id).mtime⟩,
    .tag (ascii "tun") [] (tunTrees (tunOf system id))]

/-- What is printed between the two tags of a device. -/
theorem reads_devBody (id : NdevId) :
    Reads (ascii "dev" :: [ascii "ldtlist"]) (devSubs numbers system id)
      ([10] ++ devBody (numbers id) (tunOf system id)) := by
  have names : IsTag (ascii "dev") ∧ IsTag (ascii "ldtlist") := by decide
  apply reads_of_writes ((writes_devBody (numbers id) (tunOf system id)).white_append white_newline)
  intro other member
  rcases List.mem_cons.mp member with rfl | member
  · exact .of_isTag names.1
  · obtain rfl := List.mem_singleton.mp member
    exact .of_isTag names.2

/-- The description of a device, before others. -/
theorem description_append (gap : List UInt8) (id : NdevId) (rest : List UInt8) :
    gap ++ (description numbers system id ++ rest) =
      gap ++ (opening (ascii "dev") [(ascii "name", ByteBuffer.cstring (system.netdev id).name)] ++
        (([10] ++ devBody (numbers id) (tunOf system id)) ++
          (closing (ascii "dev") ++ ([10] ++ rest)))) := by
  rw [description, devText_node]
  simp only [List.append_assoc]

theorem isName_dev : IsName (ascii "dev") :=
  .of_isTag (by decide)

theorem reads_descriptions {shown : NdevId → List UInt8} {ids : List NdevId}
    (names : ∀ id ∈ ids, ShowsName (ByteBuffer.cstring (system.netdev id).name) (shown id))
    {gap : List UInt8} (isWhite : White gap) :
    Reads [ascii "ldtlist"]
      (ids.map fun id => .tag (ascii "dev") [(ascii "name", shown id)] (devSubs numbers system id))
      (gap ++ (ids.map (description numbers system)).flatten) := by
  induction ids generalizing gap with
  | nil =>
      rw [List.map_nil, List.map_nil, List.flatten_nil, List.append_nil]
      exact reads_white isWhite
  | cons id ids ih =>
      rw [List.forall_mem_cons] at names
      have shows : Shows [(ascii "name", ByteBuffer.cstring (system.netdev id).name)]
          [(ascii "name", shown id)] := .cons ⟨rfl, names.1.normal⟩ .nil
      have dev := reads_node isWhite (isTagName_of_isName isName_dev)
        (nameAttr_text names.1.noQuote) shows (reads_devBody numbers system id)
        (List.forall_mem_nil _) (ih names.2 white_newline)
      simp only [List.map_cons, List.flatten_cons, description_append]
      simpa [opening, closing, tagHead] using dev

theorem undefined_descriptions {ids : List NdevId}
    (noQuotes : ∀ id ∈ ids, (34 : UInt8) ∉ ByteBuffer.cstring (system.netdev id).name)
    (wild : ∃ id ∈ ids, normalizeString (ByteBuffer.cstring (system.netdev id).name) = none)
    {gap : List UInt8} (isWhite : White gap) :
    Undefined [ascii "ldtlist"] (gap ++ (ids.map (description numbers system)).flatten) := by
  induction ids generalizing gap with
  | nil => simp at wild
  | cons id ids ih =>
      rw [List.forall_mem_cons] at noQuotes
      have attr := nameAttr_text noQuotes.1
      have body := reads_devBody numbers system id
      rw [List.map_cons, List.flatten_cons, description_append]
      by_cases later : ∃ id ∈ ids,
          normalizeString (ByteBuffer.cstring (system.netdev id).name) = none
      · have rest := ih noQuotes.2 later white_newline
        cases normal : normalizeString (ByteBuffer.cstring (system.netdev id).name) with
        | none =>
            apply undefined_attr isWhite isName_dev attr _ (parses_of_reads body) rest.parses
            simp [quotedAttrs, normalizeAttr, normalized, normal, Except.map]
        | some shown =>
            have shows : Shows [(ascii "name", ByteBuffer.cstring (system.netdev id).name)]
                [(ascii "name", shown)] := .cons ⟨rfl, normal⟩ .nil
            exact undefined_rest isWhite isName_dev attr shows body rest
      · have normal : normalizeString (ByteBuffer.cstring (system.netdev id).name) = none := by
          simpa [later] using wild
        have others : ∀ id ∈ ids, ShowsName (ByteBuffer.cstring (system.netdev id).name)
            ((normalizeString (ByteBuffer.cstring (system.netdev id).name)).getD []) := by
          intro id member
          refine ⟨noQuotes.2 id member, ?_⟩
          cases defined : normalizeString (ByteBuffer.cstring (system.netdev id).name) with
          | none => exact absurd ⟨id, member, defined⟩ later
          | some shown => rfl
        have rest := reads_descriptions numbers system others white_newline
        apply undefined_attr isWhite isName_dev attr _ (parses_of_reads body)
          (parses_of_reads rest)
        simp [quotedAttrs, normalizeAttr, normalized, normal, Except.map]

variable (ids : List NdevId)

/-- The list of all devices, as the tool reads it. -/
def shownTree (shown : NdevId → List UInt8) : Tree :=
  .tag (ascii "ldtlist") [] ((describedDevices system ids).map fun id =>
    .tag (ascii "dev") [(ascii "name", shown id)] (devSubs numbers system id))

theorem isName_ldtlist : IsName (ascii "ldtlist") :=
  .of_isTag (by decide)

theorem reads_listText {shown : NdevId → List UInt8}
    (names : ∀ id ∈ describedDevices system ids,
      ShowsName (ByteBuffer.cstring (system.netdev id).name) (shown id)) :
    Reads [] [shownTree numbers system ids shown] (listText numbers system ids) := by
  have inside := reads_descriptions numbers system names white_newline
  have list : Reads [] [shownTree numbers system ids shown] _ :=
    reads_element (List.forall_mem_nil _) isName_ldtlist plainAttrs_nil inside
      (reads_white white_newline)
  simpa only [listText_node, List.nil_append] using list

theorem undefined_listText
    (noQuotes : ∀ id ∈ describedDevices system ids,
      (34 : UInt8) ∉ ByteBuffer.cstring (system.netdev id).name)
    (wild : ∃ id ∈ describedDevices system ids,
      normalizeString (ByteBuffer.cstring (system.netdev id).name) = none) :
    Undefined [] (listText numbers system ids) := by
  have inside := undefined_descriptions numbers system noQuotes wild white_newline
  have list : Undefined [] _ :=
    undefined_inside (List.forall_mem_nil _) isName_ldtlist plainAttrs_nil.attrText
      plainAttrs_nil.shows inside (parses_of_reads (reads_white white_newline))
  simpa only [listText_node, List.nil_append] using list

variable {numbers system}

variable (numbers system) in
/-- What the tool makes of the element of a device does not depend on its name. -/
theorem parsestat_shown (iface : List UInt8) {name : List UInt8} (nonzero : (0 : UInt8) ∉ name)
    (id : NdevId) :
    parsestat iface (searchTag (ascii "status")
        (.tag (ascii "dev") [(ascii "name", name)] (devSubs numbers system id))) =
      statusOf iface (tunOf system id) := by
  have whole : ByteBuffer.cstring name = name := List.takeWhile_eq_self_iff.mpr fun byte member =>
    decide_eq_true fun zero => nonzero (zero ▸ member)
  have tree : Tree.tag (ascii "dev") [(ascii "name", name)] (devSubs numbers system id) =
      devTree name (numbers id) (tunOf system id) := by
    rw [devTree, whole]
    rfl
  rw [tree, searchTag_devTree, ← searchTag_devTree iface (numbers id), parsestat_devTree]

variable (numbers system) in
theorem parseDevs_shown {shown : NdevId → List UInt8} {ids : List NdevId}
    (nonzero : ∀ id ∈ ids, (0 : UInt8) ∉ shown id) :
    parseDevs none (ids.map fun id =>
        .tag (ascii "dev") [(ascii "name", shown id)] (devSubs numbers system id)) =
      some (ids.map fun id => statusOf (copyIface (shown id)) (tunOf system id)) := by
  induction ids with
  | nil => rfl
  | cons id ids ih =>
      rw [List.forall_mem_cons] at nonzero
      have found := parsestat_shown numbers system (copyIface (shown id)) nonzero.1 id
      rw [List.map_cons, List.map_cons, parseDevs, xmltagGetattr_name, ih nonzero.2]
      simp only [Option.any_none, Bool.false_eq_true, if_false, Option.bind_eq_bind,
        Option.bind_some, found]

variable (numbers system) in
theorem tpParseStatus_shown {shown : NdevId → List UInt8}
    (nonzero : ∀ id ∈ describedDevices system ids, (0 : UInt8) ∉ shown id) :
    tpParseStatus none [shownTree numbers system ids shown] =
      some ((describedDevices system ids).map fun id =>
        statusOf (copyIface (shown id)) (tunOf system id)) := by
  have devs := parseDevs_shown numbers system nonzero
  rw [shownTree]
  cases listed : describedDevices system ids with
  | nil =>
      rw [List.map_nil, tpParseStatus, xmlcursSearchtag_nil]
      rfl
  | cons id rest =>
      rw [listed, List.map_cons] at devs
      rw [List.map_cons, tpParseStatus, xmlcursSearchtag_cons]
      simp only [devs, Option.bind_eq_bind, Option.bind_some, Option.isSome_none,
        Bool.false_eq_true, and_false, if_false]

/-- What `ldt_get_status` makes of the text of the list. -/
def statusOfText (xmlParse : List UInt8 → Except Int (List Tree)) (text : List UInt8) :
    Option (Except Int (List LdtStatus)) :=
  match xmlParse text with
  | .error ret => some (.error ret)
  | .ok xml => (tpParseStatus none xml).map .ok

variable (xmlParse : List UInt8 → Except Int (List Tree)) (family : NetlinkMessage.Family)
variable (seq pid : Nat) (request : Request) (fresh : Nat → UInt8) (stack : Int)

/-- The tool gets the text of the list, or an error for want of memory. -/
theorem showStatus_text (allocations : Allocations)
    (limited : Limited numbers system allocations.krealloc 32 ids) :
    (∃ ret, showStatus family seq pid request fresh numbers system ids xmlParse stack
          allocations = some (.error ret)) ∧
        ¬ (allocations.kmalloc = true ∧ (∀ id ∈ ids, allocations.krealloc id = true) ∧
          allocations.skb = true) ∨
      listSize numbers system ids < KMALLOC_LIMIT ∧
        showStatus family seq pid request fresh numbers system ids xmlParse stack allocations =
          statusOfText xmlParse (listText numbers system ids) := by
  obtain ⟨ret, failed⟩ := ldtGetStatus_netlinkAck xmlParse seq pid request stack none
  rcases ldtGetAlldevinfo_quiet numbers system allocations.kmalloc allocations.krealloc ids with
    ⟨noMemory, denied⟩ | ⟨granted, obuf, listed, text⟩
  · refine .inl ⟨⟨ret, ?_⟩, fun all => denied ⟨all.1, all.2.1⟩⟩
    simp only [showStatus, ldtNlShowDevlist, noMemory, Option.map_some, Option.bind_eq_bind,
      Option.bind_some, CommandResult.answers_of_ne family seq pid request
        (show -Errno.ENOMEM ≠ 0 by decide), failed]
  · have small : listSize numbers system ids < KMALLOC_LIMIT := by
      have bound := lt_of_limited numbers system 0 limited granted (by decide)
      omega
    obtain ⟨msg, reply, built, answered, success, info, dataEq, textEq⟩ :=
      ldtNlGetanswer_listText family seq pid stack small (take_contents fresh text)
    cases skb : allocations.skb with
    | false =>
        refine .inl ⟨⟨ret, ?_⟩, fun all => Bool.false_ne_true all.2.2⟩
        simp only [showStatus, ldtNlShowDevlist, listed, Option.map_some, skb,
          sendInfo_of_no_skb, Option.bind_eq_bind, Option.bind_some, failed]
    | true =>
        refine .inr ⟨small, ?_⟩
        simp only [showStatus, ldtNlShowDevlist, listed, Option.map_some, skb, built,
          Option.bind_eq_bind, Option.bind_some, ldtGetStatus, answered, if_neg success, dataEq,
          textEq]
        rfl

variable {xmlParse family seq pid request fresh stack ids}

/-- The name of a device is short, as the kernel sees to it, and has no quotation mark. -/
structure QuotedName (name : List UInt8) : Prop where
  valid : ValidName name
  noQuote : (34 : UInt8) ∉ name

theorem length_le_of_normalizeString {str shown : List UInt8}
    (normal : normalizeString str = some shown) :
    shown.length ≤ str.length ∧ (0 : UInt8) ∉ shown := by
  by_cases defined : referencesDefined (str.length + 1) str = true
  · obtain ⟨out, same, bounds⟩ := normalizeString_of_defined defined
    obtain rfl := Option.some.inj (normal.symm.trans same)
    exact bounds
  · rw [normalizeString_of_wild defined] at normal
    contradiction

theorem copyIface_of_normalizeString {name shown : List UInt8} (quoted : QuotedName name)
    (normal : normalizeString name = some shown) : copyIface shown = shown := by
  have short := quoted.valid.short
  have bound := (length_le_of_normalizeString normal).1
  unfold IFNAMSIZ at short
  exact List.take_of_length_le (by omega)

variable (numbers) in
/-- What the tool shows with its own parser. -/
theorem statusOfText_shown {shown : NdevId → List UInt8}
    (names : ∀ id ∈ describedDevices system ids, QuotedName (system.netdev id).name ∧
      normalizeString (system.netdev id).name = some (shown id))
    (undef : List UInt8 → Except Int (List Tree)) :
    statusOfText (frParse undef) (listText numbers system ids) =
      some (.ok ((describedDevices system ids).map fun id =>
        statusOf (shown id) (tunOf system id))) := by
  have shows : ∀ id ∈ describedDevices system ids,
      ShowsName (ByteBuffer.cstring (system.netdev id).name) (shown id) := by
    intro id member
    obtain ⟨quoted, normal⟩ := names id member
    rw [quoted.valid.cstring_eq]
    exact ⟨quoted.noQuote, normal⟩
  have read := frParse_of_reads (reads_listText numbers system ids shows) undef
  have status := tpParseStatus_shown numbers system ids fun id member =>
    (length_le_of_normalizeString (names id member).2).2
  have copied : (describedDevices system ids).map (fun id =>
      statusOf (copyIface (shown id)) (tunOf system id)) =
        (describedDevices system ids).map fun id => statusOf (shown id) (tunOf system id) :=
    List.map_congr_left fun id member => by
      rw [copyIface_of_normalizeString (names id member).1 (names id member).2]
  rw [statusOfText, read]
  simp only [status, copied, Option.map_some]

/-- The name and the tunnel are reported as they are. -/
theorem rightStatus_shown_iff (id : NdevId) (shown : List UInt8) :
    RightStatus system id (statusOf shown (tunOf system id)) ↔
      shown = (system.netdev id).name ∧ Reported (tunOf system id) := by
  constructor
  · intro right
    have iface : (statusOf shown (tunOf system id)).iface = shown := by
      unfold statusOf
      split <;> rfl
    have same : shown = (system.netdev id).name := iface.symm.trans right.iface
    rw [same] at right
    exact ⟨same, (rightStatus_statusOf_iff system id).mp right⟩
  · rintro ⟨rfl, reported⟩
    exact (rightStatus_statusOf_iff system id).mpr reported

theorem statusSound_of_shown
    (names : ∀ id ∈ describedDevices system ids, QuotedName (system.netdev id).name)
    (right : listSize numbers system ids < KMALLOC_LIMIT → ∀ id ∈ describedDevices system ids,
      normalizeString (system.netdev id).name = some (system.netdev id).name ∧
        Reported (tunOf system id))
    (undef : List UInt8 → Except Int (List Tree)) :
    StatusSound (frParse undef) family seq pid request fresh stack numbers system ids := by
  intro allocations limited
  rcases showStatus_text ids (frParse undef) family seq pid request fresh stack allocations
      limited with ⟨⟨ret, failed⟩, denied⟩ | ⟨small, shown⟩
  · rw [failed]
    exact denied
  · have status := statusOfText_shown numbers (fun id member =>
      ⟨names id member, (right small id member).1⟩) undef
    rw [shown, status]
    refine List.forall₂_map_right_iff.mpr (List.forall₂_same.mpr fun id member => ?_)
    exact (rightStatus_shown_iff id _).mpr ⟨rfl, (right small id member).2⟩

theorem shown_of_statusSound
    (names : ∀ id ∈ describedDevices system ids, QuotedName (system.netdev id).name)
    (small : listSize numbers system ids < KMALLOC_LIMIT)
    (sound : ∀ undef, StatusSound (frParse undef) family seq pid request fresh stack numbers
      system ids) :
    ∀ id ∈ describedDevices system ids,
      normalizeString (system.netdev id).name = some (system.netdev id).name ∧
        Reported (tunOf system id) := by
  have limited : Limited numbers system (fun _ => true) 32 ids :=
    limited_of_lt numbers system _ 0 (by omega)
  have text : ∀ undef, showStatus family seq pid request fresh numbers system ids
      (frParse undef) stack ⟨true, fun _ => true, true⟩ =
        statusOfText (frParse undef) (listText numbers system ids) := by
    intro undef
    rcases showStatus_text ids (frParse undef) family seq pid request fresh stack
        ⟨true, fun _ => true, true⟩ limited with ⟨-, denied⟩ | ⟨-, shown⟩
    · exact absurd ⟨rfl, fun _ _ => rfl, rfl⟩ denied
    · exact shown
  by_cases wild : ∃ id ∈ describedDevices system ids,
      normalizeString (ByteBuffer.cstring (system.netdev id).name) = none
  · -- the parser may as well return an error
    have noQuotes : ∀ id ∈ describedDevices system ids,
        (34 : UInt8) ∉ ByteBuffer.cstring (system.netdev id).name := by
      intro id member
      rw [(names id member).valid.cstring_eq]
      exact (names id member).noQuote
    have result := sound (fun _ => .error 0) ⟨true, fun _ => true, true⟩ limited
    have undefined := undefined_listText numbers system ids noQuotes wild
    rw [text, statusOfText, frParse_of_undefined undefined] at result
    exact absurd ⟨rfl, fun _ _ => rfl, rfl⟩ result
  · have normal : ∀ id ∈ describedDevices system ids,
        ∃ shown, normalizeString (system.netdev id).name = some shown := by
      intro id member
      rw [← (names id member).valid.cstring_eq]
      exact Option.ne_none_iff_exists'.mp fun none_ => wild ⟨id, member, none_⟩
    have shownAs : ∀ id ∈ describedDevices system ids,
        QuotedName (system.netdev id).name ∧ normalizeString (system.netdev id).name =
          some ((normalizeString (system.netdev id).name).getD []) := by
      intro id member
      obtain ⟨shown, found⟩ := normal id member
      rw [found]
      exact ⟨names id member, rfl⟩
    have result := sound (fun _ => .error 0) ⟨true, fun _ => true, true⟩ limited
    rw [text, statusOfText_shown numbers shownAs] at result
    intro id member
    have right := List.forall₂_same.mp (List.forall₂_map_right_iff.mp result) id member
    obtain ⟨same, reported⟩ := (rightStatus_shown_iff id _).mp right
    refine ⟨?_, reported⟩
    rw [(shownAs id member).2, same]

/-- With its own parser, the tool gets the right status of all devices, whatever memory there
is, if and only if the parser leaves their names as they are and what the tool makes of their
tunnels is right. -/
theorem statusSound_frParse_iff (family : NetlinkMessage.Family) (seq pid : Nat)
    (request : Request) (fresh : Nat → UInt8) (stack : Int) (numbers : NdevId → DevNumbers)
    (system : System) (ids : List NdevId)
    (names : ∀ id ∈ describedDevices system ids, QuotedName (system.netdev id).name) :
    (∀ undef, StatusSound (frParse undef) family seq pid request fresh stack numbers system
        ids) ↔
      (listSize numbers system ids < KMALLOC_LIMIT →
        ∀ id ∈ describedDevices system ids,
          normalizeString (system.netdev id).name = some (system.netdev id).name ∧
            Reported (tunOf system id)) :=
  ⟨fun sound small => shown_of_statusSound names small sound, statusSound_of_shown names⟩

end Status

/-- A system with the device of `linkedSystem` under another name. -/
def renamedSystem (name : List UInt8) : System where
  netdev id := { linkedSystem.netdev id with name := name }
  nextNdev := linkedSystem.nextNdev
  sent := linkedSystem.sent
  fault := linkedSystem.fault

/-- A name that is no XML gets through. -/
theorem statusSound_ampersand :
    normalizeString (ascii "a&b<c") = some (ascii "a&b<c") ∧
      ∀ undef, StatusSound (frParse undef) NetlinkReply.assignedFamily 7 1000
        CommandResult.emptyRequest (fun _ => 0) 0 linkedNumbers
        (renamedSystem (ascii "a&b<c")) [0] := by
  have same : normalizeString (ascii "a&b<c") = some (ascii "a&b<c") := by decide +kernel
  have names : ∀ id ∈ describedDevices (renamedSystem (ascii "a&b<c")) [0],
      QuotedName ((renamedSystem (ascii "a&b<c")).netdev id).name := by
    intro id _
    exact ⟨show ValidName (ascii "a&b<c") by decide, show (34 : UInt8) ∉ ascii "a&b<c" by decide⟩
  refine ⟨same, ?_⟩
  apply (statusSound_frParse_iff _ _ _ _ _ _ _ _ _ names).mpr
  intro _ id _
  exact ⟨same, .inl rfl⟩

section Events

variable {name : List UInt8}

theorem showsText_of_isXmlText {text : List UInt8} (isText : XmlTree.IsXmlText text) :
    ShowsText text text := by
  obtain ⟨noLess, noAmp, nonzero⟩ := not_mem_of_isXmlText isText
  exact ⟨noLess, normalizeString_plain noAmp nonzero⟩

theorem shows_optionalElement {tag : List UInt8} {text : Option (List UInt8)}
    (isText : ∀ name ∈ text, XmlTree.IsXmlText name) :
    List.Forall₂ (fun element element' => element.tag = element'.tag ∧
      ShowsText element.text element'.text) (ElementText.optionalElement tag text)
      (ElementText.optionalElement tag text) := by
  apply List.forall₂_same.mpr
  exact forall_optionalElement fun name member => ⟨rfl, showsText_of_isXmlText (isText name member)⟩

/-- The texts of an event behind the name of the device. -/
def behindIface (text : EventText) : List Element :=
  ElementText.optionalElement (ascii "pdev") text.pdev ++
    ElementText.optionalElement (ascii "reason") (text.reason.map EventRoundTrip.decimal) ++
      ElementText.optionalElement (ascii "subflow") text.subflow

theorem children_document {text : EventText} (iface : text.iface = some name) :
    (document text).children =
      [⟨ascii "desc", text.desc⟩] ++ ⟨ascii "iface", name⟩ :: behindIface text := by
  simp [document, behindIface, ElementText.optionalElement, iface]

theorem shows_behindIface {event : PrintedEvent name} {info : EvInfo} {text : EventText}
    (inserts : Inserts event info text) :
    List.Forall₂ (fun element element' => element.tag = element'.tag ∧
      ShowsText element.text element'.text) (behindIface text) (behindIface text) := by
  apply List.rel_append
  · apply List.rel_append
    · exact shows_optionalElement fun pdev member =>
        (event.pdev pdev (inserts.pdev pdev member)).2.isXmlText
    · apply shows_optionalElement
      intro reason member
      obtain ⟨value, -, rfl⟩ := Option.map_eq_some_iff.mp member
      exact isXmlText_decimal value
  · exact shows_optionalElement fun subflow member =>
      (event.report subflow (inserts.subflow subflow member)).2.isXmlText

theorem isTag_children (text : EventText) :
    ∀ element ∈ (document text).children, IsTag element.tag := by
  have tags : IsTag (ascii "desc") ∧ IsTag (ascii "iface") ∧ IsTag (ascii "pdev") ∧
      IsTag (ascii "reason") ∧ IsTag (ascii "subflow") := by decide
  simp only [document, List.forall_mem_append]
  refine ⟨⟨⟨⟨?_, ?_⟩, ?_⟩, ?_⟩, ?_⟩
  · exact forall_optionalElement fun _ _ => tags.1
  · exact forall_optionalElement fun _ _ => tags.2.1
  · exact forall_optionalElement fun _ _ => tags.2.2.1
  · exact forall_optionalElement fun _ _ => tags.2.2.2.1
  · exact forall_optionalElement fun _ _ => tags.2.2.2.2

theorem plainAttrs_document {type : Event.EvType} {info : EvInfo} {text : EventText}
    (found : Event.ldtEventGetinfo type.num = .ok info) (evstr : text.evstr = info.evstr) :
    PlainAttrs [((document text).attr, (document text).value)] := by
  have isTag : IsTag (ascii "type") := by decide
  apply plainAttrs_singleton isTag
  obtain ⟨chars, valueEq, plain⟩ := (isXml_entry type found).1
  have value : (document text).value = Utf8Text.utf8 chars := evstr.trans valueEq.symm
  rw [value]
  refine ⟨?_, ?_, ?_⟩
  · exact XmlTree.not_mem_utf8 (by decide) fun inside => (plain.plain _ inside).2.2.2 rfl
  · exact XmlTree.not_mem_utf8 (by decide) fun inside => (plain.plain _ inside).2.2.1 rfl
  · exact XmlTree.not_mem_utf8 (by decide) fun inside =>
      absurd (plain.plain _ inside).1 (by decide)

/-- The tool reads the document of an event with what the parser makes of the name. -/
theorem frParse_event {event : PrintedEvent name} {info : EvInfo} {text : EventText}
    (found : Event.ldtEventGetinfo event.type.num = .ok info) (inserts : Inserts event info text)
    {shown : List UInt8} (shows : ShowsText name shown)
    (undef : List UInt8 → Except Int (List Tree)) :
    frParse undef (document text).bytes =
      .ok [documentTree (document { text with iface := some shown })] := by
  have root : IsTag (document text).root := by
    have isTag : IsTag (ascii "event") := by decide
    exact isTag
  have desc : XmlTree.IsXmlText text.desc := inserts.desc ▸ (isXml_entry event.type found).2
  have iface : ({ text with iface := some shown } : EventText).iface = some shown := rfl
  have readEq := children_document iface
  have texts : List.Forall₂ (fun element element' => element.tag = element'.tag ∧
      ShowsText element.text element'.text) (document text).children
      (document { text with iface := some shown }).children := by
    rw [children_document inserts.iface, readEq]
    exact List.rel_append (.cons ⟨rfl, showsText_of_isXmlText desc⟩ .nil)
      (.cons ⟨rfl, shows⟩ (shows_behindIface inserts))
  have reads : Reads [] [documentTree (document { text with iface := some shown })]
      (document text).bytes :=
    reads_document root (plainAttrs_document found inserts.evstr) rfl rfl rfl
      (isTag_children text) texts
  exact frParse_of_reads reads undef

/-- A reference in the name that is not defined is none in the document either. -/
theorem frParse_event_undefined {event : PrintedEvent name} {info : EvInfo} {text : EventText}
    (found : Event.ldtEventGetinfo event.type.num = .ok info) (inserts : Inserts event info text)
    (noLess : (60 : UInt8) ∉ name) (wild : normalizeString name = none)
    (undef : List UInt8 → Except Int (List Tree)) :
    frParse undef (document text).bytes = undef (document text).bytes := by
  have tags : IsTag (ascii "event") ∧ IsTag (ascii "desc") ∧ IsTag (ascii "iface") := by decide
  have isDesc : XmlTree.IsXmlText text.desc := inserts.desc ▸ (isXml_entry event.type found).2
  have shows := showsText_of_isXmlText isDesc
  have behind : ∀ element ∈ behindIface text, IsTag element.tag := by
    intro element member
    apply isTag_children text
    rw [children_document inserts.iface]
    exact List.mem_append_right _ (List.mem_cons_of_mem _ member)
  have indent : White ([10] ++ [32, 32]) := List.all_eq_true.mp (by decide)
  have rest : Parses [ascii "event"] ([10] ++ (behindIface text).flatMap Element.bytes) :=
    parses_of_reads (reads_elements behind (shows_behindIface inserts) white_newline)
  have iface : Undefined [ascii "event"] _ :=
    undefined_inside indent (.of_isTag tags.2.2) plainAttrs_nil.attrText plainAttrs_nil.shows
      (undefined_text noLess wild) rest
  have desc : Undefined [ascii "event"] _ :=
    undefined_rest indent (.of_isTag tags.2.1) plainAttrs_nil.attrText plainAttrs_nil.shows
      (reads_text shows.noLess shows.normal) iface
  have head := plainAttrs_document found inserts.evstr
  have noGap : White [] := List.forall_mem_nil _
  have tree : Undefined [] _ :=
    undefined_inside noGap (.of_isTag tags.1) head.attrText head.shows desc
      (parses_of_reads (reads_white white_newline))
  apply frParse_of_undefined
  rw [Document.bytes, children_document inserts.iface]
  simpa [Element.bytes, Document.opening, Document.closing, ElementXml.marks_eq, opening, closing,
    tagHead, attrsText, document] using tree

/-- The text of the element that the tool finds for the device. -/
theorem xmlSearch_shown (text : EventText) (shown : List UInt8) :
    xmlSearch [documentTree (document { text with iface := some shown })] (ascii "iface") =
      some (strip shown) := by
  have isTags : IsTag (ascii "iface") ∧ IsTag (ascii "event") ∧ IsTag (ascii "type") := by decide
  have desc : (ascii "desc" == ascii "iface") = false := by decide
  have iface : ({ text with iface := some shown } : EventText).iface = some shown := rfl
  have root : (document { text with iface := some shown }).root ≠ ascii "iface" :=
    show ascii "event" ≠ ascii "iface" by decide
  have attr : (document { text with iface := some shown }).attr ≠ ascii "iface" :=
    show ascii "type" ≠ ascii "iface" by decide
  rw [xmlSearch_documentTree isTags.1 isTags.2.1 isTags.2.2 (isTag_children _) root attr,
    children_document iface]
  simp [ElementText.find, desc]

/-- White space is only cut off at the ends. -/
theorem length_strip_le (text : List UInt8) : (strip text).length ≤ text.length ∧
    ((strip text).length = text.length → strip text = text) := by
  have front := List.dropWhile_suffix (l := text) isspace
  have back := List.dropWhile_suffix (l := (text.dropWhile isspace).reverse) isspace
  have one := front.length_le
  have two := back.length_le
  rw [List.length_reverse] at two
  have size : (strip text).length =
      ((text.dropWhile isspace).reverse.dropWhile isspace).length := by
    rw [strip, List.length_reverse]
  refine ⟨by omega, fun same => ?_⟩
  have whole : text.dropWhile isspace = text := front.eq_of_length (by omega)
  rw [strip, back.eq_of_length (by rw [List.length_reverse]; omega), List.reverse_reverse, whole]

theorem iface_of_ldtIfaceevParse2 {type : Event.EvType} {xml : XmlEvent} {needIfc : Bool}
    {evinfo : WaitEvent.LdtEvinfo} (parsed : ldtIfaceevParse2 type xml needIfc = .ok evinfo) :
    evinfo.iface = xml.iface := by
  unfold ldtIfaceevParse2 at parsed
  split at parsed
  · contradiction
  · rw [← Except.ok.inj parsed]

/-- With its own parser, the tool has the name of the device in all events about it if and only
if the parser leaves the name as it is. -/
theorem iface_frParse_iff (event : PrintedEvent name) (valid : ValidName name)
    (noLess : (60 : UInt8) ∉ name) :
    (∀ undef, ∃ xml evinfo, frParse undef event.sent.buf = .ok xml ∧
        ldtIfaceevParse2 event.type (eventOf xml) (tpGetparseflags event.type) = .ok evinfo ∧
          evinfo.iface = some name) ↔
      normalizeString name = some name := by
  obtain ⟨info, text, found, inserts, buf⟩ := event.exists_text valid.short
  rw [buf]
  constructor
  · intro carries
    cases normal : normalizeString name with
    | none =>
        obtain ⟨xml, evinfo, parsed, -⟩ := carries fun _ => .error 0
        rw [frParse_event_undefined found inserts noLess normal] at parsed
        contradiction
    | some shown =>
        obtain ⟨xml, evinfo, parsed, evinfoEq, taken⟩ := carries fun _ => .error 0
        rw [frParse_event found inserts ⟨noLess, normal⟩] at parsed
        obtain rfl := Except.ok.inj parsed
        have iface := iface_of_ldtIfaceevParse2 evinfoEq
        rw [taken, eventOf, xmlSearch_shown] at iface
        have same : name = strip shown := Option.some.inj iface
        have bound := (length_le_of_normalizeString normal).1
        have size : name.length = (strip shown).length := congrArg List.length same
        obtain ⟨shorter, whole⟩ := length_strip_le shown
        rw [same, whole (by omega)]
  · intro normal undef
    have parsed := frParse_event found inserts ⟨noLess, normal⟩ undef
    have iface : (eventOf [documentTree (document { text with iface := some name })]).iface =
        some name := by
      rw [eventOf, xmlSearch_shown, ElementText.strip_of_no_space valid.solid]
    have evinfo : ∃ evinfo, ldtIfaceevParse2 event.type
        (eventOf [documentTree (document { text with iface := some name })])
          (tpGetparseflags event.type) = .ok evinfo ∧ evinfo.iface = some name := by
      rw [ldtIfaceevParse2, iface, Option.isNone_some, Bool.false_and,
        if_neg Bool.false_ne_true]
      exact ⟨_, rfl, rfl⟩
    obtain ⟨evinfo, evinfoEq, taken⟩ := evinfo
    exact ⟨_, evinfo, parsed, evinfoEq, taken⟩

theorem iface_frParse_ampersand :
    normalizeString (ascii "a&b>c") = some (ascii "a&b>c") ∧
      ∀ undef, ∃ xml evinfo,
        frParse undef (ifupEvent (ascii "a&b>c") (by decide)).sent.buf = .ok xml ∧
          ldtIfaceevParse2 .ifup (eventOf xml) (tpGetparseflags .ifup) = .ok evinfo ∧
            evinfo.iface = some (ascii "a&b>c") := by
  have same : normalizeString (ascii "a&b>c") = some (ascii "a&b>c") := by decide +kernel
  refine ⟨same, ?_⟩
  exact (iface_frParse_iff (ifupEvent (ascii "a&b>c") (by decide)) (by decide) (by decide)).mpr
    same

end Events

end Tunprox.ToolReading
