import Mathlib.Data.Bool.AllAny
import Tunprox.DevInfoXml

/-!
# Names of devices in XML

`get_devinfo`, `ldt_event_crsend` and `mpdccptun_eventcreate` print the name of a device with
`%s` between quotation marks and between tags, while the tool's parser replaces all references
in what it reads.  The kernel accepts other names than those that stand for themselves in XML.
-/

namespace Tunprox.NameInXml

open ByteBuffer Errno Event DevInfo StatusReport StatusParse EventRoundTrip
open Device hiding ldtEventCrsend
open ElementText (Element IsTag strip optionalElement strip_of_no_space)
open ElementXml
open Netlink (XmlEvent)
open PrintBuffer (Memory Printer malloc)
open Utf8Text
open WaitEvent (ldtIfaceevParse2 tpGetparseflags)
open WrittenTree (Tree readText)
open XmlDocument (isXmlChar isXmlSpace quot isName AttValue CharData Content Node child innerText)
open XmlTree

/-- A name that the kernel accepts for a net device.  The byte 160, which is white space in the
kernel, is not excluded. -/
structure ValidName (name : List UInt8) : Prop where
  nonempty : name ≠ []
  short : name.length < IFNAMSIZ
  notDots : name ≠ ascii "." ∧ name ≠ ascii ".."
  bytes : ∀ byte ∈ name, byte ≠ 0 ∧ byte ≠ 47 ∧ byte ≠ 58 ∧ isspace byte = false

instance (name : List UInt8) : Decidable (ValidName name) :=
  decidable_of_iff (name ≠ [] ∧ name.length < IFNAMSIZ ∧
      (name ≠ ascii "." ∧ name ≠ ascii "..") ∧
        name.all (fun byte => byte != 0 && byte != 47 && byte != 58 && !isspace byte) = true) <| by
    simp only [List.all_eq_true, Bool.and_eq_true, bne_iff_ne, Bool.not_eq_true', and_assoc]
    exact ⟨fun parts => ⟨parts.1, parts.2.1, ⟨parts.2.2.1, parts.2.2.2.1⟩, parts.2.2.2.2⟩,
      fun valid => ⟨valid.nonempty, valid.short, valid.notDots.1, valid.notDots.2, valid.bytes⟩⟩

/-- The name stands for itself in XML, between quotation marks as well as between tags. -/
def IsPlainXml (name : List UInt8) : Prop :=
  ∃ chars, utf8 chars = name ∧ CharData chars ∧ quot ∉ chars

/-- The text is a document whose element `dev` has the name for its attribute. -/
def NamesDev (name text : List UInt8) : Prop :=
  ∃ chars attrs children value, utf8 chars = text ∧
    XmlDocument.Document (.element "dev".toList attrs children) chars ∧
      attrs.lookup "name".toList = some value ∧ utf8 value = name

/-- The text is the document of an event whose element `iface` has the name for its text. -/
def NamesIface (name text : List UInt8) : Prop :=
  ∃ chars attrs children inner, utf8 chars = text ∧
    XmlDocument.Document (.element "event".toList attrs children) chars ∧
      child "iface".toList children = some inner ∧ utf8 (innerText inner) = name

/-- What the argument `dat` of `ldt_event_crsend` is for an event of the device. -/
inductive Concerns (id : NdevId) : EvKind → EvData → Prop where
  | tdev : Concerns id .tdev (.tdev id)
  | ndev : Concerns id .ndev (.ndev id)
  | tun (tun : LdtTun) (tdevEq : tun.tdev = some id) : Concerns id .tun (.tun id tun)
  | tunconnect (tun : LdtTun) (tdevEq : tun.tdev = some id) :
      Concerns id .tunconnect (.tun id tun)
  | tunfail (tun : LdtTun) (tdevEq : tun.tdev = some id) : Concerns id .tunfail (.tun id tun)

/-- An event of a device with the name, as `ldt_event_crsend` prints it.  The names of the
physical device and of the subflow, which are in the same text, stand for themselves. -/
structure PrintedEvent (name : List UInt8) where
  system : System
  id : NdevId
  type : EvType
  dat : EvData
  reason : Int
  subflowReport : Option (List UInt8)
  kmalloc : Bool
  sent : SentText
  named : (system.netdev id).name = name
  concerns : Concerns id type.kind dat
  reason_ge : -2 ^ 31 ≤ reason
  reason_lt : reason < 2 ^ 31
  pdev : ∀ pdev ∈ pdevName system id, pdev.length < IFNAMSIZ ∧ IsPlainXml pdev
  report : ∀ subflow ∈ subflowReport, subflow.length ≤ IFNAMSIZ ∧ IsPlainXml subflow
  prints : ldtEventCrsend system type.num dat reason subflowReport kmalloc = .ok (some sent)

/-- `xml_search` -/
def xmlSearch (xml : List Tree) (query : List UInt8) : Option (List UInt8) :=
  searchTag query (.tag [] [] xml)

/-- The strings that `ldt_ifaceev_parse2` searches for. -/
def eventOf (xml : List Tree) : XmlEvent where
  iface := xmlSearch xml (ascii "iface")
  pdev := xmlSearch xml (ascii "pdev")
  desc := xmlSearch xml (ascii "desc")
  remaddr := xmlSearch xml (ascii "remaddr")
  remport := xmlSearch xml (ascii "remport")
  subflow := xmlSearch xml (ascii "subflow")

/-- All texts for a device with the name are XML documents that have the name, and the tool
takes it out of them. -/
structure CarriesName (xmlParse : List UInt8 → Except Int (List Tree)) (name : List UInt8) :
    Prop where
  /-- What `get_devinfo` prints into a buffer that is large enough. -/
  description : ∀ (numbers : DevNumbers) (tdev : LdtDev) (printer : Printer) (size len : Nat)
    (memory : Memory), getDevinfo name numbers tdev = .ok printer →
      printer 0 size (malloc size) = some (memory, len) → len < size →
        ∃ text, memory.take len = text.map some ∧ NamesDev name text
  /-- The list with the descriptions of all devices, the others of which have names that stand
  for themselves. -/
  status : ∀ (numbers : NdevId → DevNumbers) (system : System) (ids : List NdevId),
    (∀ id ∈ describedDevices system ids, (system.netdev id).name = name ∨
      ValidName (system.netdev id).name ∧ IsPlainXml (system.netdev id).name) →
        ∃ xml statlist, xmlParse (listText numbers system ids) = .ok xml ∧
          tpParseStatus none xml = some statlist ∧
            statlist.map LdtStatus.iface =
              (describedDevices system ids).map fun id => (system.netdev id).name
  events : ∀ event : PrintedEvent name, NamesIface name event.sent.buf ∧
    ∃ xml evinfo, xmlParse event.sent.buf = .ok xml ∧
      ldtIfaceevParse2 event.type (eventOf xml) (tpGetparseflags event.type) = .ok evinfo ∧
        evinfo.iface = some name

section Names

variable {name : List UInt8}

theorem IsPlainXml.isXmlText (plain : IsPlainXml name) : IsXmlText name := by
  obtain ⟨chars, text, isData, -⟩ := plain
  exact ⟨chars, text, isData⟩

theorem ValidName.solid (valid : ValidName name) : ∀ byte ∈ name, isspace byte = false :=
  fun byte member => (valid.bytes byte member).2.2.2

theorem ValidName.cstring_eq (valid : ValidName name) : cstring name = name :=
  List.takeWhile_eq_self_iff.mpr fun byte member =>
    decide_eq_true (valid.bytes byte member).1

/-- A character of the name in ASCII is one of its bytes. -/
theorem byte_mem_utf8 {chars : List Char} {value : Nat} (small : value < 128)
    (member : Char.ofNat value ∈ chars) : UInt8.ofNat value ∈ utf8 chars := by
  refine List.mem_flatMap.mpr ⟨_, member, ?_⟩
  rw [encode_ofNat value small]
  exact List.mem_singleton_self _

/-- A name without white space stands for itself between quotation marks. -/
theorem plainValue_of_valid {chars : List Char} (valid : ValidName (utf8 chars))
    (isData : CharData chars) (noQuote : quot ∉ chars) : PlainValue chars where
  plain := by
    intro char member
    obtain ⟨noLess, noAmp⟩ := isData.noMarkup char member
    exact ⟨isData.isChar char member, noLess, noAmp, fun same => noQuote (same ▸ member)⟩
  solid := by
    intro char member
    by_contra space
    rw [Bool.not_eq_false] at space
    have free : ∀ value < 128, isspace (UInt8.ofNat value) = true →
        Char.ofNat value ∉ chars := by
      intro value small white inside
      have solid := valid.solid _ (byte_mem_utf8 small inside)
      rw [white] at solid
      contradiction
    rcases XmlDocument.eq_of_isXmlSpace space with rfl | rfl | rfl
    · exact free 32 (by decide) (by decide) member
    · exact free 9 (by decide) (by decide) member
    · exact free 10 (by decide) (by decide) member

theorem IsPlainXml.exists_value (plain : IsPlainXml name) (valid : ValidName name) :
    ∃ value, utf8 value = name ∧ PlainValue value := by
  obtain ⟨chars, rfl, isData, noQuote⟩ := plain
  exact ⟨chars, rfl, plainValue_of_valid valid isData noQuote⟩

theorem copyIface_of_valid (valid : ValidName name) : copyIface (cstring name) = name := by
  have bound := valid.short
  unfold IFNAMSIZ at bound
  rw [valid.cstring_eq]
  exact List.take_of_length_le (by omega)

end Names

section Description

/-- What is in the buffer. -/
theorem take_of_snprintf {text : List UInt8} {size len : Nat} {memory : Memory}
    (prints : PrintBuffer.snprintf text 0 size (malloc size) = some (memory, len))
    (fits : len < size) : memory.take len = text.map some := by
  unfold PrintBuffer.snprintf at prints
  rw [if_neg (by omega)] at prints
  obtain ⟨memory', writes, same⟩ := Option.map_eq_some_iff.mp prints
  obtain ⟨rfl, rfl⟩ := Prod.mk.inj same
  have whole : text.take (size - 1) = text := List.take_of_length_le (by omega)
  rw [whole] at writes
  have begins := PrintBuffer.take_write writes
  rw [List.take_zero, List.nil_append, List.map_append, Nat.zero_add, List.length_append]
    at begins
  have shorter : memory'.take text.length =
      (memory'.take (text.length + [(0 : UInt8)].length)).take text.length := by
    rw [List.take_take, Nat.min_eq_left (Nat.le_add_right _ _)]
  rw [shorter, begins]
  exact List.take_left' (List.length_map _)

/-- The text of a device that is active. -/
theorem take_of_getDevinfo {name : List UInt8} {numbers : DevNumbers} {tdev : LdtDev}
    {printer : Printer} {size len : Nat} {memory : Memory}
    (devinfo : getDevinfo name numbers tdev = .ok printer)
    (prints : printer 0 size (malloc size) = some (memory, len)) (fits : len < size) :
    memory.take len = (devText name numbers tdev.tun).map some := by
  cases active : tdev.active with
  | false =>
      rw [getDevinfo, active] at devinfo
      contradiction
  | true =>
      rw [getDevinfo_eq name numbers tdev active] at devinfo
      obtain rfl := Except.ok.inj devinfo
      exact take_of_snprintf prints fits

theorem namesDev_devText {name : List UInt8} (valid : ValidName name) (plain : IsPlainXml name)
    (numbers : DevNumbers) (tun : LdtTun) : NamesDev name (devText name numbers tun) := by
  obtain ⟨value, valueText, isValue⟩ := plain.exists_value valid
  obtain ⟨chars, children, text, document⟩ := DevInfoXml.exists_document_devText
    (valueText.trans valid.cstring_eq.symm) isValue numbers tun
  exact ⟨chars, _, children, value, text, document, List.lookup_cons_self, valueText⟩

/-- The names in the list of all devices. -/
theorem tpParseStatus_listText {xmlParse : List UInt8 → Except Int (List Tree)}
    (reads : ReadsXml xmlParse) (numbers : NdevId → DevNumbers) (system : System)
    (ids : List NdevId)
    (names : ∀ id ∈ describedDevices system ids,
      ValidName (system.netdev id).name ∧ IsPlainXml (system.netdev id).name) :
    ∃ xml statlist, xmlParse (listText numbers system ids) = .ok xml ∧
      tpParseStatus none xml = some statlist ∧
        statlist.map LdtStatus.iface =
          (describedDevices system ids).map fun id => (system.netdev id).name := by
  have values : ∀ id ∈ describedDevices system ids,
      IsXmlValue (cstring (system.netdev id).name) := by
    intro id member
    obtain ⟨valid, plain⟩ := names id member
    rw [valid.cstring_eq]
    exact plain.exists_value valid
  have parsed := reads _ _ (DevInfoXml.writesXml_listText numbers system values)
  have status := tpParseStatus_listTree numbers system fun id member =>
    copyIface_of_valid (names id member).1
  refine ⟨_, _, parsed, status, ?_⟩
  rw [statuses, List.map_map]
  refine List.map_congr_left fun id _ => ?_
  rw [Function.comp_apply, statusOf]
  split
  · rfl
  · rfl

end Description

section Events

/-- What is in the text of an event. -/
structure Inserts (event : PrintedEvent name) (info : EvInfo) (text : EventText) : Prop where
  evstr : text.evstr = info.evstr
  desc : text.desc = info.desc
  iface : text.iface = some name
  pdev : ∀ pdev ∈ text.pdev, pdev ∈ pdevName event.system event.id
  reason : ∀ reason ∈ text.reason, reason = event.reason
  subflow : ∀ subflow ∈ text.subflow, subflow ∈ event.subflowReport

variable {name : List UInt8}

theorem PrintedEvent.exists_sends (event : PrintedEvent name) {info : EvInfo}
    (kind : info.kind = event.type.kind) :
    ∃ nlEvent, Sends event.system event.type.num info event.reason event.subflowReport event.dat
        nlEvent ∧ Inserts event info nlEvent.text := by
  have concerns := event.concerns
  rw [← kind] at concerns
  have named := event.named
  generalize kindEq : info.kind = infoKind at concerns
  generalize datEq : event.dat = dat at concerns
  cases concerns with
  | tdev =>
      refine ⟨_, .tdev event.id kindEq, ?_⟩
      constructor <;> simp [EvInfo.text, named]
  | ndev =>
      refine ⟨_, .ndev event.id kindEq, ?_⟩
      constructor <;> simp [EvInfo.text, named]
  | tun tun tdevEq =>
      refine ⟨_, .tun event.id tun event.id kindEq tdevEq, ?_⟩
      constructor <;> simp [EvInfo.text, named]
  | tunfail tun tdevEq =>
      refine ⟨_, .tunfail event.id tun event.id kindEq tdevEq, ?_⟩
      constructor <;> simp [EvInfo.text, named]
  | tunconnect tun tdevEq =>
      cases running : runs tun with
      | true =>
          refine ⟨_, .created event.id tun kindEq running, ?_⟩
          constructor <;> simp [EvInfo.text, named]
      | false =>
          refine ⟨_, .simplevent event.id tun kindEq running, ?_⟩
          constructor <;> simp [EvInfo.text, tdevName, tdevEq, named]

/-- An event is printed as a document with the name. -/
theorem PrintedEvent.exists_text (event : PrintedEvent name) (short : name.length < IFNAMSIZ) :
    ∃ info text, ldtEventGetinfo event.type.num = .ok info ∧ Inserts event info text ∧
      event.sent.buf = (document text).bytes := by
  obtain ⟨info, found, kind, entry⟩ := exists_tableEntry event.type
  obtain ⟨nlEvent, sends, inserts⟩ := event.exists_sends kind
  have fits : (document nlEvent.text).bytes.length ≤ 254 := by
    refine length_document_le entry inserts.evstr inserts.desc ?_ ?_ ?_ ?_
    · intro iface member
      obtain rfl := Option.some.inj (inserts.iface.symm.trans member)
      exact short
    · exact fun pdev member => (event.pdev pdev (inserts.pdev pdev member)).1
    · intro reason member
      rw [inserts.reason reason member]
      exact ⟨event.reason_ge, event.reason_lt⟩
    · exact fun subflow member => (event.report subflow (inserts.subflow subflow member)).1
  have printed := sends.crsend_eq found fits event.kmalloc
  rw [event.prints] at printed
  refine ⟨info, nlEvent.text, found, inserts, ?_⟩
  rw [Option.some.inj (Except.ok.inj printed)]

/-- The strings of the table stand for themselves. -/
theorem isXml_entry (type : EvType) {info : EvInfo}
    (found : ldtEventGetinfo type.num = .ok info) :
    IsXmlValue info.evstr ∧ IsXmlText info.desc := by
  have strings : info.evstr.all isDataByte = true ∧
      (info.evstr.all fun byte => decide (byte ≠ 34 ∧ isBlank byte = false)) = true ∧
        info.desc.all isDataByte = true := by
    cases type <;>
      (obtain rfl := Except.ok.inj found; decide)
  rw [List.all_eq_true, List.all_iff_forall_prop, List.all_eq_true] at strings
  exact ⟨isXmlValue_of_data strings.1 strings.2.1, isXmlText_of_data strings.2.2⟩

theorem isXmlText_decimal (value : Int) : IsXmlText (decimal value) := by
  have data : ∀ byte, isPrintedByte byte = true → isDataByte byte = true :=
    forall_byte (by decide +kernel)
  exact isXmlText_of_data fun byte member => data byte ((isPrinted_decimal value).bytes byte member)

theorem forall_optionalElement {tag : List UInt8} {text : Option (List UInt8)}
    {property : Element → Prop} (holds : ∀ name ∈ text, property ⟨tag, name⟩) :
    ∀ element ∈ optionalElement tag text, property element := by
  intro element member
  cases text with
  | none => contradiction
  | some name =>
      obtain rfl := List.mem_singleton.mp member
      exact holds name rfl

/-- The document of an event is XML if the name stands for itself. -/
theorem xmlFormed_document {event : PrintedEvent name} {info : EvInfo} {text : EventText}
    (found : ldtEventGetinfo event.type.num = .ok info) (inserts : Inserts event info text)
    (plain : IsPlainXml name) : XmlFormed (document text) := by
  obtain ⟨evstr, desc⟩ := isXml_entry event.type found
  have root : IsTag (ascii "event") := by decide
  have tags : IsTag (ascii "desc") ∧ IsTag (ascii "iface") ∧ IsTag (ascii "pdev") ∧
      IsTag (ascii "reason") ∧ IsTag (ascii "subflow") := by decide
  have others : ascii "desc" ≠ ascii "event" ∧ ascii "iface" ≠ ascii "event" ∧
      ascii "pdev" ≠ ascii "event" ∧ ascii "reason" ≠ ascii "event" ∧
        ascii "subflow" ≠ ascii "event" := by decide
  have children : ∀ element ∈ (document text).children,
      IsTag element.tag ∧ IsXmlText element.text ∧ element.tag ≠ ascii "event" := by
    simp only [document, List.forall_mem_append]
    refine ⟨⟨⟨⟨?_, ?_⟩, ?_⟩, ?_⟩, ?_⟩
    · refine forall_optionalElement fun text' member => ?_
      rw [inserts.desc] at member
      obtain rfl := Option.some.inj member
      exact ⟨tags.1, desc, others.1⟩
    · refine forall_optionalElement fun iface member => ?_
      obtain rfl := Option.some.inj (inserts.iface.symm.trans member)
      exact ⟨tags.2.1, plain.isXmlText, others.2.1⟩
    · refine forall_optionalElement fun pdev member => ?_
      have isPlain := (event.pdev pdev (inserts.pdev pdev member)).2
      exact ⟨tags.2.2.1, isPlain.isXmlText, others.2.2.1⟩
    · refine forall_optionalElement fun reason member => ?_
      obtain ⟨value, -, rfl⟩ := Option.map_eq_some_iff.mp member
      exact ⟨tags.2.2.2.1, isXmlText_decimal value, others.2.2.2.1⟩
    · refine forall_optionalElement fun subflow member => ?_
      have isPlain := (event.report subflow (inserts.subflow subflow member)).2
      exact ⟨tags.2.2.2.2, isPlain.isXmlText, others.2.2.2.2⟩
  constructor
  · exact root
  · exact (by decide : IsTag (ascii "type"))
  · change IsXmlValue text.evstr
    rw [inserts.evstr]
    exact evstr
  · exact fun element member => (children element member).1
  · exact fun element member => (children element member).2.1
  · exact fun element member => (children element member).2.2

theorem namesIface_document {text : EventText} (formed : XmlFormed (document text))
    (iface : text.iface = some name) : NamesIface name (document text).bytes := by
  obtain ⟨chars, attrs, nodes, charsText, isDocument, found⟩ := exists_document formed
  have here := found (ascii "iface") (by decide)
  have element : (document text).children.find? (fun element => element.tag == ascii "iface") =
      some ⟨ascii "iface", name⟩ := by
    have other : (ascii "desc" == ascii "iface") = false := by decide
    simp [document, optionalElement, iface, other]
  rw [element] at here
  obtain ⟨inner, isChild, innerEq⟩ := Option.map_eq_some_iff.mp here
  exact ⟨chars, attrs, nodes, inner, charsText, isDocument, isChild, innerEq⟩

theorem tagText_readText (text : List UInt8) : tagText (readText text) = strip text := by
  unfold readText
  split
  · rename_i empty
    rw [empty]
    rfl
  · rfl

/-- The search for the name of the device. -/
theorem xmlSearch_iface {text : EventText} (iface : text.iface = some name)
    (solid : ∀ byte ∈ name, isspace byte = false) :
    xmlSearch [documentTree (document text)] (ascii "iface") = some name := by
  have others : strcaseeq (ascii "event") (ascii "iface") = false ∧
      strcaseeq (ascii "type") (ascii "iface") = false ∧
        strcaseeq (ascii "desc") (ascii "iface") = false := by decide
  have same : strcaseeq (ascii "iface") (ascii "iface") = true := by decide
  have read : tagText (readText name) = name := by
    rw [tagText_readText, strip_of_no_space solid]
  simp [xmlSearch, documentTree, document, optionalElement, iface, textTree, searchTag,
    searchSubs, findChild, xmltagGetattr, others, same, read]

theorem carries_event {xmlParse : List UInt8 → Except Int (List Tree)}
    (reads : ReadsXml xmlParse) (valid : ValidName name) (plain : IsPlainXml name)
    (event : PrintedEvent name) :
    NamesIface name event.sent.buf ∧ ∃ xml evinfo, xmlParse event.sent.buf = .ok xml ∧
      ldtIfaceevParse2 event.type (eventOf xml) (tpGetparseflags event.type) = .ok evinfo ∧
        evinfo.iface = some name := by
  obtain ⟨info, text, found, inserts, buf⟩ := event.exists_text valid.short
  have formed := xmlFormed_document found inserts plain
  have parsed := reads _ _ (writesXml_document formed)
  have iface : (eventOf [documentTree (document text)]).iface = some name :=
    xmlSearch_iface inserts.iface valid.solid
  have evinfo : ∃ evinfo, ldtIfaceevParse2 event.type (eventOf [documentTree (document text)])
      (tpGetparseflags event.type) = .ok evinfo ∧ evinfo.iface = some name := by
    rw [ldtIfaceevParse2, iface, Option.isNone_some, Bool.false_and, if_neg Bool.false_ne_true]
    exact ⟨_, rfl, rfl⟩
  obtain ⟨evinfo, evinfoEq, taken⟩ := evinfo
  rw [buf]
  exact ⟨namesIface_document formed inserts.iface, _, evinfo, parsed, evinfoEq, taken⟩

end Events

section Necessity

variable {name : List UInt8}

/-- The attribute `name` can only be decoded to the name if the name stands for itself there. -/
theorem plain_of_namesDev {numbers : DevNumbers} {tun : LdtTun} (cstringEq : cstring name = name)
    (named : NamesDev name (devText name numbers tun)) :
    ∃ chars, utf8 chars = name ∧
      ∀ char ∈ chars, isXmlChar char = true ∧ char ≠ '<' ∧ char ≠ '&' ∧ char ≠ quot := by
  obtain ⟨chars, attrs, children, value, text, document, found, valueText⟩ := named
  have opened : ascii "<dev name=\"" =
      utf8 ('<' :: ("dev".toList ++ ' ' :: ("name".toList ++ ['=', quot]))) := by decide
  have quoted : ascii "\">\n" = utf8 [quot] ++ [62, 10] := by decide
  rw [devText_eq, cstringEq, ← valueText, opened, quoted, List.append_assoc] at text
  obtain ⟨behindOpened, rfl, openedText⟩ := exists_of_utf8_append text
  obtain ⟨behindName, rfl, nameText⟩ := exists_of_utf8_append openedText
  obtain ⟨more, rfl, -⟩ := exists_of_utf8_append nameText
  simp only [List.cons_append, List.append_assoc, List.nil_append] at document
  obtain ⟨-, value', raw, attrs', chars', gap, left, rfl, isValue, -, -, same, -⟩ :=
    document.of_tag (by decide) (by decide)
  rw [List.lookup_cons_self] at found
  obtain rfl := Option.some.inj found
  exact ⟨value', valueText, isValue.plain_of_eq same⟩

/-- A document with two elements, each with a text between its tags. -/
theorem charData_of_document {evstr desc chars more : List Char} {root : Node}
    (isDocument : XmlDocument.Document root
      ('<' :: ("event".toList ++ ' ' :: ("type".toList ++ '=' :: quot :: (evstr ++
        quot :: '>' :: (Char.ofNat 10 :: ' ' :: ' ' :: '<' :: ("desc".toList ++ '>' :: (desc ++
          '<' :: '/' :: ("desc".toList ++ '>' :: (Char.ofNat 10 :: ' ' :: ' ' :: '<' ::
            ("iface".toList ++ '>' :: (chars ++ '<' :: '/' ::
              ("iface".toList ++ '>' :: more)))))))))))))
    (noQuote : quot ∉ evstr) (descPlain : ∀ char ∈ desc, char ≠ '<' ∧ char ≠ '&')
    (noMarkup : ∀ char ∈ chars, char ≠ '<' ∧ char ≠ '&') : CharData chars := by
  cases root with
  | text chars => contradiction
  | element name attrs children =>
      obtain ⟨-, value, raw, attrs', chars', gap, left, -, isValue, isAttrs, white, same, opens⟩ :=
        isDocument.of_tag (by decide) (by decide)
      have rawFree := isValue.quote_not_mem (.inl rfl)
      obtain ⟨rfl, -, rest⟩ := XmlDocument.span_unique
        (fun char member => show char ≠ quot from fun same => rawFree (same ▸ member))
        (fun char member => fun same => noQuote (same ▸ member)) (not_not.mpr rfl)
        (not_not.mpr rfl) same
      rcases opens with ⟨inner, behind, content, rfl⟩ | ⟨behind, rfl⟩
      · obtain ⟨-, -, split⟩ := XmlDocument.attributes_end isAttrs white (by decide) rest
        have indent : ∀ char ∈ [Char.ofNat 10, ' ', ' '], char ≠ '<' ∧ char ≠ '&' :=
          List.all_iff_forall_prop.mp (by decide)
        obtain ⟨-, nodes, rest', isRest, split'⟩ :=
          content.of_textElement indent descPlain (by decide) split
        exact (isRest.of_textElement indent noMarkup (by decide) split').1
      · obtain ⟨-, slash, -⟩ := XmlDocument.attributes_end isAttrs white (by decide) rest
        contradiction

/-- The document of an event about a device and nothing else. -/
theorem charData_of_namesIface {evstr desc chars : List Char}
    (named : NamesIface name (document {
      evstr := utf8 evstr
      desc := utf8 desc
      iface := some (utf8 chars)
      pdev := none
      reason := none
      subflow := none }).bytes)
    (noQuote : quot ∉ evstr) (descPlain : ∀ char ∈ desc, char ≠ '<' ∧ char ≠ '&')
    (noMarkup : ∀ char ∈ chars, char ≠ '<' ∧ char ≠ '&') : CharData chars := by
  obtain ⟨written, attrs, children, inner, text, isDocument, -⟩ := named
  have strings : ascii "<event type=\"" =
        utf8 ('<' :: ("event".toList ++ ' ' :: ("type".toList ++ ['=', quot]))) ∧
      ascii "\">\n" = utf8 [quot, '>', Char.ofNat 10] ∧
        ascii "  <desc>" = utf8 (' ' :: ' ' :: '<' :: ("desc".toList ++ ['>'])) ∧
          ascii "</desc>\n" = utf8 ('<' :: '/' :: ("desc".toList ++ ['>', Char.ofNat 10])) ∧
            ascii "  <iface>" = utf8 (' ' :: ' ' :: '<' :: ("iface".toList ++ ['>'])) ∧
              ascii "</iface>\n" = utf8 ('<' :: '/' :: ("iface".toList ++ ['>', Char.ofNat 10])) ∧
                ascii "</event>\n" =
                  utf8 ('<' :: '/' :: ("event".toList ++ ['>', Char.ofNat 10])) := by
    decide
  simp only [bytes_document, eventFormat, ifaceLine, pdevLine, Option.map_some, Option.map_none,
    Option.getD_some, Option.getD_none, Option.isSome_none, Bool.false_eq_true, if_false,
    List.append_nil, strings, ← utf8_append] at text
  obtain rfl := utf8_injective text
  simp only [List.append_assoc, List.cons_append, List.nil_append] at isDocument
  exact charData_of_document isDocument noQuote descPlain noMarkup

/-- A device that is active, and has no tunnel. -/
def activeDevice : LdtDev where
  pdev := none
  active := true
  hastun := false
  tun := ldtTunWith none

/-- A system with no other devices than those with the name. -/
def namedSystem (name : List UInt8) : System where
  netdev _ := {
    name := name
    net := 0
    registered := true
    iffUp := true
    neededHeadroom := 0
    ipPtr := none
    ip6Ptr := none
    ldt := some activeDevice }
  nextNdev := 1
  sent := []
  fault := none

def ifupText (name : List UInt8) : EventText where
  evstr := ascii "ifup"
  desc := ascii "new interface brought up"
  iface := some name
  pdev := none
  reason := none
  subflow := none

theorem prints_ifupText (short : name.length < IFNAMSIZ) :
    ldtEventCrsend (namedSystem name) EvType.ifup.num (.tdev 0) 0 none true =
      .ok (some ⟨some 0, EvType.ifup.num, (document (ifupText name)).bytes⟩) := by
  obtain ⟨info, found, kind, entry⟩ := exists_tableEntry .ifup
  obtain rfl := Except.ok.inj found
  have sends : Sends (namedSystem name) EvType.ifup.num _ 0 none (.tdev 0)
      ⟨some 0, EvType.ifup.num, ifupText name⟩ := .tdev 0 kind
  have fits : (document (ifupText name)).bytes.length ≤ 254 := by
    refine length_document_le entry rfl rfl ?_ (by simp [ifupText]) (by simp [ifupText])
      (by simp [ifupText])
    intro iface member
    obtain rfl := Option.some.inj member
    exact short
  exact sends.crsend_eq found fits true

theorem noReason_ge : (-2 ^ 31 : Int) ≤ 0 := by
  decide

theorem noReason_lt : (0 : Int) < 2 ^ 31 := by
  decide

theorem forall_mem_none {property : List UInt8 → Prop} :
    ∀ name ∈ (none : Option (List UInt8)), property name := by
  intro name member
  contradiction

/-- The interface of the device is brought up. -/
def ifupEvent (name : List UInt8) (short : name.length < IFNAMSIZ) : PrintedEvent name where
  system := namedSystem name
  id := 0
  type := .ifup
  dat := .tdev 0
  reason := 0
  subflowReport := none
  kmalloc := true
  sent := ⟨some 0, EvType.ifup.num, (document (ifupText name)).bytes⟩
  named := rfl
  concerns := .tdev
  reason_ge := noReason_ge
  reason_lt := noReason_lt
  pdev := forall_mem_none
  report := forall_mem_none
  prints := prints_ifupText short

/-- A text is printed whole into a buffer that is large enough. -/
theorem snprintf_malloc (text : List UInt8) :
    PrintBuffer.snprintf text 0 (text.length + 1) (malloc (text.length + 1)) =
      some (text.map some ++ [some 0], text.length) := by
  rw [PrintBuffer.snprintf, if_neg (Nat.succ_ne_zero _), Nat.add_sub_cancel,
    List.take_of_length_le (Nat.le_refl _), PrintBuffer.write, if_pos (by simp)]
  simp [malloc]

/-- Some description or some event does not have the name if it does not stand for itself. -/
theorem isPlainXml_of_carriesName {xmlParse : List UInt8 → Except Int (List Tree)}
    (valid : ValidName name) (carries : CarriesName xmlParse name) : IsPlainXml name := by
  have devinfo := getDevinfo_eq name ⟨0, 0, 0⟩ activeDevice rfl
  obtain ⟨text, here, named⟩ := carries.description _ _ _ _ _ _ devinfo (snprintf_malloc _)
    (Nat.lt_succ_self _)
  rw [List.take_left' (List.length_map _)] at here
  obtain rfl := List.map_injective_iff.mpr (Option.some_injective _) here
  obtain ⟨chars, rfl, plain⟩ := plain_of_namesDev valid.cstring_eq named
  have event := (carries.events (ifupEvent (utf8 chars) valid.short)).1
  have strings : ascii "ifup" = utf8 "ifup".toList ∧
      ascii "new interface brought up" = utf8 "new interface brought up".toList := by decide
  simp only [ifupEvent, ifupText, strings] at event
  have isData := charData_of_namesIface event (by decide) (List.all_iff_forall_prop.mp (by decide))
    fun char member => ⟨(plain char member).2.1, (plain char member).2.2.1⟩
  exact ⟨chars, rfl, isData, fun member => (plain quot member).2.2.2 rfl⟩

end Necessity

/-- All texts for a device have its name, and the tool takes it out of them, if and only if the
name stands for itself in XML. -/
theorem carriesName_iff_isPlainXml (xmlParse : List UInt8 → Except Int (List Tree))
    (reads : ReadsXml xmlParse) (name : List UInt8) (valid : ValidName name) :
    CarriesName xmlParse name ↔ IsPlainXml name := by
  refine ⟨isPlainXml_of_carriesName valid, fun plain => ?_⟩
  constructor
  · intro numbers tdev printer size len memory devinfo prints fits
    exact ⟨_, take_of_getDevinfo devinfo prints fits, namesDev_devText valid plain _ _⟩
  · intro numbers system ids names
    refine tpParseStatus_listText reads numbers system ids fun id member => ?_
    rcases names id member with same | others
    · rw [same]
      exact ⟨valid, plain⟩
    · exact others
  · exact carries_event reads valid plain

/-- A bracket that closes nothing stands for itself. -/
theorem carriesName_greater :
    CarriesName (fun bytes => .ok (readXml bytes)) (ascii "ldt->0") :=
  (carriesName_iff_isPlainXml _ readsXml_readXml _ (by decide)).mpr
    ⟨"ldt->0".toList, by decide, ⟨List.all_iff_forall_prop.mp (by decide),
      List.all_iff_forall_prop.mp (by decide), by decide⟩, by decide⟩

/-- The tool takes this name for that of the device `a<b`. -/
theorem not_carriesName_reference :
    ReadsXml (fun bytes => .ok (readXml bytes)) ∧ ValidName (ascii "a&lt;b") ∧
      ¬ CarriesName (fun bytes => .ok (readXml bytes)) (ascii "a&lt;b") := by
  have valid : ValidName (ascii "a&lt;b") := by decide
  refine ⟨readsXml_readXml, valid, ?_⟩
  intro carries
  obtain ⟨chars, text, isData, -⟩ := isPlainXml_of_carriesName valid carries
  have same : utf8 chars = utf8 "a&lt;b".toList := by
    rw [text]
    decide
  obtain rfl := utf8_injective same
  exact (isData.noMarkup '&' (by decide)).2 rfl

end Tunprox.NameInXml
