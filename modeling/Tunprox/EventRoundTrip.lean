import Mathlib.Data.Nat.Digits.Lemmas
import Tunprox.Device
import Tunprox.ElementText
import Tunprox.EventMessage
import Tunprox.WaitEvent

/-!
# From the kernel's event to the tool's

`ldt_event_crsend` prints an event into a buffer, `do_send_event` sends it, and the tool takes
it apart again with the XML parser of its library.  The formats of the five kinds are written
out here as they are printed, and shown to be the documents that the events of `Device` stand
for.  `ldt_ifaceev_parse2` looks for every element but the reason of a failure.
-/

namespace Tunprox.EventRoundTrip

open Errno Event Device ElementText ByteBuffer EventMessage WaitEvent NetlinkMessage
open Netlink (XmlEvent Delivery)
open Connection (ConnState)

/-- The string that `snprintf` leaves in a buffer of the size. -/
def snprintf (size : Nat) (text : List UInt8) : List UInt8 :=
  text.take (size - 1)

/-- The decimal digits of a number. -/
def digitBytes (number : Nat) : List UInt8 :=
  if number = 0 then [48]
  else (Nat.digits 10 number).reverse.map fun digit => UInt8.ofNat (48 + digit)

/-- The conversion `%d`. -/
def decimal (value : Int) : List UInt8 :=
  if value < 0 then 45 :: digitBytes value.natAbs else digitBytes value.natAbs

/-- The lines that all formats begin and end with. -/
def eventFormat (evtype desc lines : List UInt8) : List UInt8 :=
  ascii "<event type=\"" ++ evtype ++ ascii "\">\n" ++
    (ascii "  <desc>" ++ desc ++ ascii "</desc>\n") ++ lines ++ ascii "</event>\n"

def ifaceLine (name : List UInt8) : List UInt8 :=
  ascii "  <iface>" ++ name ++ ascii "</iface>\n"

/-- The three strings of the format with a physical device, which are empty without one. -/
def pdevLine (pdev : Option (List UInt8)) : List UInt8 :=
  (if pdev.isSome then ascii "  <pdev>" else []) ++ pdev.getD [] ++
    (if pdev.isSome then ascii "</pdev>\n" else [])

def reasonLine (reason : Int) : List UInt8 :=
  ascii "  <reason>" ++ decimal reason ++ ascii "</reason>\n"

def subflowLine (subflow : List UInt8) : List UInt8 :=
  ascii "  <subflow>" ++ subflow ++ ascii "</subflow>\n"

/-- An event as it is handed to `ldt_nl_send_event`. -/
structure SentText where
  net : Option NetId
  evtype : Int
  buf : List UInt8

/-- `sizeof (buf)` of the buffers that events are printed into. -/
def BUFSZ : Nat := 256

/-- `mpdccptun_eventcreate` into a buffer of `evlen` bytes: what it returns, and the string
in the buffer. -/
def mpdccptunEventcreate (system : System) (owner : NdevId) (tundata : Option ConnState)
    (info : EvInfo) (subflowReport : Option (List UInt8)) (evlen : Nat) :
    Except Int (Nat × List UInt8) :=
  match tundata with
  | none => .error (-EINVAL)
  | some state =>
      if state.tdat.tostop then .error (-EPERM)
      else
        let name := (system.netdev owner).name
        let text :=
          match subflowReport with
          | some subflow => eventFormat info.evstr info.desc (ifaceLine name ++ subflowLine subflow)
          | none => eventFormat info.evstr info.desc (ifaceLine name)
        .ok (text.length, snprintf (evlen - 1) text)

/-- The string in `buf` at the end of `ldt_event_crsend2`; `kmalloc` tells whether there is
memory for a longer one. -/
def crsend2Buf (system : System) (owner : NdevId) (tun : LdtTun) (info : EvInfo)
    (subflowReport : Option (List UInt8)) (kmalloc : Bool) : List UInt8 :=
  let name :=
    match tun.tdev with
    | none => []
    | some tdev => (system.netdev tdev).name
  let simplevent := snprintf (BUFSZ - 1) (eventFormat info.evstr info.desc (ifaceLine name))
  if tun.tunops.isSome then
    match mpdccptunEventcreate system owner tun.tundata info subflowReport BUFSZ with
    | .error _ => simplevent
    | .ok (ret, buf) =>
        if BUFSZ < ret + 1 then
          if kmalloc then
            match mpdccptunEventcreate system owner tun.tundata info subflowReport (ret + 1) with
            | .error _ => simplevent
            | .ok (_, buf) => buf
          else simplevent
        else buf
  else simplevent

/-- `ldt_event_crsend2` -/
def ldtEventCrsend2 (system : System) (owner : NdevId) (tun : LdtTun) (evtype : Int)
    (info : EvInfo) (subflowReport : Option (List UInt8)) (kmalloc : Bool) : SentText where
  net := tun2net system tun
  evtype := evtype
  buf := crsend2Buf system owner tun info subflowReport kmalloc

/-- The kinds that are printed with the name of `tun->tdev` and the lines `add`. -/
def crsendTdev (system : System) (tun : LdtTun) (evtype : Int) (info : EvInfo)
    (add : NdevId → List UInt8) : Option SentText :=
  tun.tdev.map fun tdev => {
    net := some (system.netdev tdev).net
    evtype := evtype
    buf := snprintf (BUFSZ - 1) (eventFormat info.evstr info.desc
      (ifaceLine (system.netdev tdev).name ++ add tdev)) }

/-- `ldt_event_crsend` up to the sending: what is sent, or nothing if a null pointer has been
read through. -/
def ldtEventCrsend (system : System) (evtype : Int) (dat : EvData) (reason : Int)
    (subflowReport : Option (List UInt8)) (kmalloc : Bool) : Except Int (Option SentText) :=
  match ldtEventGetinfo evtype with
  | .error ret => .error ret
  | .ok info =>
      match info.kind, dat with
      | .tdev, .tdev id | .ndev, .ndev id =>
          .ok (some {
            net := some (system.netdev id).net
            evtype := evtype
            buf := snprintf (BUFSZ - 1) (eventFormat info.evstr info.desc
              (ifaceLine (system.netdev id).name)) })
      | .tun, .tun _ tun =>
          .ok (crsendTdev system tun evtype info fun tdev => pdevLine (pdevName system tdev))
      | .tunconnect, .tun owner tun =>
          .ok (some (ldtEventCrsend2 system owner tun evtype info subflowReport kmalloc))
      | .tunfail, .tun _ tun =>
          .ok (crsendTdev system tun evtype info fun _ => reasonLine reason)
      | _, _ =>
          .ok (some {
            net := none
            evtype := evtype
            buf := snprintf (BUFSZ - 1) (eventFormat info.evstr info.desc []) })

/-- The document that an event stands for. -/
def document (text : EventText) : Document where
  root := ascii "event"
  attr := ascii "type"
  value := text.evstr
  children := optionalElement (ascii "desc") (some text.desc) ++
    optionalElement (ascii "iface") text.iface ++ optionalElement (ascii "pdev") text.pdev ++
      optionalElement (ascii "reason") (text.reason.map decimal) ++
        optionalElement (ascii "subflow") text.subflow

/-- What `xml_search` finds among the elements. -/
def elementsOf (elements : List Element) : XmlEvent where
  iface := find elements (ascii "iface")
  pdev := find elements (ascii "pdev")
  desc := find elements (ascii "desc")
  remaddr := find elements (ascii "remaddr")
  remport := find elements (ascii "remport")
  subflow := find elements (ascii "subflow")

/-- `xml_parse` takes the documents of events apart, and `xml_search` returns the texts of
their elements without white space at the ends. -/
def ReadsElements (xmlParse : List UInt8 → Except Int XmlEvent) : Prop :=
  ∀ document, WellFormed document → document.root = ascii "event" →
    document.attr = ascii "type" → xmlParse document.bytes = .ok (elementsOf document.children)

/-- A text that fits the buffer, with the two bytes that are not used, is printed whole. -/
theorem snprintf_of_fits {text : List UInt8} (fits : text.length ≤ 254) :
    snprintf (BUFSZ - 1) text = text :=
  List.take_of_length_le fits

theorem elementsOf_document (text : EventText) :
    elementsOf (document text).children = {
      iface := text.iface.map strip
      pdev := text.pdev.map strip
      desc := some (strip text.desc)
      remaddr := none
      remport := none
      subflow := text.subflow.map strip } := by
  cases text with
  | mk evstr desc iface pdev subflow reason =>
      cases iface <;> cases pdev <;> cases subflow <;> cases reason <;> rfl

/-- The strings of the table fit the buffers and are texts of elements. -/
structure TableEntry (info : EvInfo) : Prop where
  evstr_le : info.evstr.length ≤ 14
  desc_le : info.desc.length ≤ 36
  evstr_plain : Plain info.evstr
  desc_plain : Plain info.desc
  desc_strip : strip info.desc = info.desc

theorem exists_tableEntry (type : EvType) :
    ∃ info, ldtEventGetinfo type.num = .ok info ∧ info.kind = type.kind ∧ TableEntry info := by
  cases type <;>
    exact ⟨_, rfl, rfl, ⟨by decide, by decide, by decide, by decide, by decide⟩⟩

/-- The name of a network device. -/
structure NetName (name : List UInt8) : Prop where
  short : name.length < IFNAMSIZ
  plain : Plain name
  solid : ∀ byte ∈ name, isspace byte = false

/-- The name of a subflow, which has an array of its own in the tunnel. -/
structure LinkName (name : List UInt8) : Prop where
  short : name.length ≤ IFNAMSIZ
  plain : Plain name

/-- A line that is printed is an element. -/
theorem bytes_element {tag opened closed : List UInt8} (text : List UInt8)
    (openedEq : opened = ascii "  <" ++ tag ++ ascii ">")
    (closedEq : closed = ascii "</" ++ tag ++ ascii ">\n") :
    Element.bytes ⟨tag, text⟩ = opened ++ text ++ closed := by
  simp only [Element.bytes, openedEq, closedEq, List.append_assoc]

theorem bytes_iface (name : List UInt8) :
    Element.bytes ⟨ascii "iface", name⟩ = ifaceLine name :=
  bytes_element name (by decide) (by decide)

theorem bytes_pdev (pdev : Option (List UInt8)) :
    (optionalElement (ascii "pdev") pdev).flatMap Element.bytes = pdevLine pdev := by
  cases pdev with
  | none => rfl
  | some name =>
      have opened : ascii "  <pdev>" = ascii "  <" ++ ascii "pdev" ++ ascii ">" := by decide
      have closed : ascii "</pdev>\n" = ascii "</" ++ ascii "pdev" ++ ascii ">\n" := by decide
      rw [optionalElement, Option.map_some, Option.toList_some, List.flatMap_singleton]
      exact bytes_element name opened closed

theorem bytes_reason (reason : Int) :
    Element.bytes ⟨ascii "reason", decimal reason⟩ = reasonLine reason :=
  bytes_element (decimal reason) (by decide) (by decide)

theorem bytes_subflow (subflow : List UInt8) :
    Element.bytes ⟨ascii "subflow", subflow⟩ = subflowLine subflow :=
  bytes_element subflow (by decide) (by decide)

/-- What is printed is the document of the event. -/
theorem bytes_document (text : EventText) :
    (document text).bytes = eventFormat text.evstr text.desc
      ((text.iface.map ifaceLine).getD [] ++ pdevLine text.pdev ++
        (text.reason.map reasonLine).getD [] ++ (text.subflow.map subflowLine).getD []) := by
  have desc : Element.bytes ⟨ascii "desc", text.desc⟩ =
      ascii "  <desc>" ++ text.desc ++ ascii "</desc>\n" :=
    bytes_element text.desc (by decide) (by decide)
  have line {tag : List UInt8} {format : List UInt8 → List UInt8}
      (same : ∀ name, Element.bytes ⟨tag, name⟩ = format name) (name : Option (List UInt8)) :
      (optionalElement tag name).flatMap Element.bytes = (name.map format).getD [] := by
    cases name with
    | none => rfl
    | some name => simp [optionalElement, same]
  have reason : (optionalElement (ascii "reason") (text.reason.map decimal)).flatMap Element.bytes =
      (text.reason.map reasonLine).getD [] := by
    cases text.reason with
    | none => rfl
    | some reason => simp [optionalElement, bytes_reason]
  have opened : ascii "<" ++ ascii "event" ++ ascii " " ++ ascii "type" ++ ascii "=\"" =
      ascii "<event type=\"" := by decide
  have closed : ascii "</" ++ ascii "event" ++ ascii ">\n" = ascii "</event>\n" := by decide
  simp only [Document.bytes, Document.opening, Document.closing, document, opened, closed,
    List.flatMap_append, line bytes_iface, line bytes_subflow, bytes_pdev, reason]
  simp only [optionalElement, Option.map_some, Option.toList_some, List.flatMap_singleton, desc,
    eventFormat, List.append_assoc]

theorem length_digitBytes_le {number width : Nat} (positive : 0 < width)
    (small : number < 10 ^ width) : (digitBytes number).length ≤ width := by
  unfold digitBytes
  split
  · exact positive
  · rw [List.length_map, List.length_reverse]
    exact (Nat.digits_length_le_iff (by decide) number).mpr small

theorem plain_digitBytes (number : Nat) : Plain (digitBytes number) := by
  unfold digitBytes
  split
  · decide
  · intro byte member
    obtain ⟨digit, digitMem, rfl⟩ := List.mem_map.mp member
    have small : digit < 10 := Nat.digits_lt_base (by decide) (List.mem_reverse.mp digitMem)
    interval_cases digit <;> rfl

theorem length_decimal_le {value : Int} (lower : -2 ^ 31 ≤ value) (upper : value < 2 ^ 31) :
    (decimal value).length ≤ 11 := by
  have digits : (digitBytes value.natAbs).length ≤ 10 :=
    length_digitBytes_le (by decide) (by omega)
  unfold decimal
  split
  · rw [List.length_cons]
    omega
  · omega

theorem plain_decimal (value : Int) : Plain (decimal value) := by
  have digits := plain_digitBytes value.natAbs
  unfold decimal
  split
  · intro byte member
    rcases List.mem_cons.mp member with rfl | member
    · rfl
    · exact digits byte member
  · exact digits

theorem length_eventFormat (evtype desc lines : List UInt8) :
    (eventFormat evtype desc lines).length =
      41 + evtype.length + desc.length + lines.length := by
  have parts : (ascii "<event type=\"").length = 13 ∧ (ascii "\">\n").length = 3 ∧
      (ascii "  <desc>").length = 8 ∧ (ascii "</desc>\n").length = 8 ∧
        (ascii "</event>\n").length = 9 := by decide
  simp only [eventFormat, List.length_append, parts]
  omega

theorem length_ifaceLine (name : List UInt8) : (ifaceLine name).length = 18 + name.length := by
  have parts : (ascii "  <iface>").length = 9 ∧ (ascii "</iface>\n").length = 9 := by decide
  simp only [ifaceLine, List.length_append, parts]
  omega

theorem length_pdevLine_le {pdev : Option (List UInt8)} {bound : Nat}
    (short : ∀ name ∈ pdev, name.length ≤ bound) : (pdevLine pdev).length ≤ 16 + bound := by
  cases pdev with
  | none => exact Nat.zero_le _
  | some name =>
      have parts : (ascii "  <pdev>").length = 8 ∧ (ascii "</pdev>\n").length = 8 := by decide
      have fits := short name rfl
      simp only [pdevLine, Option.isSome_some, if_true, Option.getD_some, List.length_append,
        parts]
      omega

theorem length_reasonLine (reason : Int) :
    (reasonLine reason).length = 20 + (decimal reason).length := by
  have parts : (ascii "  <reason>").length = 10 ∧ (ascii "</reason>\n").length = 10 := by
    decide
  simp only [reasonLine, List.length_append, parts]
  omega

theorem length_subflowLine (subflow : List UInt8) :
    (subflowLine subflow).length = 22 + subflow.length := by
  have parts : (ascii "  <subflow>").length = 11 ∧ (ascii "</subflow>\n").length = 11 := by
    decide
  simp only [subflowLine, List.length_append, parts]
  omega

/-- A text with the strings of the table, and with names of devices and subflows, is not cut
off. -/
theorem length_document_le {info : EvInfo} {text : EventText} (entry : TableEntry info)
    (evstrEq : text.evstr = info.evstr) (descEq : text.desc = info.desc)
    (ifaceShort : ∀ name ∈ text.iface, name.length < IFNAMSIZ)
    (pdevShort : ∀ name ∈ text.pdev, name.length < IFNAMSIZ)
    (reasonBounds : ∀ reason ∈ text.reason, -2 ^ 31 ≤ reason ∧ reason < 2 ^ 31)
    (subflowShort : ∀ name ∈ text.subflow, name.length ≤ IFNAMSIZ) :
    (document text).bytes.length ≤ 254 := by
  have evstr := entry.evstr_le
  have desc := entry.desc_le
  have iface : ((text.iface.map ifaceLine).getD []).length ≤ 33 := by
    cases ifaceEq : text.iface with
    | none => exact Nat.zero_le _
    | some name =>
        have short := ifaceShort name ifaceEq
        unfold IFNAMSIZ at short
        rw [Option.map_some, Option.getD_some, length_ifaceLine]
        omega
  have pdev : (pdevLine text.pdev).length ≤ 16 + 15 :=
    length_pdevLine_le fun name member => Nat.le_of_lt_succ (pdevShort name member)
  have reason : ((text.reason.map reasonLine).getD []).length ≤ 31 := by
    cases reasonEq : text.reason with
    | none => exact Nat.zero_le _
    | some reason =>
        have bounds := reasonBounds reason reasonEq
        have short := length_decimal_le bounds.1 bounds.2
        rw [Option.map_some, Option.getD_some, length_reasonLine]
        omega
  have subflow : ((text.subflow.map subflowLine).getD []).length ≤ 38 := by
    cases subflowEq : text.subflow with
    | none => exact Nat.zero_le _
    | some subflow =>
        have short := subflowShort subflow subflowEq
        unfold IFNAMSIZ at short
        rw [Option.map_some, Option.getD_some, length_subflowLine]
        omega
  rw [bytes_document, length_eventFormat, evstrEq, descEq]
  simp only [List.length_append]
  omega

/-- What the branch for a kind takes the argument `dat` for. -/
inductive Points : EvKind → EvData → Prop where
  | global (dat : EvData) : Points .global dat
  | tdev (id : NdevId) : Points .tdev (.tdev id)
  | ndev (id : NdevId) : Points .ndev (.ndev id)
  | tun (owner : NdevId) (tun : LdtTun) : Points .tun (.tun owner tun)
  | tunconnect (owner : NdevId) (tun : LdtTun) : Points .tunconnect (.tun owner tun)
  | tunfail (owner : NdevId) (tun : LdtTun) : Points .tunfail (.tun owner tun)

/-- An event that the module has raised. -/
structure Raised where
  system : System
  type : EvType
  dat : EvData
  reason : Int
  subflowReport : Option (List UInt8)
  event : NlEvent
  points : Points type.kind dat
  sent : (Device.ldtEventCrsend system type.num dat reason subflowReport).2.sent =
    system.sent ++ [event]
  reason_ge : -2 ^ 31 ≤ reason
  reason_lt : reason < 2 ^ 31
  names : ∀ id, NetName (system.netdev id).name
  report : ∀ subflow ∈ subflowReport, LinkName subflow

/-- The tunnel makes the texts of its events itself. -/
def runs (tun : LdtTun) : Bool :=
  tun.tunops.isSome && tun.tundata.any fun state => !state.tdat.tostop

/-- The name that `ldt_event_crsend2` finds. -/
def tdevName (system : System) (tun : LdtTun) : List UInt8 :=
  match tun.tdev with
  | none => []
  | some tdev => (system.netdev tdev).name

/-- What `ldt_event_crsend` sends, kind by kind. -/
inductive Sends (system : System) (evtype : Int) (info : EvInfo) (reason : Int)
    (subflowReport : Option (List UInt8)) : EvData → NlEvent → Prop where
  | global (dat : EvData) (kind : info.kind = .global) :
      Sends system evtype info reason subflowReport dat ⟨none, evtype, info.text⟩
  | tdev (id : NdevId) (kind : info.kind = .tdev) :
      Sends system evtype info reason subflowReport (.tdev id)
        ⟨some (system.netdev id).net, evtype,
          { info.text with iface := some (system.netdev id).name }⟩
  | ndev (id : NdevId) (kind : info.kind = .ndev) :
      Sends system evtype info reason subflowReport (.ndev id)
        ⟨some (system.netdev id).net, evtype,
          { info.text with iface := some (system.netdev id).name }⟩
  | tun (owner : NdevId) (tun : LdtTun) (tdev : NdevId) (kind : info.kind = .tun)
      (tdevEq : tun.tdev = some tdev) :
      Sends system evtype info reason subflowReport (.tun owner tun)
        ⟨some (system.netdev tdev).net, evtype,
          { info.text with
            iface := some (system.netdev tdev).name
            pdev := pdevName system tdev }⟩
  | tunfail (owner : NdevId) (tun : LdtTun) (tdev : NdevId) (kind : info.kind = .tunfail)
      (tdevEq : tun.tdev = some tdev) :
      Sends system evtype info reason subflowReport (.tun owner tun)
        ⟨some (system.netdev tdev).net, evtype,
          { info.text with
            iface := some (system.netdev tdev).name
            reason := some reason }⟩
  | created (owner : NdevId) (tun : LdtTun) (kind : info.kind = .tunconnect)
      (running : runs tun = true) :
      Sends system evtype info reason subflowReport (.tun owner tun)
        ⟨tun2net system tun, evtype,
          { info.text with
            iface := some (system.netdev owner).name
            subflow := subflowReport }⟩
  | simplevent (owner : NdevId) (tun : LdtTun) (kind : info.kind = .tunconnect)
      (stopped : runs tun = false) :
      Sends system evtype info reason subflowReport (.tun owner tun)
        ⟨tun2net system tun, evtype, { info.text with iface := some (tdevName system tun) }⟩

theorem event_of_sent {system : System} {net : Option NetId} {evtype : Int} {text : EventText}
    {event : NlEvent}
    (sent : (ldtEventSend system net evtype text).sent = system.sent ++ [event]) :
    event = ⟨net, evtype, text⟩ :=
  (List.singleton_inj.mp (List.append_cancel_left sent)).symm

theorem tdev_of_sent {system : System} {tun : LdtTun} {evtype : Int} {info : EvInfo}
    {add : NdevId → EventText → EventText} {event : NlEvent}
    (sent : (crsendThroughTdev system tun evtype info add).sent = system.sent ++ [event]) :
    ∃ tdev, tun.tdev = some tdev ∧
      event = ⟨some (system.netdev tdev).net, evtype,
        add tdev { info.text with iface := some (system.netdev tdev).name }⟩ := by
  unfold crsendThroughTdev at sent
  split at sent
  · simp at sent
  · rename_i tdev tdevEq
    exact ⟨tdev, tdevEq, event_of_sent sent⟩

theorem runs_iff (tun : LdtTun) :
    runs tun = true ↔
      tun.tunops.isSome = true ∧
        ∃ state, tun.tundata = some state ∧ state.tdat.tostop = false := by
  rw [runs, Bool.and_eq_true]
  cases tun.tundata with
  | none => simp
  | some state => simp

/-- A tunnel that does not run has no operations, no data, or is stopped. -/
theorem stopped_cases {tun : LdtTun} (stopped : runs tun = false) :
    tun.tunops.isSome = false ∨ tun.tundata = none ∨
      ∃ state, tun.tundata = some state ∧ state.tdat.tostop = true := by
  rw [runs, Bool.and_eq_false_iff] at stopped
  rcases stopped with noOps | quiet
  · exact .inl noOps
  · cases tundata : tun.tundata with
    | none => exact .inr (.inl rfl)
    | some state =>
        rw [tundata] at quiet
        exact .inr (.inr ⟨state, rfl, by simpa using quiet⟩)

section
variable {tun : LdtTun} (system : System) (owner : NdevId) (evtype : Int) (info : EvInfo)
  (subflowReport : Option (List UInt8))

/-- The text of a tunnel that runs. -/
theorem ldtEventCrsend2_of_runs (running : runs tun = true) :
    Device.ldtEventCrsend2 system owner tun evtype info subflowReport =
      ldtEventSend system (tun2net system tun) evtype
        { info.text with
          iface := some (system.netdev owner).name
          subflow := subflowReport } := by
  obtain ⟨ops, state, tundata, active⟩ := (runs_iff tun).mp running
  simp only [Device.ldtEventCrsend2, ops, if_true, Device.mpdccptunEventcreate, tundata, active,
    Bool.false_eq_true, if_false]

theorem ldtEventCrsend2_of_stopped (stopped : runs tun = false) :
    Device.ldtEventCrsend2 system owner tun evtype info subflowReport =
      ldtEventSend system (tun2net system tun) evtype
        { info.text with iface := some (tdevName system tun) } := by
  unfold Device.ldtEventCrsend2 Device.mpdccptunEventcreate
  obtain noOps | noData | ⟨state, tundata, stop⟩ := stopped_cases stopped
  · simp only [noOps, Bool.false_eq_true, if_false]
    rfl
  · simp only [noData, ite_self]
    rfl
  · simp only [tundata, stop, if_true, ite_self]
    rfl

/-- What `ldt_event_crsend2` prints for a tunnel that runs. -/
theorem crsend2Buf_of_runs (kmalloc : Bool) (running : runs tun = true)
    (fits : (eventFormat info.evstr info.desc (ifaceLine (system.netdev owner).name ++
      (subflowReport.map subflowLine).getD [])).length ≤ 254) :
    crsend2Buf system owner tun info subflowReport kmalloc =
      eventFormat info.evstr info.desc (ifaceLine (system.netdev owner).name ++
        (subflowReport.map subflowLine).getD []) := by
  obtain ⟨ops, state, tundata, active⟩ := (runs_iff tun).mp running
  have created : mpdccptunEventcreate system owner tun.tundata info subflowReport BUFSZ =
      .ok ((eventFormat info.evstr info.desc (ifaceLine (system.netdev owner).name ++
          (subflowReport.map subflowLine).getD [])).length,
        eventFormat info.evstr info.desc (ifaceLine (system.netdev owner).name ++
          (subflowReport.map subflowLine).getD [])) := by
    cases subflowReport with
    | none =>
        rw [Option.map_none, Option.getD_none, List.append_nil] at fits ⊢
        simp only [mpdccptunEventcreate, tundata, active, Bool.false_eq_true, if_false]
        rw [snprintf_of_fits fits]
    | some subflow =>
        rw [Option.map_some, Option.getD_some] at fits ⊢
        simp only [mpdccptunEventcreate, tundata, active, Bool.false_eq_true, if_false]
        rw [snprintf_of_fits fits]
  have small : ¬ BUFSZ < (eventFormat info.evstr info.desc
      (ifaceLine (system.netdev owner).name ++ (subflowReport.map subflowLine).getD [])).length +
        1 := by
    unfold BUFSZ
    omega
  simp only [crsend2Buf, ops, if_true, created, if_neg small]

theorem crsend2Buf_of_stopped (kmalloc : Bool) (stopped : runs tun = false)
    (fits : (eventFormat info.evstr info.desc (ifaceLine (tdevName system tun))).length ≤ 254) :
    crsend2Buf system owner tun info subflowReport kmalloc =
      eventFormat info.evstr info.desc (ifaceLine (tdevName system tun)) := by
  have printed := snprintf_of_fits fits
  unfold crsend2Buf mpdccptunEventcreate
  obtain noOps | noData | ⟨state, tundata, stop⟩ := stopped_cases stopped
  · simp only [noOps, Bool.false_eq_true, if_false]
    exact printed
  · simp only [noData, ite_self]
    exact printed
  · simp only [tundata, stop, if_true, ite_self]
    exact printed

end

/-- Inversion of `ldt_event_crsend`. -/
theorem Raised.sends (raised : Raised) :
    ∃ info, ldtEventGetinfo raised.type.num = .ok info ∧ info.kind = raised.type.kind ∧
      TableEntry info ∧
        Sends raised.system raised.type.num info raised.reason raised.subflowReport raised.dat
          raised.event := by
  obtain ⟨info, found, kind, entry⟩ := exists_tableEntry raised.type
  have sent := raised.sent
  refine ⟨info, found, kind, entry, ?_⟩
  have points := raised.points
  rw [← kind] at points
  simp only [Device.ldtEventCrsend, found] at sent
  generalize kindEq : info.kind = infoKind at points sent
  generalize raised.dat = dat at points sent
  cases points with
  | global =>
      rw [event_of_sent sent]
      exact .global dat kindEq
  | tdev id =>
      rw [event_of_sent sent]
      exact .tdev id kindEq
  | ndev id =>
      rw [event_of_sent sent]
      exact .ndev id kindEq
  | tun owner tun =>
      obtain ⟨tdev, tdevEq, eventEq⟩ := tdev_of_sent sent
      rw [eventEq]
      exact .tun owner tun tdev kindEq tdevEq
  | tunfail owner tun =>
      obtain ⟨tdev, tdevEq, eventEq⟩ := tdev_of_sent sent
      rw [eventEq]
      exact .tunfail owner tun tdev kindEq tdevEq
  | tunconnect owner tun =>
      change (Device.ldtEventCrsend2 raised.system owner tun raised.type.num info
        raised.subflowReport).sent = _ at sent
      cases running : runs tun with
      | true =>
          rw [ldtEventCrsend2_of_runs _ _ _ _ _ running] at sent
          rw [event_of_sent sent]
          exact .created owner tun kindEq running
      | false =>
          rw [ldtEventCrsend2_of_stopped _ _ _ _ _ running] at sent
          rw [event_of_sent sent]
          exact .simplevent owner tun kindEq running

/-- The tunnel makes the text, and puts the name of a subflow into it if it reports one. -/
def reportsSubflow (kind : EvKind) : EvData → Bool
  | .tun _ tun => decide (kind = .tunconnect) && runs tun
  | _ => false

theorem reportsSubflow_of_ne {kind : EvKind} (other : kind ≠ .tunconnect) (dat : EvData) :
    reportsSubflow kind dat = false := by
  cases dat with
  | tun owner tun => simp [reportsSubflow, other]
  | _ => rfl

/-- The data of an event that has been raised. -/
structure Shape (raised : Raised) (info : EvInfo) : Prop where
  evtype : raised.event.evtype = raised.type.num
  evstr : raised.event.text.evstr = info.evstr
  desc : raised.event.text.desc = info.desc
  iface : ∀ name ∈ raised.event.text.iface, NetName name
  named : raised.type.kind ≠ .global → raised.event.text.iface.isSome = true
  pdev : ∀ name ∈ raised.event.text.pdev, NetName name
  reason : raised.event.text.reason =
    if raised.type.kind = .tunfail then some raised.reason else none
  subflow : raised.event.text.subflow =
    if reportsSubflow raised.type.kind raised.dat then raised.subflowReport else none

theorem netName_nil : NetName [] where
  short := by decide
  plain := by simp [Plain]
  solid := by simp

theorem Raised.shape {raised : Raised} {info : EvInfo}
    (kind : info.kind = raised.type.kind)
    (sends : Sends raised.system raised.type.num info raised.reason raised.subflowReport
      raised.dat raised.event) : Shape raised info := by
  have names := raised.names
  generalize eventEq : raised.event = event at sends
  generalize datEq : raised.dat = dat at sends
  cases sends with
  | global dat isGlobal =>
      constructor <;> simp [eventEq, ← kind, isGlobal, EvInfo.text, reportsSubflow_of_ne]
  | tdev id isTdev =>
      constructor <;> simp [eventEq, ← kind, isTdev, EvInfo.text, reportsSubflow_of_ne, names]
  | ndev id isNdev =>
      constructor <;> simp [eventEq, ← kind, isNdev, EvInfo.text, reportsSubflow_of_ne, names]
  | tun owner tun tdev isTun tdevEq =>
      have pdev (name : List UInt8) (found : pdevName raised.system tdev = some name) :
          NetName name := by
        obtain ⟨id, -, rfl⟩ := Option.map_eq_some_iff.mp found
        exact names id
      constructor <;>
        simp +contextual [eventEq, ← kind, isTun, EvInfo.text, reportsSubflow_of_ne, names, pdev]
  | tunfail owner tun tdev isTunfail tdevEq =>
      constructor <;> simp [eventEq, ← kind, isTunfail, EvInfo.text, reportsSubflow_of_ne, names]
  | created owner tun isTunconnect running =>
      constructor <;>
        simp [eventEq, datEq, ← kind, isTunconnect, EvInfo.text, reportsSubflow, running, names]
  | simplevent owner tun isTunconnect stopped =>
      have named : NetName (tdevName raised.system tun) := by
        unfold tdevName
        split
        · exact netName_nil
        · exact names _
      constructor <;>
        simp [eventEq, datEq, ← kind, isTunconnect, EvInfo.text, reportsSubflow, stopped, named]

section
variable {raised : Raised} {info : EvInfo}

theorem Shape.linkName (shape : Shape raised info) :
    ∀ subflow ∈ raised.event.text.subflow, LinkName subflow := by
  intro subflow member
  rw [shape.subflow] at member
  split at member
  · exact raised.report subflow member
  · contradiction

theorem Shape.reason_eq (shape : Shape raised info) {reason : Int}
    (member : raised.event.text.reason = some reason) : reason = raised.reason := by
  rw [shape.reason] at member
  split at member
  · exact (Option.some.inj member).symm
  · contradiction

/-- No text of an event is cut off. -/
theorem Shape.length_le (entry : TableEntry info) (shape : Shape raised info) :
    (document raised.event.text).bytes.length ≤ 254 := by
  refine length_document_le entry shape.evstr shape.desc
    (fun name member => (shape.iface name member).short)
    (fun name member => (shape.pdev name member).short) ?_
    (fun name member => (shape.linkName name member).short)
  intro reason member
  obtain rfl := shape.reason_eq member
  exact ⟨raised.reason_ge, raised.reason_lt⟩

theorem plain_of_optional {tag : List UInt8} {text : Option (List UInt8)}
    (plain : ∀ name ∈ text, Plain name) :
    ∀ element ∈ optionalElement tag text, element.tag = tag ∧ Plain element.text := by
  intro element member
  cases text with
  | none => contradiction
  | some name =>
      obtain rfl := List.mem_singleton.mp member
      exact ⟨rfl, plain name rfl⟩

/-- The text of an event is a document. -/
theorem Shape.wellFormed (entry : TableEntry info) (shape : Shape raised info) :
    WellFormed (document raised.event.text) := by
  have children : ∀ element ∈ (document raised.event.text).children,
      IsTag element.tag ∧ Plain element.text := by
    intro element member
    have desc : Plain raised.event.text.desc := shape.desc ▸ entry.desc_plain
    have reason : ∀ text ∈ raised.event.text.reason.map decimal, Plain text := by
      intro text textMem
      obtain ⟨reason, -, rfl⟩ := Option.map_eq_some_iff.mp textMem
      exact plain_decimal reason
    simp only [document, List.mem_append] at member
    rcases member with (((inDesc | inIface) | inPdev) | inReason) | inSubflow
    · obtain ⟨tag, plain⟩ := plain_of_optional (by simpa using desc) element inDesc
      exact ⟨tag ▸ by decide, plain⟩
    · obtain ⟨tag, plain⟩ :=
        plain_of_optional (fun name found => (shape.iface name found).plain) element inIface
      exact ⟨tag ▸ by decide, plain⟩
    · obtain ⟨tag, plain⟩ :=
        plain_of_optional (fun name found => (shape.pdev name found).plain) element inPdev
      exact ⟨tag ▸ by decide, plain⟩
    · obtain ⟨tag, plain⟩ := plain_of_optional reason element inReason
      exact ⟨tag ▸ by decide, plain⟩
    · obtain ⟨tag, plain⟩ :=
        plain_of_optional (fun name found => (shape.linkName name found).plain) element inSubflow
      exact ⟨tag ▸ by decide, plain⟩
  constructor
  · exact (by decide : IsTag (ascii "event"))
  · exact (by decide : IsTag (ascii "type"))
  · change Plain raised.event.text.evstr
    rw [shape.evstr]
    exact entry.evstr_plain
  · exact fun element member => (children element member).1
  · exact fun element member => (children element member).2

end

/-- What is printed for an event is its document, if nothing has to be cut off. -/
theorem Sends.crsend_eq {system : System} {evtype : Int} {info : EvInfo} {reason : Int}
    {subflowReport : Option (List UInt8)} {dat : EvData} {event : NlEvent}
    (sends : Sends system evtype info reason subflowReport dat event)
    (found : ldtEventGetinfo evtype = .ok info)
    (fits : (document event.text).bytes.length ≤ 254) (kmalloc : Bool) :
    ldtEventCrsend system evtype dat reason subflowReport kmalloc =
      .ok (some ⟨event.net, event.evtype, (document event.text).bytes⟩) := by
  have noPdev : pdevLine none = [] := rfl
  rw [bytes_document] at fits ⊢
  simp only [ldtEventCrsend, found]
  cases sends with
  | global dat isGlobal =>
      simp only [EvInfo.text, Option.map_none, Option.getD_none, noPdev, List.append_nil]
        at fits ⊢
      rw [isGlobal, snprintf_of_fits fits]
  | tdev id isTdev =>
      simp only [EvInfo.text, Option.map_some, Option.getD_some, Option.map_none,
        Option.getD_none, noPdev, List.append_nil] at fits ⊢
      simp only [isTdev, snprintf_of_fits fits]
  | ndev id isNdev =>
      simp only [EvInfo.text, Option.map_some, Option.getD_some, Option.map_none,
        Option.getD_none, noPdev, List.append_nil] at fits ⊢
      simp only [isNdev, snprintf_of_fits fits]
  | tun owner tun tdev isTun tdevEq =>
      simp only [EvInfo.text, Option.map_some, Option.getD_some, Option.map_none,
        Option.getD_none, List.append_nil] at fits ⊢
      simp only [isTun, crsendTdev, tdevEq, Option.map_some, snprintf_of_fits fits]
  | tunfail owner tun tdev isTunfail tdevEq =>
      simp only [EvInfo.text, Option.map_some, Option.getD_some, Option.map_none,
        Option.getD_none, noPdev, List.append_nil] at fits ⊢
      simp only [isTunfail, crsendTdev, tdevEq, Option.map_some, snprintf_of_fits fits]
  | created owner tun isTunconnect running =>
      simp only [EvInfo.text, Option.map_some, Option.getD_some, Option.map_none,
        Option.getD_none, noPdev, List.append_nil] at fits ⊢
      simp only [isTunconnect, ldtEventCrsend2,
        crsend2Buf_of_runs _ owner info _ kmalloc running fits]
  | simplevent owner tun isTunconnect stopped =>
      simp only [EvInfo.text, Option.map_some, Option.getD_some, Option.map_none,
        Option.getD_none, noPdev, List.append_nil] at fits ⊢
      simp only [isTunconnect, ldtEventCrsend2,
        crsend2Buf_of_stopped _ owner info _ kmalloc stopped fits]

/-- Nothing is cut off of an event that has been raised. -/
theorem Raised.crsend_eq (raised : Raised) (kmalloc : Bool) :
    ldtEventCrsend raised.system raised.type.num raised.dat raised.reason
        raised.subflowReport kmalloc =
      .ok (some ⟨raised.event.net, raised.event.evtype,
        (document raised.event.text).bytes⟩) := by
  obtain ⟨info, found, kind, entry, sends⟩ := raised.sends
  exact sends.crsend_eq found ((Raised.shape kind sends).length_le entry) kmalloc

/-- What the tool makes of the event: the message goes through the socket, and
`ldt_waitifaceev` takes it for the event that it has been waiting for, or gives an error. -/
def roundTrip (family : NetlinkMessage.Family) (xmlParse : List UInt8 → Except Int XmlEvent)
    (seq pid : Nat) (kmalloc : Bool) (listenIface : Option (List UInt8))
    (listenEvtypes : BitVec 64) (contOnErr : Bool) (later : List Delivery)
    (raised : Raised) : Option (Except Int LdtEvinfo) :=
  match ldtEventCrsend raised.system raised.type.num raised.dat raised.reason
      raised.subflowReport kmalloc with
  | .ok (some sent) =>
      match doSendEvent family true seq pid sent.evtype.toNat 0 (some (sent.buf ++ [0])) true with
      | .ok msg =>
          match ((EventMessage.ldtEventRecv false).read [.ok msg]).bind fun found =>
              heard xmlParse found.1 with
          | some (.ok event) =>
              some (ldtWaitifaceev listenIface listenEvtypes contOnErr
                (.event event :: later)).1
          | some (.error ret) => some (.error ret)
          | none => none
      | .error _ => none
  | _ => none

/-- The tool has the data of the event. -/
structure Carries (event : NlEvent) (evinfo : LdtEvinfo) : Prop where
  evtype : (evinfo.evtype.num : Int) = event.evtype
  iface : evinfo.iface = event.text.iface
  pdev : evinfo.pdev = event.text.pdev
  desc : evinfo.desc = some event.text.desc
  subflow : evinfo.subflow = event.text.subflow
  reason : ∀ reason, event.text.reason = some reason → evinfo.reason = reason

/-- The event is no failure, or there is no reason for it; and the subflow that it reports has
a name without white space at the ends. -/
def Survives (raised : Raised) : Prop :=
  (raised.type.kind = .tunfail → raised.reason = 0) ∧
    (reportsSubflow raised.type.kind raised.dat = true →
      ∀ subflow ∈ raised.subflowReport, strip subflow = subflow)

/-- What `ldt_waitifaceev` makes of the event. -/
def evinfoOf (raised : Raised) : LdtEvinfo where
  evtype := raised.type
  iface := raised.event.text.iface
  pdev := raised.event.text.pdev
  desc := some raised.event.text.desc
  remaddr := none
  remport := -1
  reason := 0
  sReason := ascii "none"
  subflow := raised.event.text.subflow.map strip

theorem map_strip {name : Option (List UInt8)} (solid : ∀ text ∈ name, NetName text) :
    name.map strip = name := by
  cases name with
  | none => rfl
  | some text => rw [Option.map_some, strip_of_no_space (solid text rfl).solid]

/-- An event of a type for which the table asks for the device has one. -/
theorem kind_ne_global {type : EvType} (needIfc : tpGetparseflags type = true) :
    type.kind ≠ .global := by
  cases type <;> revert needIfc <;> decide

section
variable {xmlParse : List UInt8 → Except Int XmlEvent}

/-- The parser gives the texts of the event. -/
theorem xmlParse_document (reads : ReadsElements xmlParse) (raised : Raised) :
    xmlParse (document raised.event.text).bytes = .ok {
      iface := raised.event.text.iface
      pdev := raised.event.text.pdev
      desc := some raised.event.text.desc
      remaddr := none
      remport := none
      subflow := raised.event.text.subflow.map strip } := by
  obtain ⟨info, -, kind, entry, sends⟩ := raised.sends
  have shape := Raised.shape kind sends
  have desc : strip raised.event.text.desc = raised.event.text.desc := by
    rw [shape.desc, entry.desc_strip]
  rw [reads _ (shape.wellFormed entry) rfl rfl, elementsOf_document, map_strip shape.iface,
    map_strip shape.pdev, desc]

theorem ldtIfaceevParse_raised (reads : ReadsElements xmlParse) (raised : Raised) :
    ldtIfaceevParse ⟨raised.type, some (xmlParse (document raised.event.text).bytes)⟩
      (tpGetparseflags raised.type) = .ok (evinfoOf raised) := by
  obtain ⟨info, -, kind, -, sends⟩ := raised.sends
  have shape := Raised.shape kind sends
  have found : (raised.event.text.iface.isNone && tpGetparseflags raised.type) = false := by
    cases needIfc : tpGetparseflags raised.type with
    | false => rw [Bool.and_false]
    | true =>
        have named := shape.named (kind_ne_global needIfc)
        rw [Bool.and_true, Option.isNone_eq_false_iff]
        exact named
  rw [xmlParse_document reads raised]
  simp only [ldtIfaceevParse, ldtIfaceevParse2, found, Bool.false_eq_true, if_false]
  rfl

/-- The event reaches the tool with all its elements but the reason. -/
theorem roundTrip_eq (reads : ReadsElements xmlParse) (raised : Raised)
    (family : NetlinkMessage.Family) (seq pid : Nat) (kmalloc : Bool)
    {listenIface : Option (List UInt8)} {listenEvtypes : BitVec 64} (contOnErr : Bool)
    (later : List Delivery) (listed : listenEvtypes.getLsbD raised.type.num = true)
    (own : namesOther listenIface raised.event.text.iface = false) :
    roundTrip family xmlParse seq pid kmalloc listenIface listenEvtypes contOnErr later raised =
      some (.ok (evinfoOf raised)) := by
  obtain ⟨info, -, kind, entry, sends⟩ := raised.sends
  have shape := Raised.shape kind sends
  have short := shape.length_le entry
  let text : SargText := {
    bytes := (document raised.event.text).bytes
    nonzero := bytes_ne_zero (shape.wellFormed entry)
    short := by
      unfold NetlinkAttribute.NLA_HDRLEN
      omega }
  have evtype : raised.event.evtype.toNat = raised.type.num := by
    rw [shape.evtype, Int.toNat_natCast]
  have sent := doSendEvent_eq family seq pid raised.type.num 0 text
  have parsed := ldtIfaceevParse_raised reads raised
  obtain ⟨found, readEq, heardEq⟩ := Option.map_eq_some_iff.mp
    (ldtEventRecv_received family xmlParse [.event seq pid raised.type text])
  have heardFirst : heard xmlParse found.1 =
      some (.ok ⟨raised.type, some (xmlParse (document raised.event.text).bytes)⟩) :=
    congrArg Prod.fst heardEq
  have waited : ldtWaitifaceev listenIface listenEvtypes contOnErr
      (.event ⟨raised.type, some (xmlParse (document raised.event.text).bytes)⟩ :: later) =
        (.ok (evinfoOf raised), later) := by
    have ifaceEq := (evinfo_of_ldtIfaceevParse parsed).2
    refine ldtWaitifaceev_eq_ok_iff.mpr ⟨[], _, rfl, by simp, ?_⟩
    refine verdict_event_eq_ok_iff.mpr ⟨.inr listed, parsed, .inr ?_⟩
    rw [← ifaceEq]
    exact own
  simp only [roundTrip, raised.crsend_eq kmalloc, evtype]
  have terminated : (document raised.event.text).bytes ++ [0] = text.terminated := rfl
  rw [terminated, sent]
  have received : (ldtEventRecv false).read
      [.ok (eventMessage family seq pid raised.type.num 0 text)] = some found := readEq
  simp only [received, Option.bind_some, heardFirst, waited]

/-- The tool's event carries the data of the kernel's if it is no failure with a reason.  The
tool waits for events of the type from the device or from any; it would also take one of a type
that is not listed, if no type is, and one from another device whose type asks for no name. -/
theorem carries_iff_survives (reads : ReadsElements xmlParse) (raised : Raised)
    (family : NetlinkMessage.Family) (seq pid : Nat) (kmalloc : Bool)
    {listenIface : Option (List UInt8)} {listenEvtypes : BitVec 64} (contOnErr : Bool)
    (later : List Delivery) (listed : listenEvtypes.getLsbD raised.type.num = true)
    (own : namesOther listenIface raised.event.text.iface = false) :
    (∃ evinfo,
        roundTrip family xmlParse seq pid kmalloc listenIface listenEvtypes contOnErr later
            raised = some (.ok evinfo) ∧
          Carries raised.event evinfo) ↔
      Survives raised := by
  obtain ⟨info, -, kind, -, sends⟩ := raised.sends
  have shape := Raised.shape kind sends
  rw [roundTrip_eq reads raised family seq pid kmalloc contOnErr later listed own]
  constructor
  · rintro ⟨evinfo, evinfoEq, carries⟩
    obtain rfl := Except.ok.inj (Option.some.inj evinfoEq)
    constructor
    · intro failed
      have reason := shape.reason
      rw [if_pos failed] at reason
      exact (carries.reason _ reason).symm
    · intro reports subflow member
      have same : raised.event.text.subflow.map strip = raised.event.text.subflow :=
        carries.subflow
      rw [shape.subflow, if_pos reports, show raised.subflowReport = some subflow from member]
        at same
      exact Option.some.inj same
  · rintro ⟨noReason, stripped⟩
    have subflow : raised.event.text.subflow.map strip = raised.event.text.subflow := by
      rw [shape.subflow]
      split
      · rename_i reports
        cases reportEq : raised.subflowReport with
        | none => rfl
        | some subflow => rw [Option.map_some, stripped reports subflow reportEq]
      · rfl
    refine ⟨_, rfl, shape.evtype.symm, rfl, rfl, rfl, subflow, ?_⟩
    intro reason found
    rw [shape.reason] at found
    split at found
    · rename_i failed
      rw [← Option.some.inj found, noReason failed]
      rfl
    · contradiction

end

/-- A parser of the documents of events. -/
def readEvent (bytes : List UInt8) : Except Int XmlEvent :=
  .ok (elementsOf (readDocument bytes))

theorem readsElements_readEvent : ReadsElements readEvent := by
  intro document wellFormed _ _
  rw [readEvent, readDocument_bytes wellFormed]

def ECONNREFUSED : Int := 111

/-- A device and no other. -/
def soleDevice : System where
  netdev _ := {
    name := ascii "ldt0"
    net := 0
    registered := true
    iffUp := true
    neededHeadroom := 0
    ipPtr := none
    ip6Ptr := none
    ldt := none }
  nextNdev := 1
  sent := []
  fault := none

theorem netName_soleDevice (id : NdevId) : NetName (soleDevice.netdev id).name where
  short := show (ascii "ldt0").length < IFNAMSIZ by decide
  plain := show Plain (ascii "ldt0") by decide
  solid := by
    have solid : (ascii "ldt0").all (fun byte => !isspace byte) = true := by decide
    change ∀ byte ∈ ascii "ldt0", isspace byte = false
    simpa using solid

/-- The tunnel of the device is up. -/
def tunupRaised : Raised where
  system := soleDevice
  type := .tunup
  dat := .tun 0 (ldtTunWith (some 0))
  reason := 0
  subflowReport := none
  event := {
    net := some 0
    evtype := 5
    text := {
      evstr := ascii "tunup"
      desc := ascii "new tunnel brought up"
      iface := some (ascii "ldt0")
      pdev := none
      subflow := none
      reason := none } }
  points := .tun 0 _
  sent := rfl
  reason_ge := by decide
  reason_lt := by decide
  names := netName_soleDevice
  report := by simp

theorem carries_tunup :
    ∃ evinfo,
      roundTrip NetlinkReply.assignedFamily readEvent 7 1000 true (some (ascii "ldt0"))
          (evBit .tunup) false [] tunupRaised = some (.ok evinfo) ∧
        Carries tunupRaised.event evinfo :=
  (carries_iff_survives readsElements_readEvent tunupRaised NetlinkReply.assignedFamily 7 1000
    true false [] (by decide) (by decide)).mpr
    ⟨fun _ => rfl, fun reports => absurd reports (by decide)⟩

/-- The peer has refused the connection. -/
def refusedRaised : Raised where
  system := soleDevice
  type := .connEstabFail
  dat := .tun 0 (ldtTunWith (some 0))
  reason := ECONNREFUSED
  subflowReport := none
  event := {
    net := some 0
    evtype := 17
    text := {
      evstr := ascii "connestabfail"
      desc := ascii "connection establishment failed"
      iface := some (ascii "ldt0")
      pdev := none
      subflow := none
      reason := some ECONNREFUSED } }
  points := .tunfail 0 _
  sent := rfl
  reason_ge := by decide
  reason_lt := by decide
  names := netName_soleDevice
  report := by simp

/-- The tool is told that the connection has failed without an error. -/
theorem not_carries_refused :
    ReadsElements readEvent ∧
      (evBit .connEstabFail).getLsbD refusedRaised.type.num = true ∧
      namesOther (some (ascii "ldt0")) refusedRaised.event.text.iface = false ∧
      ¬ ∃ evinfo,
        roundTrip NetlinkReply.assignedFamily readEvent 7 1000 true (some (ascii "ldt0"))
            (evBit .connEstabFail) false [] refusedRaised = some (.ok evinfo) ∧
          Carries refusedRaised.event evinfo := by
  refine ⟨readsElements_readEvent, by decide, by decide, ?_⟩
  rintro ⟨evinfo, evinfoEq, carries⟩
  rw [roundTrip_eq readsElements_readEvent refusedRaised NetlinkReply.assignedFamily 7 1000 true
    false [] (by decide) (by decide)] at evinfoEq
  obtain rfl := Except.ok.inj (Option.some.inj evinfoEq)
  have reason : (0 : Int) = ECONNREFUSED := carries.reason ECONNREFUSED rfl
  contradiction

end Tunprox.EventRoundTrip
