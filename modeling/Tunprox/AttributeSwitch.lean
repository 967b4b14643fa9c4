import Tunprox.AttributeWalk
import Tunprox.EventMessage

/-!
# What the loops do on an attribute

The first loop of `ldt_getinfo` and that of `ldt_event_recv` go over the attributes of a
message without changing it.  The file gives what each of them reads on an attribute, when
it returns there, and what it has found at the end of a walk.
-/

namespace Tunprox.AttributeSwitch

open ByteBuffer NetlinkAttribute NetlinkMessage NetlinkReply AttributeWalk
open EventMessage (EventScan scanEvent scanEventOne
  LDT_CMD_SEND_EVENT_ATTR_EVTYPE LDT_CMD_SEND_EVENT_ATTR_IARG LDT_CMD_SEND_EVENT_ATTR_SARG)
open Netlink (RERR_OK RERR_INTERNAL)

theorem rerr_internal_ne_ok : RERR_INTERNAL ≠ RERR_OK := by
  decide

/-- The number in the payload of an attribute. -/
def payloadNumber (buf : List UInt8) (header : AttrHeader) : Nat :=
  ofLittleEndian ((buf.drop (fnlGetattrdata header.offset)).take 4)

theorem loadNumber_payload {buf : List UInt8} {header : AttrHeader}
    (holds : header.HoldsNumber buf) :
    loadNumber buf (fnlGetattrdata header.offset) 4 = some (payloadNumber buf header) :=
  exists_loadNumber holds

theorem loadNumber_payload_eq_none {buf : List UInt8} {header : AttrHeader}
    (lacks : ¬ header.HoldsNumber buf) :
    loadNumber buf (fnlGetattrdata header.offset) 4 = none :=
  loadNumber_eq_none lacks

/-- The first walk of `ldt_getinfo` reads the number of a result. -/
def infoReadable (buf : List UInt8) (header : AttrHeader) : Prop :=
  header.id = LDT_CMD_SEND_INFO_ATTR_RET → header.HoldsNumber buf

def seeInfo (buf : List UInt8) (scan : Scan) (header : AttrHeader) : Scan :=
  if header.id = LDT_CMD_SEND_INFO_ATTR_RET then
    { scan with ret := some (toInt32 (payloadNumber buf header)) }
  else if header.id = LDT_CMD_SEND_INFO_ATTR_INFO then { scan with hasdata := true }
  else scan

/-- The `switch` of the first walk of `ldt_getinfo`, which does not return. -/
def infoOne (buf : List UInt8) (ptr id : Nat) (scan : Scan) : Option (Int × Scan) :=
  (scanOne buf ptr id scan).map fun seen => (RERR_OK, seen)

theorem infoOne_unread {buf : List UInt8} {header : AttrHeader} (scan : Scan)
    (unreadable : ¬ infoReadable buf header) :
    infoOne buf header.offset header.id scan = none := by
  obtain ⟨isRet, lacks⟩ := Classical.not_imp.mp unreadable
  rw [infoOne, scanOne, if_pos isRet, loadNumber_payload_eq_none lacks]
  rfl

theorem infoOne_takes {buf : List UInt8} {header : AttrHeader} (scan : Scan)
    (readable : infoReadable buf header) :
    infoOne buf header.offset header.id scan = some (RERR_OK, seeInfo buf scan header) := by
  rw [infoOne, scanOne, seeInfo]
  by_cases isRet : header.id = LDT_CMD_SEND_INFO_ATTR_RET
  · rw [if_pos isRet, if_pos isRet, loadNumber_payload (readable isRet)]
    rfl
  · rw [if_neg isRet, if_neg isRet]
    split
    · rfl
    · rfl

def infoSwitch (buf : List UInt8) : Switch buf (infoOne buf) where
  readable := infoReadable buf
  refused := fun _ => False
  see := seeInfo buf
  failure := RERR_INTERNAL
  failure_ne := rerr_internal_ne_ok
  unread := fun scan _ unreadable => infoOne_unread scan unreadable
  stops := fun _ _ _ refused => refused.elim
  takes := fun scan _ readable _ => infoOne_takes scan readable

/-- The numbers that the walk of `ldt_event_recv` reads; `wanted` tells whether the one of
the event is asked for. -/
def eventReadable (wanted : Bool) (buf : List UInt8) (header : AttrHeader) : Prop :=
  header.id = LDT_CMD_SEND_EVENT_ATTR_EVTYPE ∨
      header.id = LDT_CMD_SEND_EVENT_ATTR_IARG ∧ wanted = true →
    header.HoldsNumber buf

/-- A text whose length is negative makes `ldt_event_recv` return. -/
def refusedText (header : AttrHeader) : Prop :=
  header.id = LDT_CMD_SEND_EVENT_ATTR_SARG ∧ header.len < NLA_HDRLEN

def seeEvent (wanted : Bool) (buf : List UInt8) (scan : EventScan) (header : AttrHeader) :
    EventScan :=
  if header.id = LDT_CMD_SEND_EVENT_ATTR_EVTYPE then
    { scan with evtype := toInt32 (payloadNumber buf header) }
  else if header.id = LDT_CMD_SEND_EVENT_ATTR_IARG then
    { scan with iarg := if wanted then payloadNumber buf header else scan.iarg }
  else if header.id = LDT_CMD_SEND_EVENT_ATTR_SARG then
    { scan with sarg := some (fnlGetattrdata header.offset, header.len - NLA_HDRLEN) }
  else scan

section
variable {wanted : Bool} {buf : List UInt8} {header : AttrHeader} (scan : EventScan)

theorem scanEventOne_unread (unreadable : ¬ eventReadable wanted buf header) :
    scanEventOne wanted buf header.offset header.id scan = none := by
  obtain ⟨isNumber, lacks⟩ := Classical.not_imp.mp unreadable
  rw [scanEventOne]
  rcases isNumber with isEvtype | ⟨isIarg, isWanted⟩
  · rw [if_pos isEvtype, loadNumber_payload_eq_none lacks]
    rfl
  · rw [if_neg (by rw [isIarg]; decide), if_pos isIarg, if_pos isWanted,
      loadNumber_payload_eq_none lacks]
    rfl

theorem scanEventOne_stops (stands : header.StandsIn buf) (refused : refusedText header) :
    scanEventOne wanted buf header.offset header.id scan = some (RERR_INTERNAL, scan) := by
  obtain ⟨isSarg, short⟩ := refused
  have negative : (header.len : Int) - NLA_HDRLEN < 0 := by omega
  rw [scanEventOne, if_neg (by rw [isSarg]; decide), if_neg (by rw [isSarg]; decide),
    if_pos isSarg, fnlGetattrlen_of_stands stands, Option.map_some, if_pos negative]

theorem scanEventOne_takes (stands : header.StandsIn buf)
    (readable : eventReadable wanted buf header) (taken : ¬ refusedText header) :
    scanEventOne wanted buf header.offset header.id scan =
      some (RERR_OK, seeEvent wanted buf scan header) := by
  rw [scanEventOne, seeEvent]
  by_cases isEvtype : header.id = LDT_CMD_SEND_EVENT_ATTR_EVTYPE
  · rw [if_pos isEvtype, if_pos isEvtype, loadNumber_payload (readable (.inl isEvtype))]
    rfl
  · rw [if_neg isEvtype, if_neg isEvtype]
    by_cases isIarg : header.id = LDT_CMD_SEND_EVENT_ATTR_IARG
    · rw [if_pos isIarg, if_pos isIarg]
      cases wanted with
      | false => rfl
      | true =>
          rw [if_pos rfl, loadNumber_payload (readable (.inr ⟨isIarg, rfl⟩))]
          rfl
    · rw [if_neg isIarg, if_neg isIarg]
      by_cases isSarg : header.id = LDT_CMD_SEND_EVENT_ATTR_SARG
      · have long : NLA_HDRLEN ≤ header.len :=
          Nat.le_of_not_lt fun short => taken ⟨isSarg, short⟩
        have size : ((header.len : Int) - NLA_HDRLEN).toNat = header.len - NLA_HDRLEN := by
          omega
        rw [if_pos isSarg, if_pos isSarg, fnlGetattrlen_of_stands stands, Option.map_some,
          if_neg (by omega), size]
      · rw [if_neg isSarg, if_neg isSarg]

end

def eventSwitch (wanted : Bool) (buf : List UInt8) :
    Switch buf (scanEventOne wanted buf) where
  readable := eventReadable wanted buf
  refused := refusedText
  see := seeEvent wanted buf
  failure := RERR_INTERNAL
  failure_ne := rerr_internal_ne_ok
  unread := fun scan _ unreadable => scanEventOne_unread scan unreadable
  stops := fun scan stands _ refused => scanEventOne_stops scan stands refused
  takes := fun scan stands readable taken => scanEventOne_takes scan stands readable taken

/-- The first walk of `ldt_getinfo` is such a loop. -/
theorem scanInfo_eq_attrLoop (buf : List UInt8) (fuel ptr : Nat) (scan : Scan) :
    scanInfo fuel buf ptr scan = (attrLoop (infoOne buf) buf fuel ptr scan).map Prod.snd := by
  induction fuel generalizing ptr scan with
  | zero =>
      rw [scanInfo, attrLoop]
      split
      · rfl
      · rfl
  | succ fuel ih =>
      rw [scanInfo, attrLoop]
      split
      · cases idEq : fnlGetattrid buf ptr with
        | none => rfl
        | some id =>
            cases seenEq : scanOne buf ptr id scan with
            | none => simp [infoOne, seenEq]
            | some seen =>
                cases nextEq : fnlGetnextattr buf ptr with
                | none => simp [infoOne, seenEq]
                | some next => simp [infoOne, seenEq, ih]
      · rfl

theorem scanEvent_eq_attrLoop (wanted : Bool) (buf : List UInt8) (fuel ptr : Nat)
    (scan : EventScan) :
    scanEvent wanted fuel buf ptr scan =
      attrLoop (scanEventOne wanted buf) buf fuel ptr scan := by
  induction fuel generalizing ptr scan with
  | zero => rfl
  | succ fuel ih =>
      rw [scanEvent, attrLoop]
      split
      · simp only [ih]
      · rfl

/-- What the first walk has found at its end. -/
theorem foldl_seeInfo (buf : List UInt8) (headers : List AttrHeader) (scan : Scan) :
    ((headers.foldl (seeInfo buf) scan).ret.isSome ↔
        scan.ret.isSome ∨ ∃ header ∈ headers, header.id = LDT_CMD_SEND_INFO_ATTR_RET) ∧
      ((headers.foldl (seeInfo buf) scan).hasdata = true ↔
        scan.hasdata = true ∨ ∃ header ∈ headers, header.id = LDT_CMD_SEND_INFO_ATTR_INFO) := by
  induction headers generalizing scan with
  | nil => simp
  | cons header headers ih =>
      obtain ⟨rets, datas⟩ := ih (seeInfo buf scan header)
      rw [List.foldl_cons, rets, datas]
      simp only [List.exists_mem_cons_iff]
      have distinct : LDT_CMD_SEND_INFO_ATTR_INFO ≠ LDT_CMD_SEND_INFO_ATTR_RET := by decide
      by_cases isRet : header.id = LDT_CMD_SEND_INFO_ATTR_RET
      · simp [seeInfo, isRet, distinct.symm]
      · by_cases isInfo : header.id = LDT_CMD_SEND_INFO_ATTR_INFO
        · simp [seeInfo, isInfo, distinct]
        · simp [seeInfo, isRet, isInfo]

/-- The last attribute with a text. -/
def lastText (headers : List AttrHeader) : Option AttrHeader :=
  headers.reverse.find? fun header => header.id == LDT_CMD_SEND_EVENT_ATTR_SARG

theorem mem_of_lastText {headers : List AttrHeader} {text : AttrHeader}
    (last : lastText headers = some text) :
    text ∈ headers ∧ text.id = LDT_CMD_SEND_EVENT_ATTR_SARG := by
  unfold lastText at last
  have chosen := List.find?_some last
  exact ⟨List.mem_reverse.mp (List.mem_of_find?_eq_some last), beq_iff_eq.mp chosen⟩

/-- The text of an event is that of its last attribute with one. -/
theorem foldl_seeEvent_sarg (wanted : Bool) (buf : List UInt8) (headers : List AttrHeader)
    (scan : EventScan) :
    (headers.foldl (seeEvent wanted buf) scan).sarg =
      ((lastText headers).map fun header =>
        (fnlGetattrdata header.offset, header.len - NLA_HDRLEN)).or scan.sarg := by
  induction headers generalizing scan with
  | nil => rfl
  | cons header headers ih =>
      have split : lastText (header :: headers) =
          (lastText headers).or ([header].find? fun header =>
            header.id == LDT_CMD_SEND_EVENT_ATTR_SARG) := by
        rw [lastText, List.reverse_cons, List.find?_append]
        rfl
      have evtypeOther : LDT_CMD_SEND_EVENT_ATTR_SARG ≠ LDT_CMD_SEND_EVENT_ATTR_EVTYPE := by
        decide
      have iargOther : LDT_CMD_SEND_EVENT_ATTR_SARG ≠ LDT_CMD_SEND_EVENT_ATTR_IARG := by
        decide
      rw [List.foldl_cons, ih, split]
      cases lastText headers with
      | some last => rfl
      | none =>
          by_cases isSarg : header.id = LDT_CMD_SEND_EVENT_ATTR_SARG
          · simp [seeEvent, isSarg, evtypeOther, iargOther]
          · have kept : (seeEvent wanted buf scan header).sarg = scan.sarg := by
              unfold seeEvent
              split
              · rfl
              · split
                · rfl
                · rfl
            simp [kept, isSarg]

theorem not_stopped {readable : AttrHeader → Prop} {buf : List UInt8} {ptr : Nat}
    {headers : List AttrHeader} {stop : Bool}
    (walk : Walk readable (fun _ => False) buf ptr headers stop) : stop = false := by
  induction walk with
  | ended outside => rfl
  | stopped stands reads stops => contradiction
  | attr stands reads taken advances rest ih => exact ih

end Tunprox.AttributeSwitch
