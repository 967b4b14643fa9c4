import Tunprox.CommandResult

/-!
# Event messages

`do_send_event` puts the type of an event, a number and a text into one message, and
`ldt_event_recv` of the tool takes them out again; it passes over the answers to commands
that come in between, and moves the text to the front of the buffer of the message.  The
loop of the tool over the bytes of messages does what its model over deliveries does.
-/

namespace Tunprox.EventMessage

open Errno ByteBuffer NetlinkAttribute NetlinkMessage Event InputLoop
open NetlinkReply (LDT_CMD_SEND_INFO LDT_CMD_SEND_EVENT retAttr)
open CommandResult (Request netlinkAck length_netlinkAck fnlGetmsgtype_netlinkAck
  fnlGetcmd_netlinkAck)
open Netlink (RERR_OK RERR_INTERNAL RERR_SYSTEM NLMSGERR_LENGTH Delivery RecvEvent RecvError
  XmlEvent eventRecvBody)

def LDT_CMD_SEND_EVENT_ATTR_EVTYPE : Nat := 1

def LDT_CMD_SEND_EVENT_ATTR_IARG : Nat := 2

def LDT_CMD_SEND_EVENT_ATTR_SARG : Nat := 3

/-- `do_send_event` up to the call of `genlmsg_unicast`: the message.  `net` tells whether
there is a network namespace. -/
def doSendEvent (family : Family) (net : Bool) (seq pid evtype iarg : Nat)
    (sarg : Option (List UInt8)) (alloc : Bool) : Except Int (List UInt8) :=
  if !net then .error (-EINVAL)
  else
    let len := (sarg.map fun sarg => strlen sarg + 1).getD 0
    match genlmsgNew (len + 128) alloc with
    | none => .error (-ENOMEM)
    | some skb =>
        match genlmsgPut skb pid seq family LDT_CMD_SEND_EVENT with
        | none => .error (-ENOMEM)
        | some skb =>
            match nlaPutU32 skb LDT_CMD_SEND_EVENT_ATTR_EVTYPE evtype with
            | .error ret => .error ret
            | .ok skb =>
                match nlaPutU32 skb LDT_CMD_SEND_EVENT_ATTR_IARG iarg with
                | .error ret => .error ret
                | .ok skb =>
                    match sarg with
                    | none => .ok (genlmsgEnd skb)
                    | some sarg =>
                        match nlaPut skb LDT_CMD_SEND_EVENT_ATTR_SARG (sarg.take len) with
                        | .error ret => .error ret
                        | .ok skb => .ok (genlmsgEnd skb)

/-- What the walk over the attributes finds: the text is at an offset and has a length. -/
structure EventScan where
  evtype : Int
  iarg : Nat
  sarg : Option (Nat × Nat)

/-- The default values. -/
def EventScan.start : EventScan where
  evtype := 0
  iarg := 0
  sarg := none

/-- The `switch` of the walk, on the attribute of the type `id`; `wanted` tells whether the
number is asked for. -/
def scanEventOne (wanted : Bool) (buf : List UInt8) (ptr id : Nat) (scan : EventScan) :
    Option (Int × EventScan) :=
  if id = LDT_CMD_SEND_EVENT_ATTR_EVTYPE then
    (loadNumber buf (fnlGetattrdata ptr) 4).map fun evtype =>
      (RERR_OK, { scan with evtype := toInt32 evtype })
  else if id = LDT_CMD_SEND_EVENT_ATTR_IARG then
    if wanted then
      (loadNumber buf (fnlGetattrdata ptr) 4).map fun iarg =>
        (RERR_OK, { scan with iarg := iarg })
    else some (RERR_OK, scan)
  else if id = LDT_CMD_SEND_EVENT_ATTR_SARG then
    (fnlGetattrlen buf ptr).map fun slen =>
      if slen < 0 then (RERR_INTERNAL, scan)
      else (RERR_OK, { scan with sarg := some (fnlGetattrdata ptr, slen.toNat) })
  else some (RERR_OK, scan)

/-- The walk of `ldt_event_recv` over the attributes. -/
def scanEvent (wanted : Bool) : Nat → List UInt8 → Nat → EventScan → Option (Int × EventScan)
  | 0, buf, ptr, scan => if ptr < buf.length then none else some (RERR_OK, scan)
  | fuel + 1, buf, ptr, scan =>
      if ptr < buf.length then do
        let id ← fnlGetattrid buf ptr
        let seen ← scanEventOne wanted buf ptr id scan
        if seen.1 ≠ RERR_OK then some seen
        else do
          let next ← fnlGetnextattr buf ptr
          scanEvent wanted fuel buf next seen.2
      else some (RERR_OK, scan)

/-- What `ldt_event_recv` returns: its result, `errno` if it is set, `*evtype`, `*iarg` and
`*sarg` up to its allocated end.  After an error `*sarg` is not looked at. -/
structure EventReply where
  ret : Int
  errno : Option Int
  evtype : Int
  iarg : Nat
  sarg : Option (List UInt8)

/-- A reply without a text. -/
def EventScan.reply (scan : EventScan) (ret : Int) (errno : Option Int) : EventReply where
  ret := ret
  errno := errno
  evtype := scan.evtype
  iarg := scan.iarg
  sarg := none

/-- `ldt_event_recv` on a message of type `NLMSG_ERROR`. -/
def eventRecvError (buf : List UInt8) : Option EventReply := do
  let cmd ← fnlGetcmd buf
  if (cmd : Int) < NLMSGERR_LENGTH then some (EventScan.start.reply RERR_SYSTEM none)
  else do
    let error ← loadNumber buf NLMSG_HDRLEN 4
    some (EventScan.start.reply RERR_SYSTEM (some (-toInt32 error)))

/-- `ldt_event_recv` on a message of `do_send_event`. -/
def eventRecvEvent (wanted : Bool) (buf : List UInt8) : Option EventReply := do
  let scanned ← scanEvent wanted buf.length buf (fnlGetmsgdata 0) EventScan.start
  let reply := scanned.2.reply scanned.1 none
  if scanned.1 ≠ RERR_OK then some reply
  else
    match scanned.2.sarg with
    | none => some reply
    | some (sarg, slen) => do
        let moved ← if 0 < slen then memmove buf 0 sarg slen else some buf
        let ended ← store moved slen [0]
        some { reply with sarg := some (ended.take (slen + 1)) }

/-- What `ldt_event_recv` does with what `fnl_recv` returns: it waits for the next message,
or it returns, or it reads outside of the message. -/
def eventRecvOne (wanted : Bool) : Except Int (List UInt8) → Option (Option EventReply)
  | .error ret => some (some (EventScan.start.reply ret none))
  | .ok buf =>
      -- the length goes through an `int`
      if toInt32 (buf.length % 2 ^ 32) < 0 then
        some (some (EventScan.start.reply (toInt32 (buf.length % 2 ^ 32)) none))
      else if buf.length = 0 then none
      else
        match fnlGetmsgtype buf with
        | none => some none
        | some type =>
            if type = NLMSG_ERROR then some (eventRecvError buf)
            else if type < NLMSG_MIN_TYPE then none
            else
              match fnlGetcmd buf with
              | none => some none
              | some cmd =>
                  if cmd ≠ LDT_CMD_SEND_EVENT then none else some (eventRecvEvent wanted buf)

/-- `ldt_event_recv` -/
def ldtEventRecv (wanted : Bool) :
    Reader (Except Int (List UInt8)) (Option EventReply) :=
  Reader.until (eventRecvOne wanted)

/-- An attribute that holds a number. -/
def u32Attr (id value : Nat) (id_lt : id < 2 ^ 14) : Attr where
  id := id
  payload := littleEndian 4 value
  id_lt := id_lt
  length_lt := by
    rw [length_littleEndian]
    decide

/-- The text of an event, which fits an attribute. -/
structure SargText extends CStr where
  short : bytes.length + 1 + NLA_HDRLEN < 2 ^ 16

def sargAttr (text : SargText) : Attr where
  id := LDT_CMD_SEND_EVENT_ATTR_SARG
  payload := text.terminated
  id_lt := by decide
  length_lt := by
    rw [CStr.length_terminated]
    exact text.short

def evtypeAttr (evtype : Nat) : Attr :=
  u32Attr LDT_CMD_SEND_EVENT_ATTR_EVTYPE evtype (by decide)

def iargAttr (iarg : Nat) : Attr :=
  u32Attr LDT_CMD_SEND_EVENT_ATTR_IARG iarg (by decide)

def eventAttrs (evtype iarg : Nat) (text : SargText) : List Attr :=
  [evtypeAttr evtype, iargAttr iarg, sargAttr text]

/-- The message of an event. -/
def eventMessage (family : Family) (seq pid evtype iarg : Nat) (text : SargText) :
    List UInt8 :=
  message family seq pid LDT_CMD_SEND_EVENT (eventAttrs evtype iarg text)

theorem length_u32Attr (id value : Nat) (id_lt : id < 2 ^ 14) :
    (u32Attr id value id_lt).bytes.length = 8 := by
  rw [length_bytes]
  simp only [u32Attr, length_littleEndian]
  rfl

theorem nlaAlign_u32Attr (id value : Nat) (id_lt : id < 2 ^ 14) :
    nlaAlign ((u32Attr id value id_lt).payload.length + NLA_HDRLEN) = 8 := by
  rw [← length_bytes, length_u32Attr]

theorem length_sargAttr (text : SargText) :
    (sargAttr text).bytes.length = nlaAlign (text.bytes.length + 1 + NLA_HDRLEN) := by
  rw [length_bytes, sargAttr, CStr.length_terminated]

theorem length_eventMessage (family : Family) (seq pid evtype iarg : Nat) (text : SargText) :
    (eventMessage family seq pid evtype iarg text).length =
      36 + nlaAlign (text.bytes.length + 1 + NLA_HDRLEN) := by
  rw [eventMessage, length_message]
  simp only [eventAttrs, encode_cons, encode_nil, List.length_append, List.append_nil,
    evtypeAttr, iargAttr, length_u32Attr, length_sargAttr]
  unfold NLMSG_HDRLEN GENL_HDRLEN
  omega

/-- There is always room for the three attributes. -/
theorem doSendEvent_eq (family : Family) (seq pid evtype iarg : Nat) (text : SargText) :
    doSendEvent family true seq pid evtype iarg (some text.terminated) true =
      .ok (eventMessage family seq pid evtype iarg text) := by
  have header := length_messageHdr family seq pid LDT_CMD_SEND_EVENT
    (NLMSG_HDRLEN + GENL_HDRLEN)
  have room := le_nlaAlign (GENL_HDRLEN + (text.bytes.length + 1 + 128))
  have last := nlaAlign_lt (text.bytes.length + 1 + NLA_HDRLEN)
  have evtypeLen : (evtypeAttr evtype).bytes.length = 8 := length_u32Attr ..
  have iargLen : (iargAttr iarg).bytes.length = 8 := length_u32Attr ..
  have sargLen := length_sargAttr text
  unfold NLMSG_HDRLEN GENL_HDRLEN at header room
  unfold NLA_HDRLEN at last sargLen
  have put (written : List UInt8) (attr : Attr)
      (fits : written.length + attr.bytes.length ≤
        16 + nlaAlign (4 + (text.bytes.length + 1 + 128))) :
      nlaPut ⟨16 + nlaAlign (4 + (text.bytes.length + 1 + 128)), written⟩ attr.id
          attr.payload =
        .ok ⟨16 + nlaAlign (4 + (text.bytes.length + 1 + 128)), written ++ attr.bytes⟩ :=
    nlaPut_of_fits ⟨_, written⟩ attr fits
  have evtypePut := put (messageHdr family seq pid LDT_CMD_SEND_EVENT (16 + 4))
    (evtypeAttr evtype) (by omega)
  have iargPut := put (messageHdr family seq pid LDT_CMD_SEND_EVENT (16 + 4) ++
    (evtypeAttr evtype).bytes) (iargAttr iarg) (by rw [List.length_append]; omega)
  have sargPut := put (messageHdr family seq pid LDT_CMD_SEND_EVENT (16 + 4) ++
    (evtypeAttr evtype).bytes ++ (iargAttr iarg).bytes) (sargAttr text)
    (by rw [List.length_append, List.length_append]; omega)
  have headed : genlmsgPut ⟨16 + nlaAlign (4 + (text.bytes.length + 1 + 128)), []⟩ pid seq
      family LDT_CMD_SEND_EVENT = some ⟨16 + nlaAlign (4 + (text.bytes.length + 1 + 128)),
        messageHdr family seq pid LDT_CMD_SEND_EVENT (16 + 4)⟩ := by
    rw [genlmsgPut, if_neg]
    · rfl
    · unfold NLMSG_HDRLEN GENL_HDRLEN
      simp only [List.length_nil]
      omega
  have whole : text.terminated.take (text.bytes.length + 1) = text.terminated :=
    List.take_of_length_le (CStr.length_terminated text.toCStr).le
  simp only [evtypeAttr, iargAttr, u32Attr, sargAttr] at evtypePut iargPut sargPut
  simp only [doSendEvent, Bool.not_true, Bool.false_eq_true, if_false, Option.map_some,
    Option.getD_some, strlen_terminated, genlmsgNew, if_true, NLMSG_HDRLEN, GENL_HDRLEN,
    headed, nlaPutU32, evtypePut, iargPut, whole, sargPut]
  have together : messageHdr family seq pid LDT_CMD_SEND_EVENT (16 + 4) ++
      (evtypeAttr evtype).bytes ++ (iargAttr iarg).bytes ++ (sargAttr text).bytes =
        messageHdr family seq pid LDT_CMD_SEND_EVENT (NLMSG_HDRLEN + GENL_HDRLEN) ++
          encode (eventAttrs evtype iarg text) := by
    simp only [eventAttrs, encode_cons, encode_nil, List.append_assoc, List.append_nil]
    rfl
  have ended := genlmsgEnd_eq (16 + nlaAlign (4 + (text.bytes.length + 1 + 128))) family seq pid
    LDT_CMD_SEND_EVENT (eventAttrs evtype iarg text)
  rw [← together] at ended
  exact congrArg Except.ok ended

/-- One attribute of the walk. -/
theorem scanEvent_attr {wanted : Bool} {buf after : List UInt8} {fuel ptr next : Nat}
    {attr : Attr} {scan seen : EventScan} (reads : ReadsAttr buf ptr attr after)
    (one : scanEventOne wanted buf ptr attr.id scan = some (RERR_OK, seen))
    (nextEq : ptr + nlaAlign (attr.payload.length + NLA_HDRLEN) = next) :
    scanEvent wanted (fuel + 1) buf ptr scan = scanEvent wanted fuel buf next seen := by
  subst nextEq
  have inside := reads.inside
  have aligned := le_nlaAlign (attr.payload.length + NLA_HDRLEN)
  have here : ptr < buf.length := by
    unfold NLA_HDRLEN at aligned inside
    omega
  simp only [scanEvent, if_pos here, fnlGetattrid_eq reads, one, fnlGetnextattr_eq reads,
    Option.bind_eq_bind, Option.bind_some, ne_eq, not_true_eq_false, if_false]

theorem scanEvent_end (wanted : Bool) (fuel : Nat) {buf : List UInt8} {ptr : Nat}
    (scan : EventScan) (ended : buf.length ≤ ptr) :
    scanEvent wanted fuel buf ptr scan = some (RERR_OK, scan) := by
  have outside : ¬ ptr < buf.length := Nat.not_lt.mpr ended
  cases fuel with
  | zero => rw [scanEvent, if_neg outside]
  | succ fuel => rw [scanEvent, if_neg outside]

section
variable {buf after : List UInt8} {ptr : Nat}

/-- A number in an attribute is read. -/
theorem loadNumber_u32Attr {id value : Nat} {id_lt : id < 2 ^ 14}
    (reads : ReadsAttr buf ptr (u32Attr id value id_lt) after) :
    loadNumber buf (fnlGetattrdata ptr) 4 = some (value % 2 ^ 32) := by
  have payload := reads.payload
  simp only [u32Attr, length_littleEndian] at payload
  rw [loadNumber, fnlGetattrdata, payload, Option.map_some, ofLittleEndian_littleEndian]
  norm_num

theorem scanEventOne_evtype {evtype : Nat} (wanted : Bool) (scan : EventScan)
    (reads : ReadsAttr buf ptr (evtypeAttr evtype) after) :
    scanEventOne wanted buf ptr (evtypeAttr evtype).id scan =
      some (RERR_OK, { scan with evtype := toInt32 (evtype % 2 ^ 32) }) := by
  have number := loadNumber_u32Attr reads
  change scanEventOne wanted buf ptr LDT_CMD_SEND_EVENT_ATTR_EVTYPE scan = _
  rw [scanEventOne, if_pos rfl, number, Option.map_some]

theorem scanEventOne_iarg {iarg : Nat} (wanted : Bool) (scan : EventScan)
    (reads : ReadsAttr buf ptr (iargAttr iarg) after) :
    scanEventOne wanted buf ptr (iargAttr iarg).id scan =
      some (RERR_OK, { scan with iarg := if wanted then iarg % 2 ^ 32 else scan.iarg }) := by
  have number := loadNumber_u32Attr reads
  change scanEventOne wanted buf ptr LDT_CMD_SEND_EVENT_ATTR_IARG scan = _
  rw [scanEventOne, if_neg (by decide), if_pos rfl, number]
  cases wanted with
  | false => rfl
  | true => rfl

theorem scanEventOne_sarg {text : SargText} (wanted : Bool) (scan : EventScan)
    (reads : ReadsAttr buf ptr (sargAttr text) after) :
    scanEventOne wanted buf ptr (sargAttr text).id scan =
      some (RERR_OK,
        { scan with sarg := some (fnlGetattrdata ptr, text.bytes.length + 1) }) := by
  have nonneg : ¬ ((sargAttr text).payload.length : Int) < 0 := by omega
  have size : (sargAttr text).payload.length = text.bytes.length + 1 :=
    CStr.length_terminated text.toCStr
  change scanEventOne wanted buf ptr LDT_CMD_SEND_EVENT_ATTR_SARG scan = _
  rw [scanEventOne, if_neg (by decide), if_neg (by decide), if_pos rfl,
    fnlGetattrlen_eq reads, Option.map_some, if_neg nonneg, Int.toNat_natCast, size]

end

section
variable (family : Family) (seq pid : Nat) (wanted : Bool) (evtype iarg : Nat)
  (text : SargText)

/-- The three attributes of the message of an event, one behind the other. -/
theorem readsAttr_eventMessage :
    ReadsAttr (eventMessage family seq pid evtype iarg text) 20 (evtypeAttr evtype)
        (encode [iargAttr iarg, sargAttr text]) ∧
      ReadsAttr (eventMessage family seq pid evtype iarg text) 28 (iargAttr iarg)
        (encode [sargAttr text]) ∧
      ReadsAttr (eventMessage family seq pid evtype iarg text) 36 (sargAttr text)
        (encode []) := by
  have readsEvtype : ReadsAttr (eventMessage family seq pid evtype iarg text) 20
      (evtypeAttr evtype) (encode [iargAttr iarg, sargAttr text]) :=
    readsAttr_of_drop (fnlGetmsgdata_le family seq pid (eventAttrs evtype iarg text))
      (drop_message family seq pid (eventAttrs evtype iarg text))
  have evtypeInside := readsEvtype.inside
  have evtypeNext := readsEvtype.next
  rw [evtypeAttr, nlaAlign_u32Attr] at evtypeInside evtypeNext
  have readsIarg := readsAttr_of_drop evtypeInside (evtypeNext.trans (encode_cons ..))
  have iargInside := readsIarg.inside
  have iargNext := readsIarg.next
  rw [iargAttr, nlaAlign_u32Attr] at iargInside iargNext
  exact ⟨readsEvtype, readsIarg,
    readsAttr_of_drop iargInside (iargNext.trans (encode_cons ..))⟩

/-- The walk over the message of an event. -/
theorem scanEvent_eventMessage :
    scanEvent wanted (eventMessage family seq pid evtype iarg text).length
        (eventMessage family seq pid evtype iarg text) (fnlGetmsgdata 0) EventScan.start =
      some (RERR_OK, {
        evtype := toInt32 (evtype % 2 ^ 32)
        iarg := if wanted then iarg % 2 ^ 32 else 0
        sarg := some (40, text.bytes.length + 1) }) := by
  have long := length_eventMessage family seq pid evtype iarg text
  obtain ⟨readsEvtype, readsIarg, readsSarg⟩ :=
    readsAttr_eventMessage family seq pid evtype iarg text
  obtain ⟨fuel, fuelEq⟩ : ∃ fuel,
      (eventMessage family seq pid evtype iarg text).length = fuel + 1 + 1 + 1 :=
    ⟨(eventMessage family seq pid evtype iarg text).length - 3, by omega⟩
  have second : 20 + nlaAlign ((evtypeAttr evtype).payload.length + NLA_HDRLEN) = 28 :=
    congrArg (20 + ·) (nlaAlign_u32Attr ..)
  have third : 28 + nlaAlign ((iargAttr iarg).payload.length + NLA_HDRLEN) = 36 :=
    congrArg (28 + ·) (nlaAlign_u32Attr ..)
  have ended : (eventMessage family seq pid evtype iarg text).length ≤
      36 + nlaAlign ((sargAttr text).payload.length + NLA_HDRLEN) := by
    rw [long, sargAttr, CStr.length_terminated]
  rw [fuelEq]
  refine (scanEvent_attr readsEvtype (scanEventOne_evtype wanted _ readsEvtype) second).trans ?_
  refine (scanEvent_attr readsIarg (scanEventOne_iarg wanted _ readsIarg) third).trans ?_
  refine (scanEvent_attr readsSarg (scanEventOne_sarg wanted _ readsSarg) rfl).trans ?_
  exact scanEvent_end wanted fuel _ ended

/-- The text of an event goes to the front of the buffer, with a zero byte of its own. -/
theorem eventRecvEvent_eventMessage :
    eventRecvEvent wanted (eventMessage family seq pid evtype iarg text) =
      some {
        ret := RERR_OK
        errno := none
        evtype := toInt32 (evtype % 2 ^ 32)
        iarg := if wanted then iarg % 2 ^ 32 else 0
        sarg := some (text.terminated ++ [0]) } := by
  obtain ⟨-, -, readsSarg⟩ := readsAttr_eventMessage family seq pid evtype iarg text
  have long := length_eventMessage family seq pid evtype iarg text
  have aligned := le_nlaAlign (text.bytes.length + 1 + NLA_HDRLEN)
  have size : text.terminated.length = text.bytes.length + 1 :=
    CStr.length_terminated text.toCStr
  have payload : load (eventMessage family seq pid evtype iarg text) 40
      (text.bytes.length + 1) = some text.terminated := by
    have loaded := readsSarg.payload
    rw [sargAttr, size] at loaded
    exact loaded
  have moved : memmove (eventMessage family seq pid evtype iarg text) 0 40
      (text.bytes.length + 1) =
        some (text.terminated ++
          (eventMessage family seq pid evtype iarg text).drop text.terminated.length) := by
    have fits : text.terminated.length ≤
        (eventMessage family seq pid evtype iarg text).length := by
      rw [size, long]
      omega
    have stored : store ([] ++ eventMessage family seq pid evtype iarg text)
        (List.length ([] : List UInt8)) text.terminated =
          some ([] ++ text.terminated ++
            (eventMessage family seq pid evtype iarg text).drop text.terminated.length) :=
      store_append fits
    rw [memmove, payload, Option.bind_some]
    exact stored
  have ended : store (text.terminated ++
      (eventMessage family seq pid evtype iarg text).drop text.terminated.length)
        (text.bytes.length + 1) [0] =
          some (text.terminated ++ [0] ++
            ((eventMessage family seq pid evtype iarg text).drop
              text.terminated.length).drop 1) := by
    rw [← size, store_append]
    · rfl
    · rw [List.length_drop, size, long, List.length_singleton]
      unfold NLA_HDRLEN at aligned ⊢
      omega
  have taken (rest : List UInt8) : (text.terminated ++ [0] ++ rest).take
      (text.bytes.length + 1 + 1) = text.terminated ++ [0] := by
    apply List.take_left'
    rw [List.length_append, size, List.length_singleton]
  simp only [eventRecvEvent, scanEvent_eventMessage, Option.bind_eq_bind, Option.bind_some,
    ne_eq, not_true_eq_false, if_false, Nat.succ_pos, if_true, moved, ended, taken]
  rfl

end

/-- A message of another kind is passed over, an event is taken. -/
theorem eventRecvOne_message (family : Family) (seq pid : Nat) (wanted : Bool) {cmd : Nat}
    (attrs : List Attr) (small : cmd < 256)
    (bounded : (message family seq pid cmd attrs).length < 2 ^ 31) :
    eventRecvOne wanted (.ok (message family seq pid cmd attrs)) =
      if cmd ≠ LDT_CMD_SEND_EVENT then none
      else some (eventRecvEvent wanted (message family seq pid cmd attrs)) := by
  have long := length_message family seq pid cmd attrs
  have headed : 0 < NLMSG_HDRLEN := by decide
  rw [eventRecvOne, toInt32_mod_of_lt bounded, if_neg (by omega), if_neg (by omega),
    fnlGetmsgtype_message]
  simp only [if_neg family.id_ne_error, if_neg (Nat.not_lt.mpr family.min_le),
    fnlGetcmd_message family seq pid attrs small]

/-- An event arrives with its type and its text. -/
theorem eventRecvOne_eventMessage (family : Family) (seq pid : Nat) (wanted : Bool)
    (evtype iarg : Nat) (text : SargText) :
    eventRecvOne wanted (.ok (eventMessage family seq pid evtype iarg text)) =
      some (some {
        ret := RERR_OK
        errno := none
        evtype := toInt32 (evtype % 2 ^ 32)
        iarg := if wanted then iarg % 2 ^ 32 else 0
        sarg := some (text.terminated ++ [0]) }) := by
  have long := length_eventMessage family seq pid evtype iarg text
  have aligned := nlaAlign_lt (text.bytes.length + 1 + NLA_HDRLEN)
  have short := text.short
  have received := eventRecvOne_message family seq pid wanted (eventAttrs evtype iarg text)
    (show LDT_CMD_SEND_EVENT < 256 by decide)
    (show (eventMessage family seq pid evtype iarg text).length < 2 ^ 31 by omega)
  rw [if_neg (by simp)] at received
  exact received.trans (congrArg some
    (eventRecvEvent_eventMessage family seq pid wanted evtype iarg text))

/-- The error of a command is returned by `ldt_event_recv` as its own. -/
theorem eventRecvOne_netlinkAck (seq pid : Nat) (wanted : Bool) (error : Int)
    (request : Request) :
    ∃ errno, eventRecvOne wanted (.ok (netlinkAck seq pid error request)) =
      some (some (EventScan.start.reply RERR_SYSTEM errno)) := by
  have sendable := request.sendable
  have long := length_netlinkAck seq pid error request
  unfold NLMSG_HDRLEN at long
  have len : toInt32 ((netlinkAck seq pid error request).length % 2 ^ 32) =
      (netlinkAck seq pid error request).length :=
    toInt32_mod_of_lt (by omega)
  obtain ⟨cmd, cmdAt, -⟩ := fnlGetcmd_netlinkAck seq pid error request
  obtain ⟨number, numberAt⟩ : ∃ number,
      loadNumber (netlinkAck seq pid error request) NLMSG_HDRLEN 4 = some number := by
    have inside : NLMSG_HDRLEN + 4 ≤ (netlinkAck seq pid error request).length := by
      unfold NLMSG_HDRLEN
      omega
    exact ⟨_, by rw [loadNumber, load, if_pos inside, Option.map_some]⟩
  rw [eventRecvOne, len, if_neg (by omega), if_neg (by omega), fnlGetmsgtype_netlinkAck]
  simp only [if_true, eventRecvError, cmdAt, numberAt, Option.bind_eq_bind, Option.bind_some]
  split
  · exact ⟨none, rfl⟩
  · exact ⟨_, rfl⟩

/-- What arrives at the tool's socket; `timeLeft` tells whether the time that is left after
an error allows another try. -/
inductive Arrival where
  | failed (ret : Int) (timeLeft : Bool) (negative : ret < 0)
  | ack (seq pid : Nat) (error : Int) (request : Request) (timeLeft : Bool)
  | answer (seq pid : Nat) (rval : Int) (attrs : List Attr)
      (bounded : (encode attrs).length < 2 ^ 30)
  | event (seq pid : Nat) (type : EvType) (text : SargText)

/-- What `fnl_recv` returns. -/
def Arrival.received (family : Family) : Arrival → Except Int (List UInt8)
  | .failed ret _ _ => .error ret
  | .ack seq pid error request _ => .ok (netlinkAck seq pid error request)
  | .answer seq pid rval attrs _ =>
      .ok (message family seq pid LDT_CMD_SEND_INFO (retAttr rval.natAbs :: attrs))
  | .event seq pid type text => .ok (eventMessage family seq pid type.num 0 text)

/-- The event types. -/
def evTypes : List EvType :=
  [.unspec, .init, .down, .up, .tundown, .tunup, .ifdown, .ifup, .tpdown, .pdevdown, .pdevup,
    .nifdown, .nifup, .rebind, .subflowUp, .subflowDown, .connEstab, .connEstabFail,
    .connAccept, .connAcceptFail, .connListen, .connListenFail]

def evTypeOfNum (evtype : Int) : Option EvType :=
  evTypes.find? fun type => (type.num : Int) == evtype

theorem evTypeOfNum_num (type : EvType) : evTypeOfNum type.num = some type := by
  cases type <;> rfl

theorem toInt32_num (type : EvType) : toInt32 (type.num % 2 ^ 32) = type.num := by
  cases type <;> rfl

section
variable (family : Family) (xmlParse : List UInt8 → Except Int XmlEvent)

/-- What is delivered, with the text of an event as `xml_parse` takes it apart. -/
def Arrival.delivery : Arrival → Delivery
  | .failed ret timeLeft _ => .failed ret timeLeft
  | .ack _ _ error _ timeLeft => .nlmsgError error timeLeft
  | .answer _ _ rval _ _ => .info rval
  | .event _ _ type text => .event ⟨type, some (xmlParse text.bytes)⟩

/-- The result of `ldt_event_recv` as its callers use it. -/
def heard : Option EventReply → Option (Except Int RecvEvent)
  | none => none
  | some reply =>
      if reply.ret = RERR_OK then
        (evTypeOfNum reply.evtype).map fun type =>
          .ok ⟨type, reply.sarg.map fun sarg => xmlParse (cstring sarg)⟩
      else some (.error reply.ret)

/-- The result of the model of `ldt_event_recv` over deliveries. -/
def told : Except RecvError RecvEvent → Option (Except Int RecvEvent)
  | .error failure => some (.error failure.ret)
  | .ok event => some (.ok event)

/-- One message is taken as the model takes its delivery. -/
theorem eventRecvOne_received (arrival : Arrival) :
    (eventRecvOne false (arrival.received family)).map (heard xmlParse) =
      (eventRecvBody (arrival.delivery xmlParse)).map told := by
  cases arrival with
  | failed ret timeLeft negative =>
      have notOk : (EventScan.start.reply ret none).ret ≠ RERR_OK := negative.ne
      simp only [Arrival.received, Arrival.delivery, eventRecvOne, eventRecvBody,
        Option.map_some, heard, if_neg notOk, told]
      rfl
  | ack seq pid error request timeLeft =>
      obtain ⟨errno, taken⟩ := eventRecvOne_netlinkAck seq pid false error request
      simp only [Arrival.received, Arrival.delivery, taken, eventRecvBody, Option.map_some]
      rfl
  | answer seq pid rval attrs bounded =>
      have size : (message family seq pid LDT_CMD_SEND_INFO
          (retAttr rval.natAbs :: attrs)).length < 2 ^ 31 := by
        rw [length_message, encode_cons, List.length_append, NetlinkReply.length_retAttr]
        unfold NLMSG_HDRLEN GENL_HDRLEN
        omega
      have passed := eventRecvOne_message family seq pid false
        (retAttr rval.natAbs :: attrs) (show LDT_CMD_SEND_INFO < 256 by decide) size
      rw [if_pos (by decide)] at passed
      simp only [Arrival.received, passed]
      rfl
  | event seq pid type text =>
      have string : cstring (text.terminated ++ [0]) = text.bytes := by
        rw [CStr.terminated, List.append_assoc]
        exact cstring_append_zero text.toCStr [0]
      simp only [Arrival.received, Arrival.delivery, eventRecvOne_eventMessage,
        eventRecvBody, Option.map_some, heard, if_true, toInt32_num, evTypeOfNum_num, string,
        told]

/-- `ldt_event_recv` on the bytes of messages does what it does on deliveries, and leaves
as many of them. -/
theorem ldtEventRecv_received (arrivals : List Arrival) :
    ((ldtEventRecv false).read (arrivals.map (Arrival.received family))).map
        (Prod.map (heard xmlParse) List.length) =
      (Netlink.ldtEventRecv.read (arrivals.map (Arrival.delivery xmlParse))).map
        (Prod.map told List.length) := by
  have bytes := readUntil_map (eventRecvOne_received family xmlParse) arrivals
  have deliveries := readUntil_map
    (show ∀ arrival : Arrival, (eventRecvBody (arrival.delivery xmlParse)).map told =
      (eventRecvBody (arrival.delivery xmlParse)).map told from fun _ => rfl) arrivals
  exact bytes.trans deliveries.symm

end

end Tunprox.EventMessage
