import Tunprox.Netlink

/-!
# Waiting for an event of a device

`ldt_waitifaceev` of `ldt_event.c` is to return the next event of the wanted
types that is about the wanted device or about no device at all.  The table
`needflags` decides for which types the device is looked at, and it lists five
of them; and the mask of 64 bits is handed on as an `int`, where a mask without
one of the low bits stands for every type.
-/

namespace Tunprox.WaitEvent

open Event InputLoop Netlink

/-- `struct ldt_evinfo` -/
structure LdtEvinfo where
  evtype : EvType
  iface : Option (List UInt8)
  pdev : Option (List UInt8)
  desc : Option (List UInt8)
  remaddr : Option (List UInt8)
  remport : Int
  reason : Int
  sReason : List UInt8
  subflow : Option (List UInt8)
  deriving DecidableEq

/-- The table `needflags`: whether the flag `TP_PARSE_NEED_IFC` is set. -/
def needflags : List (EvType × Bool) :=
  [(.unspec, false), (.ifdown, true), (.ifup, true), (.tpdown, false), (.rebind, true),
    (.subflowUp, true), (.subflowDown, true)]

/-- `tp_getparseflags` -/
def tpGetparseflags (evtype : EvType) : Bool :=
  match needflags.find? fun entry => entry.1 == evtype with
  | none => false
  | some entry => entry.2

/-- `ldt_ifaceev_parse2`, with the type that `ldt_waitifaceev` adds. -/
def ldtIfaceevParse2 (evtype : EvType) (xml : XmlEvent) (needIfc : Bool) :
    Except Int LdtEvinfo :=
  if xml.iface.isNone && needIfc then .error RERR_NOT_FOUND
  else
    .ok {
      evtype := evtype
      iface := xml.iface
      pdev := xml.pdev
      desc := xml.desc
      remaddr := xml.remaddr
      remport := (xml.remport.map atoi).getD (-1)
      reason := 0
      sReason := ascii "none"
      subflow := xml.subflow }

/-- `ldt_ifaceev_parse` -/
def ldtIfaceevParse (event : RecvEvent) (needIfc : Bool) : Except Int LdtEvinfo :=
  match event.sarg with
  | none => .error RERR_PARAM
  | some (.error ret) => .error ret
  | some (.ok xml) => ldtIfaceevParse2 event.evtype xml needIfc

/-- The argument `listen_evtypes` of `ldt_waitev2`, which is an `int`. -/
def toMask (listenEvtypes : BitVec 64) : BitVec 32 :=
  listenEvtypes.setWidth 32

/-- The body of the loop in `ldt_waitev2`; `contOnErr` is the flag
`LDT_F_CONTONERR`. -/
def waitev2Body (mask : BitVec 32) (contOnErr : Bool) :
    Except RecvError RecvEvent → Option (Except Int RecvEvent)
  | .error failure =>
      if failure.ret = RERR_TIMEDOUT then some (.error failure.ret)
      else if contOnErr && failure.timeLeft then none
      else some (.error failure.ret)
  | .ok event =>
      if mask = 0#32 then some (.ok event)
      else if mask.getLsbD event.evtype.num then some (.ok event)
      else none

/-- `ldt_waitev2` -/
def ldtWaitev2 (mask : BitVec 32) (contOnErr : Bool) : Reader Delivery (Except Int RecvEvent) :=
  ldtEventRecv.again (waitev2Body mask contOnErr)

/-- The element names another device than the wanted one. -/
def namesOther (listenIface iface : Option (List UInt8)) : Bool :=
  match listenIface, iface with
  | some listenIface, some iface => !strcaseeq iface listenIface
  | _, _ => false

/-- The body of the loop in `ldt_waitifaceev`. -/
def waitifaceevBody (listenIface : Option (List UInt8)) :
    Except Int RecvEvent → Option (Except Int LdtEvinfo)
  | .error ret => some (.error ret)
  | .ok event =>
      match ldtIfaceevParse event (tpGetparseflags event.evtype) with
      | .error ret => some (.error ret)
      | .ok evinfo =>
          if tpGetparseflags event.evtype && namesOther listenIface evinfo.iface then none
          else some (.ok evinfo)

/-- `ldt_waitifaceev` as a loop around `ldt_waitev2`. -/
def waitifaceev (listenIface : Option (List UInt8)) (listenEvtypes : BitVec 64)
    (contOnErr : Bool) : Reader Delivery (Except Int LdtEvinfo) :=
  (ldtWaitev2 (toMask listenEvtypes) contOnErr).again (waitifaceevBody listenIface)

/-- `ldt_waitifaceev`: the event or the error, and what is left of the stream. -/
def ldtWaitifaceev (listenIface : Option (List UInt8)) (listenEvtypes : BitVec 64)
    (contOnErr : Bool) (deliveries : List Delivery) :
    Except Int LdtEvinfo × List Delivery :=
  match (waitifaceev listenIface listenEvtypes contOnErr).read deliveries with
  | none => (.error RERR_TIMEDOUT, [])
  | some (result, rest) => (result, rest)

/-- What `ldt_waitifaceev` makes of one delivery: it goes on to the next one, or
it returns. -/
def verdict (listenIface : Option (List UInt8)) (listenEvtypes : BitVec 64)
    (contOnErr : Bool) : Delivery → Option (Except Int LdtEvinfo)
  | .failed ret timeLeft =>
      if ret = RERR_TIMEDOUT then some (.error ret)
      else if contOnErr && timeLeft then none
      else some (.error ret)
  | .nlmsgError _ timeLeft =>
      if contOnErr && timeLeft then none else some (.error RERR_SYSTEM)
  | .info _ => none
  | .event event =>
      if toMask listenEvtypes = 0#32 ∨ (toMask listenEvtypes).getLsbD event.evtype.num then
        waitifaceevBody listenIface (.ok event)
      else none

theorem waitifaceev_eq (listenIface : Option (List UInt8)) (listenEvtypes : BitVec 64)
    (contOnErr : Bool) :
    waitifaceev listenIface listenEvtypes contOnErr =
      Reader.until (verdict listenIface listenEvtypes contOnErr) := by
  unfold waitifaceev ldtWaitev2 ldtEventRecv
  rw [Reader.until_again, Reader.until_again]
  congr 1
  funext delivery
  cases delivery with
  | failed ret timeLeft =>
      simp only [eventRecvBody, Option.bind_some, waitev2Body, verdict]
      split
      · rfl
      · split
        · rfl
        · rfl
  | nlmsgError error timeLeft =>
      have notTimedout : RERR_SYSTEM ≠ RERR_TIMEDOUT := by decide
      simp only [eventRecvBody, Option.bind_some, waitev2Body, verdict,
        if_neg notTimedout]
      split
      · rfl
      · rfl
  | info ret =>
      rfl
  | event event =>
      simp only [eventRecvBody, Option.bind_some, waitev2Body, verdict]
      by_cases everything : toMask listenEvtypes = 0#32
      · simp [everything]
      · by_cases listed : (toMask listenEvtypes).getLsbD event.evtype.num
        · simp [everything, listed]
        · simp [everything, listed]

/-- The nested loops are one loop over the deliveries. -/
theorem ldtWaitifaceev_eq (listenIface : Option (List UInt8)) (listenEvtypes : BitVec 64)
    (contOnErr : Bool) (deliveries : List Delivery) :
    ldtWaitifaceev listenIface listenEvtypes contOnErr deliveries =
      match readUntil (verdict listenIface listenEvtypes contOnErr) deliveries with
      | none => (.error RERR_TIMEDOUT, [])
      | some (result, rest) => (result, rest) := by
  unfold ldtWaitifaceev
  rw [waitifaceev_eq]
  rfl

theorem ldtWaitifaceev_eq_ok_iff {listenIface : Option (List UInt8)}
    {listenEvtypes : BitVec 64} {contOnErr : Bool} {deliveries rest : List Delivery}
    {evinfo : LdtEvinfo} :
    ldtWaitifaceev listenIface listenEvtypes contOnErr deliveries = (.ok evinfo, rest) ↔
      ∃ before delivery, deliveries = before ++ delivery :: rest ∧
        (∀ earlier ∈ before, verdict listenIface listenEvtypes contOnErr earlier = none) ∧
          verdict listenIface listenEvtypes contOnErr delivery = some (.ok evinfo) := by
  rw [← readUntil_eq_some_iff, ldtWaitifaceev_eq]
  cases readUntil (verdict listenIface listenEvtypes contOnErr) deliveries with
  | none => simp
  | some found => simp [Prod.ext_iff]

/-- The element `iface` of an event, if it has a text with one. -/
def RecvEvent.iface (event : RecvEvent) : Option (List UInt8) :=
  match event.sarg with
  | some (.ok xml) => xml.iface
  | _ => none

/-- The event is of a type in the mask and about the device or about none. -/
def wanted (listenIface : Option (List UInt8)) (listenEvtypes : BitVec 64)
    (event : RecvEvent) : Bool :=
  listenEvtypes.getLsbD event.evtype.num && !namesOther listenIface (RecvEvent.iface event)

def eventOf : Delivery → Option RecvEvent
  | .event event => some event
  | _ => none

/-- The first wanted event of the stream. -/
def firstWanted (listenIface : Option (List UInt8)) (listenEvtypes : BitVec 64)
    (deliveries : List Delivery) : Option RecvEvent :=
  (deliveries.filterMap eventOf).find? (wanted listenIface listenEvtypes)

/-- The event is none of those wanted and is returned nevertheless: it has a text,
and either its type is in the mask, it names another device and the table does
not ask for the device, or the low half of the mask is empty. -/
def Stray (listenIface : Option (List UInt8)) (listenEvtypes : BitVec 64)
    (event : RecvEvent) : Prop :=
  (∃ xml, event.sarg = some (.ok xml)) ∧
    if toMask listenEvtypes = 0#32 then
      tpGetparseflags event.evtype = false ∨
        (RecvEvent.iface event).isSome ∧
          namesOther listenIface (RecvEvent.iface event) = false
    else
      listenEvtypes.getLsbD event.evtype.num = true ∧
        tpGetparseflags event.evtype = false ∧
          namesOther listenIface (RecvEvent.iface event) = true

@[simp]
theorem getLsbD_toMask (listenEvtypes : BitVec 64) (type : EvType) :
    (toMask listenEvtypes).getLsbD type.num = listenEvtypes.getLsbD type.num := by
  have small : type.num < 32 := by
    cases type <;> decide
  simp [toMask, small]

theorem getLsbD_of_toMask_eq_zero {listenEvtypes : BitVec 64} (type : EvType)
    (empty : toMask listenEvtypes = 0#32) : listenEvtypes.getLsbD type.num = false := by
  rw [← getLsbD_toMask, empty]
  simp

/-- What an event is parsed to does not depend on the flag. -/
theorem ldtIfaceevParse_ok {event : RecvEvent} {needIfc : Bool} {evinfo : LdtEvinfo}
    (parsed : ldtIfaceevParse event needIfc = .ok evinfo) :
    ldtIfaceevParse event false = .ok evinfo := by
  unfold ldtIfaceevParse at parsed ⊢
  split at parsed
  · contradiction
  · contradiction
  · unfold ldtIfaceevParse2 at parsed ⊢
    split at parsed
    · contradiction
    · simpa using parsed

theorem evinfo_of_ldtIfaceevParse {event : RecvEvent} {needIfc : Bool} {evinfo : LdtEvinfo}
    (parsed : ldtIfaceevParse event needIfc = .ok evinfo) :
    evinfo.evtype = event.evtype ∧ evinfo.iface = RecvEvent.iface event := by
  unfold ldtIfaceevParse at parsed
  split at parsed
  · contradiction
  · contradiction
  · rename_i xml sargEq
    unfold ldtIfaceevParse2 at parsed
    split at parsed
    · contradiction
    · obtain rfl := Except.ok.inj parsed
      simp [RecvEvent.iface, sargEq]

/-- The flag asks for the element. -/
theorem exists_ldtIfaceevParse_iff {event : RecvEvent} {needIfc : Bool} :
    (∃ evinfo, ldtIfaceevParse event needIfc = .ok evinfo) ↔
      (∃ xml, event.sarg = some (.ok xml)) ∧
        (needIfc = false ∨ (RecvEvent.iface event).isSome) := by
  unfold ldtIfaceevParse ldtIfaceevParse2 RecvEvent.iface
  cases event.sarg with
  | none => simp
  | some parsed =>
      cases parsed with
      | error ret => simp
      | ok xml =>
          cases needIfc with
          | false => simp
          | true => cases ifaceEq : xml.iface <;> simp [ifaceEq]

theorem verdict_event_eq_ok_iff {listenIface : Option (List UInt8)}
    {listenEvtypes : BitVec 64} {contOnErr : Bool} {event : RecvEvent} {evinfo : LdtEvinfo} :
    verdict listenIface listenEvtypes contOnErr (.event event) = some (.ok evinfo) ↔
      (toMask listenEvtypes = 0#32 ∨ listenEvtypes.getLsbD event.evtype.num = true) ∧
        ldtIfaceevParse event (tpGetparseflags event.evtype) = .ok evinfo ∧
          (tpGetparseflags event.evtype = false ∨
            namesOther listenIface (RecvEvent.iface event) = false) := by
  simp only [verdict, waitifaceevBody, getLsbD_toMask]
  split
  · rename_i listed
    simp only [listed, true_and]
    split
    · rename_i ret failed
      simp [failed]
    · rename_i parsedInfo parsed
      have ifaceEq := (evinfo_of_ldtIfaceevParse parsed).2
      simp only [parsed, Except.ok.injEq, ifaceEq]
      split
      · rename_i skipped
        simp only [Bool.and_eq_true] at skipped
        simp [skipped]
      · rename_i taken
        simp only [Bool.and_eq_true, not_and, Bool.not_eq_true] at taken
        simp only [Option.some.injEq, Except.ok.injEq, iff_self_and]
        intro same
        by_cases needIfc : tpGetparseflags event.evtype = true
        · exact .inr (taken needIfc)
        · exact .inl (by simpa using needIfc)
  · rename_i unlisted
    simp [unlisted]

section
variable {listenIface : Option (List UInt8)} {listenEvtypes : BitVec 64} {contOnErr : Bool}

/-- No wanted event is passed over. -/
theorem wanted_eq_false_of_verdict {event : RecvEvent}
    (passed : verdict listenIface listenEvtypes contOnErr (.event event) = none) :
    wanted listenIface listenEvtypes event = false := by
  by_contra notFalse
  rw [Bool.not_eq_false, wanted, Bool.and_eq_true, Bool.not_eq_true'] at notFalse
  obtain ⟨listed, own⟩ := notFalse
  simp only [verdict, waitifaceevBody, getLsbD_toMask, listed, or_true, if_true] at passed
  split at passed
  · contradiction
  · rename_i evinfo parsed
    rw [(evinfo_of_ldtIfaceevParse parsed).2, own, Bool.and_false] at passed
    contradiction

theorem stray_iff {event : RecvEvent} :
    Stray listenIface listenEvtypes event ↔
      (∃ evinfo, verdict listenIface listenEvtypes contOnErr (.event event) =
        some (.ok evinfo)) ∧ wanted listenIface listenEvtypes event = false := by
  simp only [verdict_event_eq_ok_iff, wanted, exists_and_left, exists_and_right,
    exists_ldtIfaceevParse_iff, Stray]
  by_cases empty : toMask listenEvtypes = 0#32
  · have unlisted := getLsbD_of_toMask_eq_zero event.evtype empty
    simp only [empty, if_true, true_or, true_and, unlisted, Bool.false_and, and_true]
    cases tpGetparseflags event.evtype <;> simp [and_assoc]
  · simp only [empty, if_false, false_or]
    cases listenEvtypes.getLsbD event.evtype.num <;>
      cases tpGetparseflags event.evtype <;>
        cases namesOther listenIface (RecvEvent.iface event) <;> simp

theorem firstWanted_eq_some {before rest : List Delivery} {event : RecvEvent}
    (passed : ∀ earlier ∈ before,
      verdict listenIface listenEvtypes contOnErr earlier = none)
    (wantedHere : wanted listenIface listenEvtypes event = true) :
    firstWanted listenIface listenEvtypes (before ++ .event event :: rest) = some event := by
  have noneBefore : (before.filterMap eventOf).find? (wanted listenIface listenEvtypes) =
      none := by
    rw [List.find?_eq_none]
    intro other member
    obtain ⟨delivery, deliveryMem, isEvent⟩ := List.mem_filterMap.mp member
    cases delivery with
    | event found =>
        obtain rfl := Option.some.inj isEvent
        simp [wanted_eq_false_of_verdict (passed _ deliveryMem)]
    | _ => contradiction
  rw [firstWanted, List.filterMap_append, List.find?_append, noneBefore]
  simp [eventOf, wantedHere]

/-- `ldt_waitifaceev` returns the first wanted event whenever it returns one. -/
def ReturnsFirstWanted (listenIface : Option (List UInt8)) (listenEvtypes : BitVec 64)
    (contOnErr : Bool) (deliveries : List Delivery) : Prop :=
  ∀ evinfo rest,
    ldtWaitifaceev listenIface listenEvtypes contOnErr deliveries = (.ok evinfo, rest) →
      ∃ event, firstWanted listenIface listenEvtypes deliveries = some event ∧
        ldtIfaceevParse event false = .ok evinfo

/-- No stray event comes before everything else that ends the wait. -/
def NoStrayFirst (listenIface : Option (List UInt8)) (listenEvtypes : BitVec 64)
    (contOnErr : Bool) (deliveries : List Delivery) : Prop :=
  ∀ before event rest, deliveries = before ++ .event event :: rest →
    (∀ earlier ∈ before, verdict listenIface listenEvtypes contOnErr earlier = none) →
      ¬Stray listenIface listenEvtypes event

theorem wanted_congr {event other : RecvEvent} (evtype : event.evtype = other.evtype)
    (iface : RecvEvent.iface event = RecvEvent.iface other) :
    wanted listenIface listenEvtypes event = wanted listenIface listenEvtypes other := by
  simp only [wanted, evtype, iface]

end

/-- For every stream of messages, every device and every mask, `ldt_waitifaceev`
returns the first wanted event exactly when no stray event comes first. -/
theorem returnsFirstWanted_iff (listenIface : Option (List UInt8)) (listenEvtypes : BitVec 64)
    (contOnErr : Bool) (deliveries : List Delivery) :
    ReturnsFirstWanted listenIface listenEvtypes contOnErr deliveries ↔
      NoStrayFirst listenIface listenEvtypes contOnErr deliveries := by
  constructor
  · intro returns before event rest split passed stray
    obtain ⟨⟨evinfo, taken⟩, unwanted⟩ := stray_iff.mp stray
    obtain ⟨other, firstEq, parsedOther⟩ := returns evinfo rest
      (ldtWaitifaceev_eq_ok_iff.mpr ⟨before, _, split, passed, taken⟩)
    have otherWanted : wanted listenIface listenEvtypes other = true :=
      List.find?_some firstEq
    have parsed := (verdict_event_eq_ok_iff.mp taken).2.1
    obtain ⟨evtype, iface⟩ := evinfo_of_ldtIfaceevParse parsed
    obtain ⟨otherEvtype, otherIface⟩ := evinfo_of_ldtIfaceevParse parsedOther
    rw [wanted_congr (evtype.symm.trans otherEvtype) (iface.symm.trans otherIface),
      otherWanted] at unwanted
    contradiction
  · intro noStray evinfo rest returned
    obtain ⟨before, delivery, split, passed, taken⟩ := ldtWaitifaceev_eq_ok_iff.mp returned
    cases delivery with
    | failed ret timeLeft =>
        simp only [verdict] at taken
        split at taken <;> simp_all
    | nlmsgError error timeLeft =>
        simp only [verdict] at taken
        split at taken <;> simp_all
    | info ret => contradiction
    | event event =>
        have wantedHere : wanted listenIface listenEvtypes event = true := by
          by_contra unwanted
          exact noStray before event rest split passed
            (stray_iff.mpr ⟨⟨evinfo, taken⟩, by simpa using unwanted⟩)
        refine ⟨event, ?_, ldtIfaceevParse_ok (verdict_event_eq_ok_iff.mp taken).2.1⟩
        rw [split]
        exact firstWanted_eq_some passed wantedHere

/-- `1 << evtype` -/
def evBit (evtype : EvType) : BitVec 64 :=
  1#64 <<< evtype.num

/-- An event of the kernel module on the device. -/
def eventOn (evtype : EvType) (iface : List UInt8) : RecvEvent where
  evtype := evtype
  sarg := some (.ok {
    iface := some iface
    pdev := none
    desc := none
    remaddr := none
    remport := none
    subflow := none })

/-- The failed connection of another tunnel is returned as an event of one's
own, and a mask with nothing in its low half returns events of types that are not
in it. -/
theorem not_returnsFirstWanted_other_device :
    ¬ReturnsFirstWanted (some (ascii "ldt0")) (evBit .connEstab ||| evBit .connEstabFail) false
        [.event (eventOn .connEstabFail (ascii "ldt1")),
          .event (eventOn .connEstab (ascii "ldt0"))] ∧
      ¬ReturnsFirstWanted (some (ascii "ldt0")) (1#64 <<< 40) false
        [.event (eventOn .rebind (ascii "ldt0"))] := by
  constructor
  · intro returns
    obtain ⟨event, first, parsed⟩ := returns _ _
      (ldtWaitifaceev_eq_ok_iff.mpr ⟨[], _, rfl, by simp, rfl⟩)
    obtain rfl : eventOn .connEstab (ascii "ldt0") = event := Option.some.inj first
    have iface := (evinfo_of_ldtIfaceevParse parsed).2
    revert iface
    decide
  · intro returns
    obtain ⟨event, first, -⟩ := returns _ _
      (ldtWaitifaceev_eq_ok_iff.mpr ⟨[], _, rfl, by simp, rfl⟩)
    contradiction

end Tunprox.WaitEvent
