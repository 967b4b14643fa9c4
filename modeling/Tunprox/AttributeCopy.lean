import Tunprox.AttributeSwitch

/-!
# Copies by the lengths of attributes

The second loop of `ldt_getinfo` moves the data of the attributes to the front of the buffer
that it still reads, and `ldt_event_recv` moves its text there.  What is moved lands before
what is still to be read, so that only the lengths in the headers decide whether the copies
stay within the message.
-/

namespace Tunprox.AttributeCopy

open ByteBuffer NetlinkAttribute NetlinkMessage NetlinkReply AttributeWalk AttributeSwitch
open EventMessage (EventScan scanEvent eventRecvEvent)
open Netlink (RERR_OK RERR_INTERNAL)

/-- The second walk has not changed what it has not read, and there is room behind what it
has written. -/
structure Compacted (buf : List UInt8) (ptr : Nat) (state : Compaction) : Prop where
  length : state.buf.length = buf.length
  rest : state.buf.drop ptr = buf.drop ptr
  behind : state.xptr + NLMSG_HDRLEN ≤ ptr
  inside : state.xptr + NLMSG_HDRLEN ≤ buf.length

theorem compacted_start {buf : List UInt8} (long : NLMSG_HDRLEN ≤ buf.length) :
    Compacted buf (fnlGetmsgdata 0) ⟨buf, 0, []⟩ := by
  refine ⟨rfl, rfl, ?_, ?_⟩
  · rw [Nat.zero_add]
    decide
  · rw [Nat.zero_add]
    exact long

section
variable {buf : List UInt8} {header : AttrHeader} {state : Compaction}

/-- The header is still there when the second walk comes to it. -/
theorem Compacted.standsIn (compacted : Compacted buf header.offset state)
    (stands : header.StandsIn buf) : header.StandsIn state.buf := by
  have loadLen := load_congr_drop 2 compacted.length compacted.rest (Nat.le_refl header.offset)
  have loadId := load_congr_drop 2 compacted.length compacted.rest
    (Nat.le_add_right header.offset 2)
  constructor
  · rw [loadNumber, loadLen]
    exact stands.len
  · rw [loadNumber, loadId]
    exact stands.id

/-- Data within the message is moved, and what is behind it stays. -/
theorem compactOne_of_inside (next : Nat) (compacted : Compacted buf header.offset state)
    (inside : header.id = LDT_CMD_SEND_INFO_ATTR_INFO → header.Inside buf) :
    ∃ moved, compactOne header.offset header.id ((header.len : Int) - NLA_HDRLEN) next state =
        some moved ∧ Compacted buf (header.offset + nlaAlign header.len) moved := by
  have aligned := le_nlaAlign header.len
  have behind := compacted.behind
  have room := compacted.inside
  have length := compacted.length
  rw [compactOne]
  by_cases isInfo : header.id = LDT_CMD_SEND_INFO_ATTR_INFO
  · obtain ⟨long, fits⟩ := inside isInfo
    have size : ((header.len : Int) - NLA_HDRLEN).toNat = header.len - NLA_HDRLEN := by omega
    have whole : header.len - NLA_HDRLEN + NLA_HDRLEN = header.len := Nat.sub_add_cancel long
    unfold NLMSG_HDRLEN at behind room
    rw [if_pos isInfo, if_neg (by omega), size]
    generalize header.len - NLA_HDRLEN = count at whole
    unfold NLA_HDRLEN at whole
    have source : fnlGetattrdata header.offset + count ≤ state.buf.length := by
      unfold fnlGetattrdata NLA_HDRLEN
      omega
    obtain ⟨moved, movedEq, movedLength, movedRest⟩ :=
      exists_memmove source (show state.xptr + count ≤ state.buf.length by omega)
    rw [movedEq]
    refine ⟨_, rfl, movedLength.trans length, ?_, ?_, ?_⟩
    · have later : state.buf.drop (header.offset + nlaAlign header.len) =
          buf.drop (header.offset + nlaAlign header.len) := by
        rw [← List.drop_drop, compacted.rest, List.drop_drop]
      rw [← later]
      exact movedRest _ (by omega)
    · simp only
      unfold NLMSG_HDRLEN
      omega
    · simp only
      unfold NLMSG_HDRLEN
      omega
  · rw [if_neg isInfo]
    refine ⟨state, rfl, length, ?_, Nat.le_trans behind (Nat.le_add_right _ _), room⟩
    rw [← List.drop_drop, compacted.rest, List.drop_drop]

/-- Otherwise the count is negative, or the data is not in the message. -/
theorem compactOne_of_outside (next : Nat) (compacted : Compacted buf header.offset state)
    (isInfo : header.id = LDT_CMD_SEND_INFO_ATTR_INFO) (stands : header.StandsIn buf)
    (outside : ¬ header.Inside buf) :
    compactOne header.offset header.id ((header.len : Int) - NLA_HDRLEN) next state = none := by
  have bound := stands.length_le
  rw [compactOne, if_pos isInfo]
  by_cases short : header.len < NLA_HDRLEN
  · rw [if_pos (by omega)]
  · have long : NLA_HDRLEN ≤ header.len := Nat.le_of_not_lt short
    have size : ((header.len : Int) - NLA_HDRLEN).toNat = header.len - NLA_HDRLEN := by omega
    have beyond : ¬ fnlGetattrdata header.offset + (header.len - NLA_HDRLEN) ≤
        state.buf.length := by
      intro fits
      rw [compacted.length, fnlGetattrdata] at fits
      exact outside ⟨long, by omega⟩
    rw [if_neg (by omega), size, memmove_eq_none beyond]
    rfl

/-- The second walk at the end of the message. -/
theorem compactInfo_end {ptr : Nat} (fuel : Nat) (outside : state.buf.length ≤ ptr) :
    compactInfo fuel ptr state = some state := by
  have ended : ¬ ptr < state.buf.length := Nat.not_lt.mpr outside
  cases fuel with
  | zero => rw [compactInfo, if_neg ended]
  | succ fuel => rw [compactInfo, if_neg ended]

/-- One attribute of the second walk. -/
theorem compactInfo_attr (fuel : Nat) (compacted : Compacted buf header.offset state)
    (stands : header.StandsIn buf) :
    compactInfo (fuel + 1) header.offset state =
      (compactOne header.offset header.id ((header.len : Int) - NLA_HDRLEN)
        (header.offset + nlaAlign header.len) state).bind
          (compactInfo fuel (header.offset + nlaAlign header.len)) := by
  have stood := compacted.standsIn stands
  have bound := stood.length_le
  have here : header.offset < state.buf.length := by
    unfold NLA_HDRLEN at bound
    omega
  have idEq : fnlGetattrid state.buf header.offset = some header.id := stood.id
  simp only [compactInfo, if_pos here, idEq, fnlGetattrlen_of_stands stood,
    fnlGetnextattr_of_stands stood, Option.bind_eq_bind, Option.bind_some]

end

/-- The second walk ends within the message where the data of every attribute is there, and
leaves room for the zero byte. -/
theorem compactInfo_iff {readable : AttrHeader → Prop} {buf : List UInt8} {ptr fuel : Nat}
    {headers : List AttrHeader} {stop : Bool} {state : Compaction}
    (walk : Walk readable (fun _ => False) buf ptr headers stop)
    (compacted : Compacted buf ptr state) (enough : buf.length ≤ ptr + fuel) :
    (∃ moved, compactInfo fuel ptr state = some moved ∧
        moved.xptr + 1 ≤ moved.buf.length) ↔
      ∀ header ∈ headers, header.id = LDT_CMD_SEND_INFO_ATTR_INFO → header.Inside buf := by
  induction walk generalizing fuel state with
  | @ended ptr outside =>
      rw [compactInfo_end fuel (compacted.length ▸ outside)]
      constructor
      · intro _ header member
        contradiction
      · intro _
        have room := compacted.inside
        have length := compacted.length
        unfold NLMSG_HDRLEN at room
        exact ⟨state, rfl, by omega⟩
  | stopped stands reads stops => contradiction
  | @attr header headers stop stands reads taken advances rest ih =>
      have aligned := le_nlaAlign header.len
      have bound := stands.length_le
      unfold NLA_HDRLEN at bound
      obtain ⟨steps, rfl⟩ : ∃ steps, fuel = steps + 1 := ⟨fuel - 1, by omega⟩
      rw [compactInfo_attr steps compacted stands, List.forall_mem_cons]
      by_cases inside : header.id = LDT_CMD_SEND_INFO_ATTR_INFO → header.Inside buf
      · obtain ⟨moved, movedEq, movedCompacted⟩ :=
          compactOne_of_inside (header.offset + nlaAlign header.len) compacted inside
        rw [movedEq, Option.bind_some, ih movedCompacted (by omega)]
        constructor
        · intro later
          exact ⟨inside, later⟩
        · rintro ⟨-, later⟩
          exact later
      · obtain ⟨isInfo, outside⟩ := Classical.not_imp.mp inside
        rw [compactOne_of_outside _ compacted isInfo stands outside, Option.bind_none]
        constructor
        · rintro ⟨moved, movedEq, -⟩
          contradiction
        · rintro ⟨first, -⟩
          exact absurd first inside

/-- What the loops of `ldt_getinfo` need: the attributes follow one another, those with a
result hold a number, the data that is asked for is within the message, and there is a
result or data. -/
def InfoWellFormed (wanted : Bool) (buf : List UInt8) : Prop :=
  ∃ headers, Walk (infoReadable buf) (fun _ => False) buf (fnlGetmsgdata 0) headers false ∧
    (wanted = true → ∀ header ∈ headers, header.id = LDT_CMD_SEND_INFO_ATTR_INFO →
      header.Inside buf) ∧
    ∃ header ∈ headers, header.id = LDT_CMD_SEND_INFO_ATTR_RET ∨
      header.id = LDT_CMD_SEND_INFO_ATTR_INFO

/-- What the loop of `ldt_event_recv` needs: the attributes follow one another up to the end
or to a text that it refuses, those with a number hold one, and the text that it takes is
within the message. -/
def EventWellFormed (number : Bool) (buf : List UInt8) : Prop :=
  ∃ headers stop, Walk (eventReadable number buf) refusedText buf (fnlGetmsgdata 0) headers
      stop ∧
    (stop = false → ∀ text, lastText headers = some text → text.Inside buf)

section
variable {wanted : Bool} {buf : List UInt8}

/-- What `*rval` holds after the walks. -/
def scanRval (scan : Scan) : Option Int :=
  if scan.ret.isNone && scan.hasdata then some 0 else scan.ret

theorem isSome_scanRval (scan : Scan) :
    (scanRval scan).isSome ↔ scan.ret.isSome ∨ scan.hasdata = true := by
  unfold scanRval
  cases scan.ret with
  | none =>
      cases scan.hasdata with
      | false => simp
      | true => simp
  | some ret => simp

section
variable {scan : Scan}
  (scanned : scanInfo buf.length buf (fnlGetmsgdata 0) ⟨none, false⟩ = some scan)
include scanned

/-- `ldt_getinfo` once the first walk has ended. -/
theorem exists_getinfoInfo_iff :
    (∃ reply, getinfoInfo wanted buf = some reply) ↔
      (scan.hasdata = true → wanted = true →
        ∃ state, compactInfo buf.length (fnlGetmsgdata 0) ⟨buf, 0, []⟩ = some state ∧
          state.xptr + 1 ≤ state.buf.length) := by
  simp only [getinfoInfo, scanned, Option.bind_eq_bind, Option.bind_some]
  by_cases copies : (scan.hasdata && wanted) = true
  · obtain ⟨hasdata, isWanted⟩ := Bool.and_eq_true_iff.mp copies
    rw [if_pos copies]
    constructor
    · rintro ⟨reply, returned⟩ - -
      obtain ⟨state, stateEq, ended⟩ := Option.bind_eq_some_iff.mp returned
      obtain ⟨stored, storedEq, -⟩ := Option.bind_eq_some_iff.mp ended
      exact ⟨state, stateEq, (length_store storedEq).2⟩
    · intro moves
      obtain ⟨state, stateEq, room⟩ := moves hasdata isWanted
      have fits : state.xptr + [(0 : UInt8)].length ≤ state.buf.length := room
      rw [stateEq, Option.bind_some, store, if_pos fits, Option.bind_some]
      exact ⟨_, rfl⟩
  · rw [if_neg copies]
    constructor
    · rintro - hasdata isWanted
      exact absurd (Bool.and_eq_true_iff.mpr ⟨hasdata, isWanted⟩) copies
    · intro _
      exact ⟨_, rfl⟩

theorem rval_of_getinfoInfo {reply : InfoReply}
    (returned : getinfoInfo wanted buf = some reply) :
    reply.ret = RERR_OK ∧ reply.rval = scanRval scan := by
  simp only [getinfoInfo, scanned, Option.bind_eq_bind, Option.bind_some] at returned
  split at returned
  · obtain ⟨state, stateEq, ended⟩ := Option.bind_eq_some_iff.mp returned
    obtain ⟨stored, storedEq, replyEq⟩ := Option.bind_eq_some_iff.mp ended
    obtain rfl := Option.some.inj replyEq
    exact ⟨rfl, rfl⟩
  · obtain rfl := Option.some.inj returned
    exact ⟨rfl, rfl⟩

end

/-- The loops of `ldt_getinfo` end within the message, with `*rval` assigned, exactly on what
they need. -/
theorem getinfoInfo_iff (long : NLMSG_HDRLEN ≤ buf.length) :
    (∃ reply, getinfoInfo wanted buf = some reply ∧ reply.rval.isSome) ↔
      InfoWellFormed wanted buf := by
  have compacted := compacted_start long
  have found {headers : List AttrHeader}
      (walk : Walk (infoReadable buf) (fun _ => False) buf (fnlGetmsgdata 0) headers false) :
      scanInfo buf.length buf (fnlGetmsgdata 0) ⟨none, false⟩ =
        some (headers.foldl (seeInfo buf) ⟨none, false⟩) := by
    rw [scanInfo_eq_attrLoop,
      attrLoop_of_walk (infoSwitch buf) walk ⟨none, false⟩ (Nat.le_add_left _ _)]
    rfl
  have assigned {headers : List AttrHeader} :
      (scanRval (headers.foldl (seeInfo buf) ⟨none, false⟩)).isSome ↔
        ∃ header ∈ headers, header.id = LDT_CMD_SEND_INFO_ATTR_RET ∨
          header.id = LDT_CMD_SEND_INFO_ATTR_INFO := by
    obtain ⟨rets, datas⟩ := foldl_seeInfo buf headers ⟨none, false⟩
    rw [isSome_scanRval, rets, datas]
    simp [and_or_left, exists_or]
  constructor
  · rintro ⟨reply, returned, isAssigned⟩
    obtain ⟨scan, scanned, -⟩ := Option.bind_eq_some_iff.mp returned
    obtain ⟨result, looped, -⟩ :=
      Option.map_eq_some_iff.mp ((scanInfo_eq_attrLoop ..).symm.trans scanned)
    obtain ⟨headers, stop, walk⟩ := walk_of_attrLoop (infoSwitch buf) looped
    obtain rfl := not_stopped walk
    have moves := compactInfo_iff walk compacted (Nat.le_add_left buf.length _)
    refine ⟨headers, walk, ?_, ?_⟩
    · intro isWanted header member isInfo
      have hasdata := (foldl_seeInfo buf headers ⟨none, false⟩).2.mpr
        (.inr ⟨header, member, isInfo⟩)
      exact moves.mp ((exists_getinfoInfo_iff (found walk)).mp ⟨reply, returned⟩ hasdata isWanted)
        header member isInfo
    · rw [← assigned, ← (rval_of_getinfoInfo (found walk) returned).2]
      exact isAssigned
  · rintro ⟨headers, walk, inside, answered⟩
    have moves := compactInfo_iff walk compacted (Nat.le_add_left buf.length _)
    obtain ⟨reply, returned⟩ : ∃ reply, getinfoInfo wanted buf = some reply :=
      (exists_getinfoInfo_iff (found walk)).mpr fun _ isWanted =>
        moves.mpr (inside isWanted)
    refine ⟨reply, returned, ?_⟩
    rw [(rval_of_getinfoInfo (found walk) returned).2, assigned]
    exact answered

end

/-- The text is moved to the front, and a zero byte put behind it, where it is within the
message. -/
theorem exists_movedText_iff {Result : Type} {buf : List UInt8} {text : AttrHeader}
    (finish : List UInt8 → Option Result) (finishes : ∀ ended, ∃ reply, finish ended = some reply)
    (bound : text.offset + NLA_HDRLEN ≤ buf.length) (long : NLA_HDRLEN ≤ text.len) :
    (∃ reply, (if 0 < text.len - NLA_HDRLEN then
        (memmove buf 0 (fnlGetattrdata text.offset) (text.len - NLA_HDRLEN)).bind fun moved =>
          (store moved (text.len - NLA_HDRLEN) [0]).bind finish
      else (store buf (text.len - NLA_HDRLEN) [0]).bind finish) = some reply) ↔
      text.Inside buf := by
  have whole := Nat.sub_add_cancel long
  generalize text.len - NLA_HDRLEN = slen at whole
  have insideIff : text.Inside buf ↔ text.offset + 4 + slen ≤ buf.length := by
    unfold AttrHeader.Inside NLA_HDRLEN
    unfold NLA_HDRLEN at whole
    omega
  have ends {moved : List UInt8} (room : slen + [(0 : UInt8)].length ≤ moved.length) :
      ∃ reply, (store moved slen [0]).bind finish = some reply := by
    rw [store, if_pos room, Option.bind_some]
    exact finishes _
  rw [insideIff]
  unfold fnlGetattrdata
  unfold NLA_HDRLEN at bound ⊢
  by_cases positive : 0 < slen
  · rw [if_pos positive]
    constructor
    · rintro ⟨reply, returned⟩
      by_contra outside
      rw [memmove_eq_none outside] at returned
      contradiction
    · intro inside
      obtain ⟨moved, movedEq, length, -⟩ :=
        exists_memmove inside (show 0 + slen ≤ buf.length by omega)
      rw [movedEq, Option.bind_some]
      apply ends
      rw [length, List.length_singleton]
      omega
  · rw [if_neg positive]
    constructor
    · intro _
      omega
    · intro inside
      apply ends
      rw [List.length_singleton]
      omega

/-- The loop of `ldt_event_recv` and its `memmove` stay within the message exactly on what
they need. -/
theorem eventRecvEvent_iff (number : Bool) (buf : List UInt8) :
    (∃ reply, eventRecvEvent number buf = some reply) ↔ EventWellFormed number buf := by
  have scanned {headers : List AttrHeader} {stop : Bool}
      (walk : Walk (eventReadable number buf) refusedText buf (fnlGetmsgdata 0) headers stop) :
      scanEvent number buf.length buf (fnlGetmsgdata 0) EventScan.start =
        some (if stop then RERR_INTERNAL else RERR_OK,
          headers.foldl (seeEvent number buf) EventScan.start) := by
    rw [scanEvent_eq_attrLoop]
    exact attrLoop_of_walk (eventSwitch number buf) walk EventScan.start (Nat.le_add_left _ _)
  have returns {headers : List AttrHeader} {stop : Bool}
      (walk : Walk (eventReadable number buf) refusedText buf (fnlGetmsgdata 0) headers stop) :
      (∃ reply, eventRecvEvent number buf = some reply) ↔
        (stop = false → ∀ text, lastText headers = some text → text.Inside buf) := by
    cases stop with
    | true =>
        have returned : eventRecvEvent number buf = some
            ((headers.foldl (seeEvent number buf) EventScan.start).reply RERR_INTERNAL none) := by
          simp only [eventRecvEvent, scanned walk, Option.bind_eq_bind, Option.bind_some,
            if_true, if_pos rerr_internal_ne_ok]
        rw [returned]
        simp
    | false =>
        have texts := foldl_seeEvent_sarg number buf headers EventScan.start
        simp only [eventRecvEvent, scanned walk, Option.bind_eq_bind, Option.bind_some,
          Bool.false_eq_true, if_false, ne_eq, not_true_eq_false, texts]
        cases last : lastText headers with
        | none => simp [EventScan.start]
        | some text =>
            obtain ⟨member, isSarg⟩ := mem_of_lastText last
            obtain ⟨stands, -, taken, -⟩ := walk.mem_standsIn member
            have long : NLA_HDRLEN ≤ text.len :=
              Nat.le_of_not_lt fun short => taken ⟨isSarg, short⟩
            simp only [Option.map_some, Option.some_or, forall_const, Option.some.injEq,
              forall_eq']
            exact exists_movedText_iff _ (fun _ => ⟨_, rfl⟩) stands.length_le long
  constructor
  · rintro ⟨reply, returned⟩
    obtain ⟨result, looped, -⟩ := Option.bind_eq_some_iff.mp returned
    rw [scanEvent_eq_attrLoop] at looped
    obtain ⟨headers, stop, walk⟩ := walk_of_attrLoop (eventSwitch number buf) looped
    exact ⟨headers, stop, walk, (returns walk).mp ⟨reply, returned⟩⟩
  · rintro ⟨headers, stop, walk, inside⟩
    exact (returns walk).mpr inside

end Tunprox.AttributeCopy
