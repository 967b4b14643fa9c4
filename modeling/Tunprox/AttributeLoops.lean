import Tunprox.AttributeCopy

/-!
# Attribute loops

`ldt_getinfo` and `ldt_event_recv` trust the lengths in the headers of the attributes: a
length of zero keeps the loop at its attribute for ever, a length below that of the header
makes the count of a `memmove` negative, and one beyond the message makes it read there.
A message without a result and without data leaves `*rval` as it was.  A message of 16
bytes is accepted although its command would be the byte behind it, so that whatever the
buffer held there may bring it to the loops.  The file tells on which messages of
`fnl_recv` nothing of this happens.
-/

namespace Tunprox.AttributeLoops

open ByteBuffer NetlinkAttribute NetlinkMessage NetlinkReply AttributeCopy
open EventMessage (EventReply eventRecvError eventRecvEvent eventRecvOne)
open Netlink (RERR_OK)

/-- A message that `fnl_recv` may return: it holds a header, and its length is an `int`. -/
structure Received where
  bytes : List UInt8
  long : NLMSG_HDRLEN ≤ bytes.length
  short : bytes.length < 2 ^ 31

/-- `ldt_getinfo` comes to its loops. -/
def RunsInfo (buf : List UInt8) : Prop :=
  fnlGetmsgtype buf ≠ some NLMSG_ERROR ∧ fnlGetcmd buf = some LDT_CMD_SEND_INFO

/-- `ldt_event_recv` comes to its loop. -/
def RunsEvent (buf : List UInt8) : Prop :=
  (∀ type, fnlGetmsgtype buf = some type → NLMSG_MIN_TYPE ≤ type) ∧
    fnlGetcmd buf = some LDT_CMD_SEND_EVENT

/-- `ldt_getinfo` on one message.  The command and the number of an error are read from the
buffer, which holds `behind` where the message has ended. -/
def getinfoIn (wanted : Bool) (message behind : List UInt8) : Option InfoReply := do
  let type ← fnlGetmsgtype (message ++ behind)
  if type = NLMSG_ERROR then getinfoError (message ++ behind)
  else do
    let cmd ← fnlGetcmd (message ++ behind)
    if cmd = LDT_CMD_SEND_EVENT then none
    else if cmd ≠ LDT_CMD_SEND_INFO then some (plainReply RERR_INVALID_CMD none none)
    else getinfoInfo wanted message

/-- `ldt_event_recv` on one message in such a buffer: it waits for the next message, or it
returns, or it reads outside of the message. -/
def eventRecvIn (number : Bool) (message behind : List UInt8) : Option (Option EventReply) :=
  match fnlGetmsgtype (message ++ behind) with
  | none => some none
  | some type =>
      if type = NLMSG_ERROR then some (eventRecvError (message ++ behind))
      else if type < NLMSG_MIN_TYPE then none
      else
        match fnlGetcmd (message ++ behind) with
        | none => some none
        | some cmd =>
            if cmd ≠ LDT_CMD_SEND_EVENT then none else some (eventRecvEvent number message)

/-- The loops over the attributes of a message end, without reading, copying or storing
outside of it and without a negative count, and a success of `ldt_getinfo` comes with
`*rval`, where the buffer holds `behind` behind the message.  The data is asked for by
`ldt_getinfo` if it is `wanted`, the number of an event by `ldt_event_recv` if `number` tells
so. -/
structure LoopsSafe (wanted number : Bool) (received : Received) (behind : List UInt8) :
    Prop where
  info : RunsInfo (received.bytes ++ behind) →
    ∃ reply, getinfoIn wanted received.bytes behind = some reply
  event : RunsEvent (received.bytes ++ behind) →
    ∃ reply, eventRecvIn number received.bytes behind = some (some reply)
  assigned : ∀ reply, getinfoIn wanted received.bytes behind = some reply →
    reply.ret = RERR_OK → reply.rval ≠ none

/-- The message has a command, unless it is that of an error, and is as the loops that come to
it need it. -/
structure WellFormed (wanted number : Bool) (received : Received) : Prop where
  command : fnlGetmsgtype received.bytes ≠ some NLMSG_ERROR →
    NLMSG_HDRLEN < received.bytes.length
  info : RunsInfo received.bytes → InfoWellFormed wanted received.bytes
  event : RunsEvent received.bytes → EventWellFormed number received.bytes

section
variable (received : Received)

theorem Received.toInt32_length :
    toInt32 (received.bytes.length % 2 ^ 32) = received.bytes.length :=
  toInt32_mod_of_lt received.short

theorem Received.length_ne_zero : received.bytes.length ≠ 0 := by
  have long := received.long
  unfold NLMSG_HDRLEN at long
  omega

/-- The type stands in the header. -/
theorem Received.exists_msgtype : ∃ type, fnlGetmsgtype received.bytes = some type := by
  have long := received.long
  unfold NLMSG_HDRLEN at long
  exact ⟨_, exists_loadNumber (by omega)⟩

theorem Received.msgtype_append (behind : List UInt8) :
    fnlGetmsgtype (received.bytes ++ behind) = fnlGetmsgtype received.bytes := by
  have long := received.long
  unfold NLMSG_HDRLEN at long
  exact loadNumber_append_left (by omega) behind

variable {received}

/-- The command of a message that has one. -/
theorem cmd_append (long : NLMSG_HDRLEN < received.bytes.length) (behind : List UInt8) :
    fnlGetcmd (received.bytes ++ behind) = fnlGetcmd received.bytes :=
  loadNumber_append_left long behind

/-- On a message with a whole header the functions do what they do in any buffer. -/
theorem ldtGetinfo_eq_getinfoIn (long : NLMSG_HDRLEN + 4 ≤ received.bytes.length)
    (wanted : Bool) (behind : List UInt8) :
    ldtGetinfo wanted [.ok received.bytes] = getinfoIn wanted received.bytes behind := by
  have cmdEq := cmd_append (show NLMSG_HDRLEN < received.bytes.length by omega) behind
  have errorEq := loadNumber_append_left long behind
  rw [ldtGetinfo, received.toInt32_length, if_neg (by omega), if_neg received.length_ne_zero]
  simp only [getinfoIn, getinfoError, received.msgtype_append, cmdEq, errorEq, ldtGetinfo]

theorem eventRecvOne_eq_eventRecvIn (long : NLMSG_HDRLEN + 4 ≤ received.bytes.length)
    (number : Bool) (behind : List UInt8) :
    eventRecvOne number (.ok received.bytes) = eventRecvIn number received.bytes behind := by
  have cmdEq := cmd_append (show NLMSG_HDRLEN < received.bytes.length by omega) behind
  have errorEq := loadNumber_append_left long behind
  obtain ⟨type, typeEq⟩ := received.exists_msgtype
  obtain ⟨cmd, readEq⟩ : ∃ cmd, fnlGetcmd received.bytes = some cmd :=
    ⟨_, exists_loadNumber (show NLMSG_HDRLEN + 1 ≤ received.bytes.length by omega)⟩
  rw [eventRecvOne, received.toInt32_length, if_neg (by omega), if_neg received.length_ne_zero]
  simp only [eventRecvIn, eventRecvError, received.msgtype_append, cmdEq, errorEq, typeEq, readEq]

theorem getinfoIn_of_runsInfo (wanted : Bool) {behind : List UInt8}
    (runs : RunsInfo (received.bytes ++ behind)) :
    getinfoIn wanted received.bytes behind = getinfoInfo wanted received.bytes := by
  obtain ⟨type, typeEq⟩ := received.exists_msgtype
  rw [← received.msgtype_append behind] at typeEq
  obtain ⟨notError, cmdEq⟩ := runs
  have other : type ≠ NLMSG_ERROR := by
    rintro rfl
    exact notError typeEq
  have notEvent : LDT_CMD_SEND_INFO ≠ LDT_CMD_SEND_EVENT := by decide
  simp only [getinfoIn, typeEq, cmdEq, Option.bind_eq_bind, Option.bind_some, if_neg other,
    if_neg notEvent, ne_eq, not_true_eq_false, if_false]

theorem eventRecvIn_of_runsEvent (number : Bool) {behind : List UInt8}
    (runs : RunsEvent (received.bytes ++ behind)) :
    eventRecvIn number received.bytes behind =
      some (eventRecvEvent number received.bytes) := by
  obtain ⟨type, typeEq⟩ := received.exists_msgtype
  rw [← received.msgtype_append behind] at typeEq
  obtain ⟨minType, cmdEq⟩ := runs
  have high := minType type typeEq
  have other : type ≠ NLMSG_ERROR := by
    rintro rfl
    exact absurd high (by decide)
  rw [eventRecvIn, typeEq, cmdEq]
  simp only [if_neg other, if_neg (Nat.not_lt.mpr high), ne_eq, not_true_eq_false, if_false]

/-- A message that comes to the loops is none of an error. -/
theorem RunsEvent.ne_error {buf : List UInt8} (runs : RunsEvent buf) :
    fnlGetmsgtype buf ≠ some NLMSG_ERROR := by
  intro isError
  exact absurd (runs.1 NLMSG_ERROR isError) (by decide)

/-- A success of `ldt_getinfo` that does not come from its loops is that of a command whose
result has arrived in an error message. -/
theorem runsInfo_of_unassigned {wanted : Bool} {behind : List UInt8} {reply : InfoReply}
    (returned : getinfoIn wanted received.bytes behind = some reply)
    (ok : reply.ret = RERR_OK) (unassigned : reply.rval = none) :
    RunsInfo (received.bytes ++ behind) := by
  obtain ⟨type, typeEq, rest⟩ := Option.bind_eq_some_iff.mp returned
  by_cases isError : type = NLMSG_ERROR
  · rw [if_pos isError, getinfoError] at rest
    obtain ⟨cmd, cmdEq, replied⟩ := Option.bind_eq_some_iff.mp rest
    split at replied
    · obtain rfl := Option.some.inj replied
      exact absurd ok (by decide)
    · obtain ⟨error, errorEq, replyEq⟩ := Option.bind_eq_some_iff.mp replied
      obtain rfl := Option.some.inj replyEq
      contradiction
  · rw [if_neg isError] at rest
    obtain ⟨cmd, cmdEq, replied⟩ := Option.bind_eq_some_iff.mp rest
    split at replied
    · contradiction
    · split at replied
      · obtain rfl := Option.some.inj replied
        exact absurd ok (by decide)
      · next isInfo =>
          refine ⟨?_, ?_⟩
          · rw [typeEq, ne_eq, Option.some.injEq]
            exact isError
          · rw [cmdEq, not_not.mp isInfo]

/-- A message that ends before its attributes has nothing to take a result from. -/
theorem not_infoWellFormed_of_short {wanted : Bool} {buf : List UInt8}
    (short : buf.length ≤ fnlGetmsgdata 0) : ¬ InfoWellFormed wanted buf := by
  rintro ⟨headers, walk, -, header, member, -⟩
  obtain ⟨stands, -, -, first⟩ := walk.mem_standsIn member
  have inside := stands.length_le
  unfold NLA_HDRLEN at inside
  omega

end

/-- A call of `ldt_getinfo` does with the last message that it takes what it does with this
message alone. -/
theorem ldtGetinfo_last {wanted : Bool} {received : List (Except Int (List UInt8))}
    {reply : InfoReply} (returned : ldtGetinfo wanted received = some reply) :
    ∃ message ∈ received, ldtGetinfo wanted [message] = some reply := by
  induction received with
  | nil => contradiction
  | cons message later ih =>
      have passedOver (passed : ldtGetinfo wanted later = some reply) :
          ∃ other ∈ message :: later, ldtGetinfo wanted [other] = some reply := by
        obtain ⟨other, member, otherEq⟩ := ih passed
        exact ⟨other, List.mem_cons_of_mem _ member, otherEq⟩
      have alone (same : ldtGetinfo wanted (message :: later) = ldtGetinfo wanted [message]) :
          ∃ other ∈ message :: later, ldtGetinfo wanted [other] = some reply :=
        ⟨message, List.mem_cons_self, same ▸ returned⟩
      cases message with
      | error ret => exact alone rfl
      | ok buf =>
          by_cases negative : toInt32 (buf.length % 2 ^ 32) < 0
          · exact alone (by simp only [ldtGetinfo, if_pos negative])
          · by_cases empty : buf.length = 0
            · rw [ldtGetinfo, if_neg negative, if_pos empty] at returned
              exact passedOver returned
            · rw [ldtGetinfo, if_neg negative, if_neg empty] at returned
              obtain ⟨type, typeEq, rest⟩ := Option.bind_eq_some_iff.mp returned
              by_cases isError : type = NLMSG_ERROR
              · exact alone (by simp only [ldtGetinfo, if_neg negative, if_neg empty, typeEq,
                  Option.bind_eq_bind, Option.bind_some, if_pos isError])
              · rw [if_neg isError] at rest
                obtain ⟨cmd, cmdEq, taken⟩ := Option.bind_eq_some_iff.mp rest
                by_cases isEvent : cmd = LDT_CMD_SEND_EVENT
                · rw [if_pos isEvent] at taken
                  exact passedOver taken
                · exact alone (by simp only [ldtGetinfo, if_neg negative, if_neg empty, typeEq,
                    cmdEq, Option.bind_eq_bind, Option.bind_some, if_neg isError,
                    if_neg isEvent])

/-- Behind a message without a command the buffer may hold that of `send_info`. -/
theorem runsInfo_of_headerOnly {received : Received}
    (notError : fnlGetmsgtype received.bytes ≠ some NLMSG_ERROR)
    (headerOnly : received.bytes.length = NLMSG_HDRLEN) :
    RunsInfo (received.bytes ++ [(16 : UInt8)]) := by
  constructor
  · rw [received.msgtype_append]
    exact notError
  · apply loadNumber_byte (16 : UInt8)
    · rw [List.length_append, headerOnly]
      omega
    · rw [← headerOnly, List.drop_left]

/-- What is needed if the loops are safe whatever the buffer holds. -/
theorem wellFormed_of_loopsSafe {wanted number : Bool} {received : Received}
    (safe : ∀ behind, LoopsSafe wanted number received behind) :
    WellFormed wanted number received := by
  have info {behind : List UInt8} (runs : RunsInfo (received.bytes ++ behind)) :
      InfoWellFormed wanted received.bytes := by
    obtain ⟨reply, returned⟩ := (safe behind).info runs
    have assigned := (safe behind).assigned reply returned
    rw [getinfoIn_of_runsInfo wanted runs] at returned
    obtain ⟨scan, scanned, -⟩ := Option.bind_eq_some_iff.mp returned
    have ok := (rval_of_getinfoInfo scanned returned).1
    exact (getinfoInfo_iff received.long).mp
      ⟨reply, returned, Option.isSome_iff_ne_none.mpr (assigned ok)⟩
  constructor
  · intro notError
    by_contra short
    have headerOnly : received.bytes.length = NLMSG_HDRLEN :=
      Nat.le_antisymm (Nat.not_lt.mp short) received.long
    apply not_infoWellFormed_of_short _ (info (runsInfo_of_headerOnly notError headerOnly))
    rw [headerOnly]
    decide
  · intro runs
    apply @info []
    rw [List.append_nil]
    exact runs
  · intro runs
    have runsIn : RunsEvent (received.bytes ++ []) := by
      rw [List.append_nil]
      exact runs
    obtain ⟨reply, returned⟩ := (safe []).event runsIn
    rw [eventRecvIn_of_runsEvent number runsIn, Option.some.injEq] at returned
    exact (eventRecvEvent_iff number received.bytes).mp ⟨reply, returned⟩

theorem loopsSafe_of_wellFormed {wanted number : Bool} {received : Received}
    (wellFormed : WellFormed wanted number received) (behind : List UInt8) :
    LoopsSafe wanted number received behind := by
  have cmdEq (notError : fnlGetmsgtype (received.bytes ++ behind) ≠ some NLMSG_ERROR) :
      fnlGetcmd (received.bytes ++ behind) = fnlGetcmd received.bytes := by
    rw [received.msgtype_append] at notError
    exact cmd_append (wellFormed.command notError) behind
  have info (runs : RunsInfo (received.bytes ++ behind)) :
      ∃ reply, getinfoIn wanted received.bytes behind = some reply ∧ reply.rval.isSome := by
    have runsAlone : RunsInfo received.bytes := by
      rw [RunsInfo, cmdEq runs.1, received.msgtype_append] at runs
      exact runs
    rw [getinfoIn_of_runsInfo wanted runs]
    exact (getinfoInfo_iff received.long).mpr (wellFormed.info runsAlone)
  constructor
  · intro runs
    obtain ⟨reply, returned, -⟩ := info runs
    exact ⟨reply, returned⟩
  · intro runs
    have runsAlone : RunsEvent received.bytes := by
      have sameCmd := cmdEq runs.ne_error
      rw [RunsEvent, sameCmd, received.msgtype_append] at runs
      exact runs
    rw [eventRecvIn_of_runsEvent number runs]
    obtain ⟨reply, returned⟩ :=
      (eventRecvEvent_iff number received.bytes).mpr (wellFormed.event runsAlone)
    exact ⟨reply, congrArg some returned⟩
  · intro reply returned ok unassigned
    obtain ⟨other, otherEq, assigned⟩ :=
      info (runsInfo_of_unassigned returned ok unassigned)
    obtain rfl := Option.some.inj (returned.symm.trans otherEq)
    rw [unassigned] at assigned
    contradiction

/-- The loops are safe, whatever the buffer holds behind the message, exactly on a message that
is as they need it. -/
theorem loopsSafe_iff (wanted number : Bool) (received : Received) :
    (∀ behind, LoopsSafe wanted number received behind) ↔
      WellFormed wanted number received :=
  ⟨wellFormed_of_loopsSafe, loopsSafe_of_wellFormed⟩

/-- A message of `send_info` with one attribute, whose length is zero. -/
def zeroLength : Received where
  bytes := nlmsghdr 24 28 0 1 1 ++ genlmsghdr LDT_CMD_SEND_INFO LDT_NL_VERSION ++ [0, 0, 1, 0]
  long := by decide
  short := by decide

/-- A message that ends behind the header of netlink. -/
def headerOnly : Received where
  bytes := nlmsghdr 16 28 0 1 1
  long := by decide
  short := by decide

/-- The first walk over the message with the attribute of length zero stays there; the one
that ends behind its header is taken for one of `send_info` if the buffer holds that command
there, and then `ldt_getinfo` succeeds without a result. -/
theorem not_loopsSafe_zeroLength :
    (RunsInfo zeroLength.bytes ∧ getinfoIn false zeroLength.bytes [] = none ∧
        ¬ LoopsSafe false false zeroLength []) ∧
      (∃ reply, getinfoIn false headerOnly.bytes [16] = some reply ∧ reply.ret = RERR_OK ∧
        reply.rval = none) ∧
      ¬ LoopsSafe false false headerOnly [16] := by
  have endless : getinfoIn false zeroLength.bytes [] = none := by decide
  have unassigned : ∃ reply, getinfoIn false headerOnly.bytes [16] = some reply ∧
      reply.ret = RERR_OK ∧ reply.rval = none := ⟨_, rfl, rfl, rfl⟩
  refine ⟨⟨⟨by decide, by decide⟩, endless, ?_⟩, unassigned, ?_⟩
  · intro safe
    obtain ⟨reply, returned⟩ := safe.info ⟨by decide, by decide⟩
    rw [endless] at returned
    contradiction
  · intro safe
    obtain ⟨reply, returned, ok, missing⟩ := unassigned
    exact safe.assigned reply returned ok missing

end Tunprox.AttributeLoops
