import Tunprox.NetlinkReply

/-!
# Results of commands

A command that succeeds is answered by a message of `send_info` without data.  The result
of one that fails goes to the netlink core, which sends it in a message of its own, with no
generic-netlink header.  `ldt_getinfo` looks for one in it all the same, to see whether the
message is complete, and finds the low byte of the error there.
-/

namespace Tunprox.CommandResult

open Errno ByteBuffer NetlinkAttribute NetlinkMessage NetlinkReply
open Netlink (RERR_OK RERR_SYSTEM NLMSGERR_LENGTH errorCmd)

/-- The bytes of an `int`. -/
def intBytes (value : Int) : List UInt8 :=
  littleEndian 4 (value % 2 ^ 32).toNat

/-- A request as the kernel has received it; the socket takes none that is longer than its
send buffer, whose size is an `int`, less 32. -/
structure Request where
  bytes : List UInt8
  sendable : bytes.length + 32 < 2 ^ 31

/-- The message of `netlink_ack`: `struct nlmsgerr`, which ends with the request. -/
def netlinkAck (seq pid : Nat) (error : Int) (request : Request) : List UInt8 :=
  nlmsghdr (NLMSG_HDRLEN + 4 + request.bytes.length) NLMSG_ERROR 0 seq pid ++
    (intBytes error ++ request.bytes)

/-- `send_ret`: its result, and the message it has sent. -/
def sendRet (family : Family) (seq pid : Nat) (rval : Int) : Int × Option (List UInt8) :=
  if rval ≠ 0 then (rval, none)
  else
    match sendInfo family seq pid rval none 0 true with
    | .error ret => (ret, none)
    | .ok msg => (rval, some msg)

/-- The messages that reach the tool after a handler that ends with `send_ret`. -/
def answers (family : Family) (seq pid : Nat) (request : Request) (rval : Int) :
    List (Except Int (List UInt8)) :=
  let result := sendRet family seq pid rval
  let sent := result.2.toList
  let acked := if result.1 ≠ 0 then [netlinkAck seq pid result.1 request] else []
  (sent ++ acked).map .ok

/-- The reply tells the result of the command. -/
structure Agrees (rval : Int) (reply : InfoReply) : Prop where
  ok_iff : reply.ret = RERR_OK ↔ rval = 0
  failed : rval ≠ 0 → reply.ret = RERR_SYSTEM ∧ reply.errno = some (-rval)

@[simp]
theorem length_intBytes (value : Int) : (intBytes value).length = 4 :=
  length_littleEndian 4 _

/-- An `int` is read back with its sign. -/
theorem loadNumber_intBytes {before after : List UInt8} {offset : Nat} {value : Int}
    (offsetEq : before.length = offset) (lower : -2 ^ 31 ≤ value) (upper : value < 2 ^ 31) :
    ∃ number, loadNumber (before ++ (intBytes value ++ after)) offset 4 = some number ∧
      toInt32 number = value := by
  refine ⟨(value % 2 ^ 32).toNat, loadNumber_append offsetEq (by omega), ?_⟩
  unfold toInt32
  split
  · omega
  · omega

section
variable (seq pid : Nat) (error : Int) (request : Request)

theorem length_netlinkAck :
    (netlinkAck seq pid error request).length = NLMSG_HDRLEN + 4 + request.bytes.length := by
  simp only [netlinkAck, List.length_append, length_nlmsghdr, length_intBytes]
  omega

theorem fnlGetmsgtype_netlinkAck :
    fnlGetmsgtype (netlinkAck seq pid error request) = some NLMSG_ERROR := by
  simp only [fnlGetmsgtype, netlinkAck, nlmsghdr, List.append_assoc]
  exact loadNumber_append (length_littleEndian 4 _) (by decide)

/-- Where the generic-netlink header would be stands the low byte of the error. -/
theorem fnlGetcmd_netlinkAck :
    ∃ cmd : Nat, fnlGetcmd (netlinkAck seq pid error request) = some cmd ∧
      (cmd : Int) = errorCmd error := by
  have first : intBytes error =
      littleEndian 1 ((error % 2 ^ 32).toNat % 256) ++
        littleEndian 3 ((error % 2 ^ 32).toNat / 256) := by
    have low : UInt8.ofNat (error % 2 ^ 32).toNat =
        UInt8.ofNat ((error % 2 ^ 32).toNat % 256) := by
      apply UInt8.toNat_inj.mp
      simp
    rw [intBytes, littleEndian, low]
    rfl
  refine ⟨(error % 2 ^ 32).toNat % 256, ?_, ?_⟩
  · rw [fnlGetcmd, netlinkAck, first, List.append_assoc]
    exact loadNumber_append (length_nlmsghdr ..) (Nat.mod_lt _ (by decide))
  · unfold errorCmd
    omega

/-- What `ldt_getinfo` makes of the message of an error. -/
theorem ldtGetinfo_netlinkAck (wanted : Bool) (later : List (Except Int (List UInt8)))
    (lower : -2 ^ 31 ≤ error) (upper : error < 2 ^ 31) :
    ldtGetinfo wanted (.ok (netlinkAck seq pid error request) :: later) =
      some (if errorCmd error < NLMSGERR_LENGTH then plainReply RERR_SYSTEM none none
        else plainReply RERR_OK (some (-error)) (some (-error))) := by
  have sendable := request.sendable
  have long := length_netlinkAck seq pid error request
  unfold NLMSG_HDRLEN at long
  have len : toInt32 ((netlinkAck seq pid error request).length % 2 ^ 32) =
      (netlinkAck seq pid error request).length :=
    toInt32_mod_of_lt (by omega)
  obtain ⟨cmd, cmdAt, cmdEq⟩ := fnlGetcmd_netlinkAck seq pid error request
  obtain ⟨number, numberAt, numberEq⟩ : ∃ number,
      loadNumber (netlinkAck seq pid error request) NLMSG_HDRLEN 4 = some number ∧
        toInt32 number = error :=
    loadNumber_intBytes (length_nlmsghdr ..) lower upper
  rw [ldtGetinfo, len, if_neg (by omega), if_neg (by omega), fnlGetmsgtype_netlinkAck]
  simp only [Option.bind_eq_bind, Option.bind_some, if_true, getinfoError, cmdAt, cmdEq,
    numberAt, numberEq]
  split
  · rfl
  · rfl

end

/-- A successful command, whose answer carries no data. -/
theorem sendInfo_plain (family : Family) (seq pid : Nat) (rval : Int) :
    sendInfo family seq pid rval none 0 true =
      .ok (message family seq pid LDT_CMD_SEND_INFO [retAttr rval.natAbs]) := by
  obtain ⟨headed, returned⟩ := putRet_eq family seq pid rval
    (show _ ≤ NLMSG_HDRLEN + nlaAlign (GENL_HDRLEN + infoRoom 0) by decide)
  simp only [sendInfo, infoData, Option.map_none, Option.getD_none, List.length_nil,
    genlmsgNew, if_true, headed, returned]
  rw [genlmsgEnd_eq]

theorem ldtGetinfo_plain (family : Family) (seq pid : Nat) (wanted : Bool)
    (later : List (Except Int (List UInt8))) :
    ldtGetinfo wanted
        (.ok (message family seq pid LDT_CMD_SEND_INFO [retAttr 0]) :: later) =
      some (plainReply RERR_OK (some 0) none) := by
  have size : (message family seq pid LDT_CMD_SEND_INFO [retAttr 0]).length = 28 := by
    rw [length_message, encode_cons, encode_nil, List.append_nil, length_retAttr]
    rfl
  have scanned : scanInfo
      (message family seq pid LDT_CMD_SEND_INFO [retAttr 0]).length
      (message family seq pid LDT_CMD_SEND_INFO [retAttr 0]) (fnlGetmsgdata 0)
      ⟨none, false⟩ = some ⟨some 0, false⟩ := by
    rw [scanInfo_encode _ ?_ (fnlGetmsgdata_le family seq pid _) (drop_message ..)]
    · rfl
    · rw [length_message]
      omega
    · intro attr member isRet
      obtain rfl := List.mem_singleton.mp member
      exact length_littleEndian 4 0
  rw [ldtGetinfo_message family seq pid wanted 0 later (by rw [size]; decide), getinfoInfo,
    scanned]
  rfl

theorem answers_of_ne (family : Family) (seq pid : Nat) (request : Request) {rval : Int}
    (failed : rval ≠ 0) :
    answers family seq pid request rval = [.ok (netlinkAck seq pid rval request)] := by
  simp [answers, sendRet, failed]

/-- `ldt_nl_getret` on the answer to a command. -/
theorem ldtNlGetret_answers (family : Family) (seq pid : Nat) (request : Request)
    (stack : Int) {rval : Int} (lower : -2 ^ 31 < rval) (upper : rval ≤ 0) :
    ldtNlGetret (answers family seq pid request rval) stack =
      some (if rval = 0 then plainReply RERR_OK (some 0) none
        else if errorCmd rval < NLMSGERR_LENGTH then plainReply RERR_SYSTEM none none
        else plainReply RERR_SYSTEM (some (-rval)) (some (-rval))) := by
  by_cases succeeded : rval = 0
  · subst succeeded
    have result : answers family seq pid request 0 =
        [.ok (message family seq pid LDT_CMD_SEND_INFO [retAttr 0])] := by
      simp only [answers, sendRet, sendInfo_plain]
      rfl
    rw [result, ldtNlGetret, ldtGetinfo_plain]
    rfl
  · rw [answers_of_ne family seq pid request succeeded, ldtNlGetret,
      ldtGetinfo_netlinkAck seq pid rval request false [] (by omega) (by omega),
      if_neg succeeded, Option.map_some]
    split
    · rfl
    · have magnitude : ((rval.natAbs : Nat) : Int) = -rval := by omega
      simp [checkRval, plainReply, RERR_OK, succeeded, magnitude]

/-- The result is that of the model whose messages have been taken apart. -/
theorem ldtNlGetret_eq (family : Family) (seq pid : Nat) (request : Request)
    (stack : Int) {rval : Int} (lower : -2 ^ 31 < rval) (upper : rval ≤ 0) (timeLeft : Bool) :
    (ldtNlGetret (answers family seq pid request rval) stack).map InfoReply.ret =
      some (Netlink.ldtNlGetret
        [if rval = 0 then .info 0 else .nlmsgError rval timeLeft]).1 := by
  rw [ldtNlGetret_answers family seq pid request stack lower upper]
  by_cases succeeded : rval = 0
  · rw [if_pos succeeded, if_pos succeeded]
    rfl
  · rw [if_neg succeeded, if_neg succeeded]
    by_cases low : errorCmd rval < NLMSGERR_LENGTH
    · simp [Netlink.ldtNlGetret, Netlink.ldtGetinfo, InputLoop.Reader.until,
        InputLoop.readUntil, Netlink.getinfoBody, plainReply, low]
    · simp [Netlink.ldtNlGetret, Netlink.ldtGetinfo, InputLoop.Reader.until,
        InputLoop.readUntil, Netlink.getinfoBody, plainReply, low, succeeded]

/-- The tool learns the result of a command if the low byte of the error is not below the
length of an error message. -/
theorem agrees_iff_lowByte (family : Family) (seq pid : Nat) (request : Request)
    (stack : Int) {rval : Int} (lower : -2 ^ 31 < rval) (upper : rval ≤ 0) :
    (∃ reply, ldtNlGetret (answers family seq pid request rval) stack = some reply ∧
        Agrees rval reply) ↔
      rval = 0 ∨ NLMSGERR_LENGTH ≤ rval % 256 := by
  rw [ldtNlGetret_answers family seq pid request stack lower upper]
  by_cases succeeded : rval = 0
  · rw [if_pos succeeded]
    constructor
    · intro _
      exact Or.inl succeeded
    · intro _
      exact ⟨_, rfl, ⟨fun _ => succeeded, fun _ => rfl⟩, fun failed => absurd succeeded failed⟩
  · rw [if_neg succeeded]
    by_cases low : errorCmd rval < NLMSGERR_LENGTH
    · rw [if_pos low]
      constructor
      · rintro ⟨reply, replyEq, agrees⟩
        obtain rfl := Option.some.inj replyEq
        have errno := (agrees.failed succeeded).2
        contradiction
      · rintro (zero | high)
        · exact absurd zero succeeded
        · exact absurd high (Int.not_le.mpr low)
    · rw [if_neg low]
      constructor
      · intro _
        exact Or.inr (Int.not_lt.mp low)
      · intro _
        refine ⟨_, rfl, ⟨?_, fun zero => absurd zero succeeded⟩, fun _ => ⟨rfl, rfl⟩⟩
        intro (ok : RERR_SYSTEM = RERR_OK)
        exact absurd ok (by decide)

/-- A request without attributes. -/
def emptyRequest : Request where
  bytes := message assignedFamily 0 1000 2 []
  sendable := by
    rw [length_message]
    decide

theorem agrees_notFound :
    ∃ reply, ldtNlGetret (answers assignedFamily 7 1000 emptyRequest (-ENOENT)) 0 =
        some reply ∧ Agrees (-ENOENT) reply :=
  (agrees_iff_lowByte assignedFamily 7 1000 emptyRequest 0 (by decide) (by decide)).mpr
    (Or.inr (by decide))

def ERESTARTSYS : Int := 512

/-- The low byte of the error is zero, and the error message passes for a truncated one. -/
theorem not_agrees_restart :
    ¬ ∃ reply,
      ldtNlGetret (answers assignedFamily 7 1000 emptyRequest (-ERESTARTSYS)) 0 = some reply ∧
        Agrees (-ERESTARTSYS) reply := by
  rintro ⟨reply, replyEq, agree⟩
  have answered := ldtNlGetret_answers assignedFamily 7 1000 emptyRequest 0
    (show -2 ^ 31 < -ERESTARTSYS by decide) (show -ERESTARTSYS ≤ 0 by decide)
  rw [replyEq, if_neg (by decide), if_pos (by decide)] at answered
  obtain rfl := Option.some.inj answered
  have errno := (agree.failed (by decide)).2
  contradiction

end Tunprox.CommandResult
