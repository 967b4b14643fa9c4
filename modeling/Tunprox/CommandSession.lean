import Tunprox.DeviceList
import Tunprox.RequestEffect

/-!
# A command from the tool to the devices and back

The tool builds the message of a command and sends it, the handler of the module does its work
on the devices and answers, and the tool returns what it reads in the answer.  The handlers run
in the task that sends, so that a tool whose command blocks or ends in a fault gets no answer.
-/

namespace Tunprox.CommandSession

open Errno ByteBuffer Device DeviceReference DeviceList NetlinkMessage NetlinkReply NetlinkRequest
open CommandRequest hiding ldtNlOps ldtNlCreateDev ldtNlRmDev ldtNlRmTun ldtNlNewtun ldtNlBind
  ldtNlBind2dev ldtNlPeer ldtNlSetMtu ldtNlEvsend ldtCreateDev ldtRmDev ldtRmTun ldtNewtun
open CommandResult (Request netlinkAck answers sendInfo_plain ldtNlGetret_answers)
open RequestEffect (Configured onRefs)
open Netlink (RERR_OK RERR_INTERNAL RERR_SYSTEM RERR_NOMEM NLMSGERR_LENGTH errorCmd)

/-- The result of a command that the tool can tell from a truncated message. -/
def Told (ret : Int) : Prop :=
  ret = 0 ∨ -2 ^ 31 < ret ∧ ret < 0 ∧ NLMSGERR_LENGTH ≤ ret % 256

instance (ret : Int) : Decidable (Told ret) :=
  inferInstanceAs (Decidable (_ ∨ _))

/-- What is not up to the module and the tool: the name a new device gets, the result of
`register_netdev`, whether there is memory for a device, a tunnel and an answer, and what
uninitialised variables of the module and the tool hold. -/
structure Outside where
  assigned : DevName
  register : Int
  registerTold : Told register
  alloc : Bool
  kmalloc : Bool
  skb : Bool
  stack : TpAddr
  rval : Int

/-- What a handler gives to `send_ret`, or to `send_info` with the name. -/
structure Handled where
  ret : Int
  name : Option DevName
  kernel : Configured

/-- A handler that ends with `send_ret`. -/
def handledBy (result : Int × Configured) : Handled where
  ret := result.1
  name := none
  kernel := result.2

/-- The handlers behind their attributes. -/
def serve (kernel : Configured) (net : NetId) (outside : Outside) : Call → Option Handled
  | .createDev name _ =>
      let created := ldtCreateDev kernel.refs.system net name outside.assigned.bytes
        outside.alloc outside.register
      some
        { ret := created.1
          name := if created.1 < 0 then none else some outside.assigned
          kernel := { kernel with refs := { kernel.refs with system := created.2 } } }
  | .freeDev name =>
      (ldtNlRmDev kernel.refs net name).map fun refs =>
        handledBy (0, { kernel with refs := refs })
  | .rmTun name => some (handledBy (onRefs kernel (ldtNlRmTun kernel.refs net name)))
  | .newtun name tuntype =>
      some (handledBy (onRefs kernel
        (ldtNlNewtun kernel.refs net name (some tuntype) outside.kmalloc)))
  | .bind name laddr => some (handledBy (onRefs kernel (ldtNlBind kernel.refs net name laddr)))
  | .bind2dev name dev =>
      some (handledBy (onRefs kernel
        (ldtNlBind2dev kernel.refs net name dev outside.stack)))
  | .peer name raddr => some (handledBy (onRefs kernel (ldtNlPeer kernel.refs net name raddr)))
  | .setMtu name mtu => some (handledBy (RequestEffect.ldtNlSetMtu kernel net name mtu))
  | .evsend name evtype reason =>
      some (handledBy (onRefs kernel
        (ldtNlEvsend kernel.refs net name (toInt32 evtype) (toInt32 reason))))

/-- The socket of the tool. -/
structure Socket where
  family : Family
  portid : Nat
  sndbuf : Nat
  sndbuf_lt : sndbuf < 2 ^ 31

/-- The messages that reach the tool after a handler. -/
def replies (socket : Socket) (seq : Nat) (request : Request) (skb : Bool) (ret : Int)
    (name : Option DevName) : List (Except Int (List UInt8)) :=
  if ret ≠ 0 then [.ok (netlinkAck seq socket.portid ret request)]
  else
    let data := name.map fun name => name.terminated
    match sendInfo socket.family seq socket.portid ret data (data.getD []).length skb with
    | .error failed => [.ok (netlinkAck seq socket.portid failed request)]
    | .ok msg => [.ok msg]

/-- A call of a function of the tool; `outName` tells whether `ldt_create_dev` is asked for
the name of the device. -/
structure Order where
  command : Command
  outName : Bool

def Order.asks (order : Order) : Bool :=
  match order.command with
  | .createDev .. => order.outName
  | _ => false

/-- What a function of the tool returns, `errno` after a failure, and the string in
`*out_name` after a success. -/
structure Outcome where
  ret : Int
  errno : Option Int
  name : Option (List UInt8)
  deriving DecidableEq

def outcomeOf (asks : Bool) (reply : InfoReply) : Outcome where
  ret := reply.ret
  errno := if reply.ret < 0 then reply.errno else none
  name := if reply.ret < 0 then none else if asks then reply.data.map cstring else none

/-- The last part of a function of the tool. -/
def readAnswer (asks : Bool) (received : List (Except Int (List UInt8))) (rval : Int) :
    Option Outcome :=
  (if asks then ldtNlGetanswer received rval else ldtNlGetret received rval).map
    (outcomeOf asks)

/-- A function of the tool with the module behind it.  It gives nothing if it does not
return. -/
def exchange (socket : Socket) (seq : Nat) (kernel : Configured) (net : NetId)
    (outside : Outside) (order : Order) : Option (Outcome × Configured) :=
  match order.command.build with
  | none => none
  | some (.error ret) => some (⟨ret, none, none⟩, kernel)
  | some (.ok msg) =>
      let sent := fnlSend socket.family seq socket.portid msg
      if room : sent.length + 32 ≤ socket.sndbuf then
        let request : Request := ⟨sent, Nat.lt_of_le_of_lt room socket.sndbuf_lt⟩
        match receive sent with
        | none => none
        | some (.error ret) =>
            (readAnswer order.asks (replies socket seq request outside.skb ret none)
              outside.rval).map fun outcome => (outcome, kernel)
        | some (.ok call) =>
            match serve kernel net outside call with
            | none => none
            | some handled =>
                if handled.kernel.refs.system.fault.isSome then none
                else
                  (readAnswer order.asks
                      (replies socket seq request outside.skb handled.ret handled.name)
                      outside.rval).map fun outcome => (outcome, handled.kernel)
      else some (⟨RERR_SYSTEM, some EMSGSIZE, none⟩, kernel)

/-- What the tool shall return for what the handler has done. -/
def Handled.outcome (handled : Handled) (asks skb : Bool) : Outcome :=
  if handled.ret < 0 then ⟨RERR_SYSTEM, some (-handled.ret), none⟩
  else if skb then
    ⟨RERR_OK, none, if asks then handled.name.map fun name => name.bytes else none⟩
  else ⟨RERR_SYSTEM, some ENOMEM, none⟩

/-- The command without the messages: its handler runs once, on what the command is about. -/
def perform (kernel : Configured) (net : NetId) (outside : Outside) (order : Order) :
    Option (Outcome × Configured) :=
  (serve kernel net outside order.command.meaning).bind fun handled =>
    if handled.kernel.refs.system.fault.isSome then none
    else some (handled.outcome order.asks outside.skb, handled.kernel)

section Told

theorem told_zero : Told 0 := Or.inl rfl

theorem told_eperm : Told (-EPERM) := by decide

theorem told_enoent : Told (-ENOENT) := by decide

theorem told_enomem : Told (-ENOMEM) := by decide

theorem told_einval : Told (-EINVAL) := by decide

theorem told_erange : Told (-ERANGE) := by decide

theorem told_enotconn : Told (-ENOTCONN) := by decide

theorem told_ealready : Told (-EALREADY) := by decide

theorem told_enotsupp : Told (-ENOTSUPP) := by decide

/-- A handler returns what its operation returns, or that there is no such device. -/
theorem told_ldtNlOnDev {operation : RefState → NdevId → LdtDev → Int × RefState}
    (told : ∀ held id tdev, Told (operation held id tdev).1) (state : RefState) (net : NetId)
    (name : List UInt8) : Told (ldtNlOnDev operation state net name).1 := by
  unfold ldtNlOnDev
  split
  · exact told_einval
  · rename_i id tdev held _
    exact told held id tdev

theorem told_onSystem {operation : System → NdevId → LdtDev → Int × System}
    (told : ∀ system id tdev, Told (operation system id tdev).1) (state : RefState)
    (net : NetId) (name : List UInt8) :
    Told (ldtNlOnDev (onSystem operation) state net name).1 := by
  apply told_ldtNlOnDev
  intro held id tdev
  exact told held.system id tdev

theorem told_ldtRmTun (system : System) (id : NdevId) (tdev : LdtDev) :
    Told (ldtRmTun system id tdev).1 := by
  unfold ldtRmTun
  split
  · exact told_einval
  · split
    · exact told_eperm
    · exact told_zero

theorem told_mpdccptunNewTun {type : List UInt8} {kmalloc : Bool} {ret : Int}
    (failed : mpdccptunNewTun type kmalloc = .error ret) : Told ret := by
  unfold mpdccptunNewTun at failed
  cases kmalloc with
  | false =>
      simp only [Bool.false_eq_true, if_false] at failed
      split_ifs at failed
      all_goals obtain rfl := Except.error.inj failed
      all_goals first | exact told_enomem | exact told_enotsupp
  | true =>
      simp only [if_true] at failed
      split_ifs at failed
      obtain rfl := Except.error.inj failed
      exact told_enotsupp

theorem told_ldtTunInit (id : NdevId) (type : Option (List UInt8)) (kmalloc : Bool) :
    Told (ldtTunInit id type kmalloc).1 := by
  unfold ldtTunInit
  simp only
  split
  · exact told_enoent
  · split
    · rename_i ret failed
      exact told_mpdccptunNewTun failed
    · exact told_zero

theorem told_ldtDevNewtun (type : Option (List UInt8)) (kmalloc : Bool) (system : System)
    (id : NdevId) (tdev : LdtDev) : Told (ldtDevNewtun system id tdev type kmalloc).1 := by
  have created := told_ldtTunInit id type kmalloc
  unfold ldtDevNewtun
  split
  · exact told_einval
  · split
    · exact told_ealready
    · simp only
      split
      · exact created
      · exact created

theorem told_ldtTunaddrBind (tad : TunAddr) (addr : TpAddr) (flags : Nat) :
    Told (ldtTunaddrBind tad addr flags).1 := by
  unfold ldtTunaddrBind
  split_ifs
  all_goals first | exact told_zero | exact told_einval | exact told_enoent

theorem told_mpdccptunBind (addr : Option TpAddr) (flags : Nat)
    (state : Connection.ConnState) : Told (Connection.mpdccptunBind state addr flags).1 := by
  unfold Connection.mpdccptunBind
  cases addr with
  | none => exact told_zero
  | some addr =>
      have bound := told_ldtTunaddrBind state.tdat.addr addr flags
      simp only
      split_ifs
      all_goals first | exact bound | exact told_zero

theorem told_mpdccptunPeer (addr : Option TpAddr) (state : Connection.ConnState) :
    Told (Connection.mpdccptunPeer state addr).1 := by
  have stored : Told (Connection.storePeer state.tdat addr).1 := by
    unfold Connection.storePeer ldtTunaddrSetpeer
    cases addr with
    | none => exact told_zero
    | some addr =>
        simp only
        split_ifs
        all_goals first | exact told_zero | exact told_einval
  unfold Connection.mpdccptunPeer
  simp only
  split_ifs
  all_goals first | exact stored | exact told_zero | exact told_eperm | exact told_enotconn

/-- A request to a tunnel returns what its operation returns. -/
theorem told_requestRebind {operation : Connection.ConnState → Int × Connection.ConnState}
    (told : ∀ state, Told (operation state).1) (system : System) (id : NdevId) (tun : LdtTun) :
    Told (requestRebind system id tun operation).1 := by
  have called : Told (callTunnel operation tun.tundata).1 := by
    unfold callTunnel
    split
    · exact told_einval
    · exact told _
  unfold requestRebind
  simp only
  split
  · exact called
  · exact called

theorem told_ldtTunRebind (system : System) (id : NdevId) (tun : LdtTun) (flags : Nat)
    (stack : TpAddr) : Told (ldtTunRebind system id tun flags stack).1 := by
  unfold ldtTunRebind
  split
  · exact told_zero
  · split
    · exact told_zero
    · split
      · exact told_enoent
      · split
        · exact told_zero
        · exact told_requestRebind (told_mpdccptunBind _ flags) ..

theorem told_ldtDevBind (laddr : TpAddr) (system : System) (id : NdevId) (tdev : LdtDev) :
    Told (ldtDevBind system id tdev laddr).1 := by
  unfold ldtDevBind ldtTunBind
  split_ifs
  · exact told_einval
  · exact told_requestRebind (told_mpdccptunBind _ 0) ..
  · exact told_zero

theorem told_ldtDevPeer (raddr : Option TpAddr) (system : System) (id : NdevId)
    (tdev : LdtDev) : Told (ldtDevPeer system id tdev raddr).1 := by
  unfold ldtDevPeer
  split_ifs
  · exact told_einval
  · exact told_requestRebind (told_mpdccptunPeer raddr) ..
  · exact told_zero

theorem told_ldtDevBind2dev (system : System) (id : NdevId) (tdev : LdtDev)
    (dev : List UInt8) (stack : TpAddr) :
    Told (ldtDevBind2dev system id tdev dev stack).1 := by
  unfold ldtDevBind2dev
  split
  · exact told_enoent
  · split
    · exact told_einval
    · exact told_ldtTunRebind ..

theorem told_ldtDevBind2devRef (dev : List UInt8) (stack : TpAddr) (held : RefState)
    (id : NdevId) (tdev : LdtDev) : Told (ldtDevBind2devRef dev stack held id tdev).1 := by
  unfold ldtDevBind2devRef
  split
  · exact told_enoent
  · simp only
    split
    · exact told_einval
    · exact told_ldtDevBind2dev ..

theorem told_ldtEventGetinfo {evtype ret : Int}
    (failed : Event.ldtEventGetinfo evtype = .error ret) : Told ret := by
  unfold Event.ldtEventGetinfo at failed
  split_ifs at failed
  · obtain rfl := Except.error.inj failed
    exact told_erange
  · split at failed
    · contradiction
    · split_ifs at failed

theorem told_ldtEventCrsend (system : System) (evtype : Int) (dat : EvData) (reason : Int)
    (subflowReport : Option (List UInt8)) :
    Told (ldtEventCrsend system evtype dat reason subflowReport).1 := by
  unfold ldtEventCrsend
  split
  · rename_i ret failed
    exact told_ldtEventGetinfo failed
  · split
    all_goals exact told_zero

theorem told_ldtDevEvsend (evtype reason : Int) (system : System) (id : NdevId)
    (tdev : LdtDev) : Told (ldtDevEvsend system id tdev evtype reason).1 := by
  unfold ldtDevEvsend Event.ldtEventGetkind
  split
  · exact told_einval
  · cases known : Event.ldtEventGetinfo evtype with
    | error ret => exact told_ldtEventGetinfo known
    | ok info =>
        simp only [Except.map]
        split
        all_goals first | exact told_ldtEventCrsend .. | contradiction

theorem told_ldtNlSetMtu (kernel : Configured) (net : NetId) (name : List UInt8) (mtu : Nat) :
    Told (RequestEffect.ldtNlSetMtu kernel net name mtu).1 := by
  unfold RequestEffect.ldtNlSetMtu RequestEffect.ldtDevSetMtu RequestEffect.tpdevChangeMtu
  split
  · exact told_einval
  · simp only
    split_ifs
    all_goals exact told_zero

/-- Every result of a handler can be told from a truncated message. -/
theorem told_serve {kernel : Configured} {net : NetId} {outside : Outside} {call : Call}
    {handled : Handled} (served : serve kernel net outside call = some handled) :
    Told handled.ret := by
  cases call with
  | createDev name flags =>
      obtain rfl := Option.some.inj served
      simp only [ldtCreateDev]
      split_ifs
      · exact told_einval
      · exact told_enomem
      · exact outside.registerTold
      · exact told_zero
  | freeDev name =>
      obtain ⟨refs, -, rfl⟩ := Option.map_eq_some_iff.mp served
      exact told_zero
  | rmTun name =>
      obtain rfl := Option.some.inj served
      exact told_onSystem told_ldtRmTun ..
  | newtun name tuntype =>
      obtain rfl := Option.some.inj served
      exact told_onSystem (told_ldtDevNewtun _ _) ..
  | bind name laddr =>
      obtain rfl := Option.some.inj served
      exact told_onSystem (told_ldtDevBind laddr) ..
  | bind2dev name dev =>
      obtain rfl := Option.some.inj served
      exact told_ldtNlOnDev (told_ldtDevBind2devRef dev outside.stack) ..
  | peer name raddr =>
      obtain rfl := Option.some.inj served
      exact told_onSystem (told_ldtDevPeer raddr) ..
  | setMtu name mtu =>
      obtain rfl := Option.some.inj served
      exact told_ldtNlSetMtu ..
  | evsend name evtype reason =>
      obtain rfl := Option.some.inj served
      exact told_onSystem (told_ldtDevEvsend _ _) ..

end Told

section Answer

variable (socket : Socket) (seq : Nat) (request : Request) (asks : Bool) (rval : Int)

/-- The tool takes the result of a failed command from the message of the netlink core. -/
theorem readAnswer_netlinkAck {ret : Int} (failed : ret ≠ 0) (told : Told ret) :
    readAnswer asks [.ok (netlinkAck seq socket.portid ret request)] rval =
      some ⟨RERR_SYSTEM, some (-ret), none⟩ := by
  obtain ⟨lower, negative, high⟩ := told.resolve_left failed
  have received (wanted : Bool) := CommandResult.ldtGetinfo_netlinkAck seq socket.portid ret
    request wanted [] (by omega) (by omega)
  have large : ¬ errorCmd ret < NLMSGERR_LENGTH := Int.not_lt.mpr high
  have refused : checkRval (plainReply RERR_OK (some (-ret)) (some (-ret))) rval =
      plainReply RERR_SYSTEM (some (-ret)) (some (-ret)) := by
    have nonzero : -ret ≠ 0 := by omega
    have magnitude : (((-ret).natAbs : Nat) : Int) = -ret := by omega
    have succeeded : ¬ (plainReply RERR_OK (some (-ret)) (some (-ret))).ret < 0 :=
      show ¬ RERR_OK < 0 by decide
    rw [checkRval, if_neg succeeded]
    simp only [plainReply, Option.getD_some, if_pos nonzero, magnitude]
  cases asks with
  | false =>
      simp only [readAnswer, Bool.false_eq_true, if_false, ldtNlGetret, received, if_neg large,
        Option.map_some, refused]
      rfl
  | true =>
      have answered := ldtNlGetanswer_of_failed ((received true).trans (by rw [if_neg large]))
        (by rw [refused]; exact show RERR_SYSTEM < 0 by decide)
      simp only [readAnswer, if_true, answered, refused]
      rfl

/-- A reply without data is what `plainReply` makes of its parts. -/
def Plain (reply : InfoReply) : Prop :=
  reply = plainReply reply.ret reply.rval reply.errno

theorem plain_getinfoError {buf : List UInt8} {reply : InfoReply}
    (read : getinfoError buf = some reply) : Plain reply := by
  obtain ⟨cmd, -, read⟩ := Option.bind_eq_some_iff.mp read
  split at read
  · obtain rfl := Option.some.inj read
    rfl
  · obtain ⟨error, -, read⟩ := Option.bind_eq_some_iff.mp read
    obtain rfl := Option.some.inj read
    rfl

theorem getinfoInfo_unwanted {buf : List UInt8} {reply : InfoReply}
    (wanted : getinfoInfo true buf = some reply) :
    getinfoInfo false buf = some (plainReply reply.ret reply.rval reply.errno) := by
  obtain ⟨scan, scanned, wanted⟩ := Option.bind_eq_some_iff.mp wanted
  simp only [getinfoInfo, scanned, Option.bind_eq_bind, Option.bind_some, Bool.and_false,
    Bool.false_eq_true, if_false]
  simp only [Bool.and_true] at wanted
  split at wanted
  · obtain ⟨state, -, wanted⟩ := Option.bind_eq_some_iff.mp wanted
    obtain ⟨ended, -, wanted⟩ := Option.bind_eq_some_iff.mp wanted
    obtain rfl := Option.some.inj wanted
    rfl
  · obtain rfl := Option.some.inj wanted
    rfl

/-- What is not asked for makes no difference to the result. -/
theorem ldtGetinfo_unwanted {received : List (Except Int (List UInt8))} {reply : InfoReply}
    (wanted : ldtGetinfo true received = some reply) :
    ldtGetinfo false received = some (plainReply reply.ret reply.rval reply.errno) := by
  induction received with
  | nil => contradiction
  | cons first later ih =>
      cases first with
      | error ret =>
          obtain rfl := Option.some.inj wanted
          rfl
      | ok buf =>
          rw [ldtGetinfo] at wanted ⊢
          split at wanted
          · rename_i negative
            obtain rfl := Option.some.inj wanted
            rw [if_pos negative]
            rfl
          · rename_i nonnegative
            rw [if_neg nonnegative]
            split at wanted
            · rename_i empty
              rw [if_pos empty]
              exact ih wanted
            · rename_i full
              rw [if_neg full]
              obtain ⟨type, typeEq, wanted⟩ := Option.bind_eq_some_iff.mp wanted
              simp only [typeEq, Option.bind_eq_bind, Option.bind_some]
              split at wanted
              · rename_i failed
                rw [if_pos failed, wanted]
                exact congrArg some (plain_getinfoError wanted)
              · rename_i succeeded
                rw [if_neg succeeded]
                obtain ⟨cmd, cmdEq, wanted⟩ := Option.bind_eq_some_iff.mp wanted
                simp only [cmdEq, Option.bind_some]
                split at wanted
                · rename_i event
                  rw [if_pos event]
                  exact ih wanted
                · rename_i answer
                  rw [if_neg answer]
                  split at wanted
                  · rename_i unknown
                    obtain rfl := Option.some.inj wanted
                    rw [if_pos unknown]
                    rfl
                  · rename_i info
                    rw [if_neg info]
                    exact getinfoInfo_unwanted wanted

theorem checkRval_plainReply (reply : InfoReply) (stack : Int) :
    (checkRval (plainReply reply.ret reply.rval reply.errno) stack).ret =
      (checkRval reply stack).ret := by
  by_cases failed : reply.ret < 0
  · simp [checkRval, plainReply, failed]
  · by_cases zero : reply.rval.getD stack = 0
    · simp [checkRval, plainReply, failed, zero]
    · simp [checkRval, plainReply, failed, zero]

/-- Without asking for the name the tool returns the same. -/
theorem readAnswer_unwanted {received : List (Except Int (List UInt8))} {reply : InfoReply}
    (answered : ldtNlGetanswer received rval = some reply) (succeeded : reply.ret = RERR_OK) :
    readAnswer false received rval = some ⟨RERR_OK, none, none⟩ := by
  obtain ⟨info, read, replyEq⟩ := Option.map_eq_some_iff.mp answered
  have unwanted := ldtGetinfo_unwanted read
  have checked : (checkRval info rval).ret = RERR_OK := by
    simp only at replyEq
    split at replyEq
    · rename_i noData
      exact noData.1
    · rw [replyEq]
      exact succeeded
  rw [← checkRval_plainReply] at checked
  simp [readAnswer, ldtNlGetret, unwanted, outcomeOf, checked, RERR_OK]

/-- The tool reads the name of the new device. -/
theorem readAnswer_name (name : DevName) :
    ∃ msg, sendInfo socket.family seq socket.portid 0 (some name.terminated)
        name.terminated.length true = .ok msg ∧
      readAnswer asks [.ok msg] rval =
        some ⟨RERR_OK, none, if asks then some name.bytes else none⟩ := by
  have short := name.short
  have length := CStr.length_terminated name.toCStr
  unfold IFNAMSIZ at short
  have dataEq : infoData (some name.terminated) name.terminated.length =
      some name.terminated := by
    rw [infoData, Option.map_some, if_neg (by omega), List.take_length]
  obtain ⟨msg, reply, built, answered, returned⟩ :=
    ldtNlGetanswer_sendInfo socket.family seq socket.portid dataEq
      (by unfold CHUNKSZ; omega) [] rval
  refine ⟨msg, built, ?_⟩
  cases asks with
  | true =>
      have success : ¬ RERR_OK < 0 := by decide
      have string : cstring (name.terminated ++ [0]) = name.bytes := by
        rw [CStr.terminated, List.append_assoc]
        exact cstring_append_zero name.toCStr [0]
      simp [readAnswer, answered, outcomeOf, returned.ret, returned.data, success, string]
  | false => exact readAnswer_unwanted rval answered returned.ret

/-- The tool returns what it shall for what the handler has done. -/
theorem readAnswer_replies {handled : Handled} {skb : Bool} (told : Told handled.ret)
    (named : asks = true → handled.ret = 0 → handled.name ≠ none) :
    readAnswer asks (replies socket seq request skb handled.ret handled.name) rval =
      some (handled.outcome asks skb) := by
  unfold replies Handled.outcome
  by_cases succeeded : handled.ret = 0
  · have nonnegative : ¬ handled.ret < 0 := by omega
    rw [if_neg (not_not.mpr succeeded), if_neg nonnegative, succeeded]
    cases skb with
    | false =>
        have unsent (data : Option (List UInt8)) (len : Nat) :
            sendInfo socket.family seq socket.portid 0 data len false = .error (-ENOMEM) := by
          simp [sendInfo, genlmsgNew]
        simp only [unsent, Bool.false_eq_true, if_false]
        exact readAnswer_netlinkAck socket seq request asks rval (by decide) told_enomem
    | true =>
        cases nameEq : handled.name with
        | none =>
            cases asks with
            | true => exact absurd nameEq (named rfl succeeded)
            | false =>
                have built := sendInfo_plain socket.family seq socket.portid 0
                have read := CommandResult.ldtGetinfo_plain socket.family seq socket.portid
                  false []
                simp only [Option.map_none, Option.getD_none, List.length_nil, built, if_true,
                  Bool.false_eq_true, if_false]
                simp only [readAnswer, ldtNlGetret, Bool.false_eq_true, if_false]
                rw [show (0 : Int).natAbs = 0 from rfl, read]
                rfl
        | some name =>
            obtain ⟨msg, built, read⟩ := readAnswer_name socket seq asks rval name
            simp only [Option.map_some, Option.getD_some, built, read, if_true]
  · have negative : handled.ret < 0 := (told.resolve_left succeeded).2.1
    rw [if_pos succeeded, if_pos negative]
    exact readAnswer_netlinkAck socket seq request asks rval succeeded told

end Answer

section Exchange

variable (socket : Socket) (seq : Nat)

/-- Who asks for the name of a new device gets one. -/
theorem named_of_serve {kernel : Configured} {net : NetId} {outside : Outside} {order : Order}
    {handled : Handled} (served : serve kernel net outside order.command.meaning = some handled)
    (asked : order.asks = true) (succeeded : handled.ret = 0) : handled.name ≠ none := by
  unfold Order.asks at asked
  split at asked
  · rename_i name flags commandEq
    rw [commandEq] at served
    obtain rfl := Option.some.inj served
    simp only at succeeded ⊢
    rw [succeeded]
    simp
  · contradiction

end Exchange

end Tunprox.CommandSession
