import Tunprox.Netlink
import Tunprox.NetlinkRequest
import Tunprox.TunAddr

/-!
# Requests for the commands

The tool's functions for the commands, each with its own list of attributes and its own
estimate of the buffer, and the module's handlers, as far as they read the attributes.  A
request goes through `fnl_send` to the handler of its command.
-/

namespace Tunprox.CommandRequest

open Errno ByteBuffer NetlinkAttribute NetlinkMessage NetlinkRequest
open Netlink (RERR_INTERNAL RERR_PARAM RERR_NOMEM)

def LDT_CMD_CREATE_DEV : Nat := 1
def LDT_CMD_RM_DEV : Nat := 2
def LDT_CMD_RM_TUN : Nat := 7
def LDT_CMD_NEWTUN : Nat := 8
def LDT_CMD_BIND : Nat := 9
def LDT_CMD_BIND2DEV : Nat := 10
def LDT_CMD_PEER : Nat := 11
def LDT_CMD_SET_MTU : Nat := 13
def LDT_CMD_EVSEND : Nat := 18

def LDT_CMD_CREATE_DEV_ATTR_NAME : Nat := 1
def LDT_CMD_CREATE_DEV_ATTR_FLAGS : Nat := 2
def LDT_CMD_RM_DEV_ATTR_NAME : Nat := 1
def LDT_CMD_RM_TUN_ATTR_NAME : Nat := 1
def LDT_CMD_NEWTUN_ATTR_NAME : Nat := 1
def LDT_CMD_NEWTUN_ATTR_TUN_TYPE : Nat := 2
def LDT_CMD_BIND_ATTR_NAME : Nat := 1
def LDT_CMD_BIND_ATTR_ADDR4 : Nat := 2
def LDT_CMD_BIND_ATTR_ADDR6 : Nat := 3
def LDT_CMD_BIND_ATTR_PORT : Nat := 4
def LDT_CMD_BIND2DEV_ATTR_NAME : Nat := 1
def LDT_CMD_BIND2DEV_ATTR_DEV : Nat := 2
def LDT_CMD_PEER_ATTR_NAME : Nat := 1
def LDT_CMD_PEER_ATTR_ADDR4 : Nat := 2
def LDT_CMD_PEER_ATTR_ADDR6 : Nat := 3
def LDT_CMD_PEER_ATTR_PORT : Nat := 4
def LDT_CMD_SET_MTU_ATTR_NAME : Nat := 1
def LDT_CMD_SET_MTU_ATTR_MTU : Nat := 2
def LDT_CMD_EVSEND_ATTR_NAME : Nat := 1
def LDT_CMD_EVSEND_ATTR_EVTYPE : Nat := 2
def LDT_CMD_EVSEND_ATTR_REASON : Nat := 3

/-- `frad_getport` -/
def fradGetport (addr : TpAddr) : Nat :=
  htons addr.sinPort

/-- The two attributes of an address. -/
def addrEntries (addr4 addr6 port : Nat) (addr : TpAddr) : List (Nat × List UInt8) :=
  [if !addr.isIpv6 then (addr4, littleEndian 4 addr.ip) else (addr6, littleEndian 16 addr.ip),
    (port, littleEndian 2 (fradGetport addr))]

/-- `ldt_create_dev`, which does not check the pointer behind the flags. -/
def ldtCreateDev (name : Option CStr) (flags : Nat) : Option (Except Int (List UInt8)) :=
  let name := name.getD CStr.empty
  request LDT_CMD_CREATE_DEV (FNL_MSGMINLEN + strlen name.terminated + 2 + 128) none
    [(LDT_CMD_CREATE_DEV_ATTR_NAME, name.terminated)]
    [(LDT_CMD_CREATE_DEV_ATTR_FLAGS, littleEndian 4 flags)]

/-- `ldt_rm_dev` -/
def ldtRmDev (name : Option CStr) : Option (Except Int (List UInt8)) :=
  let name := name.getD CStr.empty
  request LDT_CMD_RM_DEV (FNL_MSGMINLEN + strlen name.terminated + 128) none
    [(LDT_CMD_RM_DEV_ATTR_NAME, name.terminated)] []

/-- `ldt_rm_tun` -/
def ldtRmTun (name : Option CStr) : Option (Except Int (List UInt8)) :=
  let name := name.getD CStr.empty
  request LDT_CMD_RM_TUN (FNL_MSGMINLEN + strlen name.terminated + 2 + 128) none
    [(LDT_CMD_RM_TUN_ATTR_NAME, name.terminated)] []

/-- `ldt_newtun` -/
def ldtNewtun (name tuntype : Option CStr) : Option (Except Int (List UInt8)) :=
  match name, tuntype with
  | some name, some tuntype =>
      request LDT_CMD_NEWTUN (FNL_MSGMINLEN + strlen name.terminated +
          strlen tuntype.terminated + 64) (some RERR_NOMEM)
        [(LDT_CMD_NEWTUN_ATTR_NAME, name.terminated),
          (LDT_CMD_NEWTUN_ATTR_TUN_TYPE, tuntype.terminated)] []
  | _, _ => some (.error RERR_PARAM)

/-- `ldt_tunbind` -/
def ldtTunbind (name : Option CStr) (laddr : Option TpAddr) :
    Option (Except Int (List UInt8)) :=
  match name, laddr with
  | some name, some laddr =>
      request LDT_CMD_BIND (FNL_MSGMINLEN + strlen name.terminated + 128) none
        ((LDT_CMD_BIND_ATTR_NAME, name.terminated) ::
          addrEntries LDT_CMD_BIND_ATTR_ADDR4 LDT_CMD_BIND_ATTR_ADDR6 LDT_CMD_BIND_ATTR_PORT
            laddr) []
  | _, _ => some (.error RERR_PARAM)

/-- `ldt_tunbind2dev`, which names the first attribute after that of another command. -/
def ldtTunbind2dev (name dev : Option CStr) : Option (Except Int (List UInt8)) :=
  match name, dev with
  | some name, some dev =>
      request LDT_CMD_BIND2DEV
        (FNL_MSGMINLEN + strlen name.terminated + strlen dev.terminated + 128) none
        [(LDT_CMD_BIND_ATTR_NAME, name.terminated),
          (LDT_CMD_BIND2DEV_ATTR_DEV, dev.terminated)] []
  | _, _ => some (.error RERR_PARAM)

/-- `do_tun_setpeer` -/
def doTunSetpeer (name : Option CStr) (raddr : Option TpAddr) :
    Option (Except Int (List UInt8)) :=
  match name with
  | none => some (.error RERR_PARAM)
  | some name =>
      let addr := match raddr with
        | none => []
        | some raddr =>
            addrEntries LDT_CMD_PEER_ATTR_ADDR4 LDT_CMD_PEER_ATTR_ADDR6
              LDT_CMD_PEER_ATTR_PORT raddr
      request LDT_CMD_PEER (FNL_MSGMINLEN + strlen name.terminated + 128) none
        ((LDT_CMD_PEER_ATTR_NAME, name.terminated) :: addr) []

/-- `ldt_set_mtu` -/
def ldtSetMtu (name : Option CStr) (mtu : Nat) : Option (Except Int (List UInt8)) :=
  match name with
  | none => some (.error RERR_PARAM)
  | some name =>
      if toInt32 mtu < 0 then some (.error RERR_PARAM)
      else
        request LDT_CMD_SET_MTU (FNL_MSGMINLEN + strlen name.terminated + 14 + 128) none
          [(LDT_CMD_SET_MTU_ATTR_NAME, name.terminated),
            (LDT_CMD_SET_MTU_ATTR_MTU, littleEndian 4 mtu)] []

/-- `ldt_event_send` -/
def ldtEventSend (name : Option CStr) (evtype reason : Nat) :
    Option (Except Int (List UInt8)) :=
  match name with
  | none => some (.error RERR_PARAM)
  | some name =>
      request LDT_CMD_EVSEND (FNL_MSGMINLEN + strlen name.terminated + 18 + 128) none
        [(LDT_CMD_EVSEND_ATTR_NAME, name.terminated),
          (LDT_CMD_EVSEND_ATTR_EVTYPE, littleEndian 4 evtype),
          (LDT_CMD_EVSEND_ATTR_REASON, littleEndian 4 reason)] []

/-- What a handler passes on to the function that does its work. -/
inductive Call where
  | createDev (name : Option (List UInt8)) (flags : Nat)
  | freeDev (name : List UInt8)
  | rmTun (name : List UInt8)
  | newtun (name tuntype : List UInt8)
  | bind (name : List UInt8) (laddr : TpAddr)
  | bind2dev (name dev : List UInt8)
  | peer (name : List UInt8) (raddr : Option TpAddr)
  | setMtu (name : List UInt8) (mtu : Nat)
  | evsend (name : List UInt8) (evtype reason : Nat)
  deriving DecidableEq

/-- `nla_get_u32` -/
def nlaGetU32 (payload : List UInt8) : Nat :=
  ofLittleEndian (payload.take 4)

/-- `nla_get_u16` -/
def nlaGetU16 (payload : List UInt8) : Nat :=
  ofLittleEndian (payload.take 2)

/-- `tp_addr_setipv4` -/
def tpAddrSetipv4 (ad4 port : Nat) : TpAddr where
  saFamily := AF_INET
  ip := ad4
  sinPort := htons port

/-- `tp_addr_setipv6` -/
def tpAddrSetipv6 (ad6 : List UInt8) (port : Nat) : TpAddr where
  saFamily := AF_INET6
  ip := ofLittleEndian ad6
  sinPort := htons port

/-- An attribute that must be there. -/
def needed (attrs : Nat → Option (List UInt8)) (id : Nat) : Except Int (List UInt8) :=
  match attrs id with
  | none => .error (-EINVAL)
  | some payload => .ok payload

/-- The address in the attributes, if there is one. -/
def addrOfAttrs (attrs : Nat → Option (List UInt8)) (addr4 addr6 port : Nat) :
    Except Int (Option TpAddr) :=
  match attrs addr4 with
  | some payload => do
      let portAttr ← needed attrs port
      .ok (some (tpAddrSetipv4 (nlaGetU32 payload) (nlaGetU16 portAttr)))
  | none =>
      match attrs addr6 with
      | some payload =>
          if payload.length ≠ 16 then .error (-EINVAL)
          else do
            let portAttr ← needed attrs port
            .ok (some (tpAddrSetipv6 payload (nlaGetU16 portAttr)))
      | none => .ok none

section
variable (attrs : Nat → Option (List UInt8))

/-- `ldt_nl_create_dev` -/
def ldtNlCreateDev : Except Int Call :=
  let name := (attrs LDT_CMD_CREATE_DEV_ATTR_NAME).bind fun payload =>
    if cstring payload = [] then none else some (cstring payload)
  let flags := ((attrs LDT_CMD_CREATE_DEV_ATTR_FLAGS).map nlaGetU32).getD 0
  .ok (.createDev name flags)

/-- `ldt_nl_rm_dev` -/
def ldtNlRmDev : Except Int Call := do
  let name ← needed attrs LDT_CMD_RM_DEV_ATTR_NAME
  .ok (.freeDev (cstring name))

/-- `ldt_nl_rm_tun` -/
def ldtNlRmTun : Except Int Call := do
  let name ← needed attrs LDT_CMD_RM_TUN_ATTR_NAME
  .ok (.rmTun (cstring name))

/-- `ldt_nl_newtun` -/
def ldtNlNewtun : Except Int Call := do
  let name ← needed attrs LDT_CMD_NEWTUN_ATTR_NAME
  let tuntype ← needed attrs LDT_CMD_NEWTUN_ATTR_TUN_TYPE
  .ok (.newtun (cstring name) (cstring tuntype))

/-- `ldt_nl_bind`, which binds to any address without one. -/
def ldtNlBind : Except Int Call := do
  let name ← needed attrs LDT_CMD_BIND_ATTR_NAME
  let laddr ← addrOfAttrs attrs LDT_CMD_BIND_ATTR_ADDR4 LDT_CMD_BIND_ATTR_ADDR6
    LDT_CMD_BIND_ATTR_PORT
  .ok (.bind (cstring name) (laddr.getD (tpAddrSetipv4 0 0)))

/-- `ldt_nl_bind2dev` -/
def ldtNlBind2dev : Except Int Call := do
  let name ← needed attrs LDT_CMD_BIND2DEV_ATTR_NAME
  let dev ← needed attrs LDT_CMD_BIND2DEV_ATTR_DEV
  .ok (.bind2dev (cstring name) (cstring dev))

/-- `ldt_nl_peer` -/
def ldtNlPeer : Except Int Call := do
  let name ← needed attrs LDT_CMD_PEER_ATTR_NAME
  let raddr ← addrOfAttrs attrs LDT_CMD_PEER_ATTR_ADDR4 LDT_CMD_PEER_ATTR_ADDR6
    LDT_CMD_PEER_ATTR_PORT
  .ok (.peer (cstring name) raddr)

/-- `ldt_nl_set_mtu` -/
def ldtNlSetMtu : Except Int Call := do
  let name ← needed attrs LDT_CMD_SET_MTU_ATTR_NAME
  let mtu ← needed attrs LDT_CMD_SET_MTU_ATTR_MTU
  .ok (.setMtu (cstring name) (nlaGetU32 mtu))

/-- `ldt_nl_evsend` -/
def ldtNlEvsend : Except Int Call := do
  let name ← needed attrs LDT_CMD_EVSEND_ATTR_NAME
  let evtype ← needed attrs LDT_CMD_EVSEND_ATTR_EVTYPE
  let reason ← needed attrs LDT_CMD_EVSEND_ATTR_REASON
  .ok (.evsend (cstring name) (nlaGetU32 evtype) (nlaGetU32 reason))

/-- `ldt_nl_ops`, as far as it is about these commands. -/
def ldtNlOps (cmd : Nat) : Option (Except Int Call) :=
  if cmd = LDT_CMD_CREATE_DEV then some (ldtNlCreateDev attrs)
  else if cmd = LDT_CMD_RM_DEV then some (ldtNlRmDev attrs)
  else if cmd = LDT_CMD_RM_TUN then some (ldtNlRmTun attrs)
  else if cmd = LDT_CMD_NEWTUN then some (ldtNlNewtun attrs)
  else if cmd = LDT_CMD_BIND then some (ldtNlBind attrs)
  else if cmd = LDT_CMD_BIND2DEV then some (ldtNlBind2dev attrs)
  else if cmd = LDT_CMD_PEER then some (ldtNlPeer attrs)
  else if cmd = LDT_CMD_SET_MTU then some (ldtNlSetMtu attrs)
  else if cmd = LDT_CMD_EVSEND then some (ldtNlEvsend attrs)
  else none

end

/-- The kernel's way from a message to the handler of its command. -/
def receive (msg : List UInt8) : Option (Except Int Call) := do
  let cmd ← fnlGetcmd msg
  ldtNlOps (infoAttr (msg.drop (NLMSG_HDRLEN + GENL_HDRLEN))) cmd

/-- A string of less than 2^30 bytes. -/
structure Text extends CStr where
  length_lt : bytes.length < 2 ^ 30

/-- An address of one of the two families, whose parts fit their fields. -/
structure Frad extends TpAddr where
  family : saFamily = AF_INET ∨ saFamily = AF_INET6
  ip_lt : ip < if saFamily = AF_INET6 then 256 ^ 16 else 256 ^ 4
  port_lt : sinPort < 2 ^ 16

/-- The calls of the tool's functions. -/
inductive Command where
  | createDev (name : Option Text) (flags : UInt32)
  | rmDev (name : Text)
  | rmTun (name : Text)
  | newtun (name tuntype : Text)
  | tunbind (name : Text) (laddr : Frad)
  | tunbind2dev (name dev : Text)
  | setpeer (name : Text) (raddr : Option Frad)
  | setMtu (name : Text) (mtu : UInt32)
  | eventSend (name : Text) (evtype reason : UInt32)

/-- The message of a command up to `ldt_nl_send`. -/
def Command.build : Command → Option (Except Int (List UInt8))
  | .createDev name flags => ldtCreateDev (name.map Text.toCStr) flags.toNat
  | .rmDev name => ldtRmDev (some name.toCStr)
  | .rmTun name => ldtRmTun (some name.toCStr)
  | .newtun name tuntype => ldtNewtun (some name.toCStr) (some tuntype.toCStr)
  | .tunbind name laddr => ldtTunbind (some name.toCStr) (some laddr.toTpAddr)
  | .tunbind2dev name dev => ldtTunbind2dev (some name.toCStr) (some dev.toCStr)
  | .setpeer name raddr => doTunSetpeer (some name.toCStr) (raddr.map Frad.toTpAddr)
  | .setMtu name mtu => ldtSetMtu (some name.toCStr) mtu.toNat
  | .eventSend name evtype reason =>
      ldtEventSend (some name.toCStr) evtype.toNat reason.toNat

/-- What a command asks the module for. -/
def Command.meaning : Command → Call
  | .createDev name flags =>
      .createDev (name.bind fun name => if name.bytes = [] then none else some name.bytes)
        flags.toNat
  | .rmDev name => .freeDev name.bytes
  | .rmTun name => .rmTun name.bytes
  | .newtun name tuntype => .newtun name.bytes tuntype.bytes
  | .tunbind name laddr => .bind name.bytes laddr.toTpAddr
  | .tunbind2dev name dev => .bind2dev name.bytes dev.bytes
  | .setpeer name raddr => .peer name.bytes (raddr.map Frad.toTpAddr)
  | .setMtu name mtu => .setMtu name.bytes mtu.toNat
  | .eventSend name evtype reason => .evsend name.bytes evtype.toNat reason.toNat

/-- The string with its zero byte is too long for an attribute. -/
def TooLong (text : Text) : Prop :=
  2 ^ 16 ≤ text.bytes.length + 1 + NLA_HDRLEN

instance (text : Text) : Decidable (TooLong text) :=
  inferInstanceAs (Decidable (_ ≤ _))

/-- The commands that may fail: those with a string that is too long or with an MTU that is
negative as an `int`. -/
def Command.Refused : Command → Prop
  | .createDev name _ => ∃ text ∈ name, TooLong text
  | .rmDev name => TooLong name
  | .rmTun name => TooLong name
  | .newtun name tuntype => TooLong name ∨ TooLong tuntype
  | .tunbind name _ => TooLong name
  | .tunbind2dev name dev => TooLong name ∨ TooLong dev
  | .setpeer name _ => TooLong name
  | .setMtu name mtu => TooLong name ∨ 2 ^ 31 ≤ mtu.toNat
  | .eventSend name _ _ => TooLong name

/-- The command is refused, or the handler gets what it is about. -/
def RoundTrip (family : Family) (seq portid : Nat) (command : Command) : Prop :=
  ∃ outcome, command.build.map (Except.map (fnlSend family seq portid)) = some outcome ∧
    match outcome with
    | .error _ => command.Refused
    | .ok msg => receive msg = some (.ok command.meaning)

/-- The size of the buffer of `ldt_tunbind2dev` is not negative as an `int`. -/
def Command.Allocates : Command → Prop
  | .tunbind2dev name dev => FNL_MSGMINLEN + name.bytes.length + dev.bytes.length + 128 < 2 ^ 31
  | _ => True

section
variable (family : Family) (seq portid : Nat)

/-- The kernel finds the attributes of a request by their types. -/
theorem receive_requestMessage {cmd : Nat} (small : cmd < 256)
    {entries : List (Nat × List UInt8)} (valid : Valid entries) :
    receive (requestMessage family seq portid cmd entries) = ldtNlOps (lookup entries) cmd := by
  have attrs : infoAttr (attrsBytes entries) = lookup entries := by
    funext id
    exact infoAttr_attrsBytes valid id
  rw [receive, fnlGetcmd_requestMessage family seq portid cmd small]
  simp only [Option.bind_eq_bind, Option.bind_some]
  rw [drop_requestMessage, attrs]

/-- A request with room for its attributes is refused for a string or handled. -/
theorem roundTrip_of_request {command : Command} {cmd len : Nat} {noMem : Option Int}
    {entries unchecked : List (Nat × List UInt8)}
    (built : command.build = request cmd len noMem entries unchecked) (known : cmd < 256)
    (small : len < 2 ^ 31)
    (bounded : ∀ entry ∈ entries ++ unchecked, entry.1 < 2 ^ 14 ∧ entry.2.length < 2 ^ 31)
    (room : NLMSG_HDRLEN + GENL_HDRLEN +
      ((entries ++ unchecked).map fun entry => entry.2.length + 7).sum ≤ len)
    (last : Short unchecked) (refused : ¬ Short entries → command.Refused)
    (handled : ldtNlOps (lookup (entries ++ unchecked)) cmd = some (.ok command.meaning)) :
    RoundTrip family seq portid command := by
  have size := length_attrsBytes_le (entries ++ unchecked)
  have sent := request_eq family seq portid cmd noMem small bounded (by omega) last
  rw [← built] at sent
  by_cases short : Short entries
  · have valid : Valid (entries ++ unchecked) := by
      intro entry member
      refine ⟨(bounded entry member).1, ?_⟩
      rcases List.mem_append.mp member with checked | rest
      · exact short entry checked
      · exact last entry rest
    rw [if_pos short] at sent
    refine ⟨_, sent, ?_⟩
    dsimp only
    rw [receive_requestMessage family seq portid known valid, handled]
  · rw [if_neg short] at sent
    exact ⟨_, sent, refused short⟩

theorem fnlMsgminlen_eq : FNL_MSGMINLEN = 29 :=
  rfl

/-- The parts of the message other than strings take up little of its buffer. -/
theorem sum_le_of_small {entries : List (Nat × List UInt8)}
    (small : ∀ entry ∈ entries, entry.2.length ≤ 16) :
    (entries.map fun entry => entry.2.length + 7).sum ≤ 23 * entries.length := by
  induction entries with
  | nil => exact Nat.le_refl _
  | cons entry entries ih =>
      have first := small entry List.mem_cons_self
      have rest := ih fun other member => small other (List.mem_cons_of_mem _ member)
      rw [List.map_cons, List.sum_cons, List.length_cons]
      omega

theorem short_cons (id : Nat) (text : Text) (entries : List (Nat × List UInt8)) :
    Short ((id, text.terminated) :: entries) ↔ ¬ TooLong text ∧ Short entries := by
  simp [Short, TooLong]

/-- The message of a request with the name of the device and up to two numbers or
addresses, whose name may be too long. -/
theorem request_of_name {cmd extra nameId : Nat} (name : Text)
    {entries : List (Nat × List UInt8)}
    (fixed : cmd < 256 ∧ 128 ≤ extra ∧ extra ≤ 256 ∧ nameId < 2 ^ 14)
    (small : ∀ entry ∈ entries, entry.1 < 2 ^ 14 ∧ entry.2.length ≤ 16)
    (count : entries.length ≤ 2) :
    (request cmd (FNL_MSGMINLEN + strlen name.terminated + extra) none
        ((nameId, name.terminated) :: entries) []).map (Except.map (fnlSend family seq portid)) =
      some (if Short ((nameId, name.terminated) :: entries) then
        .ok (requestMessage family seq portid cmd ((nameId, name.terminated) :: entries))
      else .error RERR_INTERNAL) := by
  have nameLt := name.length_lt
  have total := sum_le_of_small fun entry member => (small entry member).2
  obtain ⟨known, enough, bounded, name_lt⟩ := fixed
  have size := length_attrsBytes_le ((nameId, name.terminated) :: entries)
  rw [List.map_cons, List.sum_cons, CStr.length_terminated] at size
  rw [strlen_terminated, fnlMsgminlen_eq]
  have sent := @request_eq family seq portid cmd (29 + name.bytes.length + extra) none
    ((nameId, name.terminated) :: entries) [] (by omega)
  rw [List.append_nil] at sent
  apply sent
  · intro entry member
    rcases List.mem_cons.mp member with rfl | member
    · refine ⟨name_lt, ?_⟩
      rw [CStr.length_terminated]
      omega
    · obtain ⟨id_lt, length_le⟩ := small entry member
      exact ⟨id_lt, by omega⟩
  · unfold NLMSG_HDRLEN GENL_HDRLEN
    omega
  · simp [Short]

/-- Only the name can be too long. -/
theorem short_of_name {nameId : Nat} {name : Text} {entries : List (Nat × List UInt8)}
    (small : ∀ entry ∈ entries, entry.1 < 2 ^ 14 ∧ entry.2.length ≤ 16) :
    Short ((nameId, name.terminated) :: entries) ↔ ¬ TooLong name := by
  rw [short_cons, and_iff_left_iff_imp]
  intro _ entry member
  have length_le := (small entry member).2
  unfold NLA_HDRLEN
  omega

/-- A request with the name of the device and up to two numbers or addresses. -/
theorem roundTrip_of_name {command : Command} {cmd extra nameId : Nat} {name : Text}
    {entries : List (Nat × List UInt8)}
    (built : command.build = request cmd (FNL_MSGMINLEN + strlen name.terminated + extra) none
      ((nameId, name.terminated) :: entries) [])
    (fixed : cmd < 256 ∧ 128 ≤ extra ∧ extra ≤ 256 ∧ nameId < 2 ^ 14)
    (small : ∀ entry ∈ entries, entry.1 < 2 ^ 14 ∧ entry.2.length ≤ 16)
    (count : entries.length ≤ 2)
    (refused : TooLong name → command.Refused)
    (handled : ldtNlOps (lookup ((nameId, name.terminated) :: entries)) cmd =
      some (.ok command.meaning)) :
    RoundTrip family seq portid command := by
  have sent := request_of_name family seq portid name fixed small count
  rw [← built] at sent
  by_cases long : TooLong name
  · rw [if_neg (by rw [short_of_name small, not_not]; exact long)] at sent
    exact ⟨_, sent, refused long⟩
  · have short : Short ((nameId, name.terminated) :: entries) := (short_of_name small).mpr long
    have valid : Valid ((nameId, name.terminated) :: entries) := by
      intro entry member
      refine ⟨?_, short entry member⟩
      rcases List.mem_cons.mp member with rfl | member
      · exact fixed.2.2.2
      · exact (small entry member).1
    rw [if_pos short] at sent
    refine ⟨_, sent, ?_⟩
    dsimp only
    rw [receive_requestMessage family seq portid fixed.1 valid, handled]

/-- A request with the name of the device and another string. -/
theorem roundTrip_of_names {command : Command} {cmd extra nameId textId : Nat}
    {name text : Text} {noMem : Option Int}
    (built : command.build = request cmd
      (FNL_MSGMINLEN + strlen name.terminated + strlen text.terminated + extra) noMem
      [(nameId, name.terminated), (textId, text.terminated)] [])
    (fixed : cmd < 256 ∧ 64 ≤ extra ∧ nameId < 2 ^ 14 ∧ textId < 2 ^ 14)
    (small : FNL_MSGMINLEN + name.bytes.length + text.bytes.length + extra < 2 ^ 31)
    (refused : TooLong name ∨ TooLong text → command.Refused)
    (handled : ldtNlOps (lookup [(nameId, name.terminated), (textId, text.terminated)]) cmd =
      some (.ok command.meaning)) :
    RoundTrip family seq portid command := by
  have nameLt := name.length_lt
  have textLt := text.length_lt
  obtain ⟨known, enough, name_lt, text_lt⟩ := fixed
  rw [strlen_terminated, strlen_terminated] at built
  apply roundTrip_of_request family seq portid built known
  · exact small
  · intro entry member
    rw [List.append_nil] at member
    rcases List.mem_pair.mp member with rfl | rfl
    · refine ⟨name_lt, ?_⟩
      rw [CStr.length_terminated]
      omega
    · refine ⟨text_lt, ?_⟩
      rw [CStr.length_terminated]
      omega
  · rw [fnlMsgminlen_eq]
    simp only [List.append_nil, List.map_cons, List.map_nil, List.sum_cons, List.sum_nil,
      CStr.length_terminated]
    unfold NLMSG_HDRLEN GENL_HDRLEN
    omega
  · simp [Short]
  · intro long
    apply refused
    by_contra short
    apply long
    rw [short_cons, short_cons]
    rw [not_or] at short
    exact ⟨short.1, short.2, by simp [Short]⟩
  · rwa [List.append_nil]

theorem nlaGetU32_littleEndian (value : UInt32) :
    nlaGetU32 (littleEndian 4 value.toNat) = value.toNat := by
  rw [nlaGetU32, List.take_of_length_le (length_littleEndian 4 _).le]
  exact ofLittleEndian_of_lt value.toNat_lt

theorem ok_bind {α β : Type} (value : α) (next : α → Except Int β) :
    (Except.ok value >>= next) = next value :=
  rfl

theorem roundTrip_createDev (name : Option Text) (flags : UInt32) :
    RoundTrip family seq portid (.createDev name flags) := by
  have bounded : ((name.map Text.toCStr).getD CStr.empty).bytes.length < 2 ^ 30 := by
    cases name with
    | none => decide
    | some name => exact name.length_lt
  apply roundTrip_of_request family seq portid rfl (by decide)
  · rw [strlen_terminated, fnlMsgminlen_eq]
    omega
  · simp [LDT_CMD_CREATE_DEV_ATTR_NAME, LDT_CMD_CREATE_DEV_ATTR_FLAGS]
    omega
  · rw [strlen_terminated, fnlMsgminlen_eq]
    simp [NLMSG_HDRLEN, GENL_HDRLEN]
    omega
  · simp [Short, NLA_HDRLEN]
  · intro long
    cases name with
    | none => simp [Short, NLA_HDRLEN, CStr.empty] at long
    | some name => simpa [Short, Command.Refused, TooLong] using long
  · change some (ldtNlCreateDev (lookup _)) = _
    cases name with
    | none => simp [ldtNlCreateDev, lookup, LDT_CMD_CREATE_DEV_ATTR_NAME,
        LDT_CMD_CREATE_DEV_ATTR_FLAGS, Command.meaning, cstring_terminated,
        nlaGetU32_littleEndian, CStr.empty]
    | some name => simp [ldtNlCreateDev, lookup, LDT_CMD_CREATE_DEV_ATTR_NAME,
        LDT_CMD_CREATE_DEV_ATTR_FLAGS, Command.meaning, cstring_terminated,
        nlaGetU32_littleEndian]

theorem roundTrip_rmDev (name : Text) : RoundTrip family seq portid (.rmDev name) := by
  have built : (Command.rmDev name).build =
      request LDT_CMD_RM_DEV (FNL_MSGMINLEN + strlen name.terminated + 128) none
        [(LDT_CMD_RM_DEV_ATTR_NAME, name.terminated)] [] := rfl
  apply roundTrip_of_name family seq portid built
  · decide
  · simp
  · simp
  · exact id
  · change some (ldtNlRmDev (lookup _)) = _
    simp [ldtNlRmDev, needed, lookup, LDT_CMD_RM_DEV_ATTR_NAME, Command.meaning,
      cstring_terminated, ok_bind]

theorem roundTrip_rmTun (name : Text) : RoundTrip family seq portid (.rmTun name) := by
  have built : (Command.rmTun name).build =
      request LDT_CMD_RM_TUN (FNL_MSGMINLEN + strlen name.terminated + (2 + 128)) none
        [(LDT_CMD_RM_TUN_ATTR_NAME, name.terminated)] [] := rfl
  apply roundTrip_of_name family seq portid built
  · decide
  · simp
  · simp
  · exact id
  · change some (ldtNlRmTun (lookup _)) = _
    simp [ldtNlRmTun, needed, lookup, LDT_CMD_RM_TUN_ATTR_NAME, Command.meaning,
      cstring_terminated, ok_bind]

theorem roundTrip_eventSend (name : Text) (evtype reason : UInt32) :
    RoundTrip family seq portid (.eventSend name evtype reason) := by
  have built : (Command.eventSend name evtype reason).build =
      request LDT_CMD_EVSEND (FNL_MSGMINLEN + strlen name.terminated + (18 + 128)) none
        [(LDT_CMD_EVSEND_ATTR_NAME, name.terminated),
          (LDT_CMD_EVSEND_ATTR_EVTYPE, littleEndian 4 evtype.toNat),
          (LDT_CMD_EVSEND_ATTR_REASON, littleEndian 4 reason.toNat)] [] := rfl
  apply roundTrip_of_name family seq portid built
  · decide
  · simp [LDT_CMD_EVSEND_ATTR_EVTYPE, LDT_CMD_EVSEND_ATTR_REASON]
  · simp
  · exact id
  · change some (ldtNlEvsend (lookup _)) = _
    simp [ldtNlEvsend, needed, lookup, LDT_CMD_EVSEND_ATTR_NAME, LDT_CMD_EVSEND_ATTR_EVTYPE,
      LDT_CMD_EVSEND_ATTR_REASON, Command.meaning, cstring_terminated, ok_bind,
      nlaGetU32_littleEndian]

/-- An MTU that is negative as an `int` is refused before anything is sent. -/
theorem roundTrip_setMtu (name : Text) (mtu : UInt32) :
    RoundTrip family seq portid (.setMtu name mtu) := by
  have mtuLt := mtu.toNat_lt
  by_cases negative : toInt32 mtu.toNat < 0
  · have built : (Command.setMtu name mtu).build = some (.error RERR_PARAM) := by
      simp only [Command.build, ldtSetMtu, if_pos negative]
    refine ⟨.error RERR_PARAM, ?_, ?_⟩
    · rw [built]
      rfl
    · right
      by_contra small
      rw [toInt32, if_pos (Nat.lt_of_not_le small)] at negative
      omega
  · have built : (Command.setMtu name mtu).build =
        request LDT_CMD_SET_MTU (FNL_MSGMINLEN + strlen name.terminated + (14 + 128)) none
          [(LDT_CMD_SET_MTU_ATTR_NAME, name.terminated),
            (LDT_CMD_SET_MTU_ATTR_MTU, littleEndian 4 mtu.toNat)] [] := by
      simp only [Command.build, ldtSetMtu, if_neg negative, Nat.add_assoc]
    apply roundTrip_of_name family seq portid built
    · decide
    · simp [LDT_CMD_SET_MTU_ATTR_MTU]
    · simp
    · exact Or.inl
    · change some (ldtNlSetMtu (lookup _)) = _
      simp [ldtNlSetMtu, needed, lookup, LDT_CMD_SET_MTU_ATTR_NAME, LDT_CMD_SET_MTU_ATTR_MTU,
        Command.meaning, cstring_terminated, ok_bind, nlaGetU32_littleEndian]

/-- The address comes out of its attributes as it was. -/
theorem addrOfAttrs_addrEntries (name : List UInt8) (addr : Frad) :
    addrOfAttrs (lookup ((1, name) :: addrEntries 2 3 4 addr.toTpAddr)) 2 3 4 =
      .ok (some addr.toTpAddr) := by
  have portLt : fradGetport addr.toTpAddr < 256 ^ 2 := by
    unfold fradGetport htons
    omega
  have port : htons (nlaGetU16 (littleEndian 2 (fradGetport addr.toTpAddr))) =
      addr.sinPort := by
    rw [nlaGetU16, List.take_of_length_le (length_littleEndian 2 _).le,
      ofLittleEndian_of_lt portLt]
    exact htons_htons addr.port_lt
  have ip_lt := addr.ip_lt
  rcases addr.family with ipv4 | ipv6
  · have family : addr.isIpv6 = false := by
      rw [TpAddr.isIpv6, ipv4]
      rfl
    rw [ipv4, if_neg (by decide)] at ip_lt
    have ip : nlaGetU32 (littleEndian 4 addr.ip) = addr.ip := by
      rw [nlaGetU32, List.take_of_length_le (length_littleEndian 4 _).le]
      exact ofLittleEndian_of_lt ip_lt
    simp [addrEntries, family, addrOfAttrs, lookup, needed, ok_bind, tpAddrSetipv4, ip, port,
      ← ipv4]
  · have family : addr.isIpv6 = true := by
      rw [TpAddr.isIpv6, ipv6]
      rfl
    rw [ipv6, if_pos rfl] at ip_lt
    have ip : ofLittleEndian (littleEndian 16 addr.ip) = addr.ip := ofLittleEndian_of_lt ip_lt
    simp [addrEntries, family, addrOfAttrs, lookup, needed, ok_bind, tpAddrSetipv6, ip, port,
      ← ipv6]

theorem small_addrEntries (addr : TpAddr) :
    (∀ entry ∈ addrEntries 2 3 4 addr, entry.1 < 2 ^ 14 ∧ entry.2.length ≤ 16) ∧
      (addrEntries 2 3 4 addr).length ≤ 2 := by
  unfold addrEntries
  cases addr.isIpv6 with
  | false => simp
  | true => simp

theorem lookup_name (name : List UInt8) (addr : TpAddr) :
    lookup ((1, name) :: addrEntries 2 3 4 addr) 1 = some name := by
  unfold addrEntries
  cases addr.isIpv6 with
  | false => rfl
  | true => rfl

theorem roundTrip_tunbind (name : Text) (laddr : Frad) :
    RoundTrip family seq portid (.tunbind name laddr) := by
  have built : (Command.tunbind name laddr).build =
      request LDT_CMD_BIND (FNL_MSGMINLEN + strlen name.terminated + 128) none
        ((1, name.terminated) :: addrEntries 2 3 4 laddr.toTpAddr) [] := rfl
  apply roundTrip_of_name family seq portid built
  · decide
  · exact (small_addrEntries laddr.toTpAddr).1
  · exact (small_addrEntries laddr.toTpAddr).2
  · exact id
  · have addr : addrOfAttrs (lookup ((1, name.terminated) ::
        addrEntries 2 3 4 laddr.toTpAddr)) LDT_CMD_BIND_ATTR_ADDR4 LDT_CMD_BIND_ATTR_ADDR6
          LDT_CMD_BIND_ATTR_PORT = .ok (some laddr.toTpAddr) :=
      addrOfAttrs_addrEntries name.terminated laddr
    change some (ldtNlBind (lookup _)) = _
    simp only [ldtNlBind, needed, LDT_CMD_BIND_ATTR_NAME, lookup_name, addr, ok_bind,
      cstring_terminated, Option.getD_some, Command.meaning]

/-- Without an address there are no attributes for it. -/
theorem roundTrip_setpeer (name : Text) (raddr : Option Frad) :
    RoundTrip family seq portid (.setpeer name raddr) := by
  cases raddr with
  | none =>
      have built : (Command.setpeer name none).build =
          request LDT_CMD_PEER (FNL_MSGMINLEN + strlen name.terminated + 128) none
            [(LDT_CMD_PEER_ATTR_NAME, name.terminated)] [] := rfl
      apply roundTrip_of_name family seq portid built
      · decide
      · simp
      · simp
      · exact id
      · change some (ldtNlPeer (lookup _)) = _
        simp [ldtNlPeer, needed, lookup, addrOfAttrs, LDT_CMD_PEER_ATTR_NAME,
          LDT_CMD_PEER_ATTR_ADDR4, LDT_CMD_PEER_ATTR_ADDR6, Command.meaning,
          cstring_terminated, ok_bind]
  | some raddr =>
      have built : (Command.setpeer name (some raddr)).build =
          request LDT_CMD_PEER (FNL_MSGMINLEN + strlen name.terminated + 128) none
            ((1, name.terminated) :: addrEntries 2 3 4 raddr.toTpAddr) [] := rfl
      apply roundTrip_of_name family seq portid built
      · decide
      · exact (small_addrEntries raddr.toTpAddr).1
      · exact (small_addrEntries raddr.toTpAddr).2
      · exact id
      · have addr : addrOfAttrs (lookup ((1, name.terminated) ::
            addrEntries 2 3 4 raddr.toTpAddr)) LDT_CMD_PEER_ATTR_ADDR4
              LDT_CMD_PEER_ATTR_ADDR6 LDT_CMD_PEER_ATTR_PORT = .ok (some raddr.toTpAddr) :=
          addrOfAttrs_addrEntries name.terminated raddr
        change some (ldtNlPeer (lookup _)) = _
        simp only [ldtNlPeer, needed, LDT_CMD_PEER_ATTR_NAME, lookup_name, addr, ok_bind,
          cstring_terminated, Command.meaning, Option.map_some]

/-- Strings whose lengths overflow the size of the buffer are too long for an attribute. -/
theorem roundTrip_newtun (name tuntype : Text) :
    RoundTrip family seq portid (.newtun name tuntype) := by
  have nameLt := name.length_lt
  have tuntypeLt := tuntype.length_lt
  have built : (Command.newtun name tuntype).build =
      request LDT_CMD_NEWTUN
        (FNL_MSGMINLEN + strlen name.terminated + strlen tuntype.terminated + 64)
        (some RERR_NOMEM)
        [(LDT_CMD_NEWTUN_ATTR_NAME, name.terminated),
          (LDT_CMD_NEWTUN_ATTR_TUN_TYPE, tuntype.terminated)] [] := rfl
  by_cases small : FNL_MSGMINLEN + name.bytes.length + tuntype.bytes.length + 64 < 2 ^ 31
  · apply roundTrip_of_names family seq portid built
    · decide
    · exact small
    · exact id
    · change some (ldtNlNewtun (lookup _)) = _
      simp [ldtNlNewtun, needed, lookup, LDT_CMD_NEWTUN_ATTR_NAME,
        LDT_CMD_NEWTUN_ATTR_TUN_TYPE, Command.meaning, cstring_terminated, ok_bind]
  · rw [fnlMsgminlen_eq] at small
    rw [strlen_terminated, strlen_terminated, fnlMsgminlen_eq,
      request_of_le _ _ _ _ (by omega) (by omega)] at built
    refine ⟨.error RERR_NOMEM, ?_, ?_⟩
    · rw [built]
      rfl
    · left
      unfold TooLong
      omega

/-- Without memory, `ldt_tunbind2dev` writes to a null pointer. -/
theorem roundTrip_tunbind2dev_iff (name dev : Text) :
    RoundTrip family seq portid (.tunbind2dev name dev) ↔
      FNL_MSGMINLEN + name.bytes.length + dev.bytes.length + 128 < 2 ^ 31 := by
  have nameLt := name.length_lt
  have devLt := dev.length_lt
  have built : (Command.tunbind2dev name dev).build =
      request LDT_CMD_BIND2DEV
        (FNL_MSGMINLEN + strlen name.terminated + strlen dev.terminated + 128) none
        [(LDT_CMD_BIND_ATTR_NAME, name.terminated),
          (LDT_CMD_BIND2DEV_ATTR_DEV, dev.terminated)] [] := rfl
  constructor
  · rintro ⟨outcome, sent, -⟩
    by_contra large
    rw [fnlMsgminlen_eq] at large
    rw [strlen_terminated, strlen_terminated, fnlMsgminlen_eq,
      request_of_le _ _ _ _ (by omega) (by omega)] at built
    rw [built] at sent
    contradiction
  · intro small
    apply roundTrip_of_names family seq portid built
    · decide
    · exact small
    · exact id
    · change some (ldtNlBind2dev (lookup _)) = _
      simp [ldtNlBind2dev, needed, lookup, LDT_CMD_BIND_ATTR_NAME,
        LDT_CMD_BIND2DEV_ATTR_NAME, LDT_CMD_BIND2DEV_ATTR_DEV, Command.meaning,
        cstring_terminated, ok_bind]

/-- Every command is refused or gets to its handler as it was, if the buffer for the two
strings of `ldt_tunbind2dev` is not too large for an `int`. -/
theorem roundTrip_iff_allocates (command : Command) :
    RoundTrip family seq portid command ↔ command.Allocates := by
  cases command with
  | createDev name flags =>
      exact iff_of_true (roundTrip_createDev family seq portid name flags) trivial
  | rmDev name => exact iff_of_true (roundTrip_rmDev family seq portid name) trivial
  | rmTun name => exact iff_of_true (roundTrip_rmTun family seq portid name) trivial
  | newtun name tuntype =>
      exact iff_of_true (roundTrip_newtun family seq portid name tuntype) trivial
  | tunbind name laddr =>
      exact iff_of_true (roundTrip_tunbind family seq portid name laddr) trivial
  | tunbind2dev name dev => exact roundTrip_tunbind2dev_iff family seq portid name dev
  | setpeer name raddr =>
      exact iff_of_true (roundTrip_setpeer family seq portid name raddr) trivial
  | setMtu name mtu => exact iff_of_true (roundTrip_setMtu family seq portid name mtu) trivial
  | eventSend name evtype reason =>
      exact iff_of_true (roundTrip_eventSend family seq portid name evtype reason) trivial

end

/-- A string of one letter less than 2^30 times. -/
def longText : Text where
  bytes := List.replicate (2 ^ 30 - 1) 97
  nonzero := by
    intro byte member
    rw [List.eq_of_mem_replicate member]
    decide
  length_lt := by
    rw [List.length_replicate]
    decide

/-- The size of the message for two such strings is negative as an `int`. -/
theorem not_roundTrip_longText :
    ¬ RoundTrip ⟨30, by decide, by decide⟩ 7 1000 (.tunbind2dev longText longText) := by
  intro roundTrip
  have small := (roundTrip_tunbind2dev_iff ⟨30, by decide, by decide⟩ 7 1000 longText
    longText).mp roundTrip
  have length : longText.bytes.length = 2 ^ 30 - 1 := List.length_replicate
  rw [length] at small
  exact absurd small (by decide)

end Tunprox.CommandRequest
