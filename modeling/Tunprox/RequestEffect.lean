import Tunprox.QueueSetting

/-!
# What a request that succeeds has done

The requests that set the MTU, the addresses, the server mode and the queueing of a device,
from the attributes to the tunnel.  Without a tunnel `TUNFUNCHK` lets the functions of
`ldt_tun.c` return 0, `mpdccptun_bind` returns 0 for a tunnel that is being stopped, and
`tpdev_change_mtu` returns 0 whatever it has made of the new value.
-/

namespace Tunprox.RequestEffect

open Errno Device DeviceStep DeviceReference DeviceRequest QueueSetting
open ByteBuffer NetlinkMessage CommandRequest
open Connection (ConnState mpdccptunBind mpdccptunPeer mpdccptunServerstart mpdccptunSetqueue
  setQueuePolicy storeTxqlen)

def LDT_CMD_SERVERSTART : Nat := 12

def LDT_CMD_SERVERSTART_ATTR_NAME : Nat := 1

/-- The devices, and the member `mtu` of each `struct net_device`. -/
structure Configured where
  refs : RefState
  mtu : NdevId → Nat

/-- `tpdev_change_mtu`.  It sets `-ERANGE` aside and returns 0. -/
def tpdevChangeMtu (configured : Configured) (id : NdevId) (tdev : LdtDev) (newMtu : Int) :
    Int × Configured :=
  if !tdev.active then (0, configured)
  else if newMtu < 1280 then (0, configured)
  else if newMtu > 65535 then (0, configured)
  else
    (0, { configured with mtu := Function.update configured.mtu id newMtu.toNat })

/-- `ldt_dev_set_mtu`, whose argument is an `int`. -/
def ldtDevSetMtu (configured : Configured) (id : NdevId) (tdev : LdtDev) (mtu : Nat) :
    Int × Configured :=
  tpdevChangeMtu configured id tdev (toInt32 mtu)

/-- `ldt_nl_set_mtu` behind its attributes. -/
def ldtNlSetMtu (configured : Configured) (net : NetId) (name : List UInt8) (mtu : Nat) :
    Int × Configured :=
  match ldtdevByname configured.refs net name with
  | (none, missed) => (-EINVAL, { configured with refs := missed })
  | (some (id, tdev), held) =>
      match ldtDevSetMtu { configured with refs := held } id tdev mtu with
      | (ret, changed) => (ret, { changed with refs := devPutAfter changed.refs id })

/-- What a request asks of the device. -/
inductive Request where
  | setMtu (mtu : Nat)
  | bind (laddr : TpAddr)
  | peer (raddr : Option TpAddr)
  | serverstart
  | setQueue (txqlen qpolicy : Int)

def requestOfCall : Call → Option (List UInt8 × Request)
  | .setMtu name mtu => some (name, .setMtu mtu)
  | .bind name laddr => some (name, .bind laddr)
  | .peer name raddr => some (name, .peer raddr)
  | _ => none

/-- The name of the device and the request, as the handlers read them. -/
def readRequest (cmd : Nat) (attrs : Nat → Option (List UInt8)) :
    Option (Except Int (List UInt8 × Request)) :=
  if cmd = LDT_CMD_SERVERSTART then
    some ((needed attrs LDT_CMD_SERVERSTART_ATTR_NAME).map fun name =>
      (cstring name, .serverstart))
  else if cmd = LDT_CMD_SET_QUEUE then
    some ((setQueueAttrs attrs).map fun settings =>
      (settings.1, .setQueue settings.2.1 settings.2.2))
  else
    match ldtNlOps attrs cmd with
    | none => none
    | some (.error ret) => some (.error ret)
    | some (.ok call) => (requestOfCall call).map .ok

def onRefs (configured : Configured) (result : Int × RefState) : Int × Configured :=
  (result.1, { configured with refs := result.2 })

/-- The handlers `ldt_nl_set_mtu`, `ldt_nl_bind`, `ldt_nl_peer`, `ldt_nl_serverstart` and
`ldt_nl_set_queue` behind their attributes. -/
def handle (configured : Configured) (net : NetId) (name : List UInt8)
    (calls : SetqueueCalls) : Request → Int × Configured
  | .setMtu mtu => ldtNlSetMtu configured net name mtu
  | .bind laddr => onRefs configured (ldtNlBind configured.refs net name laddr)
  | .peer raddr => onRefs configured (ldtNlPeer configured.refs net name raddr)
  | .serverstart => onRefs configured (ldtNlServerstart configured.refs net name)
  | .setQueue txqlen qpolicy =>
      onRefs configured (DeviceReference.ldtNlSetQueue configured.refs net name txqlen qpolicy
        calls.txqlen calls.qpolicy)

/-- The tunnel of the device has the property. -/
def HasTunnel (system : System) (id : NdevId) (Property : Mpdccptun → Prop) : Prop :=
  (tunOf system id).tunops ≠ none ∧
    ∃ state, (tunOf system id).tundata = some state ∧ Property state.tdat

/-- What was requested is in effect. -/
def Effect (configured : Configured) (id : NdevId) : Request → Prop
  | .setMtu mtu => configured.mtu id = mtu
  | .bind laddr => HasTunnel configured.refs.system id fun tdat => tdat.addr.laddr = laddr
  | .peer none => True
  | .peer (some raddr) => HasTunnel configured.refs.system id fun tdat => tdat.addr.raddr = raddr
  | .serverstart => HasTunnel configured.refs.system id fun tdat => tdat.isserver = true
  | .setQueue txqlen qpolicy =>
      (0 ≤ txqlen → HasTunnel configured.refs.system id fun tdat => (tdat.txQlen : Int) = txqlen) ∧
        (0 ≤ qpolicy → HasTunnel configured.refs.system id fun tdat =>
          (tdat.xmitQueue.policy, tdat.qpolicy) = policyPair qpolicy)

/-- The device can do what is requested, or it need not. -/
def Serves (configured : Configured) (id : NdevId) (tun : LdtTun) : Request → Prop
  | .setMtu mtu => 1280 ≤ mtu ∧ mtu ≤ 65535 ∨ configured.mtu id = mtu
  | .bind laddr => tun.tunops ≠ none ∧
      ∀ state, tun.tundata = some state → state.tdat.tostop = true →
        state.tdat.addr.laddr = laddr
  | .peer none => True
  | .peer (some _) => tun.tunops ≠ none
  | .serverstart => tun.tunops ≠ none
  | .setQueue txqlen qpolicy => tun.tunops ≠ none ∨ txqlen < 0 ∧ qpolicy < 0

/-- What is read from attributes fits: a number its type, an address its copy. -/
def WellFormed : Request → Prop
  | .setMtu mtu => mtu < 2 ^ 32
  | .bind laddr => tpAddrCp laddr = laddr
  | .peer raddr => ∀ addr ∈ raddr, tpAddrCp addr = addr
  | .serverstart => True
  | .setQueue txqlen qpolicy => InRange txqlen qpolicy

/-- A number that is read from an attribute has as many bytes at most. -/
theorem ofLittleEndian_take_lt (width : Nat) (payload : List UInt8) :
    ofLittleEndian (payload.take width) < 256 ^ width := by
  have bound := ofLittleEndian_lt (payload.take width)
  have small : 256 ^ (payload.take width).length ≤ 256 ^ width :=
    Nat.pow_le_pow_right (by decide) (List.length_take_le width payload)
  exact Nat.lt_of_lt_of_le bound small

theorem nlaGetU32_lt (payload : List UInt8) : nlaGetU32 payload < 2 ^ 32 :=
  ofLittleEndian_take_lt 4 payload

theorem nlaGetU16_lt (payload : List UInt8) : nlaGetU16 payload < 2 ^ 16 :=
  ofLittleEndian_take_lt 2 payload

theorem tpAddrCp_setipv4 (ad4 port : Nat) :
    tpAddrCp (tpAddrSetipv4 ad4 port) = tpAddrSetipv4 ad4 port := by
  have portEq := htons_htons (htons_lt port)
  simp only [tpAddrCp, tpAddrSetipv4, portEq]
  rfl

theorem tpAddrCp_setipv6 (ad6 : List UInt8) (port : Nat) :
    tpAddrCp (tpAddrSetipv6 ad6 port) = tpAddrSetipv6 ad6 port := by
  have portEq := htons_htons (htons_lt port)
  simp only [tpAddrCp, tpAddrSetipv6, portEq]
  rfl

theorem exists_of_bind {α β : Type} {result : Except Int α} {next : α → Except Int β}
    {value : β} (done : result >>= next = .ok value) :
    ∃ middle, result = .ok middle ∧ next middle = .ok value := by
  cases result with
  | error ret => contradiction
  | ok middle => exact ⟨middle, rfl, done⟩

theorem tpAddrCp_of_attrs {attrs : Nat → Option (List UInt8)} {addr4 addr6 port : Nat}
    {found : Option TpAddr} (read : addrOfAttrs attrs addr4 addr6 port = .ok found) :
    ∀ addr ∈ found, tpAddrCp addr = addr := by
  unfold addrOfAttrs at read
  split at read
  · obtain ⟨portAttr, -, done⟩ := exists_of_bind read
    rw [← Except.ok.inj done]
    rintro addr ⟨⟩
    exact tpAddrCp_setipv4 _ _
  · split at read
    · split at read
      · contradiction
      · obtain ⟨portAttr, -, done⟩ := exists_of_bind read
        rw [← Except.ok.inj done]
        rintro addr ⟨⟩
        exact tpAddrCp_setipv6 _ _
    · rw [← Except.ok.inj read]
      exact nofun

theorem inRange_setQueueAttrs {attrs : Nat → Option (List UInt8)}
    {settings : List UInt8 × Int × Int} (read : setQueueAttrs attrs = .ok settings) :
    InRange settings.2.1 settings.2.2 := by
  have range : ∀ payload : Option (List UInt8),
      -1 ≤ ((payload.map fun bytes => (nlaGetU16 bytes : Int)).getD (-1)) ∧
        ((payload.map fun bytes => (nlaGetU16 bytes : Int)).getD (-1)) ≤ 65535 := by
    intro payload
    cases payload with
    | none => exact ⟨le_refl _, by decide⟩
    | some bytes =>
        have bound := nlaGetU16_lt bytes
        rw [Option.map_some, Option.getD_some]
        omega
  unfold setQueueAttrs at read
  split at read
  · contradiction
  · simp only at read
    split at read
    · contradiction
    · rename_i allowed
      rw [← Except.ok.inj read]
      exact ⟨(range _).1, (range _).2, (range _).1, Int.not_lt.mp allowed⟩

theorem wellFormed_of_call {cmd : Nat} {attrs : Nat → Option (List UInt8)} {call : Call}
    (handled : ldtNlOps attrs cmd = some (.ok call)) {name : List UInt8} {request : Request}
    (read : requestOfCall call = some (name, request)) : WellFormed request := by
  unfold ldtNlOps at handled
  split_ifs at handled
  · cases Except.ok.inj (Option.some.inj handled)
    contradiction
  · obtain ⟨name, -, done⟩ := exists_of_bind (Option.some.inj handled)
    cases Except.ok.inj done
    contradiction
  · obtain ⟨name, -, done⟩ := exists_of_bind (Option.some.inj handled)
    cases Except.ok.inj done
    contradiction
  · obtain ⟨name, -, rest⟩ := exists_of_bind (Option.some.inj handled)
    obtain ⟨tuntype, -, done⟩ := exists_of_bind rest
    cases Except.ok.inj done
    contradiction
  · obtain ⟨name, -, rest⟩ := exists_of_bind (Option.some.inj handled)
    obtain ⟨laddr, address, done⟩ := exists_of_bind rest
    cases Except.ok.inj done
    cases Option.some.inj read
    cases laddr with
    | none => exact tpAddrCp_setipv4 0 0
    | some laddr => exact tpAddrCp_of_attrs address laddr rfl
  · obtain ⟨name, -, rest⟩ := exists_of_bind (Option.some.inj handled)
    obtain ⟨dev, -, done⟩ := exists_of_bind rest
    cases Except.ok.inj done
    contradiction
  · obtain ⟨name, -, rest⟩ := exists_of_bind (Option.some.inj handled)
    obtain ⟨raddr, address, done⟩ := exists_of_bind rest
    cases Except.ok.inj done
    cases Option.some.inj read
    exact tpAddrCp_of_attrs address
  · obtain ⟨name, -, rest⟩ := exists_of_bind (Option.some.inj handled)
    obtain ⟨mtu, -, done⟩ := exists_of_bind rest
    cases Except.ok.inj done
    cases Option.some.inj read
    exact nlaGetU32_lt mtu
  · obtain ⟨name, -, rest⟩ := exists_of_bind (Option.some.inj handled)
    obtain ⟨evtype, -, rest⟩ := exists_of_bind rest
    obtain ⟨reason, -, done⟩ := exists_of_bind rest
    cases Except.ok.inj done
    contradiction

/-- What comes out of the attributes fits. -/
theorem wellFormed_of_read {cmd : Nat} {attrs : Nat → Option (List UInt8)}
    {name : List UInt8} {request : Request}
    (read : readRequest cmd attrs = some (.ok (name, request))) : WellFormed request := by
  unfold readRequest at read
  split at read
  · cases named : needed attrs LDT_CMD_SERVERSTART_ATTR_NAME with
    | error ret =>
        rw [named] at read
        have impossible := Option.some.inj read
        contradiction
    | ok payload =>
        rw [named] at read
        cases Except.ok.inj (Option.some.inj read)
        trivial
  · split at read
    · cases settings : setQueueAttrs attrs with
      | error ret =>
          rw [settings] at read
          have impossible := Option.some.inj read
          contradiction
      | ok values =>
          rw [settings] at read
          cases Except.ok.inj (Option.some.inj read)
          exact inRange_setQueueAttrs settings
    · split at read
      · contradiction
      · have impossible := Option.some.inj read
        contradiction
      · rename_i call handled
        cases asked : requestOfCall call with
        | none =>
            rw [asked] at read
            contradiction
        | some named =>
            rw [asked] at read
            cases Except.ok.inj (Option.some.inj read)
            exact wellFormed_of_call handled asked

section
variable {configured : Configured} {net : NetId} {name : List UInt8} {id : NdevId}
  {tdev : LdtDev}

/-- Without a tunnel nothing is in effect. -/
theorem not_hasTunnel {system : System} (found : ldtdev system id = some tdev)
    (ops : tdev.tun.tunops = none) (Property : Mpdccptun → Prop) :
    ¬ HasTunnel system id Property := by
  rintro ⟨present, -⟩
  rw [tunOf_of_ldtdev found] at present
  exact present ops

/-- A tunnel has done with success what was requested if its operation does so. -/
theorem hasTunnel_iff_of_callTunnel {next : System} {ret : Int}
    {operation : ConnState → Int × ConnState} {Property : Mpdccptun → Prop}
    (ops : tdev.tun.tunops ≠ none)
    (retEq : ret = (callTunnel operation tdev.tun.tundata).1)
    (tunEq : tunOf next id =
      { tdev.tun with tundata := (callTunnel operation tdev.tun.tundata).2 }) :
    (ret = 0 → HasTunnel next id Property) ↔
      ∀ state, tdev.tun.tundata = some state → (operation state).1 = 0 →
        Property (operation state).2.tdat := by
  rw [retEq, HasTunnel, tunEq]
  cases tundata : tdev.tun.tundata with
  | none =>
      have negative : (-EINVAL : Int) ≠ 0 := by decide
      constructor
      · intro _ state impossible
        exact absurd impossible (Option.some_ne_none state).symm
      · intro _ impossible
        exact absurd impossible negative
  | some state =>
      constructor
      · intro done other same success
        rw [← Option.some.inj same] at success ⊢
        obtain ⟨-, after, afterEq, holds⟩ := done success
        rw [← Option.some.inj afterEq] at holds
        exact holds
      · intro done success
        exact ⟨ops, _, rfl, done state rfl success⟩

theorem tunOf_requestRebind {system : System} (found : ldtdev system id = some tdev)
    (operation : ConnState → Int × ConnState) :
    (requestRebind system id tdev.tun operation).1 =
        (callTunnel operation tdev.tun.tundata).1 ∧
      tunOf (requestRebind system id tdev.tun operation).2 id =
        { tdev.tun with tundata := (callTunnel operation tdev.tun.tundata).2 } := by
  constructor
  · unfold requestRebind
    simp only
    split_ifs <;> rfl
  · rw [tunOf_of_ldtdev ((requestRebind_rebound system id tdev.tun operation).ldtdev found),
      tunOf_of_ldtdev found]

/-- A call of a tunnel's operation behind `TUNFUNCHK`. -/
theorem hasTunnel_iff_of_tunfunchk {system : System} (found : ldtdev system id = some tdev)
    {result : Int × System} {operation : ConnState → Int × ConnState}
    (retEq : result.1 = (callTunnel operation tdev.tun.tundata).1)
    (tunEq : tunOf result.2 id =
      { tdev.tun with tundata := (callTunnel operation tdev.tun.tundata).2 })
    (Property : Mpdccptun → Prop) :
    ((if tdev.tun.tunops.isSome then result else (0, system)).1 = 0 →
        HasTunnel (if tdev.tun.tunops.isSome then result else (0, system)).2 id Property) ↔
      tdev.tun.tunops ≠ none ∧
        ∀ state, tdev.tun.tundata = some state → (operation state).1 = 0 →
          Property (operation state).2.tdat := by
  cases ops : tdev.tun.tunops with
  | none =>
      simp only [Option.isSome_none, Bool.false_eq_true, if_false]
      constructor
      · intro done
        exact absurd (done trivial) (not_hasTunnel found ops Property)
      · rintro ⟨impossible, -⟩
        exact absurd rfl impossible
  | some tunops =>
      have present : tdev.tun.tunops ≠ none := by
        rw [ops]
        exact Option.some_ne_none tunops
      simp only [Option.isSome_some, if_true]
      rw [hasTunnel_iff_of_callTunnel present retEq tunEq]
      exact ⟨fun done => ⟨Option.some_ne_none tunops, done⟩, fun done => done.2⟩

/-- A request that raises `LDT_EVTYPE_REBIND`. -/
theorem hasTunnel_iff_of_rebind {system : System} (found : ldtdev system id = some tdev)
    (operation : ConnState → Int × ConnState) (Property : Mpdccptun → Prop) :
    ((if tdev.tun.tunops.isSome then requestRebind system id tdev.tun operation
          else (0, system)).1 = 0 →
        HasTunnel (if tdev.tun.tunops.isSome then requestRebind system id tdev.tun operation
          else (0, system)).2 id Property) ↔
      tdev.tun.tunops ≠ none ∧
        ∀ state, tdev.tun.tundata = some state → (operation state).1 = 0 →
          Property (operation state).2.tdat := by
  obtain ⟨retEq, tunEq⟩ := tunOf_requestRebind found operation
  exact hasTunnel_iff_of_tunfunchk found retEq tunEq Property

/-- A request that has to change the tunnel and raises no event. -/
theorem hasTunnel_iff_of_quiet {system : System} (found : ldtdev system id = some tdev)
    (active : tdev.active = true) (operation : ConnState → Int × ConnState)
    (Property : Mpdccptun → Prop) :
    ((requestQuiet system id tdev operation).1 = 0 →
        HasTunnel (requestQuiet system id tdev operation).2 id Property) ↔
      tdev.tun.tunops ≠ none ∧
        ∀ state, tdev.tun.tundata = some state → (operation state).1 = 0 →
          Property (operation state).2.tdat := by
  unfold requestQuiet
  simp only [active, Bool.not_true, Bool.false_eq_true, if_false]
  have tunEq := tunOf_modifyTun found fun tun =>
    { tun with tundata := (callTunnel operation tdev.tun.tundata).2 }
  exact hasTunnel_iff_of_tunfunchk found rfl tunEq Property

/-- `mpdccptun_bind` stores the address, except in a tunnel that is being stopped. -/
theorem mpdccptunBind_effect {laddr : TpAddr} (fits : tpAddrCp laddr = laddr)
    (state : ConnState) :
    ((mpdccptunBind state (some laddr) 0).1 = 0 →
        (mpdccptunBind state (some laddr) 0).2.tdat.addr.laddr = laddr) ↔
      (state.tdat.tostop = true → state.tdat.addr.laddr = laddr) := by
  unfold mpdccptunBind
  cases stopped : state.tdat.tostop with
  | true => simp only [if_true, forall_const]
  | false =>
      have done : ∀ result : Prop,
          result → (result ↔ (false = true → state.tdat.addr.laddr = laddr)) :=
        fun result holds => iff_of_true holds nofun
      apply done
      simp only [Bool.false_eq_true, if_false]
      unfold ldtTunaddrBind
      have noFlag : ¬ (0 &&& LDT_TUN_BIND_F_ADDRCHG ≠ 0) := by decide
      have negative : (-EINVAL : Int) < 0 := by decide
      by_cases family : laddr.saFamily ≠ state.tdat.addr.raddr.saFamily
      · simp only [if_pos family, if_pos negative]
        intro impossible
        exact absurd impossible (by decide)
      · simp only [if_neg family, if_neg noFlag, lt_irrefl, if_false]
        intro _
        split_ifs
        · exact fits
        · exact fits
        · exact fits

/-- `mpdccptun_peer` stores the address or fails. -/
theorem mpdccptunPeer_effect {raddr : TpAddr} (fits : tpAddrCp raddr = raddr)
    (state : ConnState) (success : (mpdccptunPeer state (some raddr)).1 = 0) :
    (mpdccptunPeer state (some raddr)).2.tdat.addr.raddr = raddr := by
  have negative : (-EINVAL : Int) < 0 := by decide
  unfold mpdccptunPeer at success ⊢
  cases stopped : state.tdat.tostop with
  | true =>
      have refused : (-EPERM : Int) ≠ 0 := by decide
      rw [stopped] at success
      exact absurd success refused
  | false =>
      simp only [stopped, Bool.false_eq_true, if_false, Connection.storePeer, ldtTunaddrSetpeer,
        Bool.false_and] at success ⊢
      by_cases family : raddr.saFamily ≠ state.tdat.addr.raddr.saFamily
      · simp only [if_pos family, if_pos negative] at success
        exact absurd success (by decide)
      · simp only [if_neg family, lt_irrefl, if_false, Bool.not_true, Bool.false_eq_true]
        split_ifs
        · exact fits
        · exact fits

theorem mpdccptunServerstart_effect (state : ConnState)
    (success : (mpdccptunServerstart state).1 = 0) :
    (mpdccptunServerstart state).2.tdat.isserver = true := by
  unfold mpdccptunServerstart at success ⊢
  by_cases connected : state.tdat.isconnected = true
  · have refused : (-ENOTCONN : Int) ≠ 0 := by decide
    rw [if_pos connected] at success
    exact absurd success refused
  · rw [if_neg connected]
    by_cases server : state.tdat.isserver = true
    · rw [if_pos server]
      exact server
    · rw [if_neg server]

/-- `mpdccptun_setqueue` stores the settings, whatever the socket makes of them. -/
theorem mpdccptunSetqueue_effect {txqlen qpolicy : Int} (inRange : InRange txqlen qpolicy)
    (calls : SetqueueCalls) (state : ConnState)
    (success : (mpdccptunSetqueue state txqlen qpolicy calls.txqlen calls.qpolicy).1 = 0) :
    (0 ≤ txqlen → ((mpdccptunSetqueue state txqlen qpolicy calls.txqlen
        calls.qpolicy).2.tdat.txQlen : Int) = txqlen) ∧
      (0 ≤ qpolicy → ((mpdccptunSetqueue state txqlen qpolicy calls.txqlen
          calls.qpolicy).2.tdat.xmitQueue.policy,
        (mpdccptunSetqueue state txqlen qpolicy calls.txqlen calls.qpolicy).2.tdat.qpolicy) =
          policyPair qpolicy) := by
  obtain ⟨stored, storedEq, ⟨-, -, lenEq, -⟩, policySet, -⟩ :=
    setQueuePolicy_spec (storeTxqlen state.tdat txqlen) inRange
  have upper := inRange.lengthUpper
  have length : 0 ≤ txqlen → (stored.txQlen : Int) = txqlen := by
    intro given
    rw [lenEq, storeTxqlen, if_pos given]
    change ((txqlen % 2 ^ 16).toNat : Int) = txqlen
    omega
  have limited : ∀ other : ConnState, other.tdat = stored →
      (Connection.limitQueue other txqlen).tdat.txQlen = stored.txQlen ∧
        (Connection.limitQueue other txqlen).tdat.qpolicy = stored.qpolicy ∧
        (Connection.limitQueue other txqlen).tdat.xmitQueue.policy =
          stored.xmitQueue.policy := by
    intro other same
    unfold Connection.limitQueue Queue.tpqSetMaxlen
    rw [same]
    split_ifs <;> simp [same]
  unfold mpdccptunSetqueue at success ⊢
  cases stopped : state.tdat.tostop with
  | true =>
      have refused : (-EPERM : Int) ≠ 0 := by decide
      rw [stopped] at success
      exact absurd success refused
  | false =>
      simp only [Bool.false_eq_true, if_false, storedEq]
      split_ifs
      · obtain ⟨lenKept, qpolicyKept, policyKept⟩ := limited { state with tdat := stored } rfl
        rw [setSocketQueue_tdat, lenKept, qpolicyKept, policyKept]
        exact ⟨length, policySet⟩
      · exact ⟨length, policySet⟩

/-- An MTU out of range is not set, and the request succeeds. -/
theorem setMtu_effect {mtu : Nat} (fits : mtu < 2 ^ 32)
    (named : devGetByName configured.refs.system net name = some id)
    (found : ldtdev configured.refs.system id = some tdev) (active : tdev.active = true) :
    ((ldtNlSetMtu configured net name mtu).1 = 0 →
        (ldtNlSetMtu configured net name mtu).2.mtu id = mtu) ↔
      1280 ≤ mtu ∧ mtu ≤ 65535 ∨ configured.mtu id = mtu := by
  have foundHeld : ldtdev (devHold configured.refs id).system id = some tdev := found
  have looked : ldtdevByname configured.refs net name =
      (some (id, tdev), devHold configured.refs id) := by
    rw [ldtdevByname, named]
    simp only [foundHeld]
  have value : toInt32 mtu = if mtu < 2 ^ 31 then (mtu : Int) else mtu - 2 ^ 32 := rfl
  unfold ldtNlSetMtu ldtDevSetMtu tpdevChangeMtu
  simp only [looked, active, Bool.not_true, Bool.false_eq_true, if_false]
  by_cases inRange : 1280 ≤ mtu ∧ mtu ≤ 65535
  · have exactly : toInt32 mtu = mtu := by
      rw [value, if_pos (by omega)]
    rw [exactly, if_neg (by omega), if_neg (by omega)]
    simp only [Function.update_self, Int.toNat_natCast]
    exact iff_of_true (fun _ => trivial) (.inl inRange)
  · have kept : ∀ changed : Configured, (if toInt32 mtu < 1280 then
        ((0 : Int), { configured with refs := devHold configured.refs id })
        else if toInt32 mtu > 65535 then
          (0, { configured with refs := devHold configured.refs id })
        else (0, changed)) =
          (0, { configured with refs := devHold configured.refs id }) := by
      intro changed
      rw [value]
      split_ifs
      · rfl
      · rfl
      · omega
      · rfl
      · rfl
      · omega
    simp only [kept, forall_const]
    exact ⟨.inr, fun served => served.resolve_left inRange⟩

theorem ldtDevBind_effect {system : System} (found : ldtdev system id = some tdev)
    (active : tdev.active = true) {laddr : TpAddr} (fits : tpAddrCp laddr = laddr) :
    ((ldtDevBind system id tdev laddr).1 = 0 →
        HasTunnel (ldtDevBind system id tdev laddr).2 id fun tdat => tdat.addr.laddr = laddr) ↔
      tdev.tun.tunops ≠ none ∧
        ∀ state, tdev.tun.tundata = some state → state.tdat.tostop = true →
          state.tdat.addr.laddr = laddr := by
  have effect := hasTunnel_iff_of_rebind found
    (fun state => mpdccptunBind state (some laddr) 0) fun tdat => tdat.addr.laddr = laddr
  simp only [mpdccptunBind_effect fits] at effect
  simp only [ldtDevBind, active, Bool.not_true, Bool.false_eq_true, if_false, ldtTunBind]
  exact effect

theorem ldtDevPeer_effect {system : System} (found : ldtdev system id = some tdev)
    (active : tdev.active = true) {raddr : TpAddr} (fits : tpAddrCp raddr = raddr) :
    ((ldtDevPeer system id tdev (some raddr)).1 = 0 →
        HasTunnel (ldtDevPeer system id tdev (some raddr)).2 id fun tdat =>
          tdat.addr.raddr = raddr) ↔
      tdev.tun.tunops ≠ none := by
  have effect := hasTunnel_iff_of_rebind found (fun state => mpdccptunPeer state (some raddr))
    fun tdat => tdat.addr.raddr = raddr
  simp only [ldtDevPeer, active, Bool.not_true, Bool.false_eq_true, if_false]
  rw [effect, and_iff_left_iff_imp]
  intro _ state _ success
  exact mpdccptunPeer_effect fits state success

theorem ldtDevServerstart_effect {system : System} (found : ldtdev system id = some tdev)
    (active : tdev.active = true) :
    ((ldtDevServerstart system id tdev).1 = 0 →
        HasTunnel (ldtDevServerstart system id tdev).2 id fun tdat => tdat.isserver = true) ↔
      tdev.tun.tunops ≠ none := by
  unfold ldtDevServerstart
  rw [hasTunnel_iff_of_quiet found active mpdccptunServerstart fun tdat => tdat.isserver = true,
    and_iff_left_iff_imp]
  intro _ state _ success
  exact mpdccptunServerstart_effect state success

theorem ldtDevSetqueue_effect {system : System} (found : ldtdev system id = some tdev)
    (active : tdev.active = true) {txqlen qpolicy : Int} (fits : InRange txqlen qpolicy)
    (calls : SetqueueCalls) :
    ((ldtDevSetqueue system id tdev txqlen qpolicy calls.txqlen calls.qpolicy).1 = 0 →
        (0 ≤ txqlen → HasTunnel (ldtDevSetqueue system id tdev txqlen qpolicy calls.txqlen
            calls.qpolicy).2 id fun tdat => (tdat.txQlen : Int) = txqlen) ∧
          (0 ≤ qpolicy → HasTunnel (ldtDevSetqueue system id tdev txqlen qpolicy calls.txqlen
              calls.qpolicy).2 id fun tdat =>
            (tdat.xmitQueue.policy, tdat.qpolicy) = policyPair qpolicy)) ↔
      tdev.tun.tunops ≠ none ∨ txqlen < 0 ∧ qpolicy < 0 := by
  have length := hasTunnel_iff_of_quiet found active (fun state =>
    mpdccptunSetqueue state txqlen qpolicy calls.txqlen calls.qpolicy) fun tdat =>
      0 ≤ txqlen → (tdat.txQlen : Int) = txqlen
  have policy := hasTunnel_iff_of_quiet found active (fun state =>
    mpdccptunSetqueue state txqlen qpolicy calls.txqlen calls.qpolicy) fun tdat =>
      0 ≤ qpolicy → (tdat.xmitQueue.policy, tdat.qpolicy) = policyPair qpolicy
  unfold ldtDevSetqueue
  cases ops : tdev.tun.tunops with
  | some tunops =>
      have present : tdev.tun.tunops ≠ none := by
        rw [ops]
        exact Option.some_ne_none tunops
      refine iff_of_true ?_ (.inl (Option.some_ne_none tunops))
      intro success
      constructor
      · intro given
        obtain ⟨opsAfter, state, after, holds⟩ := length.mpr ⟨present, fun state _ done =>
          (mpdccptunSetqueue_effect fits calls state done).1⟩ success
        exact ⟨opsAfter, state, after, holds given⟩
      · intro given
        obtain ⟨opsAfter, state, after, holds⟩ := policy.mpr ⟨present, fun state _ done =>
          (mpdccptunSetqueue_effect fits calls state done).2⟩ success
        exact ⟨opsAfter, state, after, holds given⟩
  | none =>
      have absent : ∀ Property, ¬ HasTunnel system id Property := not_hasTunnel found ops
      simp only [requestQuiet, active, ops, Bool.not_true, Bool.false_eq_true, if_false,
        Option.isSome_none, absent, imp_false, forall_const, not_le, ne_eq, not_true_eq_false,
        false_or]

/-- The handler does what the operation of the device does. -/
theorem effect_iff_of_onSystem {operation : System → NdevId → LdtDev → Int × System}
    (named : devGetByName configured.refs.system net name = some id)
    (found : ldtdev configured.refs.system id = some tdev) (Property : System → Prop)
    {served : Prop}
    (effect : ((operation configured.refs.system id tdev).1 = 0 →
      Property (operation configured.refs.system id tdev).2) ↔ served) :
    ((ldtNlOnDev (onSystem operation) configured.refs net name).1 = 0 →
        Property (ldtNlOnDev (onSystem operation) configured.refs net name).2.system) ↔
      served := by
  obtain ⟨retEq, systemEq⟩ := ldtNlOnDev_onSystem named found
  rw [retEq, systemEq]
  exact effect

/-- A request to an active device that succeeds has done what it was for, if and only if
the device has a tunnel for it that is not being stopped, or the MTU is in range; or what
is requested is so already. -/
theorem effect_iff_serves {cmd : Nat} {attrs : Nat → Option (List UInt8)} {request : Request}
    (read : readRequest cmd attrs = some (.ok (name, request)))
    (named : devGetByName configured.refs.system net name = some id)
    (found : ldtdev configured.refs.system id = some tdev) (active : tdev.active = true)
    (calls : SetqueueCalls) :
    ((handle configured net name calls request).1 = 0 →
        Effect (handle configured net name calls request).2 id request) ↔
      Serves configured id tdev.tun request := by
  have fits := wellFormed_of_read read
  cases request with
  | setMtu mtu => exact setMtu_effect fits named found active
  | bind laddr =>
      exact effect_iff_of_onSystem named found
        (fun system => HasTunnel system id fun tdat => tdat.addr.laddr = laddr)
        (ldtDevBind_effect found active fits)
  | peer raddr =>
      cases raddr with
      | none => exact iff_of_true (fun _ => trivial) trivial
      | some raddr =>
          exact effect_iff_of_onSystem named found
            (fun system => HasTunnel system id fun tdat => tdat.addr.raddr = raddr)
            (ldtDevPeer_effect found active (fits raddr rfl))
  | serverstart =>
      exact effect_iff_of_onSystem named found
        (fun system => HasTunnel system id fun tdat => tdat.isserver = true)
        (ldtDevServerstart_effect found active)
  | setQueue txqlen qpolicy =>
      exact effect_iff_of_onSystem named found
        (fun system =>
          (0 ≤ txqlen → HasTunnel system id fun tdat => (tdat.txQlen : Int) = txqlen) ∧
            (0 ≤ qpolicy → HasTunnel system id fun tdat =>
              (tdat.xmitQueue.policy, tdat.qpolicy) = policyPair qpolicy))
        (ldtDevSetqueue_effect found active fits calls)

end

/-- The attributes of a request to bind. -/
def bindAttrs : Nat → Option (List UInt8) :=
  NetlinkAttribute.lookup [(1, ascii "ldt0" ++ [0]), (2, littleEndian 4 7), (4, littleEndian 2 80)]

def withTunnel : Configured where
  refs := connected.refs
  mtu := fun _ => 1500

def withoutTunnel : Configured where
  refs := ⟨(LabelledRun.run (Device.step 100) boot
    [.createDev 0 none (ascii "ldt0") true 0]).getD boot, []⟩
  mtu := fun _ => 1500

/-- A device with a tunnel is bound to the address. -/
theorem effect_bind_withTunnel :
    (handle withTunnel 0 (ascii "ldt0") ⟨0, 0⟩ (.bind (tpAddrSetipv4 7 80))).1 = 0 ∧
      Effect (handle withTunnel 0 (ascii "ldt0") ⟨0, 0⟩ (.bind (tpAddrSetipv4 7 80))).2 0
        (.bind (tpAddrSetipv4 7 80)) := by
  have read : readRequest CommandRequest.LDT_CMD_BIND bindAttrs =
      some (.ok (ascii "ldt0", .bind (tpAddrSetipv4 7 80))) := rfl
  have equivalence := @effect_iff_serves withTunnel 0 _ 0 _ _ _ _ read rfl rfl rfl ⟨0, 0⟩
  refine ⟨rfl, equivalence.mpr ⟨nofun, ?_⟩ rfl⟩
  intro state same stopped
  rw [← Option.some.inj same] at stopped
  contradiction

/-- Without a tunnel the request succeeds, and so does one for an MTU of 100. -/
theorem not_effect_withoutTunnel :
    ((handle withoutTunnel 0 (ascii "ldt0") ⟨0, 0⟩ (.bind (tpAddrSetipv4 7 80))).1 = 0 ∧
        ¬ Effect (handle withoutTunnel 0 (ascii "ldt0") ⟨0, 0⟩
          (.bind (tpAddrSetipv4 7 80))).2 0 (.bind (tpAddrSetipv4 7 80))) ∧
      (handle withTunnel 0 (ascii "ldt0") ⟨0, 0⟩ (.setMtu 100)).1 = 0 ∧
        ¬ Effect (handle withTunnel 0 (ascii "ldt0") ⟨0, 0⟩ (.setMtu 100)).2 0
          (.setMtu 100) := by
  refine ⟨⟨rfl, ?_⟩, rfl, ?_⟩
  · rintro ⟨present, -⟩
    exact present rfl
  · intro inEffect
    have value : (1500 : Nat) = 100 := inEffect
    contradiction

end Tunprox.RequestEffect
