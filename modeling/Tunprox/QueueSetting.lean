import Tunprox.CommandRequest
import Tunprox.DeviceRequest

/-!
# Queue settings, from the command line to the socket

`cmd_setqueue` reads the length and the policy, -1 standing for what is not given.
`ldt_tun_setqueue` puts them into a message, the length only if it is greater than zero.
`ldt_nl_set_queue` makes -1 of an attribute that is not there, and `mpdccptun_setqueue`
stores what is not negative: in the tunnel, in its packet queue, which takes no length below
one, and in the socket of a bound tunnel.
-/

namespace Tunprox.QueueSetting

open Errno Queue Device DeviceReference DeviceRequest
open ByteBuffer NetlinkAttribute NetlinkMessage NetlinkRequest CommandRequest
open Connection (ConnState setQueuePolicy storeTxqlen Backed mpdccptunSetqueue
  LDT_CMD_SETQUEUE_QPOLICY_DROP_NEWEST LDT_CMD_SETQUEUE_QPOLICY_DROP_OLDEST)
open Netlink (RERR_OK RERR_INTERNAL RERR_PARAM)

def LDT_CMD_SET_QUEUE : Nat := 14

def LDT_CMD_SETQUEUE_ATTR_NAME : Nat := 1
def LDT_CMD_SETQUEUE_ATTR_TXQLEN : Nat := 2
def LDT_CMD_SETQUEUE_ATTR_QPOLICY : Nat := 3

def LDT_CMD_SETQUEUE_QPOLICY_MAX : Int := 1

/-- An option of `setqueue`, as `getopt` finds it. -/
inductive SetqueueOpt where
  | help
  | txqlen (optarg : List UInt8)
  | qpolicy (optarg : List UInt8)
  | other

/-- The switch over the names of the policies. -/
def qpolicyOf (optarg : List UInt8) : Option Int :=
  if [ascii "drop_oldest", ascii "dropoldest", ascii "drop-oldest", ascii "oldest"].any
      fun name => strcaseeq name optarg then
    some LDT_CMD_SETQUEUE_QPOLICY_DROP_OLDEST
  else if [ascii "drop_newest", ascii "dropnewest", ascii "drop-newest", ascii "newest"].any
      fun name => strcaseeq name optarg then
    some LDT_CMD_SETQUEUE_QPOLICY_DROP_NEWEST
  else none

/-- The loop of `cmd_setqueue` over its options: what it returns early, or the length and
the policy it calls `ldt_tun_setqueue` with. -/
def cmdSetqueue (txqlen qpolicy : Int) : List SetqueueOpt → Except Int (Int × Int)
  | [] => .ok (txqlen, qpolicy)
  | .help :: _ => .error RERR_OK
  | .txqlen optarg :: rest =>
      if atoi optarg < 0 ∨ atoi optarg > 65535 then .error RERR_PARAM
      else cmdSetqueue (atoi optarg) qpolicy rest
  | .qpolicy optarg :: rest =>
      match qpolicyOf optarg with
      | none => .error (-EINVAL)
      | some qpolicy => cmdSetqueue txqlen qpolicy rest
  | .other :: rest => cmdSetqueue txqlen qpolicy rest

/-- The attributes with the settings. -/
def settingEntries (txqlen qpolicy : Int) : List (Nat × List UInt8) :=
  (if 0 < txqlen then
    [(LDT_CMD_SETQUEUE_ATTR_TXQLEN, littleEndian 2 (txqlen % 2 ^ 16).toNat)]
  else []) ++
  (if 0 ≤ qpolicy then
    [(LDT_CMD_SETQUEUE_ATTR_QPOLICY, littleEndian 2 (qpolicy % 2 ^ 16).toNat)]
  else [])

/-- `ldt_tun_setqueue` up to `ldt_nl_send`. -/
def ldtTunSetqueue (name : Option CStr) (txqlen qpolicy : Int) :
    Option (Except Int (List UInt8)) :=
  match name with
  | none => some (.error RERR_PARAM)
  | some name =>
      request LDT_CMD_SET_QUEUE (FNL_MSGMINLEN + strlen name.terminated + (24 + 128)) none
        ((LDT_CMD_SETQUEUE_ATTR_NAME, name.terminated) :: settingEntries txqlen qpolicy) []

/-- The settings in the attributes, as `ldt_nl_set_queue` reads them. -/
def setQueueAttrs (attrs : Nat → Option (List UInt8)) :
    Except Int (List UInt8 × Int × Int) :=
  match attrs LDT_CMD_SETQUEUE_ATTR_NAME with
  | none => .error (-EINVAL)
  | some name =>
      let txqlen : Int := ((attrs LDT_CMD_SETQUEUE_ATTR_TXQLEN).map fun payload =>
        (nlaGetU16 payload : Int)).getD (-1)
      let qpolicy : Int := ((attrs LDT_CMD_SETQUEUE_ATTR_QPOLICY).map fun payload =>
        (nlaGetU16 payload : Int)).getD (-1)
      if qpolicy > LDT_CMD_SETQUEUE_QPOLICY_MAX then .error (-ERANGE)
      else .ok (cstring name, txqlen, qpolicy)

/-- The queueing options of a DCCP socket. -/
structure SockQueue where
  qlen : Int
  qpolicy : DccpqPolicy
  deriving DecidableEq, Repr

/-- The results of the `setsockopt` calls of `mpdccptun_setqueue`. -/
structure SetqueueCalls where
  txqlen : Int
  qpolicy : Int

/-- What the `setsockopt` calls of `mpdccptun_setqueue` make of the options of the socket. -/
def setsockopts (state : ConnState) (options : SockQueue) (txqlen qpolicy : Int)
    (calls : SetqueueCalls) : SockQueue :=
  if state.tdat.tostop then options
  else
    match setQueuePolicy (storeTxqlen state.tdat txqlen) qpolicy with
    | none => options
    | some tdat =>
        if !tdat.bound || tdat.sock.isNone then options
        else if 0 ≤ txqlen ∧ calls.txqlen < 0 then options
        else
          let lengthened := if 0 ≤ txqlen then { options with qlen := txqlen } else options
          if 0 ≤ qpolicy ∧ 0 ≤ calls.qpolicy then { lengthened with qpolicy := tdat.qpolicy }
          else lengthened

/-- The devices, and the options of the socket `tdat->sock` of the tunnel in each. -/
structure Queued where
  refs : RefState
  sockQueue : NdevId → SockQueue

/-- The options after a request to the device. -/
def ldtDevSetsockopts (tdev : LdtDev) (options : SockQueue) (txqlen qpolicy : Int)
    (calls : SetqueueCalls) : SockQueue :=
  match tdev.active, tdev.tun.tunops, tdev.tun.tundata with
  | true, some _, some state => setsockopts state options txqlen qpolicy calls
  | _, _, _ => options

/-- The options after a request to the device of that name. -/
def optionsByName (queued : Queued) (net : NetId) (name : List UInt8) (txqlen qpolicy : Int)
    (calls : SetqueueCalls) : NdevId → SockQueue :=
  match devGetByName queued.refs.system net name with
  | none => queued.sockQueue
  | some id =>
      match ldtdev queued.refs.system id with
      | none => queued.sockQueue
      | some tdev =>
          Function.update queued.sockQueue id
            (ldtDevSetsockopts tdev (queued.sockQueue id) txqlen qpolicy calls)

/-- `ldt_nl_set_queue` -/
def ldtNlSetQueue (queued : Queued) (net : NetId) (attrs : Nat → Option (List UInt8))
    (calls : SetqueueCalls) : Int × Queued :=
  match setQueueAttrs attrs with
  | .error ret => (ret, queued)
  | .ok (name, txqlen, qpolicy) =>
      match DeviceReference.ldtNlSetQueue queued.refs net name txqlen qpolicy calls.txqlen
          calls.qpolicy with
      | (ret, refs) => (ret, ⟨refs, optionsByName queued net name txqlen qpolicy calls⟩)

/-- `ldt_tun_setqueue` with the module behind it.  Its result is what the message was given
up with, or that of the handler, which the answer reports. -/
def setqueue (family : Family) (seq portid : Nat) (queued : Queued) (net : NetId)
    (name : CStr) (txqlen qpolicy : Int) (calls : SetqueueCalls) : Option (Int × Queued) :=
  ((ldtTunSetqueue (some name) txqlen qpolicy).map
      (Except.map (fnlSend family seq portid))).map fun outcome =>
    match outcome with
    | .error ret => (ret, queued)
    | .ok msg =>
        ldtNlSetQueue queued net (infoAttr (msg.drop (NLMSG_HDRLEN + GENL_HDRLEN))) calls

/-- The policy of the packet queue and that of the socket that a requested one stands for. -/
def policyPair (qpolicy : Int) : Int × DccpqPolicy :=
  if qpolicy = LDT_CMD_SETQUEUE_QPOLICY_DROP_OLDEST then (TP_QUEUE_DROP_OLDEST, .dropOldest)
  else (TP_QUEUE_DROP_NEWEST, .dropNewest)

/-- The requested settings are in effect, and the others are what they were. -/
structure Settled (before : Mpdccptun) (options : SockQueue) (tdat : Mpdccptun)
    (sockQueue : SockQueue) (txqlen qpolicy : Int) : Prop where
  lengthSet : 0 ≤ txqlen → (tdat.txQlen : Int) = txqlen ∧ tdat.xmitQueue.qMaxlen = txqlen ∧
    sockQueue.qlen = txqlen
  policySet : 0 ≤ qpolicy →
    (tdat.xmitQueue.policy, tdat.qpolicy) = policyPair qpolicy ∧
      sockQueue.qpolicy = tdat.qpolicy
  lengthKept : txqlen < 0 → tdat.txQlen = before.txQlen ∧
    tdat.xmitQueue.qMaxlen = before.xmitQueue.qMaxlen ∧ sockQueue.qlen = options.qlen
  policyKept : qpolicy < 0 → tdat.xmitQueue.policy = before.xmitQueue.policy ∧
    tdat.qpolicy = before.qpolicy ∧ sockQueue.qpolicy = options.qpolicy

/-- The length is zero in all three places. -/
def AlreadyZero (tdat : Mpdccptun) (options : SockQueue) : Prop :=
  tdat.txQlen = 0 ∧ tdat.xmitQueue.qMaxlen = 0 ∧ options.qlen = 0

theorem qpolicyOf_cases {optarg : List UInt8} {qpolicy : Int}
    (known : qpolicyOf optarg = some qpolicy) : qpolicy = 0 ∨ qpolicy = 1 := by
  unfold qpolicyOf at known
  split_ifs at known
  · exact .inr (Option.some.inj known).symm
  · exact .inl (Option.some.inj known).symm

/-- The values that `cmd_setqueue` passes on. -/
structure InRange (txqlen qpolicy : Int) : Prop where
  lengthLower : -1 ≤ txqlen
  lengthUpper : txqlen ≤ 65535
  policyLower : -1 ≤ qpolicy
  policyUpper : qpolicy ≤ LDT_CMD_SETQUEUE_QPOLICY_MAX

theorem inRange_cmdSetqueue {opts : List SetqueueOpt} {txqlen qpolicy : Int}
    (start : InRange txqlen qpolicy) {values : Int × Int}
    (accepted : cmdSetqueue txqlen qpolicy opts = .ok values) :
    InRange values.1 values.2 := by
  induction opts generalizing txqlen qpolicy with
  | nil =>
      rw [cmdSetqueue, Except.ok.injEq] at accepted
      rw [← accepted]
      exact start
  | cons opt rest ih =>
      cases opt with
      | help => contradiction
      | txqlen optarg =>
          rw [cmdSetqueue] at accepted
          split_ifs at accepted with outside
          rw [not_or] at outside
          refine ih ⟨?_, ?_, start.policyLower, start.policyUpper⟩ accepted
          · omega
          · omega
      | qpolicy optarg =>
          rw [cmdSetqueue] at accepted
          cases known : qpolicyOf optarg with
          | none =>
              rw [known] at accepted
              contradiction
          | some qpolicy =>
              rw [known] at accepted
              have named := qpolicyOf_cases known
              have upper : LDT_CMD_SETQUEUE_QPOLICY_MAX = 1 := rfl
              refine ih ⟨start.lengthLower, start.lengthUpper, ?_, ?_⟩ accepted
              · omega
              · omega
      | other => exact ih start accepted

theorem nlaGetU16_littleEndian {value : Int} (lower : 0 ≤ value) (upper : value ≤ 65535) :
    (nlaGetU16 (littleEndian 2 (value % 2 ^ 16).toNat) : Int) = value := by
  have small : (value % 2 ^ 16).toNat < 256 ^ 2 := by omega
  rw [nlaGetU16, List.take_of_length_le (length_littleEndian 2 _).le, ofLittleEndian_of_lt small]
  omega

/-- A length that is sent arrives; -1 stands for one that is not sent. -/
def sentLength (txqlen : Int) : Int :=
  if 0 < txqlen then txqlen else -1

/-- The handler reads what the tool has put into the message. -/
theorem setQueueAttrs_lookup (name : CStr) {txqlen qpolicy : Int}
    (inRange : InRange txqlen qpolicy) :
    setQueueAttrs (lookup ((LDT_CMD_SETQUEUE_ATTR_NAME, name.terminated) ::
        settingEntries txqlen qpolicy)) =
      .ok (name.bytes, sentLength txqlen, qpolicy) := by
  have upper : LDT_CMD_SETQUEUE_QPOLICY_MAX = 1 := rfl
  have policyUpper := inRange.policyUpper
  rw [upper] at policyUpper
  have allowed : ¬ qpolicy > LDT_CMD_SETQUEUE_QPOLICY_MAX := Int.not_lt.mpr inRange.policyUpper
  have named : lookup ((LDT_CMD_SETQUEUE_ATTR_NAME, name.terminated) ::
      settingEntries txqlen qpolicy) LDT_CMD_SETQUEUE_ATTR_NAME = some name.terminated := by
    unfold settingEntries
    split_ifs <;> rfl
  have length : ((lookup ((LDT_CMD_SETQUEUE_ATTR_NAME, name.terminated) ::
      settingEntries txqlen qpolicy) LDT_CMD_SETQUEUE_ATTR_TXQLEN).map fun payload =>
        (nlaGetU16 payload : Int)).getD (-1) = sentLength txqlen := by
    unfold settingEntries sentLength
    by_cases positive : 0 < txqlen
    · have value := nlaGetU16_littleEndian positive.le inRange.lengthUpper
      rw [if_pos positive, if_pos positive]
      split_ifs
      · exact value
      · exact value
    · rw [if_neg positive, if_neg positive]
      split_ifs <;> rfl
  have policy : ((lookup ((LDT_CMD_SETQUEUE_ATTR_NAME, name.terminated) ::
      settingEntries txqlen qpolicy) LDT_CMD_SETQUEUE_ATTR_QPOLICY).map fun payload =>
        (nlaGetU16 payload : Int)).getD (-1) = qpolicy := by
    unfold settingEntries
    by_cases given : 0 ≤ qpolicy
    · have value := nlaGetU16_littleEndian given (by omega)
      rw [if_pos given]
      split_ifs
      · exact value
      · exact value
    · have absent : qpolicy = -1 := by
        have lower := inRange.policyLower
        omega
      rw [if_neg given, absent]
      split_ifs <;> rfl
  rw [setQueueAttrs, named]
  simp only [length, policy, if_neg allowed, cstring_terminated]

theorem small_settingEntries (txqlen qpolicy : Int) :
    (∀ entry ∈ settingEntries txqlen qpolicy, entry.1 < 2 ^ 14 ∧ entry.2.length ≤ 16) ∧
      (settingEntries txqlen qpolicy).length ≤ 2 := by
  have two : ∀ value : Nat, (littleEndian 2 value).length ≤ 16 := by
    intro value
    rw [length_littleEndian]
    decide
  unfold settingEntries
  split_ifs
  · simp [LDT_CMD_SETQUEUE_ATTR_TXQLEN, LDT_CMD_SETQUEUE_ATTR_QPOLICY]
  · simp [LDT_CMD_SETQUEUE_ATTR_TXQLEN]
  · simp [LDT_CMD_SETQUEUE_ATTR_QPOLICY]
  · simp

/-- A request whose name is not too long reaches the device with what the tool has sent. -/
theorem setqueue_eq (family : Family) (seq portid : Nat) (queued : Queued) (net : NetId)
    {name : Text} {txqlen qpolicy : Int} (calls : SetqueueCalls)
    (inRange : InRange txqlen qpolicy) :
    setqueue family seq portid queued net name.toCStr txqlen qpolicy calls =
      some (if TooLong name then (RERR_INTERNAL, queued)
      else
        ((DeviceReference.ldtNlSetQueue queued.refs net name.bytes (sentLength txqlen) qpolicy
            calls.txqlen calls.qpolicy).1,
          { refs := (DeviceReference.ldtNlSetQueue queued.refs net name.bytes
              (sentLength txqlen) qpolicy calls.txqlen calls.qpolicy).2
            sockQueue := optionsByName queued net name.bytes (sentLength txqlen) qpolicy
              calls })) := by
  obtain ⟨small, count⟩ := small_settingEntries txqlen qpolicy
  have built := request_of_name family seq portid name
    (show LDT_CMD_SET_QUEUE < 256 ∧ 128 ≤ 24 + 128 ∧ 24 + 128 ≤ 256 ∧
      LDT_CMD_SETQUEUE_ATTR_NAME < 2 ^ 14 by decide) small count
  rw [setqueue, ldtTunSetqueue, built, Option.map_some, Option.some.injEq]
  by_cases long : TooLong name
  · have refused : ¬ Short ((LDT_CMD_SETQUEUE_ATTR_NAME, name.terminated) ::
        settingEntries txqlen qpolicy) := by
      rw [short_of_name small, not_not]
      exact long
    rw [if_neg refused, if_pos long]
  · have short : Short ((LDT_CMD_SETQUEUE_ATTR_NAME, name.terminated) ::
        settingEntries txqlen qpolicy) := (short_of_name small).mpr long
    have valid : Valid ((LDT_CMD_SETQUEUE_ATTR_NAME, name.terminated) ::
        settingEntries txqlen qpolicy) := by
      intro entry member
      refine ⟨?_, short entry member⟩
      rcases List.mem_cons.mp member with rfl | member
      · exact (show LDT_CMD_SETQUEUE_ATTR_NAME < 2 ^ 14 by decide)
      · exact (small entry member).1
    have attrs : infoAttr (attrsBytes ((LDT_CMD_SETQUEUE_ATTR_NAME, name.terminated) ::
        settingEntries txqlen qpolicy)) = lookup ((LDT_CMD_SETQUEUE_ATTR_NAME,
          name.terminated) :: settingEntries txqlen qpolicy) := by
      funext id
      exact infoAttr_attrsBytes valid id
    rw [if_pos short, if_neg long]
    dsimp only
    rw [drop_requestMessage, attrs, ldtNlSetQueue, setQueueAttrs_lookup name.toCStr inRange]

theorem handler_of_success {family : Family} {seq portid : Nat} {queued next : Queued}
    {net : NetId} {name : Text} {txqlen qpolicy : Int} {calls : SetqueueCalls}
    (inRange : InRange txqlen qpolicy)
    (success : setqueue family seq portid queued net name.toCStr txqlen qpolicy calls =
      some (0, next)) :
    DeviceReference.ldtNlSetQueue queued.refs net name.bytes (sentLength txqlen) qpolicy
        calls.txqlen calls.qpolicy = (0, next.refs) ∧
      next.sockQueue =
        optionsByName queued net name.bytes (sentLength txqlen) qpolicy calls := by
  rw [setqueue_eq family seq portid queued net calls inRange, Option.some.injEq] at success
  by_cases long : TooLong name
  · rw [if_pos long] at success
    have failed := congrArg Prod.fst success
    contradiction
  · rw [if_neg long, Prod.mk.injEq] at success
    obtain ⟨ret, nextEq⟩ := success
    rw [← nextEq]
    exact ⟨Prod.ext ret rfl, rfl⟩

/-- The length is stored and nothing else is. -/
theorem storeTxqlen_frame (tdat : Mpdccptun) (txqlen : Int) :
    (storeTxqlen tdat txqlen).bound = tdat.bound ∧
      (storeTxqlen tdat txqlen).sock = tdat.sock ∧
        (storeTxqlen tdat txqlen).qpolicy = tdat.qpolicy ∧
          (storeTxqlen tdat txqlen).xmitQueue = tdat.xmitQueue := by
  unfold storeTxqlen
  split_ifs <;> exact ⟨rfl, rfl, rfl, rfl⟩

/-- The switch over the policies ends the request for the unsupported ones and otherwise
sets both forms of the policy. -/
theorem setQueuePolicy_cases (tdat : Mpdccptun) (qpolicy : Int) :
    (LDT_CMD_SETQUEUE_QPOLICY_MAX < qpolicy ∧ setQueuePolicy tdat qpolicy = none) ∨
      (qpolicy ≤ LDT_CMD_SETQUEUE_QPOLICY_MAX ∧
        setQueuePolicy tdat qpolicy =
          some (if 0 ≤ qpolicy then
            { tdat with
              qpolicy := (policyPair qpolicy).2
              xmitQueue := { tdat.xmitQueue with policy := (policyPair qpolicy).1 } }
          else tdat)) := by
  have upper : LDT_CMD_SETQUEUE_QPOLICY_MAX = 1 := rfl
  have values : qpolicy < 0 ∨ qpolicy = 0 ∨ qpolicy = 1 ∨ 1 < qpolicy := by omega
  rcases values with negative | rfl | rfl | unsupported
  · refine Or.inr ⟨by omega, ?_⟩
    rw [if_neg (Int.not_le.mpr negative), setQueuePolicy, if_pos negative]
  · exact Or.inr ⟨by decide, rfl⟩
  · exact Or.inr ⟨by decide, rfl⟩
  · refine Or.inl ⟨unsupported, ?_⟩
    have notOldest : qpolicy ≠ LDT_CMD_SETQUEUE_QPOLICY_DROP_OLDEST := by
      unfold LDT_CMD_SETQUEUE_QPOLICY_DROP_OLDEST
      omega
    have notNewest : qpolicy ≠ LDT_CMD_SETQUEUE_QPOLICY_DROP_NEWEST := by
      unfold LDT_CMD_SETQUEUE_QPOLICY_DROP_NEWEST
      omega
    have nonneg : ¬ qpolicy < 0 := by omega
    rw [setQueuePolicy, if_neg nonneg, if_neg notOldest, if_neg notNewest]

/-- A policy in the range is stored in both of its forms, and nothing else is. -/
theorem setQueuePolicy_spec (tdat : Mpdccptun) {txqlen qpolicy : Int}
    (inRange : InRange txqlen qpolicy) :
    ∃ stored, setQueuePolicy tdat qpolicy = some stored ∧
      (stored.bound = tdat.bound ∧ stored.sock = tdat.sock ∧ stored.txQlen = tdat.txQlen ∧
        stored.xmitQueue.qMaxlen = tdat.xmitQueue.qMaxlen) ∧
      (0 ≤ qpolicy → (stored.xmitQueue.policy, stored.qpolicy) = policyPair qpolicy) ∧
      (qpolicy < 0 → stored = tdat) := by
  rcases setQueuePolicy_cases tdat qpolicy with ⟨unsupported, -⟩ | ⟨-, set⟩
  · exact absurd inRange.policyUpper (Int.not_le.mpr unsupported)
  · by_cases given : 0 ≤ qpolicy
    · rw [if_pos given] at set
      exact ⟨_, set, ⟨rfl, rfl, rfl, rfl⟩, fun _ => rfl, fun negative =>
        absurd given (Int.not_le.mpr negative)⟩
    · rw [if_neg given] at set
      exact ⟨_, set, ⟨rfl, rfl, rfl, rfl⟩, fun other => absurd other given, fun _ => rfl⟩

/-- The options of the socket are no part of the tunnel. -/
theorem setSocketQueue_tdat (state : ConnState)
    (txqlen qpolicy txqlenRet qpolicyRet : Int) :
    (Connection.setSocketQueue state txqlen qpolicy txqlenRet qpolicyRet).2.tdat =
      (Connection.limitQueue state txqlen).tdat := by
  unfold Connection.setSocketQueue
  split_ifs <;> rfl

section
variable {state : ConnState} {txqlen qpolicy : Int} {calls : SetqueueCalls} {stored : Mpdccptun}
  (live : state.tdat.tostop = false)
  (storedEq : setQueuePolicy (storeTxqlen state.tdat txqlen) qpolicy = some stored)
  (bound : stored.bound = true)
include live storedEq bound

/-- What a bound tunnel stores of a request. -/
theorem tdat_mpdccptunSetqueue :
    (mpdccptunSetqueue state txqlen qpolicy calls.txqlen calls.qpolicy).2.tdat =
      (Connection.limitQueue { state with tdat := stored } txqlen).tdat := by
  unfold mpdccptunSetqueue
  rw [live, storedEq]
  simp only [Bool.false_eq_true, if_false, bound, if_true]
  exact setSocketQueue_tdat _ _ _ _ _

/-- What a socket that refuses nothing gets of it. -/
theorem setsockopts_of_set (options : SockQueue) (sock : stored.sock ≠ none)
    (set : 0 ≤ calls.txqlen ∧ 0 ≤ calls.qpolicy) :
    setsockopts state options txqlen qpolicy calls =
      { qlen := if 0 ≤ txqlen then txqlen else options.qlen
        qpolicy := if 0 ≤ qpolicy then stored.qpolicy else options.qpolicy } := by
  have noSock : stored.sock.isNone = false := by
    rw [← Bool.not_eq_true, Option.isNone_iff_eq_none]
    exact sock
  have succeeded : ¬ (0 ≤ txqlen ∧ calls.txqlen < 0) := fun failed =>
    absurd set.1 (Int.not_le.mpr failed.2)
  unfold setsockopts
  rw [live, storedEq]
  simp only [Bool.false_eq_true, if_false, bound, noSock, Bool.not_true, Bool.or_self,
    if_neg succeeded, set.2, and_true]
  split_ifs <;> rfl

end

/-- With a length of at least one, or none, the tunnel and its socket get the settings. -/
theorem settled_mpdccptunSetqueue {state : ConnState} {txqlen qpolicy : Int}
    {calls : SetqueueCalls} (inRange : InRange txqlen qpolicy) (nonzero : txqlen ≠ 0)
    (live : state.tdat.tostop = false) (bound : state.tdat.bound = true)
    (backed : Backed state) (set : 0 ≤ calls.txqlen ∧ 0 ≤ calls.qpolicy)
    (options : SockQueue) :
    Settled state.tdat options
      (mpdccptunSetqueue state txqlen qpolicy calls.txqlen calls.qpolicy).2.tdat
      (setsockopts state options txqlen qpolicy calls) txqlen qpolicy := by
  have sock : state.tdat.sock ≠ none := Option.isSome_iff_ne_none.mp (backed bound)
  obtain ⟨stored, storedEq, ⟨boundEq, sockEq, lenEq, maxEq⟩, policySet, policyKept⟩ :=
    setQueuePolicy_spec (storeTxqlen state.tdat txqlen) inRange
  obtain ⟨sameBound, sameSock, samePolicy, sameQueue⟩ := storeTxqlen_frame state.tdat txqlen
  rw [tdat_mpdccptunSetqueue live storedEq (boundEq.trans (sameBound.trans bound)),
    setsockopts_of_set live storedEq (boundEq.trans (sameBound.trans bound)) options
      (sockEq.trans sameSock ▸ sock) set]
  have kept : qpolicy < 0 → stored.xmitQueue.policy = state.tdat.xmitQueue.policy ∧
      stored.qpolicy = state.tdat.qpolicy := by
    intro absent
    rw [policyKept absent, sameQueue, samePolicy]
    exact ⟨rfl, rfl⟩
  by_cases given : 0 ≤ txqlen
  · have positive : ¬ txqlen < 1 := by omega
    have upper := inRange.lengthUpper
    have limited : (Connection.limitQueue { state with tdat := stored } txqlen).tdat =
        { stored with xmitQueue := { stored.xmitQueue with qMaxlen := txqlen } } := by
      simp only [Connection.limitQueue, if_pos given, tpqSetMaxlen, if_neg positive]
    have length : (storeTxqlen state.tdat txqlen).txQlen = (txqlen % 2 ^ 16).toNat := by
      rw [storeTxqlen, if_pos given]
    rw [limited]
    refine ⟨fun _ => ⟨?_, rfl, if_pos given⟩, ?_, fun negative => by omega, ?_⟩
    · change (stored.txQlen : Int) = txqlen
      rw [lenEq, length]
      omega
    · intro requested
      exact ⟨policySet requested, if_pos requested⟩
    · intro absent
      exact ⟨(kept absent).1, (kept absent).2, if_neg (Int.not_le.mpr absent)⟩
  · have limited : (Connection.limitQueue { state with tdat := stored } txqlen).tdat =
        stored := by
      rw [Connection.limitQueue, if_neg given]
    have unchanged : storeTxqlen state.tdat txqlen = state.tdat := if_neg given
    rw [unchanged] at lenEq maxEq
    rw [limited]
    refine ⟨fun requested => absurd requested given, ?_, ?_, ?_⟩
    · intro requested
      exact ⟨policySet requested, if_pos requested⟩
    · intro _
      exact ⟨lenEq, maxEq, if_neg given⟩
    · intro absent
      exact ⟨(kept absent).1, (kept absent).2, if_neg (Int.not_le.mpr absent)⟩

/-- The device that has the name gets the request. -/
theorem device_of_success {queued : Queued} {refs : RefState} {net : NetId}
    {name : List UInt8} {txqlen qpolicy : Int} {calls : SetqueueCalls} {id : NdevId}
    {tdev : LdtDev} {state : ConnState}
    (handled : DeviceReference.ldtNlSetQueue queued.refs net name txqlen qpolicy calls.txqlen
      calls.qpolicy = (0, refs))
    (named : devGetByName queued.refs.system net name = some id)
    (found : ldtdev queued.refs.system id = some tdev) (ops : tdev.tun.tunops ≠ none)
    (tunnel : tdev.tun.tundata = some state) :
    state.tdat.tostop = false ∧
      (tunOf refs.system id).tundata = some
        (mpdccptunSetqueue state txqlen qpolicy calls.txqlen calls.qpolicy).2 ∧
      optionsByName queued net name txqlen qpolicy calls id =
        setsockopts state (queued.sockQueue id) txqlen qpolicy calls := by
  obtain ⟨tunops, opsEq⟩ := Option.ne_none_iff_exists'.mp ops
  obtain ⟨retEq, systemEq⟩ := @ldtNlOnDev_onSystem (fun system id tdev =>
    ldtDevSetqueue system id tdev txqlen qpolicy calls.txqlen calls.qpolicy) _ _ _ _ _ named found
  have ret : (ldtDevSetqueue queued.refs.system id tdev txqlen qpolicy calls.txqlen
      calls.qpolicy).1 = 0 := retEq.symm.trans (congrArg Prod.fst handled)
  have next : refs.system = (ldtDevSetqueue queued.refs.system id tdev txqlen qpolicy
      calls.txqlen calls.qpolicy).2 :=
    (congrArg (fun result => result.2.system) handled).symm.trans systemEq
  simp only [ldtDevSetqueue, requestQuiet, opsEq, Option.isSome_some, if_true, tunnel,
    callTunnel] at ret next
  cases active : tdev.active with
  | false =>
      rw [active] at ret
      contradiction
  | true =>
      simp only [active, Bool.not_true, Bool.false_eq_true, if_false] at ret next
      refine ⟨?_, ?_, ?_⟩
      · by_contra stopped
        rw [Bool.not_eq_false] at stopped
        rw [mpdccptunSetqueue, stopped] at ret
        contradiction
      · rw [next, DeviceStep.tunOf_modifyTun found]
      · simp only [optionsByName, named, found, Function.update_self, ldtDevSetsockopts, active,
          opsEq, tunnel]

/-- After a request that succeeds on a device with a bound tunnel the requested settings are
in effect and the others unchanged, if and only if the requested length is not zero, or is
zero everywhere already. -/
theorem settled_iff_nonzero {opts : List SetqueueOpt} {txqlen qpolicy : Int}
    (accepted : cmdSetqueue (-1) (-1) opts = .ok (txqlen, qpolicy)) {family : Family}
    {seq portid : Nat} {queued next : Queued} {net : NetId} {name : Text}
    {calls : SetqueueCalls}
    (success : setqueue family seq portid queued net name.toCStr txqlen qpolicy calls =
      some (0, next))
    {id : NdevId} {tdev : LdtDev} {state : ConnState}
    (named : devGetByName queued.refs.system net name.bytes = some id)
    (found : ldtdev queued.refs.system id = some tdev) (ops : tdev.tun.tunops ≠ none)
    (tunnel : tdev.tun.tundata = some state) (bound : state.tdat.bound = true)
    (backed : Backed state) (set : 0 ≤ calls.txqlen ∧ 0 ≤ calls.qpolicy) :
    ∃ after, (tunOf next.refs.system id).tundata = some after ∧
      (Settled state.tdat (queued.sockQueue id) after.tdat (next.sockQueue id) txqlen qpolicy ↔
        (txqlen = 0 → AlreadyZero state.tdat (queued.sockQueue id))) := by
  have inRange : InRange txqlen qpolicy :=
    inRange_cmdSetqueue ⟨by decide, by decide, by decide, by decide⟩ accepted
  obtain ⟨handled, optionsEq⟩ := handler_of_success inRange success
  obtain ⟨live, after, options⟩ := device_of_success handled named found ops tunnel
  have lower := inRange.lengthLower
  have upper := inRange.lengthUpper
  have sentRange : InRange (sentLength txqlen) qpolicy := by
    unfold sentLength
    split_ifs
    · exact inRange
    · exact ⟨le_refl _, by decide, inRange.policyLower, inRange.policyUpper⟩
  have sentNonzero : sentLength txqlen ≠ 0 := by
    unfold sentLength
    split_ifs with positive
    · exact positive.ne'
    · decide
  have settled := settled_mpdccptunSetqueue sentRange sentNonzero live bound backed set
    (queued.sockQueue id)
  rw [← options, ← optionsEq] at settled
  refine ⟨_, after, ?_⟩
  by_cases zero : txqlen = 0
  · subst zero
    have absent : sentLength 0 < 0 := by decide
    obtain ⟨lenEq, maxEq, optionEq⟩ := settled.lengthKept absent
    constructor
    · intro inEffect _
      obtain ⟨len, max, option⟩ := inEffect.lengthSet (le_refl 0)
      rw [lenEq] at len
      rw [maxEq] at max
      rw [optionEq] at option
      exact ⟨by exact_mod_cast len, max, option⟩
    · intro already
      obtain ⟨len, max, option⟩ := already rfl
      refine ⟨fun _ => ⟨?_, ?_, ?_⟩, settled.policySet, nofun, settled.policyKept⟩
      · rw [lenEq, len]
        rfl
      · rw [maxEq, max]
      · rw [optionEq, option]
  · have sent : sentLength txqlen = txqlen := by
      unfold sentLength
      split_ifs
      · rfl
      · omega
    rw [sent] at settled
    rw [sent]
    exact ⟨fun _ impossible => absurd impossible zero, fun _ => settled⟩

def deviceName : Text where
  bytes := ascii "ldt0"
  nonzero := ne_zero_of_all (by decide)
  length_lt := by decide

/-- A device whose tunnel is connected. -/
def connectDevice : List Device.Label :=
  [.createDev 0 none (ascii "ldt0") true 0, .newtun 0 (some (ascii "dccp4")) true,
    .peer 0 (some ⟨2, 7, 80⟩), .work 0 (.connectHandler ⟨0, false, 0, 0, 0, 0⟩ 0 0)]

def connected : Queued where
  refs := ⟨(LabelledRun.run (Device.step 100) boot connectDevice).getD boot, []⟩
  sockQueue := fun _ => ⟨1000, .dropNewest⟩

theorem not_tooLong_deviceName : ¬ TooLong deviceName := by
  unfold TooLong
  decide

theorem exists_setqueue_connected {txqlen qpolicy : Int} (inRange : InRange txqlen qpolicy)
    {result : Int × RefState}
    (handled : DeviceReference.ldtNlSetQueue connected.refs 0 (ascii "ldt0")
      (sentLength txqlen) qpolicy 0 0 = result) :
    setqueue ⟨30, by decide, by decide⟩ 7 1000 connected 0 deviceName.toCStr txqlen qpolicy
        ⟨0, 0⟩ =
      some (result.1, ⟨result.2,
        optionsByName connected 0 (ascii "ldt0") (sentLength txqlen) qpolicy ⟨0, 0⟩⟩) := by
  rw [setqueue_eq _ _ _ _ _ _ inRange, if_neg not_tooLong_deviceName, ← handled]
  rfl

/-- A length and a policy are set. -/
theorem settled_length_and_policy :
    ∃ next state after,
      setqueue ⟨30, by decide, by decide⟩ 7 1000 connected 0 deviceName.toCStr 50 1 ⟨0, 0⟩ =
        some (0, next) ∧
      (tunOf connected.refs.system 0).tundata = some state ∧
      (tunOf next.refs.system 0).tundata = some after ∧
      Settled state.tdat ⟨1000, .dropNewest⟩ after.tdat (next.sockQueue 0) 50 1 := by
  have accepted : cmdSetqueue (-1) (-1)
      [.txqlen (ascii "50"), .qpolicy (ascii "Oldest")] = .ok (50, 1) := rfl
  have success := exists_setqueue_connected ⟨by decide, by decide, by decide, by decide⟩
    (show DeviceReference.ldtNlSetQueue connected.refs 0 (ascii "ldt0") (sentLength 50) 1 0 0 =
      (0, _) from rfl)
  obtain ⟨after, afterEq, settled⟩ := @settled_iff_nonzero _ _ _ accepted _ _ _ _ _ _ _ _
    success 0 _ _ rfl rfl nofun rfl rfl (fun _ => rfl) (by decide)
  exact ⟨_, _, after, success, rfl, afterEq, settled.mpr nofun⟩

/-- A length of zero is accepted and reported as set, but it is not sent. -/
theorem not_settled_zero :
    cmdSetqueue (-1) (-1) [.txqlen (ascii "0")] = .ok (0, -1) ∧
      ∃ next state after,
        setqueue ⟨30, by decide, by decide⟩ 7 1000 connected 0 deviceName.toCStr 0 (-1) ⟨0, 0⟩ =
          some (0, next) ∧
        (tunOf connected.refs.system 0).tundata = some state ∧ state.tdat.bound = true ∧
        (tunOf next.refs.system 0).tundata = some after ∧
        ¬ Settled state.tdat ⟨1000, .dropNewest⟩ after.tdat (next.sockQueue 0) 0 (-1) := by
  have success := exists_setqueue_connected ⟨by decide, by decide, by decide, by decide⟩
    (show DeviceReference.ldtNlSetQueue connected.refs 0 (ascii "ldt0") (sentLength 0) (-1) 0 0 =
      (0, _) from rfl)
  refine ⟨rfl, _, _, _, success, rfl, rfl, rfl, ?_⟩
  intro settled
  exact absurd (settled.lengthSet (le_refl 0)).2.2 (by decide)

end Tunprox.QueueSetting
