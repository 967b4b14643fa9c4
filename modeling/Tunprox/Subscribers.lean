import Mathlib.Data.List.Nodup
import Mathlib.Data.Set.Insert
import Tunprox.Device

/-!
# The subscribers of the events

The list of `ldt_netlink.c` that holds the users an event is sent to.  Removing a user
only marks its entry, subscribing again revives it, and the marked entries are unlinked
and freed when the next entry is added.  The list stands for a set of users; each call
changes that set as its name says, whatever marked entries are left.
-/

namespace Tunprox.Subscribers

open Errno
open Device (NetId)

abbrev Pid := Nat

/-- `struct ldt_nl_user`.  An address is handed out once. -/
structure LdtNlUser where
  addr : Nat
  pid : Pid
  net : NetId
  valid : Bool
  deriving DecidableEq, Repr

/-- The arguments of `ldt_nl_send_event` but for the namespace. -/
structure Event where
  evtype : Nat
  iarg : Nat
  sarg : Option (List UInt8)
  deriving DecidableEq

/-- A call of `do_send_event`. -/
structure DoSendEvent where
  net : NetId
  pid : Pid
  event : Event
  deriving DecidableEq

structure UserList where
  tpnlHead : List LdtNlUser
  nextAddr : Nat
  freed : List LdtNlUser
  sent : List DoSendEvent

/-- `p->net == net || !net` -/
def inScope (scope : Option NetId) (net : NetId) : Bool :=
  match scope with
  | none => true
  | some wanted => net == wanted

/-- The first loop of `ldt_nl_adduser`: the entry of the user, if there is one, is made
valid. -/
def revive (pid : Pid) (net : NetId) : List LdtNlUser → Option (List LdtNlUser)
  | [] => none
  | user :: users =>
      if user.pid = pid ∧ user.net = net then some ({ user with valid := true } :: users)
      else (revive pid net users).map fun revived => user :: revived

/-- `ldt_nl_adduser` -/
def ldtNlAdduser (list : UserList) (pid : Pid) (net : NetId) (kmalloc : Bool) :
    Int × UserList :=
  if pid ≤ 0 then (-EINVAL, list)
  else
    match revive pid net list.tpnlHead with
    | some users => (0, { list with tpnlHead := users })
    | none =>
        if !kmalloc then (-ENOMEM, list)
        else
          let user : LdtNlUser := { addr := list.nextAddr, pid := pid, net := net, valid := true }
          let users := user :: list.tpnlHead
          (0, { list with
            tpnlHead := users.filter LdtNlUser.valid
            nextAddr := list.nextAddr + 1
            freed := list.freed ++ (users.filter fun other => !other.valid).reverse })

/-- The entry is marked as removed. -/
def unmark (pid : Pid) (scope : Option NetId) (user : LdtNlUser) : LdtNlUser :=
  if user.valid && inScope scope user.net && user.pid == pid then { user with valid := false }
  else user

/-- `ldt_nl_rmuser` -/
def ldtNlRmuser (list : UserList) (pid : Pid) (scope : Option NetId) : UserList :=
  { list with tpnlHead := list.tpnlHead.map (unmark pid scope) }

/-- The calls `ldt_nl_send_event` makes while it walks the list. -/
def doSendEvents (list : UserList) (scope : Option NetId) (event : Event) :
    List DoSendEvent :=
  (list.tpnlHead.filter fun user => user.valid && inScope scope user.net).map fun user =>
    ⟨user.net, user.pid, event⟩

/-- `ldt_nl_send_event` -/
def ldtNlSendEvent (list : UserList) (scope : Option NetId) (event : Event) :
    Int × UserList :=
  (0, { list with sent := list.sent ++ doSendEvents list scope event })

/-- The list after `ldt_nl_register`. -/
def emptyList : UserList where
  tpnlHead := []
  nextAddr := 0
  freed := []
  sent := []

/-- Whose entry it is. -/
def key (user : LdtNlUser) : Pid × NetId :=
  (user.pid, user.net)

/-- The users the events of their namespace are sent to. -/
def users (list : UserList) : Set (Pid × NetId) :=
  { wanted | ∃ user ∈ list.tpnlHead, key user = wanted ∧ user.valid = true }

/-- No user has two entries, an address is in use or freed but not both, and a freed
entry was marked. -/
structure Wf (list : UserList) : Prop where
  unique : (list.tpnlHead.map key).Nodup
  addrs : ((list.tpnlHead ++ list.freed).map LdtNlUser.addr).Nodup
  below : ∀ user ∈ list.tpnlHead ++ list.freed, user.addr < list.nextAddr
  marked : ∀ user ∈ list.freed, user.valid = false

theorem wf_emptyList : Wf emptyList where
  unique := List.nodup_nil
  addrs := List.nodup_nil
  below := by simp [emptyList]
  marked := by simp [emptyList]

theorem users_emptyList : users emptyList = ∅ := by
  ext wanted
  simp [users, emptyList]

theorem revive_eq_none_iff {pid : Pid} {net : NetId} {list : List LdtNlUser} :
    revive pid net list = none ↔ (pid, net) ∉ list.map key := by
  induction list with
  | nil => simp [revive]
  | cons user list ih =>
      by_cases same : user.pid = pid ∧ user.net = net
      · simp [revive, same, key]
      · have different : (pid, net) ≠ key user := by
          intro equal
          obtain ⟨pidEq, netEq⟩ := Prod.mk.inj equal
          exact same ⟨pidEq.symm, netEq.symm⟩
        simp only [revive, same, if_false, Option.map_eq_none_iff, ih, List.map_cons,
          List.mem_cons, different, false_or]

/-- Reviving changes the flag of one entry, which is the only one of its user. -/
theorem revive_eq_some {pid : Pid} {net : NetId} {list revived : List LdtNlUser}
    (found : revive pid net list = some revived) :
    ∃ before user after, list = before ++ user :: after ∧ key user = (pid, net) ∧
      revived = before ++ { user with valid := true } :: after := by
  induction list generalizing revived with
  | nil => contradiction
  | cons user list ih =>
      unfold revive at found
      split at found
      · rename_i same
        obtain rfl := Option.some.inj found
        exact ⟨[], user, list, rfl, by simp [key, same], rfl⟩
      · obtain ⟨rest, restFound, rfl⟩ := Option.map_eq_some_iff.mp found
        obtain ⟨before, middle, after, rfl, keyEq, rfl⟩ := ih restFound
        exact ⟨user :: before, middle, after, rfl, keyEq, rfl⟩

section
variable {list : UserList}

/-- `ldt_nl_adduser` either fails and leaves the list, or revives an entry, or adds a new
one and sweeps the marked entries out. -/
theorem ldtNlAdduser_cases (list : UserList) (pid : Pid) (net : NetId) (kmalloc : Bool) :
    (ldtNlAdduser list pid net kmalloc).1 < 0 ∧
        (ldtNlAdduser list pid net kmalloc).2 = list ∨
      (∃ before user after, list.tpnlHead = before ++ user :: after ∧
        key user = (pid, net) ∧
        ldtNlAdduser list pid net kmalloc =
          (0, { list with tpnlHead := before ++ { user with valid := true } :: after })) ∨
      (pid, net) ∉ list.tpnlHead.map key ∧
        ldtNlAdduser list pid net kmalloc =
          (0, { list with
            tpnlHead := { addr := list.nextAddr, pid := pid, net := net, valid := true } ::
              list.tpnlHead.filter LdtNlUser.valid
            nextAddr := list.nextAddr + 1
            freed := list.freed ++
              (list.tpnlHead.filter fun other => !other.valid).reverse }) := by
  unfold ldtNlAdduser
  split
  · exact .inl ⟨(by decide : -EINVAL < 0), rfl⟩
  · cases found : revive pid net list.tpnlHead with
    | some revived =>
        obtain ⟨before, user, after, split, keyEq, rfl⟩ := revive_eq_some found
        exact .inr (.inl ⟨before, user, after, split, keyEq, rfl⟩)
    | none =>
        cases kmalloc with
        | false => exact .inl ⟨(by decide : -ENOMEM < 0), rfl⟩
        | true =>
            refine .inr (.inr ⟨revive_eq_none_iff.mp found, ?_⟩)
            simp

/-- A valid entry among some others. -/
theorem mem_users_iff {wanted : Pid × NetId} :
    wanted ∈ users list ↔ ∃ user ∈ list.tpnlHead, key user = wanted ∧ user.valid = true :=
  Iff.rfl

theorem users_ldtNlAdduser (pid : Pid) (net : NetId) (kmalloc : Bool) :
    users (ldtNlAdduser list pid net kmalloc).2 =
      if (ldtNlAdduser list pid net kmalloc).1 = 0 then insert (pid, net) (users list)
      else users list := by
  rcases ldtNlAdduser_cases list pid net kmalloc with
    ⟨negative, same⟩ | ⟨before, user, after, split, keyEq, revived⟩ | ⟨absent, added⟩
  · have failed : (ldtNlAdduser list pid net kmalloc).1 ≠ 0 := by omega
    rw [if_neg failed, same]
  · rw [revived, if_pos rfl]
    ext wanted
    have keyValid : key { user with valid := true } = (pid, net) := keyEq
    simp only [mem_users_iff, split, Set.mem_insert_iff, List.mem_append, List.mem_cons]
    constructor
    · rintro ⟨other, member | rfl | member, otherKey, valid⟩
      · exact .inr ⟨other, .inl member, otherKey, valid⟩
      · exact .inl (otherKey.symm.trans keyValid)
      · exact .inr ⟨other, .inr (.inr member), otherKey, valid⟩
    · rintro (rfl | ⟨other, member | rfl | member, otherKey, valid⟩)
      · exact ⟨{ user with valid := true }, .inr (.inl rfl), keyValid, rfl⟩
      · exact ⟨other, .inl member, otherKey, valid⟩
      · exact ⟨{ other with valid := true }, .inr (.inl rfl), otherKey, rfl⟩
      · exact ⟨other, .inr (.inr member), otherKey, valid⟩
  · rw [added, if_pos rfl]
    ext wanted
    simp only [mem_users_iff, Set.mem_insert_iff, List.mem_cons, List.mem_filter]
    constructor
    · rintro ⟨other, rfl | ⟨member, valid⟩, otherKey, -⟩
      · exact .inl otherKey.symm
      · exact .inr ⟨other, member, otherKey, valid⟩
    · rintro (rfl | ⟨other, member, otherKey, valid⟩)
      · exact ⟨_, .inl rfl, rfl, rfl⟩
      · exact ⟨other, .inr ⟨member, valid⟩, otherKey, valid⟩

@[simp]
theorem key_unmark (pid : Pid) (scope : Option NetId) (user : LdtNlUser) :
    key (unmark pid scope user) = key user := by
  unfold unmark
  split
  · rfl
  · rfl

@[simp]
theorem addr_unmark (pid : Pid) (scope : Option NetId) (user : LdtNlUser) :
    (unmark pid scope user).addr = user.addr := by
  unfold unmark
  split
  · rfl
  · rfl

theorem valid_unmark_iff {pid : Pid} {scope : Option NetId} {user : LdtNlUser} :
    (unmark pid scope user).valid = true ↔
      user.valid = true ∧ ¬(inScope scope user.net = true ∧ user.pid = pid) := by
  unfold unmark
  split
  · rename_i marked
    simp only [Bool.and_eq_true, beq_iff_eq] at marked
    simp [marked]
  · rename_i unmarked
    simp only [Bool.and_eq_true, beq_iff_eq, not_and] at unmarked
    constructor
    · intro valid
      refine ⟨valid, ?_⟩
      rintro ⟨matching, same⟩
      exact unmarked ⟨valid, matching⟩ same
    · exact And.left

theorem users_ldtNlRmuser (pid : Pid) (scope : Option NetId) :
    users (ldtNlRmuser list pid scope) =
      users list \ { wanted | wanted.1 = pid ∧ inScope scope wanted.2 = true } := by
  ext wanted
  simp only [mem_users_iff, ldtNlRmuser, List.mem_map, Set.mem_sdiff, Set.mem_ofPred_eq]
  constructor
  · rintro ⟨-, ⟨user, member, rfl⟩, rfl, valid⟩
    rw [key_unmark]
    obtain ⟨wasValid, untouched⟩ := valid_unmark_iff.mp valid
    exact ⟨⟨user, member, rfl, wasValid⟩, fun removed => untouched ⟨removed.2, removed.1⟩⟩
  · rintro ⟨⟨user, member, rfl, valid⟩, untouched⟩
    refine ⟨unmark pid scope user, ⟨user, member, rfl⟩, key_unmark pid scope user, ?_⟩
    exact valid_unmark_iff.mpr ⟨valid, fun removed => untouched ⟨removed.2, removed.1⟩⟩

/-- Filtering apart permutes. -/
theorem swept_perm (all : List LdtNlUser) :
    (all.filter LdtNlUser.valid ++ (all.filter fun other => !other.valid).reverse).Perm all := by
  have apart := List.filter_append_perm LdtNlUser.valid all
  exact ((List.reverse_perm _).append_left _).trans apart

theorem wf_ldtNlAdduser (wf : Wf list) (pid : Pid) (net : NetId) (kmalloc : Bool) :
    Wf (ldtNlAdduser list pid net kmalloc).2 := by
  rcases ldtNlAdduser_cases list pid net kmalloc with
    ⟨-, same⟩ | ⟨before, user, after, split, -, revived⟩ | ⟨absent, added⟩
  · rw [same]
    exact wf
  · rw [revived]
    have unique := wf.unique
    have addrs := wf.addrs
    have below := wf.below
    rw [split] at unique addrs below
    refine ⟨?_, ?_, ?_, wf.marked⟩
    · simpa [key] using unique
    · simpa using addrs
    · intro other member
      simp only [List.mem_append, List.mem_cons] at member
      rcases member with (early | rfl | late) | gone
      · exact below other (by simp [early])
      · exact below user (by simp)
      · exact below other (by simp [late])
      · exact below other (by simp [gone])
  · rw [added]
    have kept : (list.tpnlHead.filter LdtNlUser.valid ++ (list.freed ++
        (list.tpnlHead.filter fun other => !other.valid).reverse)).Perm
          (list.tpnlHead ++ list.freed) := by
      have swapped : (list.freed ++
          (list.tpnlHead.filter fun other => !other.valid).reverse).Perm
            ((list.tpnlHead.filter fun other => !other.valid).reverse ++ list.freed) :=
        List.perm_append_comm
      apply (swapped.append_left _).trans
      rw [← List.append_assoc]
      exact (swept_perm list.tpnlHead).append_right list.freed
    refine ⟨?_, ?_, ?_, ?_⟩
    · simp only [List.map_cons, List.nodup_cons]
      refine ⟨?_, wf.unique.sublist ((List.filter_sublist).map key)⟩
      intro member
      exact absent ((List.filter_sublist.map key).subset member)
    · simp only [List.cons_append, List.map_cons, List.nodup_cons]
      refine ⟨?_, (kept.map LdtNlUser.addr).nodup_iff.mpr wf.addrs⟩
      intro member
      obtain ⟨other, otherMem, same⟩ := List.mem_map.mp member
      have below := wf.below other (kept.mem_iff.mp otherMem)
      omega
    · intro other member
      simp only [List.cons_append, List.mem_cons] at member
      rcases member with rfl | old
      · exact Nat.lt_succ_self _
      · exact Nat.lt_succ_of_lt (wf.below other (kept.mem_iff.mp old))
    · intro other member
      simp only [List.mem_append, List.mem_reverse, List.mem_filter] at member
      rcases member with gone | ⟨-, marked⟩
      · exact wf.marked other gone
      · simpa using marked

theorem wf_ldtNlRmuser (wf : Wf list) (pid : Pid) (scope : Option NetId) :
    Wf (ldtNlRmuser list pid scope) := by
  have keys : (list.tpnlHead.map (unmark pid scope)).map key = list.tpnlHead.map key := by
    simp [Function.comp_def]
  have addrs : (list.tpnlHead.map (unmark pid scope)).map LdtNlUser.addr =
      list.tpnlHead.map LdtNlUser.addr := by
    simp [Function.comp_def]
  refine ⟨?_, ?_, ?_, wf.marked⟩
  · simpa only [ldtNlRmuser, keys] using wf.unique
  · simpa only [ldtNlRmuser, List.map_append, addrs] using wf.addrs
  · intro other member
    simp only [ldtNlRmuser, List.mem_append, List.mem_map] at member
    rcases member with ⟨user, old, rfl⟩ | gone
    · rw [addr_unmark]
      exact wf.below user (List.mem_append_left _ old)
    · exact wf.below other (List.mem_append_right _ gone)

theorem wf_ldtNlSendEvent (wf : Wf list) (scope : Option NetId) (event : Event) :
    Wf (ldtNlSendEvent list scope event).2 :=
  ⟨wf.unique, wf.addrs, wf.below, wf.marked⟩

/-- Each user in scope is sent the event, and nobody else is sent anything. -/
theorem mem_doSendEvents_iff {scope : Option NetId} {event : Event} {call : DoSendEvent} :
    call ∈ doSendEvents list scope event ↔
      call.event = event ∧ (call.pid, call.net) ∈ users list ∧
        inScope scope call.net = true := by
  simp only [doSendEvents, List.mem_map, List.mem_filter, Bool.and_eq_true, mem_users_iff]
  constructor
  · rintro ⟨user, ⟨member, valid, matching⟩, rfl⟩
    exact ⟨rfl, ⟨user, member, rfl, valid⟩, matching⟩
  · rintro ⟨rfl, ⟨user, member, keyEq, valid⟩, matching⟩
    obtain ⟨pidEq, netEq⟩ := Prod.mk.inj keyEq
    refine ⟨user, ⟨member, valid, ?_⟩, ?_⟩
    · rw [netEq]
      exact matching
    · rw [pidEq, netEq]

/-- Nobody is sent the event twice. -/
theorem nodup_doSendEvents (wf : Wf list) (scope : Option NetId) (event : Event) :
    (doSendEvents list scope event).Nodup := by
  apply List.Nodup.of_map fun call : DoSendEvent => (call.pid, call.net)
  have keys : (doSendEvents list scope event).map
      (fun call : DoSendEvent => (call.pid, call.net)) =
        (list.tpnlHead.filter fun user => user.valid && inScope scope user.net).map key := by
    simp [doSendEvents, key, Function.comp_def]
  rw [keys]
  exact wf.unique.sublist (List.filter_sublist.map key)

end

end Tunprox.Subscribers
