import Tunprox.LabelledRun
import Tunprox.Subscribers

/-!
# Histories of the subscribers

Any sequence of the calls that add users, remove them and send events, with memory
running out at any point.  Whether a user is subscribed is read off the calls alone: the
latest one that concerns it is a successful `ldt_nl_adduser`.  The list delivers the
events to exactly these users, and it frees the entries it has marked.
-/

namespace Tunprox.SubscriberHistory

open Errno LabelledRun Subscribers
open Device (NetId)

inductive Call where
  | adduser (pid : Pid) (net : NetId) (kmalloc : Bool)
  | rmuser (pid : Pid) (scope : Option NetId)
  | sendEvent (scope : Option NetId) (event : Event)
  deriving DecidableEq

/-- The list with the calls and what they returned, the latest one first. -/
structure Served where
  list : UserList
  history : List (Call × Int)

def initial : Served where
  list := emptyList
  history := []

/-- What a call returns, and the list after it. -/
def perform (list : UserList) : Call → Int × UserList
  | .adduser pid net kmalloc => ldtNlAdduser list pid net kmalloc
  | .rmuser pid scope => (0, ldtNlRmuser list pid scope)
  | .sendEvent scope event => ldtNlSendEvent list scope event

/-- One call. -/
def step (served : Served) (call : Call) : Option Served :=
  match perform served.list call with
  | (ret, list) => some { list := list, history := (call, ret) :: served.history }

/-- The call has added the user. -/
def adds (pid : Pid) (net : NetId) : Call × Int → Bool
  | (.adduser pid' net' _, ret) => pid' == pid && net' == net && ret == 0
  | _ => false

/-- The call removes the user. -/
def removes (pid : Pid) (net : NetId) : Call × Int → Bool
  | (.rmuser pid' scope, _) => pid' == pid && inScope scope net
  | _ => false

/-- The latest successful add of the user is later than the latest matching remove. -/
def subscribed (pid : Pid) (net : NetId) : List (Call × Int) → Bool
  | [] => false
  | done :: earlier =>
      if adds pid net done then true
      else if removes pid net done then false
      else subscribed pid net earlier

/-- What an event that is sent now does: `ldt_nl_send_event` calls `do_send_event` exactly
once for each subscribed user in scope, and for nobody else. -/
def Delivers (served : Served) : Prop :=
  ∀ scope event, ∃ calls,
    (ldtNlSendEvent served.list scope event).2.sent = served.list.sent ++ calls ∧
      calls.Nodup ∧
      ∀ call, call ∈ calls ↔
        call.event = event ∧ subscribed call.pid call.net served.history = true ∧
          inScope scope call.net = true

/-- No other call sends anything. -/
def SendsOnlyEvents (served : Served) (call : Call) : Prop :=
  (∃ scope event, call = .sendEvent scope event) ∨
    (perform served.list call).2.sent = served.list.sent

/-- An entry that the call frees was in the list and marked, and the call is
`ldt_nl_adduser`. -/
def FreesMarked (served : Served) (call : Call) : Prop :=
  ∀ user ∈ (perform served.list call).2.freed, user ∈ served.list.freed ∨
    (∃ pid net kmalloc, call = .adduser pid net kmalloc) ∧
      user ∈ served.list.tpnlHead ∧ user.valid = false

structure Exact (served : Served) : Prop where
  unique : (served.list.tpnlHead.map key).Nodup
  delivers : Delivers served
  sendsOnlyEvents : ∀ call, SendsOnlyEvents served call
  freedOnce : (served.list.freed.map LdtNlUser.addr).Nodup
  unlinked : ∀ user ∈ served.list.tpnlHead, ∀ other ∈ served.list.freed,
    user.addr ≠ other.addr
  freesMarked : ∀ call, FreesMarked served call

/-- The list stands for the set of the users that are subscribed. -/
structure Follows (served : Served) : Prop where
  wf : Wf served.list
  users : users served.list = { user | subscribed user.1 user.2 served.history = true }

theorem follows_initial : Follows initial where
  wf := wf_emptyList
  users := by
    rw [show initial.list = emptyList from rfl, users_emptyList]
    ext user
    simp [initial, subscribed]

theorem wf_perform {list : UserList} (wf : Wf list) (call : Call) :
    Wf (perform list call).2 := by
  cases call with
  | adduser pid net kmalloc => exact wf_ldtNlAdduser wf pid net kmalloc
  | rmuser pid scope => exact wf_ldtNlRmuser wf pid scope
  | sendEvent scope event => exact wf_ldtNlSendEvent wf scope event

/-- A call changes the set of users as it changes who is subscribed. -/
theorem users_perform {list : UserList} {history : List (Call × Int)}
    (same : users list = { user | subscribed user.1 user.2 history = true }) (call : Call) :
    users (perform list call).2 =
      { user | subscribed user.1 user.2 ((call, (perform list call).1) :: history) = true } := by
  ext ⟨pid, net⟩
  have before : (pid, net) ∈ users list ↔ subscribed pid net history = true := by
    rw [same]
    exact Iff.rfl
  cases call with
  | adduser newPid newNet kmalloc =>
      simp only [perform, users_ldtNlAdduser, Set.mem_ofPred_eq, subscribed, adds, removes]
      by_cases success : (ldtNlAdduser list newPid newNet kmalloc).1 = 0
      · by_cases own : newPid = pid ∧ newNet = net
        · obtain ⟨rfl, rfl⟩ := own
          simp [success]
        · have other : (pid, net) ≠ (newPid, newNet) := by
            intro equal
            obtain ⟨pidEq, netEq⟩ := Prod.mk.inj equal
            exact own ⟨pidEq.symm, netEq.symm⟩
          simp only [success, if_true, Set.mem_insert_iff, other, false_or, before]
          simp [own]
      · simp [success, before]
  | rmuser oldPid scope =>
      simp only [perform, users_ldtNlRmuser, Set.mem_sdiff, Set.mem_ofPred_eq, before,
        subscribed, adds, removes]
      by_cases matching : oldPid = pid ∧ inScope scope net = true
      · simp [matching.1, matching.2]
      · have unmatched : (oldPid == pid && inScope scope net) = false := by
          simpa using matching
        have kept : ¬(pid = oldPid ∧ inScope scope net = true) := by
          intro removed
          exact matching ⟨removed.1.symm, removed.2⟩
        simp [unmatched, kept]
  | sendEvent scope event =>
      simp only [perform, ldtNlSendEvent, Set.mem_ofPred_eq, subscribed, adds, removes]
      exact before

theorem follows_of_step {served next : Served} {call : Call} (follows : Follows served)
    (stepped : step served call = some next) : Follows next := by
  obtain rfl := Option.some.inj stepped
  exact ⟨wf_perform follows.wf call, users_perform follows.users call⟩

theorem freesMarked_perform (served : Served) (call : Call) : FreesMarked served call := by
  intro user member
  cases call with
  | rmuser pid scope => exact .inl member
  | sendEvent scope event => exact .inl member
  | adduser pid net kmalloc =>
      simp only [perform] at member
      rcases ldtNlAdduser_cases served.list pid net kmalloc with
        ⟨-, same⟩ | ⟨before, revivedUser, after, -, -, revived⟩ | ⟨-, added⟩
      · rw [same] at member
        exact .inl member
      · rw [revived] at member
        exact .inl member
      · rw [added] at member
        simp only [List.mem_append, List.mem_reverse, List.mem_filter] at member
        rcases member with old | ⟨linked, marked⟩
        · exact .inl old
        · exact .inr ⟨⟨pid, net, kmalloc, rfl⟩, linked, by simpa using marked⟩

theorem sendsOnlyEvents_perform (served : Served) (call : Call) :
    SendsOnlyEvents served call := by
  cases call with
  | sendEvent scope event => exact .inl ⟨scope, event, rfl⟩
  | rmuser pid scope => exact .inr rfl
  | adduser pid net kmalloc =>
      right
      simp only [perform]
      rcases ldtNlAdduser_cases served.list pid net kmalloc with
        ⟨-, same⟩ | ⟨before, revivedUser, after, -, -, revived⟩ | ⟨-, added⟩
      · rw [same]
      · rw [revived]
      · rw [added]

theorem exact_of_follows {served : Served} (follows : Follows served) : Exact served where
  unique := follows.wf.unique
  delivers := by
    intro scope event
    refine ⟨doSendEvents served.list scope event, rfl,
      nodup_doSendEvents follows.wf scope event, fun call => ?_⟩
    rw [mem_doSendEvents_iff, follows.users]
    exact Iff.rfl
  sendsOnlyEvents := sendsOnlyEvents_perform served
  freedOnce := by
    have addrs := follows.wf.addrs
    rw [List.map_append] at addrs
    exact addrs.of_append_right
  unlinked := by
    intro user linked other gone same
    have addrs := follows.wf.addrs
    rw [List.map_append] at addrs
    have disjoint := List.disjoint_of_nodup_append addrs
    apply disjoint (List.mem_map_of_mem linked)
    rw [same]
    exact List.mem_map_of_mem gone
  freesMarked := freesMarked_perform served

/-- After every sequence of calls no user has two entries, an event is sent once to each
user in scope whose latest successful add is later than its latest matching remove and to
nobody else, and no entry is freed twice or while it is linked; an entry that a further
call frees is a marked one, and the call adds a user. -/
theorem exact_of_run {calls : List Call} {served : Served}
    (ran : run step initial calls = some served) : Exact served :=
  exact_of_follows (invariant_of_run follows_of_step follows_initial ran)

/-- A user that is removed and added again, one that is removed for good, and an add
without memory; then one event for a namespace and one for all of them. -/
def mixedCalls : List Call :=
  [.adduser 7 0 true, .adduser 8 0 true, .rmuser 7 none, .adduser 7 0 true,
    .rmuser 8 (some 0), .adduser 9 1 false, .adduser 7 1 true,
    .sendEvent (some 0) ⟨1, 2, none⟩, .sendEvent none ⟨3, 4, none⟩]

theorem exact_mixedCalls :
    ∃ served, run step initial mixedCalls = some served ∧
      served.list.freed.map LdtNlUser.pid = [8] ∧
      served.list.sent =
        [⟨0, 7, ⟨1, 2, none⟩⟩, ⟨1, 7, ⟨3, 4, none⟩⟩, ⟨0, 7, ⟨3, 4, none⟩⟩] ∧
      Exact served := by
  obtain ⟨served, ran⟩ : ∃ served, run step initial mixedCalls = some served := ⟨_, rfl⟩
  have results : (run step initial mixedCalls).map
      (fun last => (last.list.freed.map LdtNlUser.pid, last.list.sent)) =
        some ([8], [⟨0, 7, ⟨1, 2, none⟩⟩, ⟨1, 7, ⟨3, 4, none⟩⟩, ⟨0, 7, ⟨3, 4, none⟩⟩]) := by
    decide
  rw [ran, Option.map_some, Option.some.injEq] at results
  obtain ⟨freed, sent⟩ := Prod.mk.inj results
  exact ⟨served, ran, freed, sent, exact_of_run ran⟩

end Tunprox.SubscriberHistory
