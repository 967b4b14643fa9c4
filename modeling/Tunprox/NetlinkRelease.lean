import Tunprox.LabelledRun
import Tunprox.Subscribers

/-!
# Netlink sockets and their subscriptions

The kernel tells `ldt_nl_release_notifier` of every netlink socket that is closed, of
whatever protocol.  A port id is unique within one protocol and namespace only, and the
notifier looks at the port id and the namespace: closing a socket of another protocol
takes the subscription of the process that happens to have the same port id there.
-/

namespace Tunprox.NetlinkRelease

open Errno LabelledRun Subscribers
open Device (NetId)

def NETLINK_GENERIC : Nat := 16

/-- An open socket that is bound to a port id. -/
structure Socket where
  protocol : Nat
  portid : Pid
  net : NetId
  deriving DecidableEq, Repr

/-- The generic-netlink socket of a process. -/
def genericSocket (portid : Pid) (net : NetId) : Socket where
  protocol := NETLINK_GENERIC
  portid := portid
  net := net

/-- The list of subscribers beside the open sockets; `subscribed` holds those of the open
generic-netlink sockets that have subscribed. -/
structure System where
  list : UserList
  sockets : List Socket
  subscribed : List (Pid × NetId)

def initial : System where
  list := emptyList
  sockets := []
  subscribed := []

/-- `ldt_nl_subscribe` of a request with the port id `nlmsgPid` in its header. -/
def ldtNlSubscribe (list : UserList) (nlmsgPid : Pid) (net : NetId) (kmalloc : Bool) :
    Int × UserList :=
  ldtNlAdduser list nlmsgPid net kmalloc

/-- `struct netlink_notify` -/
structure NetlinkNotify where
  net : NetId
  portid : Pid
  protocol : Nat

/-- `ldt_nl_release_notifier` for the action `NETLINK_URELEASE`. -/
def ldtNlReleaseNotifier (list : UserList) (n : NetlinkNotify) : UserList :=
  ldtNlRmuser list n.portid (some n.net)

inductive Label where
  | openSocket (socket : Socket)
  | closeSocket (socket : Socket)
  | subscribe (portid : Pid) (net : NetId) (nlmsgPid : Pid) (kmalloc : Bool)
  | sendEvent (scope : Option NetId) (event : Event)

/-- The transition function.  A process has subscribed when its request names the port id
of its own socket, as those of `fnl_send` do, and is answered with success. -/
def step (system : System) : Label → Option System
  | .openSocket socket =>
      if socket.portid = 0 ∨ socket ∈ system.sockets then none
      else some { system with sockets := socket :: system.sockets }
  | .closeSocket socket =>
      if socket ∈ system.sockets then
        some {
          list := ldtNlReleaseNotifier system.list
            ⟨socket.net, socket.portid, socket.protocol⟩
          sockets := system.sockets.filter fun other => other ≠ socket
          subscribed := system.subscribed.filter fun user =>
            genericSocket user.1 user.2 ≠ socket }
      else none
  | .subscribe portid net nlmsgPid kmalloc =>
      if genericSocket portid net ∈ system.sockets then
        match ldtNlSubscribe system.list nlmsgPid net kmalloc with
        | (ret, list) =>
            some { system with
              list := list
              subscribed :=
                if ret = 0 ∧ nlmsgPid = portid then (portid, net) :: system.subscribed
                else system.subscribed }
      else none
  | .sendEvent scope event =>
      some { system with list := (ldtNlSendEvent system.list scope event).2 }

/-- Every process whose socket has subscribed and is open is sent every event for its
namespace: `ldt_nl_send_event` makes calls of `do_send_event`, and one of them is for it. -/
def Delivers (system : System) : Prop :=
  ∀ portid net, (portid, net) ∈ system.subscribed →
    genericSocket portid net ∈ system.sockets ∧
      ∀ scope event, inScope scope net = true →
        ∃ calls, (ldtNlSendEvent system.list scope event).2.sent = system.list.sent ++ calls ∧
          ⟨net, portid, event⟩ ∈ calls

/-- No socket of another protocol is closed while a generic-netlink socket with the same
port id in the same namespace is open and has subscribed. -/
def ClosesUnsubscribed (system : System) : Label → Prop
  | .closeSocket socket =>
      socket.protocol = NETLINK_GENERIC ∨ (socket.portid, socket.net) ∉ system.subscribed
  | _ => True

instance (system : System) : (label : Label) → Decidable (ClosesUnsubscribed system label)
  | .closeSocket socket =>
      inferInstanceAs (Decidable (socket.protocol = NETLINK_GENERIC ∨
        (socket.portid, socket.net) ∉ system.subscribed))
  | .openSocket _ | .subscribe _ _ _ _ | .sendEvent _ _ => inferInstanceAs (Decidable True)

/-- The subscribed processes are users, and their sockets are open. -/
structure Kept (system : System) : Prop where
  users : ∀ user ∈ system.subscribed, user ∈ users system.list
  sockets : ∀ user ∈ system.subscribed, genericSocket user.1 user.2 ∈ system.sockets

theorem kept_initial : Kept initial where
  users := by simp [initial]
  sockets := by simp [initial]

/-- Adding a user removes none. -/
theorem users_subset_ldtNlAdduser (list : UserList) (pid : Pid) (net : NetId)
    (kmalloc : Bool) : users list ⊆ users (ldtNlAdduser list pid net kmalloc).2 := by
  rw [users_ldtNlAdduser]
  split
  · exact Set.subset_insert _ _
  · exact subset_rfl

theorem mem_users_ldtNlAdduser {list : UserList} {pid : Pid} {net : NetId} {kmalloc : Bool}
    (success : (ldtNlAdduser list pid net kmalloc).1 = 0) :
    (pid, net) ∈ users (ldtNlAdduser list pid net kmalloc).2 := by
  rw [users_ldtNlAdduser, if_pos success]
  exact Set.mem_insert _ _

theorem kept_closeSocket {system next : System} {socket : Socket} (kept : Kept system)
    (allowed : ClosesUnsubscribed system (.closeSocket socket))
    (stepped : step system (.closeSocket socket) = some next) : Kept next := by
  simp only [step] at stepped
  split at stepped
  · obtain rfl := Option.some.inj stepped
    refine ⟨?_, ?_⟩
    · rintro ⟨pid, net⟩ member
      obtain ⟨before, other⟩ := List.mem_filter.mp member
      rw [decide_eq_true_eq] at other
      rw [ldtNlReleaseNotifier, users_ldtNlRmuser]
      refine ⟨kept.users _ before, ?_⟩
      rintro ⟨samePid, sameNet⟩
      replace samePid : pid = socket.portid := samePid
      replace sameNet : net = socket.net := by simpa [inScope] using sameNet
      subst samePid sameNet
      rcases allowed with generic | unsubscribed
      · apply other
        rw [genericSocket, ← generic]
      · exact unsubscribed before
    · intro user member
      obtain ⟨before, other⟩ := List.mem_filter.mp member
      exact List.mem_filter.mpr ⟨kept.sockets user before, other⟩
  · contradiction

theorem kept_subscribe {system next : System} {portid : Pid} {net : NetId} {nlmsgPid : Pid}
    {kmalloc : Bool} (kept : Kept system)
    (stepped : step system (.subscribe portid net nlmsgPid kmalloc) = some next) :
    Kept next := by
  simp only [step] at stepped
  split at stepped
  · rename_i isOpen
    obtain rfl := Option.some.inj stepped
    have stays : ∀ user ∈ system.subscribed,
        user ∈ users (ldtNlAdduser system.list nlmsgPid net kmalloc).2 := fun user member =>
      users_subset_ldtNlAdduser system.list nlmsgPid net kmalloc (kept.users user member)
    by_cases own : (ldtNlAdduser system.list nlmsgPid net kmalloc).1 = 0 ∧ nlmsgPid = portid
    · obtain ⟨success, rfl⟩ := own
      refine ⟨?_, ?_⟩
      · intro user member
        simp only [ldtNlSubscribe, success, and_self, if_true, List.mem_cons] at member
        rcases member with rfl | before
        · exact mem_users_ldtNlAdduser success
        · exact stays user before
      · intro user member
        simp only [ldtNlSubscribe, success, and_self, if_true, List.mem_cons] at member
        rcases member with rfl | before
        · exact isOpen
        · exact kept.sockets user before
    · refine ⟨?_, ?_⟩
      · intro user member
        simp only [ldtNlSubscribe, own, if_false] at member
        exact stays user member
      · intro user member
        simp only [ldtNlSubscribe, own, if_false] at member
        exact kept.sockets user member
  · contradiction

theorem kept_of_step {system next : System} {label : Label}
    (allowed : ClosesUnsubscribed system label) (kept : Kept system)
    (stepped : step system label = some next) : Kept next := by
  cases label with
  | openSocket socket =>
      simp only [step] at stepped
      split at stepped
      · contradiction
      · obtain rfl := Option.some.inj stepped
        exact ⟨kept.users, fun user member =>
          List.mem_cons_of_mem _ (kept.sockets user member)⟩
  | closeSocket socket => exact kept_closeSocket kept allowed stepped
  | subscribe portid net nlmsgPid kmalloc => exact kept_subscribe kept stepped
  | sendEvent scope event =>
      obtain rfl := Option.some.inj stepped
      exact ⟨kept.users, kept.sockets⟩

theorem Kept.delivers {system : System} (kept : Kept system) : Delivers system := by
  intro portid net member
  refine ⟨kept.sockets _ member, fun scope event matching => ?_⟩
  refine ⟨doSendEvents system.list scope event, rfl, ?_⟩
  exact mem_doSendEvents_iff.mpr ⟨rfl, kept.users _ member, matching⟩

/-- In every run in which no socket of another protocol is closed that shares its port id
and namespace with a subscribed one, every process that has subscribed is sent every later
event for its namespace for as long as its socket is open. -/
theorem delivers_of_closesUnsubscribed {labels : List Label} {system : System}
    (guarded : Guarded step ClosesUnsubscribed initial labels)
    (ran : run step initial labels = some system) : Delivers system :=
  (invariant_of_guarded kept_of_step guarded kept_initial ran).delivers

/-- A socket of protocol 0 is closed after the process has closed its own and opened it
again with another subscription pending; then an event is sent. -/
def reopenedLabels : List Label :=
  [.openSocket (genericSocket 7 0), .openSocket ⟨0, 7, 0⟩, .subscribe 7 0 7 true,
    .closeSocket (genericSocket 7 0), .closeSocket ⟨0, 7, 0⟩,
    .openSocket (genericSocket 7 0), .subscribe 7 0 7 true, .sendEvent none ⟨1, 2, none⟩]

theorem delivers_reopened :
    ∃ system, run step initial reopenedLabels = some system ∧ (7, 0) ∈ system.subscribed ∧
      system.list.sent = [⟨0, 7, ⟨1, 2, none⟩⟩] ∧ Delivers system := by
  obtain ⟨system, ran⟩ : ∃ system, run step initial reopenedLabels = some system := ⟨_, rfl⟩
  have results : (run step initial reopenedLabels).map
      (fun last => (last.subscribed, last.list.sent)) =
        some ([(7, 0)], [⟨0, 7, ⟨1, 2, none⟩⟩]) := by
    decide
  rw [ran, Option.map_some, Option.some.injEq] at results
  obtain ⟨subscribed, sent⟩ := Prod.mk.inj results
  refine ⟨system, ran, ?_, sent, delivers_of_closesUnsubscribed (by decide) ran⟩
  rw [subscribed]
  exact List.mem_singleton_self _

/-- The process has an open generic-netlink socket that has subscribed, and a socket of
protocol 0 with the same port id is closed: the process is sent nothing any more. -/
theorem not_delivers_routeSocketClosed :
    ∃ system, run step initial [.openSocket (genericSocket 7 0), .openSocket ⟨0, 7, 0⟩,
        .subscribe 7 0 7 true, .closeSocket ⟨0, 7, 0⟩] = some system ∧
      (7, 0) ∈ system.subscribed ∧
      (∀ scope event, (ldtNlSendEvent system.list scope event).2.sent = []) ∧
      ¬Delivers system := by
  refine ⟨_, rfl, List.mem_singleton_self _, fun scope event => rfl, ?_⟩
  intro delivers
  obtain ⟨calls, sent, member⟩ :=
    (delivers 7 0 (List.mem_singleton_self _)).2 none ⟨0, 0, none⟩ rfl
  have noCalls : calls = [] := (List.nil_append calls).symm.trans sent.symm
  rw [noCalls] at member
  exact List.not_mem_nil member

end Tunprox.NetlinkRelease
