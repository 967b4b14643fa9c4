import Mathlib.Data.List.Basic
import Tunprox.CString
import Tunprox.SkBuff

/-!
# Events of the kernel module

The event types of `ldt_uapi.h` and the table of `ldt_event.c` that gives each
of them its name, its description and its kind.  The kind decides which
structure the data of an event points to, and with it the elements of the XML
text that is sent.  A text is kept as its elements.
-/

namespace Tunprox.Event

open Errno

/-- `enum ldt_event_type` -/
inductive EvType where
  | unspec
  | init
  | down
  | up
  | tundown
  | tunup
  | ifdown
  | ifup
  | tpdown
  | pdevdown
  | pdevup
  | nifdown
  | nifup
  | rebind
  | subflowUp
  | subflowDown
  | connEstab
  | connEstabFail
  | connAccept
  | connAcceptFail
  | connListen
  | connListenFail
  deriving DecidableEq, Repr

def EvType.num : EvType → Nat
  | .unspec => 0
  | .init => 1
  | .down => 2
  | .up => 3
  | .tundown => 4
  | .tunup => 5
  | .ifdown => 6
  | .ifup => 7
  | .tpdown => 8
  | .pdevdown => 9
  | .pdevup => 10
  | .nifdown => 11
  | .nifup => 12
  | .rebind => 13
  | .subflowUp => 14
  | .subflowDown => 15
  | .connEstab => 16
  | .connEstabFail => 17
  | .connAccept => 18
  | .connAcceptFail => 19
  | .connListen => 20
  | .connListenFail => 21

def LDT_EVTYPE_MAX : Int := 21

/-- The kinds `TP_EVKIND_*`. -/
inductive EvKind where
  | global
  | tdev
  | tun
  | tunconnect
  | ndev
  | tunfail
  deriving DecidableEq, Repr

/-- `struct evinfo` -/
structure EvInfo where
  evtype : Int
  evstr : List UInt8
  desc : List UInt8
  kind : EvKind
  deriving DecidableEq

/-- An entry of the table. -/
def entry (type : EvType) (evstr desc : String) (kind : EvKind) : EvInfo where
  evtype := type.num
  evstr := ascii evstr
  desc := ascii desc
  kind := kind

/-- The table `evlist` without the entry that ends it. -/
def evlist : List EvInfo :=
  [entry .unspec "unspec" "not specified" .global,
    entry .init "init" "init handshake successfull" .tunconnect,
    entry .down "down" "remote host down" .tunconnect,
    entry .up "up" "remote host up" .tunconnect,
    entry .tundown "tundown" "tunnel brought down" .tun,
    entry .tunup "tunup" "new tunnel brought up" .tun,
    entry .ifdown "ifdown" "interface brought down" .tdev,
    entry .ifup "ifup" "new interface brought up" .tdev,
    entry .tpdown "tpdown" "ldt module unloaded" .global,
    entry .pdevdown "pdevdown" "(underlying) physical device down" .tun,
    entry .pdevup "pdevup" "(underlying) physical device up" .tun,
    entry .nifdown "nifdown" "network interface down" .ndev,
    entry .nifup "nifup" "network interface up" .ndev,
    entry .rebind "rebind" "tunnel was rebound" .tunconnect,
    entry .subflowUp "subflowup" "new subflow added" .tunconnect,
    entry .subflowDown "subflowdown" "subflow removed" .tunconnect,
    entry .connEstab "connestab" "connection established" .tunconnect,
    entry .connEstabFail "connestabfail" "connection establishment failed" .tunfail,
    entry .connAccept "connaccept" "connection accepted" .tunconnect,
    entry .connAcceptFail "connacceptfail" "connection failed to accept" .tunfail,
    entry .connListen "connlisten" "server listening" .tunconnect,
    entry .connListenFail "connlistenfail" "failed to listen" .tunfail]

/-- The entry that ends the table. -/
def evUnknown : EvInfo where
  evtype := -1
  evstr := ascii "unknown"
  desc := ascii "unknown event"
  kind := .global

/-- The search through the whole table. -/
def evSearch (evtype : Int) : EvInfo :=
  (evlist.find? fun info => info.evtype == evtype).getD evUnknown

/-- `ldt_event_getinfo` -/
def ldtEventGetinfo (evtype : Int) : Except Int EvInfo :=
  if evtype < 0 ∨ LDT_EVTYPE_MAX < evtype then .error (-ERANGE)
  else
    match evlist[evtype.toNat]? with
    | none => .ok (evSearch evtype)
    | some info => if info.evtype = evtype then .ok info else .ok (evSearch evtype)

/-- `ldt_event_getkind` -/
def ldtEventGetkind (evtype : Int) : Except Int EvKind :=
  (ldtEventGetinfo evtype).map EvInfo.kind

/-- The kind the table gives to an event type. -/
def EvType.kind : EvType → EvKind
  | .unspec | .tpdown => .global
  | .ifdown | .ifup => .tdev
  | .tundown | .tunup | .pdevdown | .pdevup => .tun
  | .nifdown | .nifup => .ndev
  | .connEstabFail | .connAcceptFail | .connListenFail => .tunfail
  | .init | .down | .up | .rebind | .subflowUp | .subflowDown => .tunconnect
  | .connEstab | .connAccept | .connListen => .tunconnect

/-- The elements of the text of an event. -/
structure EventText where
  evstr : List UInt8
  desc : List UInt8
  iface : Option (List UInt8)
  pdev : Option (List UInt8)
  subflow : Option (List UInt8)
  reason : Option Int
  deriving DecidableEq

/-- The text with nothing but the two elements every event has. -/
def EvInfo.text (info : EvInfo) : EventText where
  evstr := info.evstr
  desc := info.desc
  iface := none
  pdev := none
  subflow := none
  reason := none

/-- The table has an entry of its own for every event type. -/
theorem ldtEventGetinfo_num (type : EvType) :
    ∃ info, ldtEventGetinfo type.num = .ok info ∧ info.evtype = type.num ∧
      info.kind = type.kind := by
  cases type <;> exact ⟨_, rfl, rfl, rfl⟩

@[simp]
theorem ldtEventGetkind_num (type : EvType) :
    ldtEventGetkind type.num = .ok type.kind := by
  obtain ⟨info, found, -, kind⟩ := ldtEventGetinfo_num type
  simp [ldtEventGetkind, found, kind, Except.map]

end Tunprox.Event
