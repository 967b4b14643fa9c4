import Tunprox.Queue
import Tunprox.TunAddr

/-!
# The tunnel structure

`struct mpdccptun` of `ldt_mpdccp.c` with the members its functions read, and
the tunnel `mpdccptun_new` creates.  The module is modelled as it is built for
a kernel with MP-DCCP (`CONFIG_IP_MPDCCP`), the DCCP queueing socket options
and both drop policies.  Sockets are identified by numbers; a null pointer is
`none`.
-/

namespace Tunprox

open Queue

/-- A `struct socket *`. -/
abbrev SockId := Nat

/-- `DCCPQ_POLICY_DROP_OLDEST` and `DCCPQ_POLICY_DROP_NEWEST`, the transmit
queue policies of a DCCP socket. -/
inductive DccpqPolicy where
  | dropOldest
  | dropNewest
  deriving DecidableEq, Repr

/-- The counters of `struct net_device_stats` the transmit path changes. -/
structure TxStats where
  txPackets : Nat
  txBytes : Nat
  txDropped : Nat
  txErrors : Nat
  deriving DecidableEq, Repr

/-- `struct mpdccptun` -/
structure Mpdccptun where
  tostop : Bool
  ipv6 : Bool
  ismpdccp : Bool
  bound : Bool
  rebind : Bool
  haspeer : Bool
  listening : Bool
  isserver : Bool
  isconnected : Bool
  wasconnected : Bool
  hasDelayedWork : Bool
  txQlen : Nat
  qpolicy : DccpqPolicy
  lastUnconnect : Nat
  subflow : List (List UInt8)
  bufszSubflow : Nat
  addr : TunAddr
  sock : Option SockId
  active : Option SockId
  xmitQueue : TpQueue SkBuff
  stats : TxStats

/-- The tunnel `mpdccptun_new` allocates for the address family and the kind
of DCCP that the type string names. -/
def mpdccptunNew (ipv6 ismpdccp : Bool) : Mpdccptun where
  tostop := false
  ipv6 := ipv6
  ismpdccp := ismpdccp
  bound := false
  rebind := false
  haspeer := false
  listening := false
  isserver := false
  isconnected := false
  wasconnected := false
  hasDelayedWork := false
  txQlen := 1000
  qpolicy := .dropNewest
  lastUnconnect := 0
  subflow := []
  bufszSubflow := 0
  addr := ldtTunaddrInit ipv6
  sock := none
  active := none
  xmitQueue := tpqInit TP_QUEUE_DROP_NEWEST 1000
  stats := ⟨0, 0, 0, 0⟩

/-- The member `num_subflow`. -/
def Mpdccptun.numSubflow (tdat : Mpdccptun) : Nat :=
  tdat.subflow.length

/-- `TP_HDRLEN` and `TP_HDR6LEN`, with `NET_IP_ALIGN` equal to zero. -/
def tpHdrlen (ipv6 : Bool) : Nat :=
  (if ipv6 then 40 else 20) + 255 * 4

/-- `mpdccptun_needheadroom` for a given tunnel; `NET_SKB_PAD` is 64 bytes. -/
def mpdccptunNeedheadroom (tdat : Mpdccptun) : Nat :=
  tpHdrlen tdat.ipv6 + 64

end Tunprox
