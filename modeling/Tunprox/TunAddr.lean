import Tunprox.SkBuff

/-!
# Tunnel addresses

`tp_addr_t` of `ldt_addr.h` and the address state of a tunnel from
`ldt_tunaddr.c`.  The address family decides which member of the union is
read, so one field holds the IPv4 or IPv6 address; ports are kept in network
byte order as in the socket structures.
-/

namespace Tunprox

open Errno

def AF_INET : Nat := 2
def AF_INET6 : Nat := 10

/-- `LDT_TUN_BIND_F_ADDRCHG` -/
def LDT_TUN_BIND_F_ADDRCHG : Nat := 2

/-- `htons` on a little-endian machine. -/
def htons (port : Nat) : Nat :=
  port % 256 * 256 + port / 256 % 256

theorem htons_lt (port : Nat) : htons port < 2 ^ 16 := by
  unfold htons
  omega

/-- The port changes its byte order twice on its way. -/
theorem htons_htons {port : Nat} (fits : port < 2 ^ 16) : htons (htons port) = port := by
  have high : port / 256 % 256 = port / 256 := Nat.mod_eq_of_lt (by omega)
  have first : (port % 256 * 256 + port / 256) % 256 = port / 256 := by omega
  have second : (port % 256 * 256 + port / 256) / 256 % 256 = port % 256 := by omega
  rw [htons, htons, high, first, second]
  exact Nat.div_add_mod' port 256

/-- `tp_addr_t` -/
structure TpAddr where
  saFamily : Nat
  ip : Nat
  sinPort : Nat
  deriving DecidableEq, Repr

/-- `TP_ADDR_ISIPV6` -/
def TpAddr.isIpv6 (addr : TpAddr) : Bool :=
  addr.saFamily == AF_INET6

/-- `TP_ADDR_ISIPV4` -/
def TpAddr.isIpv4 (addr : TpAddr) : Bool :=
  addr.saFamily == AF_INET

/-- `tp_addr_getport` -/
def tpAddrGetport (addr : TpAddr) : Nat :=
  htons addr.sinPort

/-- `tp_addr_isany` -/
def tpAddrIsany (addr : TpAddr) : Bool :=
  addr.ip == 0

/-- `tp_addr_cp`: the copied address, which is IPv4 unless the original is
IPv6. -/
def tpAddrCp (addr : TpAddr) : TpAddr :=
  { saFamily := if addr.isIpv6 then AF_INET6 else AF_INET
    ip := addr.ip
    sinPort := htons (htons addr.sinPort) }

/-- `tp_addr_cpiponly` -/
def tpAddrCpiponly (target source : TpAddr) : TpAddr :=
  if target.saFamily ≠ source.saFamily then target
  else if target.isIpv6 ∨ target.isIpv4 then { target with ip := source.ip }
  else target

/-- `struct ldt_tunaddr` -/
structure TunAddr where
  laddr : TpAddr
  raddr : TpAddr
  anyladdr : Bool
  anylport : Bool
  anyraddr : Bool
  hasraddr : Bool
  bound : Bool
  ipv6 : Bool
  lport : Nat
  deriving DecidableEq, Repr

/-- `ldt_tunaddr_init` -/
def ldtTunaddrInit (ipv6 : Bool) : TunAddr where
  laddr := { saFamily := if ipv6 then AF_INET6 else AF_INET, ip := 0, sinPort := 0 }
  raddr := { saFamily := if ipv6 then AF_INET6 else AF_INET, ip := 0, sinPort := 0 }
  anyladdr := false
  anylport := false
  anyraddr := true
  hasraddr := false
  bound := false
  ipv6 := ipv6
  lport := 0

/-- `ldt_tunaddr_bind` -/
def ldtTunaddrBind (tad : TunAddr) (addr : TpAddr) (flags : Nat) : Int × TunAddr :=
  if addr.saFamily ≠ tad.raddr.saFamily then (-EINVAL, tad)
  else if flags &&& LDT_TUN_BIND_F_ADDRCHG ≠ 0 then
    if !tad.bound then (-ENOENT, tad)
    else
      (0, { tad with
        laddr := tpAddrCpiponly tad.laddr addr
        anyladdr := tpAddrIsany addr
        bound := true })
  else
    (0, { tad with
      laddr := tpAddrCp addr
      anyladdr := tpAddrIsany addr
      lport := tpAddrGetport addr
      anylport := tpAddrGetport addr == 0
      bound := true })

/-- `ldt_tunaddr_setpeer` -/
def ldtTunaddrSetpeer (tad : TunAddr) (addr : TpAddr) (dyn : Bool) : Int × TunAddr :=
  if dyn && !tad.anyraddr then (0, tad)
  else if addr.saFamily ≠ tad.raddr.saFamily then (-EINVAL, tad)
  else if dyn then (0, { tad with raddr := tpAddrCp addr, hasraddr := true })
  else
    (0, { tad with
      raddr := tpAddrCp addr
      anyraddr := tpAddrIsany addr
      hasraddr := !tpAddrIsany addr })

end Tunprox
