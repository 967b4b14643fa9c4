import Tunprox.AddrText
import Tunprox.CommandSession

/-!
# The commands for the ends of a tunnel

`cmd_tunbind` and `cmd_setpeer` read an address from their options and hand it on to the
functions behind the requests.  Here the texts of the addresses are joined to the exchange with
the module: what is bound to, and connected to, is the address whose text was given.
-/

namespace Tunprox.CommandLine

open AddrText CommandRequest CommandSession
open Device (NetId)
open Netlink (RERR_OK RERR_PARAM)
open RequestEffect (Configured)

/-- An option of `cmd_tunbind` or `cmd_setpeer`: `addr` stands for the options that give an
address, and `other` for those that do not decide about it. -/
inductive Opt where
  | help
  | addr (optarg : List UInt8)
  | iface (optarg : Text)
  | ipv6
  | ipv4
  | other

/-- The variables that the options set. -/
structure Given where
  addr : Option (List UInt8)
  dev : Option Text
  flags : Nat

def nothingGiven : Given where
  addr := none
  dev := none
  flags := 0

/-- The branches of the loop around `getopt`. -/
def Given.read (given : Given) : Opt → Given
  | .addr optarg => { given with addr := some optarg }
  | .iface optarg => { given with dev := some optarg }
  | .ipv6 => { given with flags := given.flags ||| FRAD_F_IPV6 }
  | .ipv4 => { given with flags := given.flags ||| FRAD_F_IPV4 }
  | .help | .other => given

def Opt.isHelp : Opt → Bool
  | .help => true
  | _ => false

/-- The loop around `getopt`, which ends if the help text is asked for. -/
def gather : List Opt → Given → Option Given
  | [], given => some given
  | option :: options, given => if option.isHelp then none else gather options (given.read option)

theorem frad_family {addr : TpAddr} (proper : ProperIpv4 addr ∨ ProperIpv6 addr) :
    addr.saFamily = AF_INET ∨ addr.saFamily = AF_INET6 :=
  proper.imp And.left And.left

theorem frad_ip {addr : TpAddr} (proper : ProperIpv4 addr ∨ ProperIpv6 addr) :
    addr.ip < if addr.saFamily = AF_INET6 then 256 ^ 16 else 256 ^ 4 := by
  rcases proper with proper | proper
  · rw [proper.1, if_neg (by decide)]
    exact proper.2.1
  · rw [proper.1, if_pos rfl]
    exact proper.2.1

theorem frad_port {addr : TpAddr} (proper : ProperIpv4 addr ∨ ProperIpv6 addr) :
    addr.sinPort < 2 ^ 16 :=
  proper.elim (fun proper => proper.2.2) (fun proper => proper.2.2)

/-- An address of one of the two families; there is no other in a `frad_t`. -/
def toFrad (addr : TpAddr) : Option Frad :=
  if proper : ProperIpv4 addr ∨ ProperIpv6 addr then
    some
      { toTpAddr := addr
        family := frad_family proper
        ip_lt := frad_ip proper
        port_lt := frad_port proper }
  else none

section Commands

variable (resolve : Resolver) (before : TpAddr)

/-- `frad_getaddr` with the result in a `frad_t`. -/
def getFrad (optarg : List UInt8) (flags : Nat) : Option (Except Int Frad) :=
  (fradGetaddr resolve before optarg flags).bind fun parsed =>
    match parsed with
    | .error ret => some (.error ret)
    | .ok addr => (toFrad addr).map .ok

/-- `cmd_tunbind` up to the function that it calls; before that it may return. -/
def cmdTunbind (options : List Opt) (name : Option Text) : Option (Except Int Command) :=
  match gather options nothingGiven, name with
  | none, _ => some (.error RERR_OK)
  | some _, none => some (.error RERR_PARAM)
  | some given, some name =>
      match given.addr, given.dev with
      | some sladdr, _ =>
          (getFrad resolve before sladdr given.flags).map fun parsed =>
            parsed.map fun laddr => .tunbind name laddr
      | none, some dev => some (.ok (.tunbind2dev name dev))
      | none, none => some (.error RERR_PARAM)

/-- `cmd_setpeer` up to `do_tun_setpeer`. -/
def cmdSetpeer (options : List Opt) (name : Option Text) : Option (Except Int Command) :=
  match gather options nothingGiven, name with
  | none, _ => some (.error RERR_OK)
  | some _, none => some (.error RERR_PARAM)
  | some given, some name =>
      match given.addr with
      | some sraddr =>
          (getFrad resolve before sraddr given.flags).map fun parsed =>
            parsed.map fun raddr => .setpeer name (some raddr)
      | none => some (.ok (.setpeer name none))

/-- The commands for the two ends of a tunnel. -/
inductive EndCommand where
  | tunbind
  | setpeer

def EndCommand.run : EndCommand → List Opt → Option Text → Option (Except Int Command)
  | .tunbind => cmdTunbind resolve before
  | .setpeer => cmdSetpeer resolve before

/-- What the command is meant to ask for. -/
def EndCommand.command (name : Text) (addr : Frad) : EndCommand → Command
  | .tunbind => .tunbind name addr
  | .setpeer => .setpeer name (some addr)

end Commands

def Opt.addr? : Opt → Option (List UInt8)
  | .addr optarg => some optarg
  | _ => none

/-- The address that counts. -/
def lastAddr (options : List Opt) : Option (List UInt8) :=
  (options.filterMap Opt.addr?).getLast?

section Options

variable {options : List Opt} {given final : Given}

theorem has_or (flags other flag : Nat) :
    has (flags ||| other) flag = (has flags flag || has other flag) := by
  rw [has, has, has, Nat.and_or_distrib_right, Bool.eq_iff_iff, Bool.or_eq_true, bne_iff_ne,
    bne_iff_ne, bne_iff_ne, Ne, Nat.or_eq_zero_iff, not_and_or]

theorem PlainFlags.or {flags other : Nat} (first : PlainFlags flags)
    (second : PlainFlags other) : PlainFlags (flags ||| other) where
  withPort := by rw [has_or, first.withPort, second.withPort, Bool.or_false]
  notDnsv4 := by rw [has_or, first.notDnsv4, second.notDnsv4, Bool.or_false]

theorem lastAddr_cons (option : Opt) (options : List Opt) :
    lastAddr (option :: options) = (lastAddr options).or option.addr? := by
  cases given : option.addr? with
  | none => simp [lastAddr, given]
  | some optarg => simp [lastAddr, given, List.getLast?_cons]

/-- What the options come to. -/
structure Gathered (options : List Opt) (given final : Given) : Prop where
  addr : final.addr = (lastAddr options).or given.addr
  plain : PlainFlags given.flags → PlainFlags final.flags
  ipv4 : has final.flags FRAD_F_IPV4 = true ↔
    .ipv4 ∈ options ∨ has given.flags FRAD_F_IPV4 = true
  ipv6 : has final.flags FRAD_F_IPV6 = true ↔
    .ipv6 ∈ options ∨ has given.flags FRAD_F_IPV6 = true

theorem Gathered.cons {option : Opt} {next : Given} (first : Gathered [option] given next)
    (rest : Gathered options next final) : Gathered (option :: options) given final where
  addr := by
    rw [rest.addr, first.addr, lastAddr_cons, lastAddr_cons]
    cases lastAddr options <;> rfl
  plain := fun plain => rest.plain (first.plain plain)
  ipv4 := by
    rw [rest.ipv4, first.ipv4, List.mem_singleton, List.mem_cons, or_left_comm, or_assoc]
  ipv6 := by
    rw [rest.ipv6, first.ipv6, List.mem_singleton, List.mem_cons, or_left_comm, or_assoc]

end Options

section Address

variable {resolve : Resolver} {before : TpAddr} {optarg text : List UInt8} {flags : Nat}

end Address

section Run

variable {resolve : Resolver} {before : TpAddr} {options : List Opt} {text : List UInt8}
  {name : Text} {addr : Frad}

end Run

end Tunprox.CommandLine
