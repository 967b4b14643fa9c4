import Tunprox.TunAddr

/-!
# Sequences of calls on the address state

The address state of a tunnel is written by `ldt_tunaddr_init`,
`ldt_tunaddr_bind` and `ldt_tunaddr_setpeer` alone.  Six flags and a cached port
mirror what stands in the two address unions.  `TunAddr.Agrees` collects what the
mirrors say about the addresses, and every sequence of calls keeps it.
-/

namespace Tunprox

open Errno

/-- A call of one of the functions of `ldt_tunaddr.c` that write the state.  An address
pointer may be null. -/
inductive TunAddrCall where
  | init (ipv6 : Bool)
  | bind (addr : Option TpAddr) (flags : Nat)
  | setpeer (addr : Option TpAddr) (dyn : Bool)
  deriving DecidableEq, Repr

namespace TunAddrCall

/-- The return value and the state after a call.  `ldt_tunaddr_init` returns nothing. -/
def perform (tad : TunAddr) : TunAddrCall → Int × TunAddr
  | .init ipv6 => (0, ldtTunaddrInit ipv6)
  | .bind none _ => (-EINVAL, tad)
  | .bind (some addr) flags => ldtTunaddrBind tad addr flags
  | .setpeer none _ => (-EINVAL, tad)
  | .setpeer (some addr) dyn => ldtTunaddrSetpeer tad addr dyn

/-- The state after a sequence of calls. -/
def performAll (tad : TunAddr) (calls : List TunAddrCall) : TunAddr :=
  calls.foldl (fun tad call => (call.perform tad).2) tad

/-- The family that the latest initialization chose, `ipv6` if there was none. -/
def chosenIpv6 (ipv6 : Bool) : List TunAddrCall → Bool
  | [] => ipv6
  | .init chosen :: calls => chosenIpv6 chosen calls
  | .bind _ _ :: calls => chosenIpv6 ipv6 calls
  | .setpeer _ _ :: calls => chosenIpv6 ipv6 calls

end TunAddrCall

namespace TunAddr

/-- The family that `ldt_tunaddr_init` writes into both addresses. -/
def familyOf (ipv6 : Bool) : Nat :=
  if ipv6 then AF_INET6 else AF_INET

/-- The flags and the cached port agree with the two addresses. -/
structure Agrees (ipv6 : Bool) (tad : TunAddr) : Prop where
  laddrFamily : tad.laddr.saFamily = familyOf ipv6
  raddrFamily : tad.raddr.saFamily = familyOf ipv6
  lport : tad.bound = true → tad.lport = tpAddrGetport tad.laddr
  anylport : tad.bound = true → (tad.anylport = true ↔ tad.lport = 0)
  anyladdr : tad.bound = true → (tad.anyladdr = true ↔ tpAddrIsany tad.laddr = true)
  raddr : tad.anyraddr = false → tad.hasraddr = true ∧ tpAddrIsany tad.raddr = false

/-- A bind that only follows a change of the local address writes the IP of the local
address and its wildcard flag. -/
def OnlyLocalIp (tad next : TunAddr) : Prop :=
  ∃ ip anyladdr, next = { tad with laddr := { tad.laddr with ip := ip }, anyladdr := anyladdr }

end TunAddr

open TunAddr TunAddrCall

theorem familyOf_eq_six_or_four (ipv6 : Bool) :
    familyOf ipv6 = AF_INET6 ∨ familyOf ipv6 = AF_INET := by
  cases ipv6 <;> simp [familyOf]

/-- A whole-address copy keeps the IP. -/
theorem tpAddrIsany_tpAddrCp (addr : TpAddr) :
    tpAddrIsany (tpAddrCp addr) = tpAddrIsany addr :=
  rfl

/-- A whole-address copy swaps the bytes of the port twice, which the reader of the port
does not see. -/
theorem tpAddrGetport_tpAddrCp (addr : TpAddr) :
    tpAddrGetport (tpAddrCp addr) = tpAddrGetport addr := by
  change htons (htons (htons addr.sinPort)) = htons addr.sinPort
  exact htons_htons (htons_lt addr.sinPort)

/-- A whole-address copy of an address of one of the two families has its family. -/
theorem saFamily_tpAddrCp {addr : TpAddr} {ipv6 : Bool}
    (family : addr.saFamily = familyOf ipv6) :
    (tpAddrCp addr).saFamily = familyOf ipv6 := by
  cases ipv6 <;> simp_all [tpAddrCp, TpAddr.isIpv6, familyOf, AF_INET, AF_INET6]

/-- Within one of the two families a copy of the IP alone writes the IP. -/
theorem tpAddrCpiponly_eq {target source : TpAddr} {ipv6 : Bool}
    (targetFamily : target.saFamily = familyOf ipv6)
    (sourceFamily : source.saFamily = familyOf ipv6) :
    tpAddrCpiponly target source = { target with ip := source.ip } := by
  have known : target.isIpv6 = true ∨ target.isIpv4 = true := by
    rcases familyOf_eq_six_or_four ipv6 with six | four
    · left
      simp [TpAddr.isIpv6, targetFamily, six]
    · right
      simp [TpAddr.isIpv4, targetFamily, four]
  rw [tpAddrCpiponly, if_neg (not_not.mpr (targetFamily.trans sourceFamily.symm)), if_pos known]

theorem agrees_ldtTunaddrInit (ipv6 : Bool) : Agrees ipv6 (ldtTunaddrInit ipv6) where
  laddrFamily := rfl
  raddrFamily := rfl
  lport := nofun
  anylport := nofun
  anyladdr := nofun
  raddr := nofun

/-- What `ldt_tunaddr_bind` can do: fail and leave the state, follow a change of the local
address, or take the whole address. -/
theorem ldtTunaddrBind_cases {ipv6 : Bool} {tad : TunAddr} (agrees : Agrees ipv6 tad)
    (addr : TpAddr) (flags : Nat) :
    (∃ error, error < 0 ∧ ldtTunaddrBind tad addr flags = (error, tad)) ∨
    (flags &&& LDT_TUN_BIND_F_ADDRCHG ≠ 0 ∧ tad.bound = true ∧
      ldtTunaddrBind tad addr flags =
        (0, { tad with
          laddr := { tad.laddr with ip := addr.ip }, anyladdr := tpAddrIsany addr })) ∨
    (flags &&& LDT_TUN_BIND_F_ADDRCHG = 0 ∧ addr.saFamily = familyOf ipv6 ∧
      ldtTunaddrBind tad addr flags =
        (0, { tad with
          laddr := tpAddrCp addr
          anyladdr := tpAddrIsany addr
          lport := tpAddrGetport addr
          anylport := tpAddrGetport addr == 0
          bound := true })) := by
  by_cases otherFamily : addr.saFamily ≠ tad.raddr.saFamily
  · left
    exact ⟨-EINVAL, by decide, by rw [ldtTunaddrBind, if_pos otherFamily]⟩
  · have family : addr.saFamily = familyOf ipv6 :=
      (not_not.mp otherFamily).trans agrees.raddrFamily
    by_cases change : flags &&& LDT_TUN_BIND_F_ADDRCHG ≠ 0
    · cases bound : tad.bound with
      | false =>
          left
          exact ⟨-ENOENT, by decide, by
            simp [ldtTunaddrBind, if_neg otherFamily, if_pos change, bound]⟩
      | true =>
          right
          left
          refine ⟨change, rfl, ?_⟩
          rw [ldtTunaddrBind, if_neg otherFamily, if_pos change, bound,
            tpAddrCpiponly_eq agrees.laddrFamily family]
          simp
    · right
      right
      refine ⟨not_not.mp change, family, ?_⟩
      rw [ldtTunaddrBind, if_neg otherFamily, if_neg change]

/-- What `ldt_tunaddr_setpeer` can do: leave the state, with or without an error, take an
address that a connection brought, or take the address of the request. -/
theorem ldtTunaddrSetpeer_cases {ipv6 : Bool} {tad : TunAddr} (agrees : Agrees ipv6 tad)
    (addr : TpAddr) (dyn : Bool) :
    (ldtTunaddrSetpeer tad addr dyn).2 = tad ∨
    (addr.saFamily = familyOf ipv6 ∧ tad.anyraddr = true ∧
      ldtTunaddrSetpeer tad addr dyn =
        (0, { tad with raddr := tpAddrCp addr, hasraddr := true })) ∨
    (addr.saFamily = familyOf ipv6 ∧
      ldtTunaddrSetpeer tad addr dyn =
        (0, { tad with
          raddr := tpAddrCp addr
          anyraddr := tpAddrIsany addr
          hasraddr := !tpAddrIsany addr })) := by
  by_cases settled : (dyn && !tad.anyraddr) = true
  · left
    rw [ldtTunaddrSetpeer, if_pos settled]
  · by_cases otherFamily : addr.saFamily ≠ tad.raddr.saFamily
    · left
      rw [ldtTunaddrSetpeer, if_neg settled, if_pos otherFamily]
    · have family : addr.saFamily = familyOf ipv6 :=
        (not_not.mp otherFamily).trans agrees.raddrFamily
      right
      cases dyn with
      | true =>
          left
          have free : tad.anyraddr = true := by simpa using settled
          refine ⟨family, free, ?_⟩
          rw [ldtTunaddrSetpeer, if_neg settled, if_neg otherFamily, if_pos rfl]
      | false =>
          right
          refine ⟨family, ?_⟩
          rw [ldtTunaddrSetpeer, if_neg settled, if_neg otherFamily]
          simp

theorem agrees_ldtTunaddrBind {ipv6 : Bool} {tad : TunAddr} (agrees : Agrees ipv6 tad)
    (addr : TpAddr) (flags : Nat) : Agrees ipv6 (ldtTunaddrBind tad addr flags).2 := by
  obtain ⟨error, -, failed⟩ | ⟨-, bound, followed⟩ | ⟨-, family, taken⟩ :=
    ldtTunaddrBind_cases agrees addr flags
  · rw [failed]
    exact agrees
  · rw [followed]
    exact {
      laddrFamily := agrees.laddrFamily
      raddrFamily := agrees.raddrFamily
      lport := agrees.lport
      anylport := agrees.anylport
      anyladdr := fun _ => Iff.rfl
      raddr := agrees.raddr }
  · rw [taken]
    exact {
      laddrFamily := saFamily_tpAddrCp family
      raddrFamily := agrees.raddrFamily
      lport := fun _ => (tpAddrGetport_tpAddrCp addr).symm
      anylport := fun _ => beq_iff_eq
      anyladdr := fun _ => by rw [tpAddrIsany_tpAddrCp]
      raddr := agrees.raddr }

theorem agrees_ldtTunaddrSetpeer {ipv6 : Bool} {tad : TunAddr} (agrees : Agrees ipv6 tad)
    (addr : TpAddr) (dyn : Bool) : Agrees ipv6 (ldtTunaddrSetpeer tad addr dyn).2 := by
  obtain unchanged | ⟨family, free, learned⟩ | ⟨family, taken⟩ :=
    ldtTunaddrSetpeer_cases agrees addr dyn
  · rw [unchanged]
    exact agrees
  · rw [learned]
    have raddrFree : tad.anyraddr ≠ false := by simp [free]
    exact {
      laddrFamily := agrees.laddrFamily
      raddrFamily := saFamily_tpAddrCp family
      lport := agrees.lport
      anylport := agrees.anylport
      anyladdr := agrees.anyladdr
      raddr := fun fixed => absurd fixed raddrFree }
  · rw [taken]
    exact {
      laddrFamily := agrees.laddrFamily
      raddrFamily := saFamily_tpAddrCp family
      lport := agrees.lport
      anylport := agrees.anylport
      anyladdr := agrees.anyladdr
      raddr := fun fixed => by
        change tpAddrIsany addr = false at fixed
        rw [tpAddrIsany_tpAddrCp]
        simp [fixed] }

/-- Every sequence of calls keeps the agreement, for the family chosen last. -/
theorem agrees_performAll {ipv6 : Bool} {tad : TunAddr} (agrees : Agrees ipv6 tad)
    (calls : List TunAddrCall) :
    Agrees (chosenIpv6 ipv6 calls) (performAll tad calls) := by
  induction calls generalizing ipv6 tad with
  | nil => exact agrees
  | cons call calls ih =>
      cases call with
      | init chosen => exact ih (agrees_ldtTunaddrInit chosen)
      | bind addr flags =>
          cases addr with
          | none => exact ih agrees
          | some addr => exact ih (agrees_ldtTunaddrBind agrees addr flags)
      | setpeer addr dyn =>
          cases addr with
          | none => exact ih agrees
          | some addr => exact ih (agrees_ldtTunaddrSetpeer agrees addr dyn)

/-- A call that returns an error leaves the state. -/
theorem perform_eq_of_error {tad : TunAddr} {call : TunAddrCall}
    (error : (call.perform tad).1 ≠ 0) : (call.perform tad).2 = tad := by
  cases call with
  | init ipv6 => exact absurd rfl error
  | bind addr flags =>
      cases addr with
      | none => rfl
      | some addr =>
          simp only [perform, ldtTunaddrBind] at error ⊢
          grind
  | setpeer addr dyn =>
      cases addr with
      | none => rfl
      | some addr =>
          simp only [perform, ldtTunaddrSetpeer] at error ⊢
          grind

/-- A bind with `LDT_TUN_BIND_F_ADDRCHG` keeps everything but the IP of the local address
and its wildcard flag. -/
theorem onlyLocalIp_of_addrchg {ipv6 : Bool} {tad : TunAddr} (agrees : Agrees ipv6 tad)
    (addr : Option TpAddr) {flags : Nat} (change : flags &&& LDT_TUN_BIND_F_ADDRCHG ≠ 0) :
    OnlyLocalIp tad ((TunAddrCall.bind addr flags).perform tad).2 := by
  cases addr with
  | none => exact ⟨tad.laddr.ip, tad.anyladdr, rfl⟩
  | some addr =>
      obtain ⟨error, -, failed⟩ | ⟨-, -, followed⟩ | ⟨whole, -, -⟩ :=
        ldtTunaddrBind_cases agrees addr flags
      · exact ⟨tad.laddr.ip, tad.anyladdr, by rw [perform, failed]⟩
      · exact ⟨addr.ip, tpAddrIsany addr, by rw [perform, followed]⟩
      · exact absurd whole change

/-- After an initialization and any calls the flags and the cached port agree with the two
addresses, and this is so after each further call as well: a bind that follows a change of
the local address writes only its IP and the wildcard flag, and a call that returns an
error changes nothing. -/
theorem agrees_of_calls (ipv6 : Bool) (calls : List TunAddrCall) :
    let tad := performAll (ldtTunaddrInit ipv6) calls
    Agrees (chosenIpv6 ipv6 calls) tad ∧
    (∀ addr flags, flags &&& LDT_TUN_BIND_F_ADDRCHG ≠ 0 →
      OnlyLocalIp tad ((TunAddrCall.bind addr flags).perform tad).2) ∧
    ∀ call : TunAddrCall, (call.perform tad).1 ≠ 0 → (call.perform tad).2 = tad := by
  intro tad
  have agrees : Agrees (chosenIpv6 ipv6 calls) tad :=
    agrees_performAll (agrees_ldtTunaddrInit ipv6) calls
  refine ⟨agrees, ?_, ?_⟩
  · intro addr flags change
    exact onlyLocalIp_of_addrchg agrees addr change
  · intro call error
    exact perform_eq_of_error error

end Tunprox
