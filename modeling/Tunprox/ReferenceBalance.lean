import Tunprox.DeviceReference

/-!
# The balance of the references to devices

In every run in which no device bound to a physical one is removed and the module exits
without devices, the references are balanced.  Each step changes the devices as a step of
the devices without the ledger does, or not at all.
-/

namespace Tunprox.ReferenceBalance

open LabelledRun Event DeviceStep DevicePointer ReferenceLedger DeviceReference
open Device hiding Label step

/-- The invariant: the devices are well formed, and what was taken is settled. -/
structure Kept (state : RefState) : Prop where
  wf : Wf state.system
  settled : Settled state

theorem kept_initial : Kept initial where
  wf := wf_boot
  settled := AccountsFor.settled (accounts_nil _)

/-- A handler keeps the devices well formed if its operation does. -/
theorem wf_ldtNlOnDev {operation : RefState → NdevId → LdtDev → Int × RefState}
    {state : RefState} {net : NetId} {name : List UInt8}
    (keeps : ∀ held id tdev, held.system = state.system →
      ldtdev held.system id = some tdev → Wf (operation held id tdev).2.system)
    (wf : Wf state.system) :
    Wf (ldtNlOnDev operation state net name).2.system := by
  unfold ldtNlOnDev ldtdevByname
  cases devGetByName state.system net name with
  | none => exact wf
  | some id =>
      simp only
      cases found : ldtdev (devHold state id).system id with
      | none => exact wf
      | some tdev =>
          simp only [system_devPutAfter]
          exact keeps (devHold state id) id tdev rfl found

/-- A handler whose operation is a step of the devices. -/
theorem onSystem_kept (hz : Nat) (label : NdevId → Device.Label)
    {operation : System → NdevId → LdtDev → Int × System} {state : RefState} {net : NetId}
    {name : List UInt8}
    (keeps : ∀ system id tdev, KeepsPdevs system (operation system id tdev).2)
    (isStep : ∀ system id, system.fault = none → Device.step hz system (label id) =
      (ldtdev system id).map fun tdev => (operation system id tdev).2)
    (wf : Wf state.system) (faultless : state.system.fault = none)
    (accounts : AccountsFor state []) :
    Kept (ldtNlOnDev (onSystem operation) state net name).2 where
  settled := onSystem_settled keeps accounts
  wf := by
    apply wf_ldtNlOnDev _ wf
    intro held id tdev same found
    rw [same] at found
    have stepped : Device.step hz state.system (label id) =
        some (operation state.system id tdev).2 := by
      rw [isStep state.system id faultless]
      exact congrArg (Option.map _) found
    simp only [onSystem, same]
    exact wf_step wf stepped

theorem ldtNlShowDev_kept {state : RefState} {net : NetId} {name : List UInt8} {ret : Int}
    (wf : Wf state.system) (accounts : AccountsFor state []) :
    Kept (ldtNlShowDev state net name ret).2 := by
  unfold ldtNlShowDev
  split
  · exact ⟨wf, accounts.settled⟩
  · refine ⟨?_, onSystem_settled (fun system _ _ => KeepsPdevs.refl system) accounts⟩
    apply wf_ldtNlOnDev _ wf
    intro held id tdev same _
    exact same.symm ▸ wf

theorem ldtNlBind2dev_kept (hz : Nat) {state : RefState} {net : NetId}
    {name dev : List UInt8} {stack : TpAddr} (wf : Wf state.system)
    (faultless : state.system.fault = none) (accounts : AccountsFor state []) :
    Kept (ldtNlBind2dev state net name dev stack).2 where
  settled := by
    apply ldtNlOnDev_settled _ accounts
    intro held id tdev same found heldAccounts
    exact ldtDevBind2devRef_accounts (same ▸ wf) found dev stack heldAccounts
  wf := by
    apply wf_ldtNlOnDev _ wf
    intro held id tdev same found
    rw [same] at found
    have stepped : Device.step hz state.system (.bind2dev id dev stack) =
        some (ldtDevBind2dev state.system id tdev dev stack).2 := by
      simp [Device.step, faultless, found]
    have bound := wf_step wf stepped
    unfold ldtDevBind2devRef
    rw [← same] at wf bound
    split
    · exact wf
    · simp only
      split
      · exact wf
      · cases tdev.pdev with
        | none => exact bound
        | some pdev => exact bound

theorem ldtNlRmDev_kept (hz : Nat) {state next : RefState} {net : NetId} {name : List UInt8}
    (wf : Wf state.system) (faultless : state.system.fault = none)
    (accounts : AccountsFor state [])
    (unbound : RemovesUnbound state (.rmDev net name))
    (removed : ldtNlRmDev state net name = some next) : Kept next := by
  simp only [RemovesUnbound] at unbound
  unfold ldtNlRmDev ldtdevByname at removed
  cases named : devGetByName state.system net name with
  | none =>
      simp only [named, Option.some.injEq] at removed
      exact removed ▸ ⟨wf, accounts.settled⟩
  | some id =>
      have heldWf : Wf (devHold state id).system := wf
      have held : AccountsFor (devHold state id) [id] := Accounts.get accounts id
      simp only [named, Option.bind_some] at removed unbound
      cases found : ldtdev (devHold state id).system id with
      | none =>
          simp only [found, Option.some.injEq] at removed
          exact removed ▸ ⟨wf, AccountsFor.settled (Accounts.put held)⟩
      | some tdev =>
          have unstored : tdev.pdev = none := by
            rw [← pdevOf_of_ldtdev found]
            exact unbound
          simp only [found] at removed
          obtain ⟨freed, unheld, systemEq⟩ :=
            ldtFreeDevRef_spec heldWf found unstored held removed
          have stepped : Device.step hz state.system (.freeDev id) = some next.system := by
            simp only [devHold] at found unheld systemEq
            simp [Device.step, faultless, unheld, found, systemEq]
          exact ⟨wf_step wf stepped, freed.settled⟩

/-- Another device is registered that stores nothing. -/
theorem registerNetdev_accounts {state : RefState} {own : List NdevId} {ndev : NetDevice}
    (nothing : pdevOfNetdev ndev = none) (accounts : AccountsFor state own) :
    AccountsFor { state with system := registerNetdev state.system ndev } own := by
  apply Accounts.succ
  · apply Accounts.congr accounts
    intro other below
    have different : other ≠ state.system.nextNdev := Nat.ne_of_lt below
    simp only [pdevOf, registerNetdev, Function.update_of_ne different]
  · simp only [pdevOf, registerNetdev, Function.update_self, nothing]

theorem ldtCreateDev_accounts {state : RefState} (net : NetId) (name : Option (List UInt8))
    (assigned : List UInt8) (alloc : Bool) (register : Int)
    (accounts : AccountsFor state []) :
    AccountsFor
      { state with
        system := (ldtCreateDev state.system net name assigned alloc register).2 } [] := by
  unfold ldtCreateDev
  split
  · exact accounts
  · split
    · exact accounts
    · split
      · exact accounts
      · have fresh : pdevOfNetdev (newNetdev assigned net (some tpdevSetup)) = none := rfl
        have registered := registerNetdev_accounts fresh accounts
        apply registered.keepsPdevs
        apply KeepsPdevs.trans
        · exact modifyLdt_keepsPdevs _ state.system.nextNdev
            (fun tdev => { tdev with active := true }) fun _ => rfl
        · exact ldtEventCrsend_keepsPdevs ..

/-- What takes no reference leaves the ledger accounted for. -/
theorem device_accounts {hz : Nat} {state : RefState} {label : Device.Label} {next : System}
    (none : countsNone label = true) (accounts : AccountsFor state [])
    (stepped : Device.step hz state.system label = some next) :
    AccountsFor { state with system := next } [] := by
  simp only [Device.step] at stepped
  split at stepped
  · contradiction
  · cases label with
    | registerNetdev name net =>
        obtain rfl := Option.some.inj stepped
        exact registerNetdev_accounts rfl accounts
    | setAddrs id ipPtr ip6Ptr =>
        obtain rfl := Option.some.inj stepped
        exact accounts.keepsPdevs (modifyNetdev_keepsPdevs _ id _ rfl)
    | createDev net name assigned alloc register =>
        obtain rfl := Option.some.inj stepped
        exact ldtCreateDev_accounts net name assigned alloc register accounts
    | work id label =>
        simp only at stepped
        split at stepped
        · obtain ⟨tdev, -, worked⟩ := Option.bind_eq_some_iff.mp stepped
          exact accounts.keepsPdevs (tunWork_keepsPdevs worked)
        · contradiction
    | _ => simp [countsNone] at none

theorem kept_of_step {hz : Nat} {state next : RefState} {label : Label}
    (unbound : RemovesUnbound state label) (kept : Kept state)
    (stepped : step hz state label = some next) : Kept next := by
  obtain ⟨wf, own, accounts, handedBack⟩ := kept
  simp only [step] at stepped
  split at stepped
  · contradiction
  · rename_i notFaulty
    have faultless : state.system.fault = none := Option.not_isSome_iff_eq_none.mp notFaulty
    rw [handedBack faultless] at accounts
    cases label with
    | device label =>
        simp only at stepped
        split at stepped
        · rename_i none
          obtain ⟨system, devStepped, rfl⟩ := Option.map_eq_some_iff.mp stepped
          exact ⟨wf_step wf devStepped, (device_accounts none accounts devStepped).settled⟩
        · contradiction
    | netdevUp id stack =>
        simp only [Option.ite_none_right_eq_some, Option.some.injEq] at stepped
        obtain ⟨enabled, rfl⟩ := stepped
        have devStepped : Device.step hz state.system (.netdevUp id stack) =
            some (tpEvUp (modifyNetdev state.system id fun ndev => { ndev with iffUp := true })
              id stack) := by
          simp only [Device.step, faultless, Option.isSome_none, Bool.false_eq_true, if_false,
            enabled, and_self, if_true]
        have flagged := accounts.keepsPdevs (modifyNetdev_keepsPdevs state.system id
          (fun ndev => { ndev with iffUp := true }) rfl)
        refine ⟨?_, tpEvNotifyRef_settled (fun _ _ _ => tpdevNdevup_keepsPdevs ..) flagged⟩
        rw [tpEvUpRef, system_tpEvNotifyRef]
        exact wf_step wf devStepped
    | netdevDown id =>
        simp only [Option.ite_none_right_eq_some, Option.some.injEq] at stepped
        obtain ⟨enabled, rfl⟩ := stepped
        have devStepped : Device.step hz state.system (.netdevDown id) =
            some (tpEvDown (modifyNetdev state.system id fun ndev =>
              { ndev with iffUp := false }) id) := by
          simp only [Device.step, faultless, Option.isSome_none, Bool.false_eq_true, if_false,
            enabled, and_self, if_true]
        have flagged := accounts.keepsPdevs (modifyNetdev_keepsPdevs state.system id
          (fun ndev => { ndev with iffUp := false }) rfl)
        refine ⟨?_, tpEvNotifyRef_settled tpdevNdevdown_keepsPdevs flagged⟩
        rw [tpEvDownRef, system_tpEvNotifyRef]
        exact wf_step wf devStepped
    | rmDev net name => exact ldtNlRmDev_kept hz wf faultless accounts unbound stepped
    | showDev net name ret =>
        obtain rfl := Option.some.inj stepped
        exact ldtNlShowDev_kept wf accounts
    | rmTun net name =>
        obtain rfl := Option.some.inj stepped
        apply onSystem_kept hz (fun id => .rmTun id) ldtRmTun_keepsPdevs _ wf faultless accounts
        intro system id faultless
        simp only [Device.step, faultless, Option.isSome_none, Bool.false_eq_true, if_false]
    | newtun net name tuntype kmalloc =>
        obtain rfl := Option.some.inj stepped
        apply onSystem_kept hz (fun id => .newtun id tuntype kmalloc)
          (fun _ _ _ => ldtDevNewtun_keepsPdevs ..) _ wf faultless accounts
        intro system id faultless
        simp only [Device.step, faultless, Option.isSome_none, Bool.false_eq_true, if_false]
    | bind net name laddr =>
        obtain rfl := Option.some.inj stepped
        apply onSystem_kept hz (fun id => .bind id laddr)
          (fun _ _ _ => ldtDevBind_keepsPdevs ..) _ wf faultless accounts
        intro system id faultless
        simp only [Device.step, faultless, Option.isSome_none, Bool.false_eq_true, if_false]
    | bind2dev net name dev stack =>
        obtain rfl := Option.some.inj stepped
        exact ldtNlBind2dev_kept hz wf faultless accounts
    | peer net name raddr =>
        obtain rfl := Option.some.inj stepped
        apply onSystem_kept hz (fun id => .peer id raddr)
          (fun _ _ _ => ldtDevPeer_keepsPdevs ..) _ wf faultless accounts
        intro system id faultless
        simp only [Device.step, faultless, Option.isSome_none, Bool.false_eq_true, if_false]
    | serverstart net name =>
        obtain rfl := Option.some.inj stepped
        apply onSystem_kept hz (fun id => .serverstart id)
          ldtDevServerstart_keepsPdevs _ wf faultless accounts
        intro system id faultless
        simp only [Device.step, faultless, Option.isSome_none, Bool.false_eq_true, if_false]
    | setQueue net name txqlen qpolicy txqlenRet qpolicyRet =>
        obtain rfl := Option.some.inj stepped
        apply onSystem_kept hz (fun id => .setqueue id txqlen qpolicy txqlenRet qpolicyRet)
          (fun _ _ _ => ldtDevSetqueue_keepsPdevs ..) _ wf faultless accounts
        intro system id faultless
        simp only [Device.step, faultless, Option.isSome_none, Bool.false_eq_true, if_false]
    | evsend net name evtype reason =>
        obtain rfl := Option.some.inj stepped
        apply onSystem_kept hz (fun id => .evsend id evtype reason)
          (fun _ _ _ => ldtDevEvsend_keepsPdevs ..) _ wf faultless accounts
        intro system id faultless
        simp only [Device.step, faultless, Option.isSome_none, Bool.false_eq_true, if_false]
    | removeAll =>
        simp only [RemovesUnbound] at unbound
        simp only [ldtRemoveAll, unbound, List.foldlM_nil, Option.pure_def,
          Option.some.injEq] at stepped
        exact stepped ▸ ⟨wf, accounts.settled⟩

/-- In every run in which no device bound to a physical one is removed, and the module
exits without devices, the references that the module takes are given back: those of each
command and notification at its end, those stored when they are replaced, and never more
than were taken. -/
theorem balanced_of_removesUnbound {hz : Nat} {labels : List Label} {final : RefState}
    (guarded : Guarded (step hz) RemovesUnbound initial labels)
    (ran : run (step hz) initial labels = some final) : Balanced final :=
  balanced_of_settled
    (invariant_of_guarded kept_of_step guarded kept_initial ran).settled

def stackAddr : TpAddr where
  saFamily := AF_INET
  ip := 0
  sinPort := 0

/-- Two physical devices and an ldt device. -/
def twoPhysical : List Label :=
  [.device (.registerNetdev [101, 48] 0), .device (.registerNetdev [101, 49] 0),
    .device (.createDev 0 none [108, 48] true 0)]

/-- The device is bound to one physical device and then to another one, which goes up;
commands for it fail and succeed; another device is created and removed. -/
def rebound : List Label :=
  twoPhysical ++
    [.bind2dev 0 [108, 48] [101, 48] stackAddr, .bind2dev 0 [108, 48] [101, 49] stackAddr,
      .device (.setAddrs 1 (some [7]) none), .newtun 0 [108, 48] none true,
      .netdevUp 1 stackAddr, .bind2dev 0 [108, 48] [101, 57] stackAddr,
      .showDev 0 [108, 57] 0, .device (.createDev 0 none [108, 49] true 0),
      .rmDev 0 [108, 49]]

theorem balanced_rebound :
    ∃ final, run (step 100) initial rebound = some final ∧ final.system.fault = none ∧
      Balanced final := by
  obtain ⟨final, ran⟩ : ∃ final, run (step 100) initial rebound = some final := ⟨_, rfl⟩
  have guarded : Guarded (step 100) RemovesUnbound initial rebound := by decide
  have works : ((run (step 100) initial rebound).map fun final => final.system.fault) =
      some none := by
    decide
  simp only [ran, Option.map_some, Option.some.injEq] at works
  exact ⟨final, ran, works, balanced_of_removesUnbound guarded ran⟩

/-- The device is bound to a physical one and removed. -/
def removedBound : List Label :=
  twoPhysical ++ [.bind2dev 0 [108, 48] [101, 48] stackAddr, .rmDev 0 [108, 48]]

theorem not_balanced_removedBound :
    ∃ final, run (step 100) initial removedBound = some final ∧ ¬ Balanced final := by
  obtain ⟨final, ran⟩ :
      ∃ final, run (step 100) initial removedBound = some final := ⟨_, rfl⟩
  have counted : ((run (step 100) initial removedBound).map fun final =>
      (final.system.fault, gets final.log 0, puts final.log 0,
        storedCount (pdevOf final.system) 0 final.system.nextNdev)) =
          some (none, 1, 0, 0) := by
    decide
  simp only [ran, Option.map_some, Option.some.injEq, Prod.mk.injEq] at counted
  obtain ⟨faultless, taken, given, stored⟩ := counted
  refine ⟨final, ran, ?_⟩
  intro balanced
  have exact := balanced.givenBack faultless 0
  omega

/-- The module exits while there is a device: `ldt_remove_all` gives back a reference that
was not taken. -/
def exitWithDevice : List Label :=
  twoPhysical ++ [.removeAll]

theorem not_covered_exitWithDevice :
    ∃ final, run (step 100) initial exitWithDevice = some final ∧ ¬ Covered final.log := by
  obtain ⟨final, ran⟩ :
      ∃ final, run (step 100) initial exitWithDevice = some final := ⟨_, rfl⟩
  refine ⟨final, ran, ?_⟩
  intro covered
  have counted : ((run (step 100) initial exitWithDevice).map fun final =>
      (gets final.log 2, puts final.log 2)) = some (0, 1) := by
    decide
  simp only [ran, Option.map_some, Option.some.injEq, Prod.mk.injEq] at counted
  have less := covered final.log (List.prefix_refl _) 2
  omega

end Tunprox.ReferenceBalance
