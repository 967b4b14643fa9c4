import Tunprox.ConnectionConserved
import Tunprox.Device

/-!
# The life of a tunnel

`ldt_dev_newtun`, `ldt_rm_tun` and `tpdev_uninit` on one device, with the memory of
the tunnels.  `tundata` is a pointer to memory here, `mpdccptun_new` allocates it and
`mpdccptun_remove` gives it back, and a log keeps what happened in its order.  The
type tables are not fixed: `findtun` is what `tp_findtun` finds.  What
`mpdccptun_remove` does to the sockets stands in another file.
-/

namespace Tunprox.TunnelLifecycle

open Errno Connection ConnectionOwned LabelledRun Device

/-- An allocation of `mpdccptun_new`, a call of `mpdccptun_remove` and a `kfree` in it. -/
inductive MemoryEvent where
  | kmalloc (tundata : Nat)
  | remove (tundata : Nat)
  | kfree (tundata : Nat)
  deriving DecidableEq, Repr

/-- `struct ldt_tun`; `tdev` tells whether it points back to the device. -/
structure TunPointers where
  tundata : Option Nat
  tunops : Option LdtTunops
  tdev : Bool
  deriving DecidableEq, Repr

/-- `(struct ldt_tun) { .tdev = tdev }` -/
def tunWith (tdev : Bool) : TunPointers where
  tundata := none
  tunops := none
  tdev := tdev

/-- `struct ldt_dev` with the memory of its tunnels.  `isLdt` stands for the magic number,
`allocated` for the number of allocations. -/
structure TunDev where
  isLdt : Bool
  active : Bool
  hastun : Bool
  tun : TunPointers
  heap : Nat → Option ConnState
  allocated : Nat
  log : List MemoryEvent
  fault : Bool

/-- `DEV_OK` -/
def devOk (tdev : TunDev) : Bool :=
  tdev.isLdt && tdev.active

/-- `mpdccptun_new` -/
def mpdccptunNew (tdev : TunDev) (type : List UInt8) (kmalloc : Bool) : Int × TunDev :=
  if !tdev.tun.tdev then (-EINVAL, tdev)
  else
    match mpdccptunNewTun type kmalloc with
    | .error ret => (ret, tdev)
    | .ok (tunops, created) =>
        (0, { tdev with
          tun := { tdev.tun with tundata := some tdev.allocated, tunops := some tunops }
          heap := Function.update tdev.heap tdev.allocated (some created)
          allocated := tdev.allocated + 1
          log := tdev.log ++ [.kmalloc tdev.allocated] })

/-- `mpdccptun_remove`.  The tunnel points to the device it was created for. -/
def mpdccptunRemove (tdev : TunDev) (tundata : Option Nat) : TunDev :=
  match tundata with
  | none => tdev
  | some tundata =>
      let called := { tdev with log := tdev.log ++ [.remove tundata] }
      match tdev.heap tundata with
      | none => { called with fault := true }
      | some state =>
          if state.tdat.tostop then called
          else
            { called with
              tun := { called.tun with tundata := none, tunops := none }
              heap := Function.update called.heap tundata none
              log := called.log ++ [.kfree tundata] }

/-- `ldt_tun_remove` -/
def ldtTunRemove (tdev : TunDev) : TunDev :=
  if tdev.tun.tunops.isNone then tdev
  else
    let removed := mpdccptunRemove tdev tdev.tun.tundata
    { removed with tun := tunWith removed.tun.tdev }

/-- `ldt_tun_init` -/
def ldtTunInit (findtun : List UInt8 → Option LdtTunops) (tdev : TunDev)
    (type : Option (List UInt8)) (kmalloc : Bool) : Int × TunDev :=
  if !tdev.tun.tdev then (-EINVAL, tdev)
  else
    let type := type.getD (ascii "mpdccp4")
    let cleared := { tdev with tun := tunWith tdev.tun.tdev }
    match findtun type with
    | none => (-ENOENT, cleared)
    | some tunops =>
        let found := { cleared with tun := { cleared.tun with tunops := some tunops } }
        match mpdccptunNew found type kmalloc with
        | (ret, created) =>
            if ret < 0 then
              let removed := ldtTunRemove created
              (ret, { removed with tun := { removed.tun with tunops := none } })
            else (0, created)

/-- `ldt_rm_tun2` -/
def ldtRmTun2 (tdev : TunDev) : TunDev :=
  let removed := ldtTunRemove tdev
  { removed with tun := tunWith true, hastun := false }

/-- `ldt_dev_newtun` -/
def ldtDevNewtun (findtun : List UInt8 → Option LdtTunops) (tdev : TunDev)
    (type : Option (List UInt8)) (kmalloc : Bool) : Int × TunDev :=
  if !devOk tdev then (-EINVAL, tdev)
  else
    let inactive := { tdev with active := false }
    if tdev.hastun then (-EALREADY, { inactive with active := true })
    else
      match ldtTunInit findtun { inactive with tun := tunWith true } type kmalloc with
      | (ret, tdev) =>
          if ret < 0 then (ret, { tdev with active := true })
          else (ret, { tdev with hastun := true, active := true })

/-- `ldt_rm_tun` -/
def ldtRmTun (tdev : TunDev) (iffUp : Bool) : Int × TunDev :=
  if !devOk tdev then (-EINVAL, tdev)
  else if iffUp then (-EPERM, tdev)
  else (0, { ldtRmTun2 { tdev with active := false } with active := true })

/-- `tpdev_uninit` -/
def tpdevUninit (tdev : TunDev) : TunDev :=
  if tdev.isLdt then ldtRmTun2 { tdev with isLdt := false } else tdev

/-- What can happen to the device and its tunnel before the device is unregistered. -/
inductive Label where
  | newtun (type : Option (List UInt8)) (kmalloc : Bool)
  | rmTun (iffUp : Bool)
  | tunnel (label : Connection.Label)

/-- The transition function.  A request to the tunnel or one of its workers goes through
the pointer. -/
def step (hz : Nat) (findtun : List UInt8 → Option LdtTunops) (tdev : TunDev) :
    Label → Option TunDev
  | .newtun type kmalloc => some (ldtDevNewtun findtun tdev type kmalloc).2
  | .rmTun iffUp => some (ldtRmTun tdev iffUp).2
  | .tunnel label => do
      let tundata ← tdev.tun.tundata
      let state ← tdev.heap tundata
      let next ← Connection.step hz state label
      pure { tdev with heap := Function.update tdev.heap tundata (some next) }

/-- `tpdev_setup`, before or after the device was registered. -/
def setup (active : Bool) : TunDev where
  isLdt := true
  active := active
  hastun := false
  tun := tunWith false
  heap := fun _ => none
  allocated := 0
  log := []
  fault := false

def isKmalloc : MemoryEvent → Bool
  | .kmalloc _ => true
  | .remove _ | .kfree _ => false

def isKfree : MemoryEvent → Bool
  | .kfree _ => true
  | .kmalloc _ | .remove _ => false

/-- At no time is more than one of the allocated tunnels there. -/
def AtMostOne (log : List MemoryEvent) : Prop :=
  ∀ earlier, earlier <+: log → earlier.countP isKmalloc ≤ earlier.countP isKfree + 1

/-- The three ways to ask whether there is a tunnel agree. -/
def Agrees (tdev : TunDev) : Prop :=
  (tdev.hastun = true ↔ tdev.tun.tunops.isSome = true) ∧
    (tdev.tun.tunops.isSome = true ↔ tdev.tun.tundata.isSome = true)

/-- A request that fails leaves the tunnel that is there, or the device without one. -/
def LeavesTunnel (tdev next : TunDev) : Prop :=
  (tdev.tun.tunops.isSome = true →
    next.hastun = tdev.hastun ∧ next.tun.tunops = tdev.tun.tunops ∧
      next.tun.tundata = tdev.tun.tundata) ∧
    (tdev.tun.tunops = none →
      next.hastun = false ∧ next.tun.tunops = none ∧ next.tun.tundata = none)

/-- What is there is the tunnel the pointer leads to, it is not stopped, and all others
were removed once. -/
structure Sound (tdev : TunDev) : Prop where
  hastun : tdev.hastun = tdev.tun.tundata.isSome
  tunops : tdev.tun.tunops.isSome = tdev.tun.tundata.isSome
  live : ∀ tundata, tdev.tun.tundata = some tundata →
    tundata < tdev.allocated ∧ ∃ state, tdev.heap tundata = some state ∧ Owned state
  later : ∀ tundata, tdev.allocated ≤ tundata →
    tdev.log.count (.kmalloc tundata) = 0 ∧ tdev.log.count (.remove tundata) = 0
  removed : ∀ tundata < tdev.allocated,
    tdev.log.count (.remove tundata) = if tdev.tun.tundata = some tundata then 0 else 1
  balanced : tdev.log.countP isKmalloc =
    tdev.log.countP isKfree + if tdev.tun.tundata.isSome then 1 else 0
  single : AtMostOne tdev.log
  faultless : tdev.fault = false

theorem atMostOne_concat {log : List MemoryEvent} {event : MemoryEvent}
    (single : AtMostOne log)
    (last : (log ++ [event]).countP isKmalloc ≤ (log ++ [event]).countP isKfree + 1) :
    AtMostOne (log ++ [event]) := by
  intro earlier before
  rw [List.prefix_concat_iff] at before
  rcases before with rfl | before
  · exact last
  · exact single earlier before

theorem sound_setup (active : Bool) : Sound (setup active) where
  hastun := rfl
  tunops := rfl
  live := nofun
  later := fun _ _ => ⟨rfl, rfl⟩
  removed := fun _ less => absurd less (Nat.not_lt_zero _)
  balanced := rfl
  single := by
    intro earlier before
    obtain rfl := List.prefix_nil.mp before
    exact Nat.zero_le 1
  faultless := rfl

/-- Nothing of the invariant but the pointers, the memory and the log is read. -/
theorem Sound.of_same {tdev next : TunDev} (sound : Sound tdev)
    (hastun : next.hastun = tdev.hastun) (tundata : next.tun.tundata = tdev.tun.tundata)
    (tunops : next.tun.tunops.isSome = tdev.tun.tunops.isSome) (heap : next.heap = tdev.heap)
    (allocated : next.allocated = tdev.allocated) (log : next.log = tdev.log)
    (fault : next.fault = tdev.fault) : Sound next where
  hastun := by rw [hastun, tundata, sound.hastun]
  tunops := by rw [tunops, tundata, sound.tunops]
  live := by
    rw [tundata, heap, allocated]
    exact sound.live
  later := by
    rw [allocated, log]
    exact sound.later
  removed := by
    rw [allocated, log, tundata]
    exact sound.removed
  balanced := by rw [log, tundata, sound.balanced]
  single := log ▸ sound.single
  faultless := fault.trans sound.faultless

/-- Without a tunnel there is nothing to remove. -/
theorem ldtTunRemove_of_none {tdev : TunDev} (absent : tdev.tun.tundata = none) :
    (ldtTunRemove tdev).log = tdev.log ∧ (ldtTunRemove tdev).heap = tdev.heap ∧
      (ldtTunRemove tdev).allocated = tdev.allocated ∧
      (ldtTunRemove tdev).fault = tdev.fault := by
  unfold ldtTunRemove
  rw [absent]
  split_ifs
  · exact ⟨rfl, rfl, rfl, rfl⟩
  · exact ⟨rfl, rfl, rfl, rfl⟩

/-- A tunnel that is there is removed and its memory given back. -/
theorem Sound.ldtTunRemove_of_some {tdev : TunDev} (sound : Sound tdev) {tundata : Nat}
    (there : tdev.tun.tundata = some tundata) :
    ldtTunRemove tdev =
      { tdev with
        tun := tunWith tdev.tun.tdev
        heap := Function.update tdev.heap tundata none
        log := tdev.log ++ [.remove tundata] ++ [.kfree tundata] } := by
  have typed : tdev.tun.tunops.isNone = false := by
    have isSome := sound.tunops
    rw [there] at isSome
    simp [← Option.not_isSome, isSome]
  obtain ⟨-, state, live, owned⟩ := sound.live tundata there
  have running : state.tdat.tostop = false := owned.running
  simp [ldtTunRemove, typed, mpdccptunRemove, there, live, running]

/-- Removing the tunnel, if there is one, keeps the invariant. -/
theorem Sound.ldtRmTun2 {tdev : TunDev} (sound : Sound tdev) :
    Sound (TunnelLifecycle.ldtRmTun2 tdev) := by
  cases there : tdev.tun.tundata with
  | none =>
      obtain ⟨log, heap, allocated, fault⟩ := ldtTunRemove_of_none there
      have untyped : tdev.tun.tunops.isSome = false := by
        rw [sound.tunops, there]
        rfl
      have untunneled : tdev.hastun = false := by
        rw [sound.hastun, there]
        rfl
      exact sound.of_same untunneled.symm there.symm untyped.symm heap allocated log fault
  | some tundata =>
      obtain ⟨old, -⟩ := sound.live tundata there
      have removedEq := sound.ldtTunRemove_of_some there
      have balanced := sound.balanced
      simp only [there, Option.isSome_some, if_true] at balanced
      unfold TunnelLifecycle.ldtRmTun2
      rw [removedEq]
      refine {
        hastun := rfl
        tunops := rfl
        live := nofun
        later := ?_
        removed := ?_
        balanced := ?_
        single := ?_
        faultless := sound.faultless }
      · intro other later
        obtain ⟨kmallocs, removes⟩ := sound.later other later
        have different : tundata ≠ other := by
          have less : tundata < other := Nat.lt_of_lt_of_le old later
          exact Nat.ne_of_lt less
        simp [kmallocs, removes, different]
      · intro other less
        have removes := sound.removed other less
        rw [there] at removes
        by_cases same : tundata = other
        · simp_all [tunWith]
        · simp_all [tunWith]
      · simp [balanced, tunWith, isKmalloc, isKfree]
      · apply atMostOne_concat
        · apply atMostOne_concat sound.single
          simp [balanced, isKmalloc, isKfree]
        · simp [balanced, isKmalloc, isKfree]

theorem mpdccptunNewTun_neg {type : List UInt8} {kmalloc : Bool} {ret : Int}
    (failed : mpdccptunNewTun type kmalloc = .error ret) : ret < 0 := by
  have noMemory : -ENOMEM < 0 := by decide
  have unsupported : -ENOTSUPP < 0 := by decide
  unfold mpdccptunNewTun at failed
  grind

/-- What `ldt_tun_init` does for a device without a tunnel: it fails and leaves it so, with
the type table of the attempt cleared again, or it stores a new tunnel. -/
theorem ldtTunInit_cases (findtun : List UInt8 → Option LdtTunops) (tdev : TunDev)
    (cleared : tdev.tun = tunWith true) (type : Option (List UInt8)) (kmalloc : Bool) :
    (∃ ret, ret < 0 ∧ ldtTunInit findtun tdev type kmalloc = (ret, tdev)) ∨
      ∃ tunops created, Owned created ∧
        mpdccptunNewTun (type.getD (ascii "mpdccp4")) kmalloc = .ok (tunops, created) ∧
        ldtTunInit findtun tdev type kmalloc =
          (0, { tdev with
            tun := { tundata := some tdev.allocated, tunops := some tunops, tdev := true }
            heap := Function.update tdev.heap tdev.allocated (some created)
            allocated := tdev.allocated + 1
            log := tdev.log ++ [.kmalloc tdev.allocated] }) := by
  obtain ⟨isLdt, active, hastun, tun, heap, allocated, log, fault⟩ := tdev
  obtain rfl : tun = tunWith true := cleared
  have pointed : (tunWith true).tdev = true := rfl
  unfold ldtTunInit
  simp only [pointed, Bool.not_true, Bool.false_eq_true, if_false]
  cases findtun (type.getD (ascii "mpdccp4")) with
  | none =>
      left
      exact ⟨-ENOENT, by decide, rfl⟩
  | some found =>
      unfold mpdccptunNew
      cases attempt : mpdccptunNewTun (type.getD (ascii "mpdccp4")) kmalloc with
      | error ret =>
          left
          have negative := mpdccptunNewTun_neg attempt
          refine ⟨ret, negative, ?_⟩
          simp [tunWith, negative, ldtTunRemove, mpdccptunRemove]
      | ok result =>
          obtain ⟨tunops, created⟩ := result
          right
          obtain ⟨ipv6, ismpdccp, rfl⟩ := exists_initial_of_mpdccptunNewTun attempt
          refine ⟨tunops, _, owned_initial ipv6 ismpdccp, rfl, ?_⟩
          simp

/-- A new tunnel keeps the invariant if there was none. -/
theorem Sound.created {tdev : TunDev} (sound : Sound tdev)
    (absent : tdev.tun.tundata = none)
    {created : ConnState} (owned : Owned created) (tunops : LdtTunops) :
    Sound { tdev with
      hastun := true
      active := true
      tun := { tundata := some tdev.allocated, tunops := some tunops, tdev := true }
      heap := Function.update tdev.heap tdev.allocated (some created)
      allocated := tdev.allocated + 1
      log := tdev.log ++ [.kmalloc tdev.allocated] } := by
  have balanced := sound.balanced
  simp only [absent, Option.isSome_none, Bool.false_eq_true, if_false, Nat.add_zero] at balanced
  refine {
    hastun := rfl
    tunops := rfl
    live := ?_
    later := ?_
    removed := ?_
    balanced := ?_
    single := ?_
    faultless := sound.faultless }
  · rintro tundata there
    obtain rfl := Option.some.inj there
    exact ⟨Nat.lt_succ_self _, created, Function.update_self .., owned⟩
  · intro other later
    have older : tdev.allocated ≤ other := Nat.le_of_succ_le later
    obtain ⟨kmallocs, removes⟩ := sound.later other older
    have different : tdev.allocated ≠ other := Nat.ne_of_lt later
    simp [kmallocs, removes, different]
  · intro other less
    rw [List.count_append]
    by_cases same : tdev.allocated = other
    · have removes := (sound.later other (Nat.le_of_eq same)).2
      simp [removes, same]
    · have older : other < tdev.allocated := by
        have bound := Nat.le_of_lt_succ less
        omega
      have removes := sound.removed other older
      simp only [absent, reduceCtorEq, if_false] at removes
      simp [removes, same]
  · simp [balanced, isKmalloc, isKfree]
  · apply atMostOne_concat sound.single
    simp [balanced, isKmalloc, isKfree]

/-- A device that says it has no tunnel has none. -/
theorem Sound.tun_eq_none {tdev : TunDev} (sound : Sound tdev)
    (untunneled : tdev.hastun = false) :
    tdev.tun.tundata = none ∧ tdev.tun.tunops = none := by
  have noData : tdev.tun.tundata.isSome = false := sound.hastun.symm.trans untunneled
  have noOps : tdev.tun.tunops.isSome = false := sound.tunops.trans noData
  exact ⟨by simpa using noData, by simpa using noOps⟩

/-- What `ldt_dev_newtun` can do: fail and leave what is there, or store a new tunnel in a
device that has none. -/
theorem Sound.ldtDevNewtun_cases {tdev : TunDev} (sound : Sound tdev)
    (findtun : List UInt8 → Option LdtTunops) (type : Option (List UInt8)) (kmalloc : Bool) :
    (∃ ret active tun, ret < 0 ∧ tun.tundata = tdev.tun.tundata ∧
        tun.tunops = tdev.tun.tunops ∧
        ldtDevNewtun findtun tdev type kmalloc =
          (ret, { tdev with active := active, tun := tun })) ∨
      ∃ tunops created, tdev.tun.tundata = none ∧ Owned created ∧
        ldtDevNewtun findtun tdev type kmalloc =
          (0, { tdev with
            hastun := true
            active := true
            tun := { tundata := some tdev.allocated, tunops := some tunops, tdev := true }
            heap := Function.update tdev.heap tdev.allocated (some created)
            allocated := tdev.allocated + 1
            log := tdev.log ++ [.kmalloc tdev.allocated] }) := by
  unfold ldtDevNewtun
  by_cases gone : (!devOk tdev) = true
  · left
    exact ⟨-EINVAL, tdev.active, tdev.tun, by decide, rfl, rfl, by rw [if_pos gone]⟩
  · rw [if_neg gone]
    cases has : tdev.hastun with
    | true =>
        left
        exact ⟨-EALREADY, true, tdev.tun, by decide, rfl, rfl, by simp [← has]⟩
    | false =>
        obtain ⟨noData, noOps⟩ := sound.tun_eq_none has
        simp only [Bool.false_eq_true, if_false]
        rcases ldtTunInit_cases findtun { tdev with active := false, tun := tunWith true } rfl
          type kmalloc with ⟨ret, negative, failed⟩ | ⟨tunops, created, owned, -, stored⟩
        · left
          refine ⟨ret, true, tunWith true, negative, noData.symm, noOps.symm, ?_⟩
          simp only [has] at failed
          simp only [failed, if_pos negative]
        · right
          refine ⟨tunops, created, noData, owned, ?_⟩
          simp only [has] at stored
          simp only [stored, Int.lt_irrefl, if_false]

theorem Sound.ldtDevNewtun {tdev : TunDev} (sound : Sound tdev)
    (findtun : List UInt8 → Option LdtTunops) (type : Option (List UInt8)) (kmalloc : Bool) :
    Sound (TunnelLifecycle.ldtDevNewtun findtun tdev type kmalloc).2 := by
  rcases sound.ldtDevNewtun_cases findtun type kmalloc with
    ⟨ret, active, tun, -, sameData, sameOps, failed⟩ | ⟨tunops, created, absent, owned, stored⟩
  · rw [failed]
    exact sound.of_same rfl sameData (by rw [sameOps]) rfl rfl rfl rfl
  · rw [stored]
    exact sound.created absent owned tunops

theorem Sound.leavesTunnel {tdev : TunDev} (sound : Sound tdev)
    (findtun : List UInt8 → Option LdtTunops) (type : Option (List UInt8)) (kmalloc : Bool)
    (refused : (TunnelLifecycle.ldtDevNewtun findtun tdev type kmalloc).1 < 0) :
    LeavesTunnel tdev (TunnelLifecycle.ldtDevNewtun findtun tdev type kmalloc).2 := by
  rcases sound.ldtDevNewtun_cases findtun type kmalloc with
    ⟨ret, active, tun, -, sameData, sameOps, failed⟩ | ⟨tunops, created, -, -, stored⟩
  · rw [failed]
    refine ⟨fun _ => ⟨rfl, sameOps, sameData⟩, ?_⟩
    intro noOps
    have noData : tdev.tun.tundata.isSome = false := by
      rw [← sound.tunops, noOps]
      rfl
    refine ⟨sound.hastun.trans noData, sameOps.trans noOps, ?_⟩
    rw [sameData]
    simpa using noData
  · rw [stored] at refused
    exact absurd refused (Int.lt_irrefl 0)

theorem Sound.of_step {hz : Nat} {findtun : List UInt8 → Option LdtTunops}
    {tdev next : TunDev} {label : Label} (sound : Sound tdev)
    (stepped : step hz findtun tdev label = some next) : Sound next := by
  cases label with
  | newtun type kmalloc =>
      rw [← Option.some.inj stepped]
      exact sound.ldtDevNewtun findtun type kmalloc
  | rmTun iffUp =>
      rw [← Option.some.inj stepped]
      unfold ldtRmTun
      split_ifs
      · exact sound
      · exact sound
      · have inactive : Sound { tdev with active := false } :=
          sound.of_same rfl rfl rfl rfl rfl rfl rfl
        exact inactive.ldtRmTun2.of_same rfl rfl rfl rfl rfl rfl rfl
  | tunnel label =>
      simp only [step, Option.bind_eq_bind, Option.bind_eq_some_iff, Option.pure_def,
        Option.some.injEq] at stepped
      obtain ⟨tundata, there, state, live, after, worked, rfl⟩ := stepped
      obtain ⟨old, other, otherLive, owned⟩ := sound.live tundata there
      obtain rfl : other = state := Option.some.inj (otherLive.symm.trans live)
      refine { sound with live := ?_ }
      intro pointer pointed
      obtain rfl : tundata = pointer := Option.some.inj (there.symm.trans pointed)
      exact ⟨old, after, Function.update_self .., owned_of_step owned worked⟩

theorem isLdt_mpdccptunRemove (tdev : TunDev) (tundata : Option Nat) :
    (mpdccptunRemove tdev tundata).isLdt = tdev.isLdt := by
  cases tundata with
  | none => rfl
  | some tundata =>
      simp only [mpdccptunRemove]
      split
      · rfl
      · split_ifs <;> rfl

theorem isLdt_ldtTunRemove (tdev : TunDev) : (ldtTunRemove tdev).isLdt = tdev.isLdt := by
  unfold ldtTunRemove
  split_ifs
  · rfl
  · exact isLdt_mpdccptunRemove tdev tdev.tun.tundata

theorem isLdt_of_step {hz : Nat} {findtun : List UInt8 → Option LdtTunops}
    {tdev next : TunDev} {label : Label} (sound : Sound tdev)
    (stepped : step hz findtun tdev label = some next) : next.isLdt = tdev.isLdt := by
  cases label with
  | newtun type kmalloc =>
      rw [← Option.some.inj stepped]
      rcases sound.ldtDevNewtun_cases findtun type kmalloc with
        ⟨ret, active, tun, -, -, -, failed⟩ | ⟨tunops, created, -, -, stored⟩
      · rw [failed]
      · rw [stored]
  | rmTun iffUp =>
      rw [← Option.some.inj stepped]
      unfold ldtRmTun
      split_ifs
      · rfl
      · rfl
      · exact isLdt_ldtTunRemove { tdev with active := false }
  | tunnel label =>
      simp only [step, Option.bind_eq_bind, Option.bind_eq_some_iff, Option.pure_def,
        Option.some.injEq] at stepped
      obtain ⟨tundata, -, state, -, after, -, rfl⟩ := stepped
      rfl

theorem Sound.tpdevUninit {tdev : TunDev} (sound : Sound tdev) (isLdt : tdev.isLdt = true) :
    Sound (TunnelLifecycle.tpdevUninit tdev) := by
  have poisoned : Sound { tdev with isLdt := false } :=
    sound.of_same rfl rfl rfl rfl rfl rfl rfl
  rw [TunnelLifecycle.tpdevUninit, if_pos isLdt]
  exact poisoned.ldtRmTun2

/-- Whatever was allocated is removed once when the device is gone. -/
theorem Sound.removed_tpdevUninit {tdev : TunDev} (sound : Sound tdev)
    (isLdt : tdev.isLdt = true) {tundata : Nat}
    (created : .kmalloc tundata ∈ (TunnelLifecycle.tpdevUninit tdev).log) :
    (TunnelLifecycle.tpdevUninit tdev).log.count (.remove tundata) = 1 := by
  have gone := sound.tpdevUninit isLdt
  have absent : (TunnelLifecycle.tpdevUninit tdev).tun.tundata = none := by
    rw [TunnelLifecycle.tpdevUninit, if_pos isLdt]
    rfl
  have old : tundata < (TunnelLifecycle.tpdevUninit tdev).allocated := by
    by_contra later
    have never := (gone.later tundata (Nat.not_lt.mp later)).1
    exact absurd created (List.count_eq_zero.mp never)
  rw [gone.removed tundata old, absent]
  rfl

/-- The tunnel of a device as it is described without its memory. -/
def pointee (tdev : TunDev) (id : NdevId) : LdtTun where
  pdevdown := false
  tundata := tdev.tun.tundata.bind tdev.heap
  tunops := tdev.tun.tunops
  tdev := if tdev.tun.tdev then some id else none

/-- With the registered types `ldt_tun_init` does through the memory what it does without
it. -/
theorem ldtTunInit_pointee (tdev : TunDev) (cleared : tdev.tun = tunWith true) (id : NdevId)
    (type : Option (List UInt8)) (kmalloc : Bool) :
    Device.ldtTunInit id type kmalloc =
      ((ldtTunInit Device.tpFindtun tdev type kmalloc).1,
        pointee (ldtTunInit Device.tpFindtun tdev type kmalloc).2 id) := by
  have pointed : tdev.tun.tdev = true := by rw [cleared]; rfl
  unfold Device.ldtTunInit ldtTunInit
  simp only [pointed, Bool.not_true, Bool.false_eq_true, if_false]
  cases Device.tpFindtun (type.getD (ascii "mpdccp4")) with
  | none => rfl
  | some found =>
      unfold mpdccptunNew
      cases attempt : mpdccptunNewTun (type.getD (ascii "mpdccp4")) kmalloc with
      | error ret =>
          have negative := mpdccptunNewTun_neg attempt
          simp [tunWith, negative, ldtTunRemove, mpdccptunRemove, pointee, ldtTunWith]
      | ok result => simp [tunWith, pointee, ldtTunWith]

/-- After any requests and worker runs the three ways to ask for the tunnel agree, no
pointer led to memory that was given back, and at no time was more than one tunnel there.
A request for a tunnel that fails leaves what is there.  Once the device is unregistered,
each tunnel that was allocated was removed exactly once. -/
theorem lifecycle_of_run {hz : Nat} {findtun : List UInt8 → Option LdtTunops} {active : Bool}
    {labels : List Label} {final : TunDev}
    (ran : run (step hz findtun) (setup active) labels = some final) :
    Agrees final ∧ final.fault = false ∧ AtMostOne (tpdevUninit final).log ∧
      (∀ type kmalloc, (ldtDevNewtun findtun final type kmalloc).1 < 0 →
        LeavesTunnel final (ldtDevNewtun findtun final type kmalloc).2) ∧
      ∀ tundata, .kmalloc tundata ∈ (tpdevUninit final).log →
        (tpdevUninit final).log.count (.remove tundata) = 1 := by
  have preserved : ∀ {tdev label next}, Sound tdev ∧ tdev.isLdt = true →
      step hz findtun tdev label = some next → Sound next ∧ next.isLdt = true := by
    rintro tdev label next ⟨sound, isLdt⟩ stepped
    exact ⟨sound.of_step stepped, (isLdt_of_step sound stepped).trans isLdt⟩
  obtain ⟨sound, isLdt⟩ := invariant_of_run preserved ⟨sound_setup active, rfl⟩ ran
  refine ⟨?_, sound.faultless, ?_, ?_, ?_⟩
  · unfold Agrees
    rw [sound.hastun, sound.tunops]
    exact ⟨Iff.rfl, Iff.rfl⟩
  · exact (sound.tpdevUninit isLdt).single
  · intro type kmalloc refused
    exact sound.leavesTunnel findtun type kmalloc refused
  · intro tundata created
    exact sound.removed_tpdevUninit isLdt created

/-- A tunnel is created, replaced after its removal, and still there at the end; an unknown
type and a second tunnel are refused. -/
theorem lifecycle_of_run_replaced :
    ∃ final, run (step 100 Device.tpFindtun) (setup true)
        [.newtun (some (ascii "nil")) true, .newtun (some (ascii "dccp6")) true,
          .newtun none true, .rmTun true, .rmTun false, .newtun none false,
          .newtun none true] = some final ∧
      Agrees final ∧ final.log = [.kmalloc 0, .remove 0, .kfree 0, .kmalloc 1] ∧
      (tpdevUninit final).log.count (.remove 1) = 1 := by
  refine ⟨_, rfl, ?_⟩
  obtain ⟨agrees, -, -, -, removed⟩ := @lifecycle_of_run 100 Device.tpFindtun true
    [.newtun (some (ascii "nil")) true, .newtun (some (ascii "dccp6")) true,
      .newtun none true, .rmTun true, .rmTun false, .newtun none false, .newtun none true]
    _ rfl
  exact ⟨agrees, rfl, removed 1 (by decide)⟩

end Tunprox.TunnelLifecycle
