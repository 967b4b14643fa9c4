import Tunprox.LockedProgram

/-!
# The lock of a device

The operations of `ldt_dev.c` on one `struct ldt_dev`, as programs on its lock, its
`MAGIC` and its flag `active`.  What they call beside that neither takes the lock nor
writes the two, and its result is a choice.  `DEV_LOCK_CHK` gives back the lock itself
if the device is not active any more.  `ldt_get_devinfo` does not look at its result and
gives back the lock once more, which another context may have taken meanwhile.
-/

namespace Tunprox.DeviceLock

open LabelledRun LockedProgram

/-- What `in_irq` and `in_softirq` tell of a context. -/
inductive ExecLevel where
  | irq
  | softirq
  | process
  deriving DecidableEq

structure Context where
  id : Nat
  level : ExecLevel
  deriving DecidableEq

/-- `struct tp_lock`.  The spin lock knows its holder. -/
structure TpLock where
  lock : Option Context
  ltype : Fin 4
  wf : ltype = 0 ↔ lock = none

/-- `tp_lock_init` and `tp_lock_destroy` -/
def tpLockInit : TpLock where
  lock := none
  ltype := 0
  wf := by simp

/-- `tp_lock`, once the spin lock is free. -/
def tpLock (context : Context) (_lock : TpLock) : TpLock where
  lock := some context
  ltype :=
    match context.level with
    | .irq => 1
    | .softirq => 2
    | .process => 3
  wf := by cases context.level <;> simp

/-- `tp_unlock`, which frees the spin lock whoever holds it. -/
def tpUnlock (lock : TpLock) : TpLock :=
  match lock.ltype with
  | 0 => lock
  | 1 | 2 | 3 => { lock := none, ltype := 0, wf := by simp }

def tpLockDestroy (_lock : TpLock) : TpLock :=
  tpLockInit

theorem lock_tpUnlock (lock : TpLock) : (tpUnlock lock).lock = none := by
  unfold tpUnlock
  split
  · rename_i unlocked
    exact lock.wf.mp unlocked
  all_goals rfl

def locking : Locking TpLock Context where
  holder := TpLock.lock
  acquire := tpLock
  release := tpUnlock
  reset := tpLockDestroy
  holder_acquire := fun _ _ _ => rfl
  holder_release := lock_tpUnlock
  holder_reset := fun _ => rfl

/-- The fields of the device that its operations test; `magic` tells whether `MAGIC` is
`LDT_MAGIC`. -/
structure DevFlags where
  magic : Bool
  active : Bool

/-- `devOkDropped` is `DEV_OK` in a `DEV_LOCK_CHK` whose result the caller drops. -/
inductive DevTest where
  | isldtdev
  | devOk
  | devOkDropped

inductive DevAction where
  | setactive (on : Bool)
  | poison

def meaning : Meaning DevTest DevAction DevFlags where
  holds := fun
    | .isldtdev, flags => flags.magic
    | .devOk, flags | .devOkDropped, flags => flags.magic && flags.active
  effect := fun
    | .setactive on, flags => { flags with active := on }
    | .poison, flags => { flags with magic := false }

abbrev DevProgram : Type :=
  Program DevTest DevAction

/-- `DEV_LOCK_CHK` -/
def devLockChk (chk : DevTest) (ok notOk : DevProgram) : DevProgram :=
  .lock (.test chk ok (.unlock notOk))

/-- `DEV_UNLOCK` as the last step of an operation. -/
def devUnlock : DevProgram :=
  .unlock .done

/-- `ldt_get_devinfo` after the lock was taken.  `get_devinfo` fails if the device is not
OK; then `info` may be missing, or `kmalloc` fails. -/
def devinfoBody : DevProgram :=
  .test .devOk (.choose devUnlock (.choose devUnlock devUnlock)) devUnlock

def ldtGetDevinfo : DevProgram :=
  .test .isldtdev (devLockChk .devOkDropped devinfoBody devinfoBody) .done

/-- The turn of `ldt_get_alldevinfo` for the device, in which `krealloc` may fail. -/
def ldtGetAlldevinfo : DevProgram :=
  .test .isldtdev
    (devLockChk .devOk (.test .devOk (.choose devUnlock devUnlock) devUnlock) .done)
    .done

/-- The device may have a tunnel already, or the tunnel is not initialised. -/
def ldtDevNewtun : DevProgram :=
  let out : DevProgram := .act (.setactive true) devUnlock
  devLockChk .devOk (.act (.setactive false) (.choose out (.choose out out))) .done

/-- The interface may be up. -/
def ldtRmTun : DevProgram :=
  devLockChk .devOk
    (.choose devUnlock (.act (.setactive false) (.act (.setactive true) devUnlock))) .done

/-- There may be no physical device of the name. -/
def ldtDevBind2dev : DevProgram :=
  .choose .done (devLockChk .devOk devUnlock .done)

/-- An operation that calls one function of the tunnel under the lock. -/
def lockedCall : DevProgram :=
  devLockChk .devOk devUnlock .done

def ldtDevBind : DevProgram :=
  lockedCall

def ldtDevPeer : DevProgram :=
  lockedCall

def ldtDevServerstart : DevProgram :=
  lockedCall

def ldtDevSetqueue : DevProgram :=
  lockedCall

def tpdevNdevup : DevProgram :=
  lockedCall

def tpdevNdevdown : DevProgram :=
  lockedCall

/-- `tpdev_change_mtu`, where the size may be out of range. -/
def tpdevChangeMtu : DevProgram :=
  .test .isldtdev (devLockChk .devOk (.choose devUnlock devUnlock) .done) .done

def ldtDevSetMtu : DevProgram :=
  .test .isldtdev tpdevChangeMtu .done

/-- The event may be of no kind. -/
def ldtDevEvsend : DevProgram :=
  devLockChk .devOk (.choose devUnlock devUnlock) .done

def tpEvRegister : DevProgram :=
  .test .isldtdev (.act (.setactive true) .done) .done

/-- `tpdev_uninit`, which `unregister_netdev` calls. -/
def tpdevUninit : DevProgram :=
  .test .isldtdev (.act .poison (.reset .done)) .done

def ldtFreeDev : DevProgram :=
  .test .devOk (.act (.setactive false) tpdevUninit) .done

inductive Operation where
  | getDevinfo
  | getAlldevinfo
  | newtun
  | rmTun
  | bind2dev
  | bind
  | peer
  | serverstart
  | setqueue
  | setMtu
  | evsend
  | ndevup
  | ndevdown
  | register
  | freeDev

def code : Operation → DevProgram
  | .getDevinfo => ldtGetDevinfo
  | .getAlldevinfo => ldtGetAlldevinfo
  | .newtun => ldtDevNewtun
  | .rmTun => ldtRmTun
  | .bind2dev => ldtDevBind2dev
  | .bind => ldtDevBind
  | .peer => ldtDevPeer
  | .serverstart => ldtDevServerstart
  | .setqueue => ldtDevSetqueue
  | .setMtu => ldtDevSetMtu
  | .evsend => ldtDevEvsend
  | .ndevup => tpdevNdevup
  | .ndevdown => tpdevNdevdown
  | .register => tpEvRegister
  | .freeDev => ldtFreeDev

abbrev State : Type :=
  LockedProgram.State Context TpLock DevFlags DevTest DevAction

abbrev Label : Type :=
  LockedProgram.Label Context Operation

/-- A device that no operation runs on. -/
def initial (flags : DevFlags) : State where
  lock := tpLockInit
  shared := flags
  threads := fun _ => { program := .done, locks := 0, unlocks := 0 }

def step : State → Label → Option State :=
  LockedProgram.step locking meaning code

/-- The tests that the operations rely on: the one whose result is dropped. -/
def reliedOn : DevTest → Bool
  | .devOkDropped => true
  | .isldtdev | .devOk => false

/-- `ldt_get_devinfo` finds the device active when it has taken the lock, and the lock is
free when `tpdev_uninit` destroys it. -/
def FindsActive : State → Label → Prop :=
  Assumes locking meaning reliedOn

instance (state : State) (label : Label) : Decidable (FindsActive state label) :=
  inferInstanceAs (Decidable (Assumes locking meaning reliedOn state label))

/-- Every operation is bracketed if the device is found active in `ldt_get_devinfo`. -/
theorem bracketed_code (operation : Operation) :
    bracketed reliedOn .outside (code operation) = true := by
  cases operation <;> decide

/-- Whatever the interleaving, the lock of a device is given back by the operation that
holds it, once for each time it was taken, and at most one operation holds it, as long as
each `ldt_get_devinfo` finds the device active and the lock is destroyed while free. -/
theorem exclusive_of_findsActive {flags : DevFlags} {labels : List Label} {final : State}
    (guarded : Guarded step FindsActive (initial flags) labels)
    (ran : run step (initial flags) labels = some final) :
    Exclusive locking final := by
  have idle : Idle locking (initial flags) := ⟨rfl, fun _ => rfl⟩
  exact exclusive_of_guarded bracketed_code idle guarded ran

/-- A process with the number `id`. -/
def processContext (id : Nat) : Context where
  id := id
  level := .process

/-- A context begins the operation and takes `count` steps of it. -/
def begin (id : Nat) (operation : Operation) (count : Nat) : List Label :=
  .start (processContext id) operation ::
    List.replicate count (.step (processContext id) false)

/-- The device is queried, gets a tunnel, is queried again during that, is removed, and
then is not bound any more. -/
def orderlyRemoval : List Label :=
  begin 1 .getDevinfo 7 ++ begin 2 .newtun 3 ++ begin 3 .getAlldevinfo 1 ++
    List.replicate 4 (.step (processContext 2) false) ++
    List.replicate 5 (.step (processContext 3) false) ++ begin 4 .freeDev 5 ++
    begin 5 .bind 3

theorem exclusive_orderlyRemoval :
    ∃ final, run step (initial ⟨true, true⟩) orderlyRemoval = some final ∧
      Exclusive locking final := by
  obtain ⟨final, ran⟩ :
      ∃ final, run step (initial ⟨true, true⟩) orderlyRemoval = some final := ⟨_, rfl⟩
  have guarded : Guarded step FindsActive (initial ⟨true, true⟩) orderlyRemoval := by
    decide
  exact ⟨final, ran, exclusive_of_findsActive guarded ran⟩

/-- A removal clears `active` before `ldt_get_devinfo` takes the lock, which gives it back
twice: the second time it is that of `ldt_dev_bind`. -/
def inactiveQuery : List Label :=
  begin 0 .freeDev 2 ++ begin 1 .getDevinfo 4 ++ begin 2 .bind 1 ++
    List.replicate 2 (.step (processContext 1) false) ++ begin 3 .peer 1

theorem not_exclusive_inactiveQuery :
    ∃ final, run step (initial ⟨true, true⟩) inactiveQuery = some final ∧
      ¬ Exclusive locking final := by
  obtain ⟨final, ran⟩ :
      ∃ final, run step (initial ⟨true, true⟩) inactiveQuery = some final := ⟨_, rfl⟩
  have bindInside : Inside final (processContext 2) := by
    have counted : ((run step (initial ⟨true, true⟩) inactiveQuery).map fun final =>
        decide (Inside final (processContext 2))) = some true := by decide
    simpa [ran] using counted
  have peerInside : Inside final (processContext 3) := by
    have counted : ((run step (initial ⟨true, true⟩) inactiveQuery).map fun final =>
        decide (Inside final (processContext 3))) = some true := by decide
    simpa [ran] using counted
  refine ⟨final, ran, ?_⟩
  intro exclusive
  have same := exclusive.atMostOne _ _ bindInside peerInside
  revert same
  decide

end Tunprox.DeviceLock
