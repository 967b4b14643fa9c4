import Tunprox.DevInfoText

/-!
# The buffers of the device descriptions

`ldt_get_devinfo` and `ldt_get_alldevinfo` let `get_devinfo` print twice: once without a
buffer, for the length, and once into a buffer of that length.  The list of all devices is one
buffer that is enlarged device by device.  The subflows of a tunnel come and go without the
lock of the device, also between the two calls.  The event that a report raises is left out,
since nothing that is printed depends on it.
-/

namespace Tunprox.DevInfo

open Errno ByteBuffer PrintBuffer Device
open Connection (ConnState SubflowAction tpSubflowReport)
open DeviceRequest (withTun netdev_modifyTun)
open EventRoundTrip (runs)

/-- A call of `tp_subflow_report` for a socket of the tunnel in the device. -/
structure SubflowReport where
  ndev : NdevId
  action : SubflowAction
  metaSock : SockId
  name : List UInt8
  krealloc : Bool

def report (system : System) (subflow : SubflowReport) : System :=
  modifyTun system subflow.ndev fun tun =>
    { tun with
      tundata := tun.tundata.map fun state =>
        tpSubflowReport state subflow.action subflow.metaSock subflow.name subflow.krealloc }

def reports (system : System) (subflows : List SubflowReport) : System :=
  subflows.foldl report system

/-- The call of `get_devinfo` for a device as it is now. -/
def devinfoNow (numbers : NdevId → DevNumbers) (system : System) (id : NdevId)
    (tdev : LdtDev) : Except Int Printer :=
  getDevinfo (system.netdev id).name (numbers id) { tdev with tun := tunOf system id }

/-- The length that `get_devinfo (tdev, NULL, 0)` returns; it writes nothing. -/
def sizeDevinfo (printer : Printer) : Option Nat :=
  (printer 0 0 []).map Prod.snd

/-- `ldt_get_devinfo` for a place `info`, with the reports that arrive between the two calls
of `get_devinfo`: the buffer and the length, or nothing if it writes outside of the buffer. -/
def ldtGetDevinfo (numbers : NdevId → DevNumbers) (system : System) (id : NdevId)
    (between : List SubflowReport) (kmalloc : Bool) : Option (Except Int (Memory × Nat)) :=
  match ldtdev system id with
  | none => some (.error (-EINVAL))
  | some tdev =>
      match devinfoNow numbers system id tdev with
      | .error ret => some (.error ret)
      | .ok sizing => do
          let blen ← sizeDevinfo sizing
          if !kmalloc then some (.error (-ENOMEM))
          else
            match devinfoNow numbers (reports system between) id tdev with
            | .error ret => some (.error ret)
            | .ok printing => do
                let (buf, len) ← printing 0 (blen + 1) (malloc (blen + 1))
                some (.ok (buf, len))

/-- A round of the loop in `ldt_get_alldevinfo`: the device, and the reports that arrive
before it is sized, and then before it is printed. -/
structure Round where
  ndev : NdevId
  before : List SubflowReport
  between : List SubflowReport

/-- The body of the loop, in which `obuf`, `p` and `len` are the members of the buffer. -/
def addDevinfo (numbers : NdevId → DevNumbers) (krealloc : NdevId → Bool) (sized printed : System)
    (ndev : NdevId) (buffer : OutBuffer) : Option (Except Int OutBuffer) :=
  match ldtdev sized ndev with
  | none => some (.ok buffer)
  | some tdev =>
      -- `DEV_LOCK_CHK`
      if !tdev.active then some (.ok buffer)
      else
        match devinfoNow numbers sized ndev tdev with
        | .error ret => some (.error ret)
        | .ok sizing => do
            let blen ← sizeDevinfo sizing
            let len := buffer.size + blen
            if !krealloc ndev then some (.error (-ENOMEM))
            else
              let obuf := realloc buffer.memory len
              match devinfoNow numbers printed ndev tdev with
              | .error ret => some (.error ret)
              | .ok printing => do
                  let (obuf, printedLen) ← printing buffer.position (blen + 1) obuf
                  some (.ok
                    { memory := obuf, position := buffer.position + printedLen, size := len })

/-- The loop of `ldt_get_alldevinfo`. -/
def addDevinfos (numbers : NdevId → DevNumbers) (krealloc : NdevId → Bool) :
    System → List Round → OutBuffer → Option (Except Int OutBuffer)
  | _, [], buffer => some (.ok buffer)
  | system, round :: rounds, buffer =>
      let sized := reports system round.before
      let printed := reports sized round.between
      (addDevinfo numbers krealloc sized printed round.ndev buffer).bind fun
        | .error ret => some (.error ret)
        | .ok buffer => addDevinfos numbers krealloc printed rounds buffer

def listOpening : List UInt8 :=
  ascii "<ldtlist>\n"

def listClosing : List UInt8 :=
  ascii "</ldtlist>\n"

/-- `ldt_get_alldevinfo` for a place `info`: the buffer and the length, or nothing if it writes
outside of the buffer. -/
def ldtGetAlldevinfo (numbers : NdevId → DevNumbers) (system : System) (rounds : List Round)
    (kmalloc : Bool) (krealloc : NdevId → Bool) : Option (Except Int (Memory × Nat)) :=
  if !kmalloc then some (.error (-ENOMEM))
  else do
    let obuf ← write (malloc 32) 0 (listOpening ++ [0])
    let buffer ← addDevinfos numbers krealloc system rounds ⟨obuf, listOpening.length, 32⟩
    match buffer with
    | .error ret => some (.error ret)
    | .ok buffer => do
        let obuf ← write buffer.memory buffer.position (listClosing ++ [0])
        some (.ok (obuf, buffer.position + listClosing.length))

/-- The description of a device as it is now. -/
def description (numbers : NdevId → DevNumbers) (system : System) (id : NdevId) : List UInt8 :=
  devText (system.netdev id).name (numbers id) (tunOf system id)

/-- A device whose lock is taken for its description. -/
def isDescribed (system : System) (id : NdevId) : Bool :=
  (ldtdev system id).any LdtDev.active

/-- The descriptions of the devices, each as the device is when it is printed. -/
def descriptions (numbers : NdevId → DevNumbers) : System → List Round → List (List UInt8)
  | _, [] => []
  | system, round :: rounds =>
      let sized := reports system round.before
      let printed := reports sized round.between
      (if isDescribed sized round.ndev then [description numbers printed round.ndev] else []) ++
        descriptions numbers printed rounds

/-- What `ldt_get_alldevinfo` returns if it returns a text, whatever memory there is. -/
def ListSound (numbers : NdevId → DevNumbers) (system : System) (rounds : List Round) : Prop :=
  ∀ kmalloc krealloc,
    match ldtGetAlldevinfo numbers system rounds kmalloc krealloc with
    | none => False
    | some (.error _) => True
    | some (.ok (obuf, len)) =>
        len ≤ written obuf ∧
          obuf.take len =
            (listOpening ++ (descriptions numbers system rounds).flatten ++ listClosing).map some

/-- The length that `ldt_get_devinfo` returns counts bytes that have been written. -/
def InfoSound (numbers : NdevId → DevNumbers) (system : System) (id : NdevId)
    (between : List SubflowReport) : Prop :=
  ∀ kmalloc,
    match ldtGetDevinfo numbers system id between kmalloc with
    | none => False
    | some (.error _) => True
    | some (.ok (buf, len)) => len ≤ written buf

/-- A device that is described does not lose its last subflow after it has been sized. -/
def KeepsLink (sized printed : System) (id : NdevId) : Prop :=
  isDescribed sized id = true → ¬ LosesLink (tunOf sized id) (tunOf printed id)

def KeepsLinks : System → List Round → Prop
  | _, [] => True
  | system, round :: rounds =>
      let sized := reports system round.before
      let printed := reports sized round.between
      KeepsLink sized printed round.ndev ∧ KeepsLinks printed rounds

theorem exists_withSubflows_self (tun : LdtTun) :
    ∃ subflow bufsz, tun = withSubflows tun subflow bufsz := by
  unfold withSubflows
  obtain ⟨pdevdown, tundata, tunops, tdev⟩ := tun
  cases tundata with
  | none => exact ⟨[], 0, rfl⟩
  | some state => exact ⟨state.tdat.subflow, state.tdat.bufszSubflow, rfl⟩

theorem withSubflows_withSubflows (tun : LdtTun) (first second : List (List UInt8))
    (bufsz bufsz' : Nat) :
    withSubflows (withSubflows tun first bufsz) second bufsz' =
      withSubflows tun second bufsz' := by
  unfold withSubflows
  rw [Option.map_map]
  rfl

theorem exists_tpSubflowReport (state : ConnState) (action : SubflowAction) (metaSock : SockId)
    (name : List UInt8) (krealloc : Bool) :
    ∃ subflow bufsz, tpSubflowReport state action metaSock name krealloc =
      { state with tdat := { state.tdat with subflow := subflow, bufszSubflow := bufsz } } := by
  unfold tpSubflowReport
  split
  · exact ⟨_, _, rfl⟩
  · cases action with
    | create =>
        simp only
        split
        · exact ⟨_, _, rfl⟩
        · split <;> exact ⟨_, _, rfl⟩
    | destroy => exact ⟨_, _, rfl⟩

/-- A report changes only the subflows of tunnels. -/
theorem report_keeps (system : System) (subflow : SubflowReport) (id : NdevId) :
    ((report system subflow).netdev id).name = (system.netdev id).name ∧
      ∃ subflows bufsz,
        tunOf (report system subflow) id = withSubflows (tunOf system id) subflows bufsz := by
  by_cases here : id = subflow.ndev
  · subst here
    refine ⟨by rw [report, netdev_modifyTun, Function.update_self]; rfl, ?_⟩
    rw [tunOf, report, netdev_modifyTun, Function.update_self, withTun]
    cases ldt : (system.netdev subflow.ndev).ldt with
    | none =>
        simp only [Option.map_none, tunOf, ldt]
        exact exists_withSubflows_self _
    | some tdev =>
        simp only [Option.map_some, tunOf, ldt]
        cases tundata : tdev.tun.tundata with
        | none => exact ⟨[], 0, by rw [withSubflows, tundata]; rfl⟩
        | some state =>
            obtain ⟨subflows, bufsz, reported⟩ := exists_tpSubflowReport state subflow.action
              subflow.metaSock subflow.name subflow.krealloc
            exact ⟨subflows, bufsz, by
              rw [withSubflows, tundata, Option.map_some, Option.map_some, reported]⟩
  · have same : (report system subflow).netdev id = system.netdev id := by
      rw [report, netdev_modifyTun, Function.update_of_ne here]
    rw [tunOf, same]
    exact ⟨rfl, exists_withSubflows_self (tunOf system id)⟩

theorem reports_keep (system : System) (subflows : List SubflowReport) (id : NdevId) :
    ((reports system subflows).netdev id).name = (system.netdev id).name ∧
      ∃ subflow bufsz,
        tunOf (reports system subflows) id = withSubflows (tunOf system id) subflow bufsz := by
  induction subflows generalizing system with
  | nil => exact ⟨rfl, exists_withSubflows_self (tunOf system id)⟩
  | cons subflow subflows ih =>
      obtain ⟨sameName, first, bufsz, tunEq⟩ := report_keeps system subflow id
      obtain ⟨laterName, last, bufsz', laterEq⟩ := ih (report system subflow)
      refine ⟨laterName.trans sameName, last, bufsz', ?_⟩
      rw [reports, List.foldl_cons]
      rw [reports] at laterEq
      rw [laterEq, tunEq, withSubflows_withSubflows]

section
variable (numbers : NdevId → DevNumbers)

theorem devinfoNow_eq (system : System) (id : NdevId) {tdev : LdtDev}
    (active : tdev.active = true) :
    devinfoNow numbers system id tdev = .ok (snprintf (description numbers system id)) :=
  getDevinfo_eq _ _ { tdev with tun := tunOf system id } active

theorem sizeDevinfo_snprintf (text : List UInt8) :
    sizeDevinfo (snprintf text) = some text.length := by
  rw [sizeDevinfo, snprintf, if_pos rfl, Option.map_some]

/-- What one round appends to the buffer. -/
def roundEntries (sized printed : System) (ndev : NdevId) : List Entry :=
  if isDescribed sized ndev then
    [{ sized := (description numbers sized ndev).length
       text := description numbers printed ndev }]
  else []

def entries : System → List Round → List Entry
  | _, [] => []
  | system, round :: rounds =>
      let sized := reports system round.before
      let printed := reports sized round.between
      roundEntries numbers sized printed round.ndev ++ entries printed rounds

theorem texts_entries (system : System) (rounds : List Round) :
    texts (entries numbers system rounds) = (descriptions numbers system rounds).flatten := by
  induction rounds generalizing system with
  | nil => rfl
  | cons round rounds ih =>
      rw [entries, descriptions, texts, List.flatMap_append, List.flatten_append, ← texts, ← texts,
        ih, roundEntries]
      split
      · rfl
      · rfl

theorem nonzero_entries (system : System) (rounds : List Round) :
    ∀ entry ∈ entries numbers system rounds, (0 : UInt8) ∉ entry.text := by
  induction rounds generalizing system with
  | nil => simp [entries]
  | cons round rounds ih =>
      intro entry member
      rcases List.mem_append.mp member with here | later
      · rw [roundEntries] at here
        split at here
        · rw [List.mem_singleton.mp here]
          exact nonzero_devText _ _ _
        · contradiction
      · exact ih _ entry later

/-- A description gets longer between the two calls if the last subflow is lost. -/
theorem length_description_of_loses {system : System} {between : List SubflowReport}
    {id : NdevId} (loses : LosesLink (tunOf system id) (tunOf (reports system between) id)) :
    (description numbers (reports system between) id).length =
      (description numbers system id).length + 2 := by
  obtain ⟨sameName, subflow, bufsz, tunEq⟩ := reports_keep system between id
  obtain ⟨running, up, down⟩ := loses
  have lengths := length_devText_withSubflows (system.netdev id).name (numbers id)
    (tunOf system id) subflow bufsz
  rw [← tunEq, running, up, down] at lengths
  rw [description, description, sameName]
  simpa using lengths

theorem length_description_le_iff (system : System) (between : List SubflowReport)
    (id : NdevId) :
    (description numbers (reports system between) id).length ≤
        (description numbers system id).length ↔
      ¬ LosesLink (tunOf system id) (tunOf (reports system between) id) := by
  constructor
  · intro short loses
    have longer := length_description_of_loses numbers loses
    omega
  · intro keeps
    obtain ⟨sameName, subflow, bufsz, tunEq⟩ := reports_keep system between id
    have lengths := length_devText_withSubflows (system.netdev id).name (numbers id)
      (tunOf system id) subflow bufsz
    rw [← tunEq] at lengths
    rw [description, description, sameName]
    by_cases up : runs (tunOf system id) = true ∧ linkUp (tunOf system id) = true
    · have still : linkUp (tunOf (reports system between) id) = true := by
        by_contra down
        exact keeps ⟨up.1, up.2, Bool.eq_false_iff.mpr down⟩
      rw [if_pos up, if_pos ⟨up.1, still⟩] at lengths
      omega
    · rw [if_neg up] at lengths
      omega

theorem fits_entries_iff (system : System) (rounds : List Round) :
    Fits (entries numbers system rounds) ↔ KeepsLinks system rounds := by
  induction rounds generalizing system with
  | nil => simp [Fits, entries, KeepsLinks]
  | cons round rounds ih =>
      rw [KeepsLinks, ← ih, entries, Fits, List.forall_mem_append, ← Fits, roundEntries, KeepsLink]
      refine and_congr_left' ?_
      cases isDescribed (reports system round.before) round.ndev with
      | false => simp [Fits]
      | true => simpa [Fits] using length_description_le_iff numbers _ round.between round.ndev

/-- A round of the loop appends its entry, unless there is no memory. -/
theorem addDevinfo_eq (krealloc : NdevId → Bool) (sized printed : System) (ndev : NdevId)
    (buffer : OutBuffer) :
    addDevinfo numbers krealloc sized printed ndev buffer =
      if isDescribed sized ndev = true ∧ krealloc ndev = false then some (.error (-ENOMEM))
      else (buffer.appendAll (roundEntries numbers sized printed ndev)).map .ok := by
  unfold addDevinfo roundEntries isDescribed
  cases ldtdev sized ndev with
  | none => rfl
  | some tdev =>
      cases active : tdev.active with
      | false => simp [active, OutBuffer.appendAll]
      | true =>
          simp only [devinfoNow_eq numbers _ _ active, sizeDevinfo_snprintf, active,
            Option.any_some]
          cases krealloc ndev with
          | false => rfl
          | true =>
              simp only [Bool.not_true, Bool.false_eq_true, Bool.true_eq_false, and_false, if_false,
                if_true, OutBuffer.appendAll, OutBuffer.append, Option.bind_eq_bind,
                Option.bind_some]
              cases snprintf (description numbers printed ndev) buffer.position
                  ((description numbers sized ndev).length + 1)
                  (realloc buffer.memory
                    (buffer.size + (description numbers sized ndev).length)) with
              | none => rfl
              | some result => rfl

/-- The loop appends all entries, unless it is out of memory. -/
theorem addDevinfos_cases (krealloc : NdevId → Bool) (system : System) (rounds : List Round)
    (buffer : OutBuffer) :
    addDevinfos numbers krealloc system rounds buffer =
        (buffer.appendAll (entries numbers system rounds)).map .ok ∨
      (∃ round ∈ rounds, krealloc round.ndev = false) ∧
        addDevinfos numbers krealloc system rounds buffer = some (.error (-ENOMEM)) := by
  induction rounds generalizing system buffer with
  | nil => exact .inl rfl
  | cons round rounds ih =>
      rw [addDevinfos, addDevinfo_eq, entries]
      split
      · rename_i failed
        exact .inr ⟨⟨round, List.mem_cons_self, failed.2⟩, rfl⟩
      · rw [OutBuffer.appendAll_append]
        cases appended : buffer.appendAll (roundEntries numbers (reports system round.before)
            (reports (reports system round.before) round.between) round.ndev) with
        | none => exact .inl rfl
        | some next =>
            rcases ih (reports (reports system round.before) round.between) next with
              appends | ⟨⟨later, member, failed⟩, result⟩
            · exact .inl appends
            · exact .inr ⟨⟨later, List.mem_cons_of_mem _ member, failed⟩, result⟩

/-- The buffer before the loop. -/
def openedBuffer : OutBuffer where
  memory := listOpening.map some ++ some 0 :: malloc 21
  position := listOpening.length
  size := 32

theorem filled_openedBuffer : openedBuffer.Filled listOpening 22 where
  memory := ⟨some 0 :: malloc 21, rfl, by simp⟩
  position := rfl
  size := by decide

/-- With memory, the list is what is appended between its two ends. -/
theorem ldtGetAlldevinfo_eq (system : System) (rounds : List Round)
    (krealloc : NdevId → Bool) :
    ldtGetAlldevinfo numbers system rounds true krealloc =
      (addDevinfos numbers krealloc system rounds openedBuffer).bind fun
        | .error ret => some (.error ret)
        | .ok buffer => (buffer.close listClosing).map fun obuf =>
            .ok (obuf, buffer.position + listClosing.length) := by
  have opened : write (malloc 32) 0 (listOpening ++ [0]) = some openedBuffer.memory := by decide
  have size : openedBuffer = ⟨openedBuffer.memory, listOpening.length, 32⟩ := rfl
  simp only [ldtGetAlldevinfo, Bool.not_true, Bool.false_eq_true, if_false, opened,
    Option.bind_eq_bind, Option.bind_some, ← size]
  refine Option.bind_congr fun buffer _ => ?_
  cases buffer with
  | error ret => rfl
  | ok buffer =>
      simp only [OutBuffer.close]
      cases write buffer.memory buffer.position (listClosing ++ [0]) with
      | none => rfl
      | some obuf => rfl

/-- The list is sound if and only if no device loses its last subflow between its passes. -/
theorem listSound_iff (system : System) (rounds : List Round) :
    ListSound numbers system rounds ↔ KeepsLinks system rounds := by
  have room : listClosing.length < 22 := by decide
  have right := filled_openedBuffer.right_iff room (nonzero_entries numbers system rounds)
  rw [texts_entries] at right
  rw [← fits_entries_iff numbers, ← right]
  constructor
  · intro sound
    have result := sound true fun _ => true
    rw [ldtGetAlldevinfo_eq] at result
    rcases addDevinfos_cases numbers (fun _ => true) system rounds openedBuffer with
      appends | ⟨⟨_, _, failed⟩, _⟩
    · rw [appends] at result
      cases appended : openedBuffer.appendAll (entries numbers system rounds) with
      | none => simp [appended] at result
      | some buffer =>
          cases closed : buffer.close listClosing with
          | none => simp [appended, closed] at result
          | some obuf =>
              simp only [appended, Option.map_some, Option.bind_some, closed] at result
              exact ⟨buffer, obuf, rfl, closed, result.2⟩
    · contradiction
  · rintro ⟨buffer, obuf, appended, closed, texts⟩ kmalloc krealloc
    cases kmalloc with
    | false => trivial
    | true =>
        rw [ldtGetAlldevinfo_eq]
        rcases addDevinfos_cases numbers krealloc system rounds openedBuffer with
          appends | ⟨_, failed⟩
        · simp only [appends, appended, Option.map_some, Option.bind_some, closed]
          have count := length_le_written texts
          have position := OutBuffer.appendAll_position filled_openedBuffer.size appended
          refine ⟨?_, texts⟩
          rw [position, texts_entries]
          simpa [openedBuffer, Nat.add_assoc] using count
        · simp only [failed, Option.bind_some]

/-- The length of a single description counts written bytes under the same condition. -/
theorem infoSound_iff (system : System) (id : NdevId) (between : List SubflowReport) :
    InfoSound numbers system id between ↔ KeepsLink system (reports system between) id := by
  unfold InfoSound ldtGetDevinfo KeepsLink isDescribed
  cases ldtdev system id with
  | none => simp
  | some tdev =>
      cases active : tdev.active with
      | false =>
          simp [devinfoNow, getDevinfo, active]
      | true =>
          simp only [devinfoNow_eq numbers _ _ active, sizeDevinfo_snprintf, Option.bind_eq_bind,
            Option.bind_some, Option.any_some, active, forall_const]
          obtain ⟨buf, prints, length, short⟩ := exists_snprintf_malloc
            (description numbers (reports system between) id)
            (description numbers system id).length
          have bound := written_le buf
          constructor
          · intro sound loses
            have longer := length_description_of_loses numbers loses
            have counted := sound true
            simp only [Bool.not_true, Bool.false_eq_true, if_false, prints, Option.bind_some]
              at counted
            omega
          · intro keeps kmalloc
            have fits := (length_description_le_iff numbers system between id).mpr keeps
            cases kmalloc with
            | false => trivial
            | true =>
                simp only [Bool.not_true, Bool.false_eq_true, if_false, prints, Option.bind_some]
                exact short fits

end

/-- The lengths and the texts that are returned are right if and only if no device that is
described loses its last subflow between its sizing pass and its printing pass. -/
theorem sound_iff_keepsLink (numbers : NdevId → DevNumbers) (system : System)
    (rounds : List Round) (id : NdevId) (between : List SubflowReport) :
    (ListSound numbers system rounds ↔ KeepsLinks system rounds) ∧
      (InfoSound numbers system id between ↔
        KeepsLink system (reports system between) id) :=
  ⟨listSound_iff numbers system rounds, infoSound_iff numbers system id between⟩

/-- A tunnel with one subflow, whose socket reports to it. -/
def linkedState : ConnState :=
  { Connection.initial false true with
    tdat := { mpdccptunNew false true with
      subflow := [ascii "eth0"]
      bufszSubflow := 1 }
    sockets := fun _ => { Connection.socketNew with userData := true } }

def linkedSystem : System where
  netdev id := {
    name := ascii "ldt0"
    net := 0
    registered := true
    iffUp := true
    neededHeadroom := 0
    ipPtr := none
    ip6Ptr := none
    ldt := some {
      pdev := none
      active := true
      hastun := true
      tun := {
        pdevdown := false
        tundata := some linkedState
        tunops := some ⟨false⟩
        tdev := some id } } }
  nextNdev := 1
  sent := []
  fault := none

/-- The subflow is destroyed between the two passes. -/
def lostSubflow : List SubflowReport :=
  [⟨0, .destroy, 0, ascii "eth0", true⟩]

def linkedNumbers (_ : NdevId) : DevNumbers where
  mtu := 1500
  ctime := 0
  mtime := 0

/-- The last byte of the description is missing, and the length counts it. -/
theorem not_sound_lostSubflow :
    ¬ ListSound linkedNumbers linkedSystem [⟨0, [], lostSubflow⟩] ∧
      ¬ InfoSound linkedNumbers linkedSystem 0 lostSubflow := by
  have loses : ¬ KeepsLink linkedSystem (reports linkedSystem lostSubflow) 0 := by
    intro keeps
    exact keeps rfl ⟨rfl, rfl, rfl⟩
  constructor
  · intro sound
    exact loses ((listSound_iff linkedNumbers _ _).mp sound).1
  · intro sound
    exact loses ((infoSound_iff linkedNumbers _ _ _).mp sound)

end Tunprox.DevInfo
