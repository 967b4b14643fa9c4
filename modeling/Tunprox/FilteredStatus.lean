import Tunprox.StatusReport

/-!
# The status of one device

`ldt_get_status` with the name of an interface takes the entries of the devices with this name
out of the list.  Behind its loop `tp_parse_status` makes an entry for a name that no device
has, but the name that it copies is that of the last device of the list, and of an empty list
it returns before.
-/

namespace Tunprox.FilteredStatus

open ByteBuffer ElementText WrittenTree StatusParse DevInfo Device NetlinkReply StatusReport
open CommandResult
open EventRoundTrip (NetName)

/-- A device as the kernel module reports it: its name, which is that of a net device, and
what is inside of its element. -/
structure ReportedDevice where
  name : CStr
  short : name.bytes.length < IFNAMSIZ
  subs : List Tree

def ReportedDevice.tree (device : ReportedDevice) : Tree :=
  .tag (ascii "dev") [(ascii "name", device.name.bytes)] device.subs

/-- The list of devices that the tool parses. -/
def document (devices : List ReportedDevice) : List Tree :=
  [.tag (ascii "ldtlist") [] (devices.map ReportedDevice.tree)]

/-- The tool receives the list of the devices and reads it. -/
def Reports (xmlParse : List UInt8 → Except Int (List Tree))
    (received : List (Except Int (List UInt8))) (stack : Int) (devices : List ReportedDevice) :
    Prop :=
  ∃ reply info, ldtNlGetanswer received stack = some reply ∧ ¬ reply.ret < 0 ∧
    reply.data = some info ∧ xmlParse (cstring info) = .ok (document devices)

def ReportedDevice.HasName (iface : CStr) (device : ReportedDevice) : Prop :=
  strcaseeq iface.bytes device.name.bytes = true

instance (iface : CStr) (device : ReportedDevice) : Decidable (device.HasName iface) :=
  inferInstanceAs (Decidable (_ = true))

/-- The entry of a device in the status. -/
def ReportedDevice.entry (device : ReportedDevice) : LdtStatus :=
  parsestat (copyIface device.name.bytes) (searchTag (ascii "status") device.tree)

/-- The devices with the name. -/
def matching (iface : CStr) (devices : List ReportedDevice) : List ReportedDevice :=
  devices.filter fun device => device.HasName iface

/-- The status of one interface, as it should be: the entries of its devices, or else an entry
of its own without any flag. -/
structure Filtered (iface : CStr) (devices : List ReportedDevice) (statlist : List LdtStatus) :
    Prop where
  named : ∀ status ∈ statlist, strcaseeq (copyIface iface.bytes) status.iface = true
  found : matching iface devices ≠ [] →
    statlist = (matching iface devices).map ReportedDevice.entry
  absent : matching iface devices = [] → ∃ status, statlist = [status] ∧
    status.linkup = false ∧ status.pdevup = false ∧ status.tunup = false ∧ status.ifup = false

/-- What `ldt_get_status` returns for the interface is the status of it. -/
def FilterSound (xmlParse : List UInt8 → Except Int (List Tree))
    (received : List (Except Int (List UInt8))) (stack : Int) (devices : List ReportedDevice)
    (iface : CStr) : Prop :=
  ∀ statlist, ldtGetStatus xmlParse (some iface.bytes) received stack = some (.ok statlist) →
    Filtered iface devices statlist

/-- The entry behind the loop, for the name that is left from it. -/
def lastEntry (xif : List UInt8) : LdtStatus where
  iface := copyIface xif
  linkup := false
  pdevup := false
  tunup := false
  ifup := false

theorem matching_eq_nil_iff {iface : CStr} {devices : List ReportedDevice} :
    matching iface devices = [] ↔ ¬ ∃ device ∈ devices, device.HasName iface := by
  simp [matching, List.filter_eq_nil_iff]

theorem matching_cons (iface : CStr) (device : ReportedDevice) (devices : List ReportedDevice) :
    matching iface (device :: devices) =
      if device.HasName iface then device :: matching iface devices
      else matching iface devices := by
  simp [matching, List.filter_cons]

/-- The loop takes the entries of the devices with the name. -/
theorem parseDevs_filter (iface : CStr) (devices : List ReportedDevice) :
    parseDevs (some iface.bytes) (devices.map ReportedDevice.tree) =
      some ((matching iface devices).map ReportedDevice.entry) := by
  induction devices with
  | nil => rfl
  | cons device devices ih =>
      rw [List.map_cons, ReportedDevice.tree, parseDevs, xmltagGetattr_name, ih, matching_cons]
      by_cases has : device.HasName iface
      · have kept : strcaseeq iface.bytes device.name.bytes = true := has
        rw [if_pos has, if_neg (by simp [kept])]
        rfl
      · have dropped : strcaseeq iface.bytes device.name.bytes = false :=
          Bool.eq_false_iff.mpr has
        rw [if_neg has, if_pos (by simp [dropped])]

/-- Without a filter it takes all entries. -/
theorem parseDevs_all (devices : List ReportedDevice) :
    parseDevs none (devices.map ReportedDevice.tree) =
      some (devices.map ReportedDevice.entry) := by
  induction devices with
  | nil => rfl
  | cons device devices ih =>
      rw [List.map_cons, ReportedDevice.tree, parseDevs, xmltagGetattr_name, ih]
      rfl

/-- The name behind the loop is that of the last device. -/
theorem lastName_concat (front : List ReportedDevice) (last : ReportedDevice) :
    lastName ((front ++ [last]).map ReportedDevice.tree) = some last.name.bytes := by
  rw [lastName, List.map_append, List.reverse_append]
  simp [ReportedDevice.tree, xmltagGetattr_name]

theorem xmlcursSearchtag_document {devices : List ReportedDevice} (nonempty : devices ≠ []) :
    xmlcursSearchtag (ascii "dev") (document devices) =
      some (devices.map ReportedDevice.tree) := by
  cases devices with
  | nil => contradiction
  | cons device devices => exact xmlcursSearchtag_cons ..

/-- The status of all devices consists of their entries. -/
theorem tpParseStatus_all (devices : List ReportedDevice) :
    tpParseStatus none (document devices) = some (devices.map ReportedDevice.entry) := by
  by_cases empty : devices = []
  · subst empty
    rw [document, List.map_nil, tpParseStatus, xmlcursSearchtag_nil]
    rfl
  · rw [tpParseStatus, xmlcursSearchtag_document empty]
    simp only [parseDevs_all, Option.bind_eq_bind, Option.bind_some, Option.isSome_none,
      Bool.false_eq_true, and_false, if_false]

section
variable (iface : CStr)

/-- An empty list has no device, and no entry is made. -/
theorem tpParseStatus_empty : tpParseStatus (some iface.bytes) (document []) = some [] := by
  rw [document, List.map_nil, tpParseStatus, xmlcursSearchtag_nil]

/-- Where there are devices with the name, their entries are returned. -/
theorem tpParseStatus_found {devices : List ReportedDevice}
    (found : matching iface devices ≠ []) :
    tpParseStatus (some iface.bytes) (document devices) =
      some ((matching iface devices).map ReportedDevice.entry) := by
  have nonempty : devices ≠ [] := by
    rintro rfl
    exact found rfl
  have entries : (matching iface devices).map ReportedDevice.entry ≠ [] := by
    rw [ne_eq, List.map_eq_nil_iff]
    exact found
  rw [tpParseStatus, xmlcursSearchtag_document nonempty]
  simp only [parseDevs_filter, Option.bind_eq_bind, Option.bind_some, entries, false_and,
    if_false]

/-- Otherwise the name of the last device is. -/
theorem tpParseStatus_missed {front : List ReportedDevice} {last : ReportedDevice}
    (missed : matching iface (front ++ [last]) = []) :
    tpParseStatus (some iface.bytes) (document (front ++ [last])) =
      some [lastEntry last.name.bytes] := by
  have nonempty : front ++ [last] ≠ [] := by simp
  rw [tpParseStatus, xmlcursSearchtag_document nonempty]
  simp only [parseDevs_filter, missed, List.map_nil, Option.isSome_some, and_self, if_true,
    lastName_concat, Option.bind_eq_bind, Option.bind_some]
  rfl

end

/-- The name of a device is not cut. -/
theorem ReportedDevice.copyIface_name (device : ReportedDevice) :
    copyIface device.name.bytes = device.name.bytes := by
  have short := device.short
  unfold IFNAMSIZ at short
  exact List.take_of_length_le (by omega)

/-- A name of an entry that is made of a device is the one that is asked for only if the device
has this name. -/
theorem hasName_iff_copyIface (iface : CStr) (device : ReportedDevice) :
    strcaseeq (copyIface iface.bytes) (copyIface device.name.bytes) = true ↔
      device.HasName iface := by
  have short := device.short
  unfold IFNAMSIZ at short
  rw [device.copyIface_name, ReportedDevice.HasName, strcaseeq, strcaseeq, beq_iff_eq,
    beq_iff_eq]
  have whole (lengths : (copyIface iface.bytes).length = device.name.bytes.length ∨
      iface.bytes.length = device.name.bytes.length) :
      copyIface iface.bytes = iface.bytes := by
    rw [copyIface, List.length_take] at lengths
    exact List.take_of_length_le (by omega)
  constructor
  · intro same
    have lengths := congrArg List.length same
    rw [List.length_map, List.length_map] at lengths
    rw [← whole (.inl lengths)]
    exact same
  · intro same
    have lengths := congrArg List.length same
    rw [List.length_map, List.length_map] at lengths
    rw [whole (.inr lengths)]
    exact same

theorem iface_parsestat (iface : List UInt8) (status : Option (List UInt8)) :
    (parsestat iface status).iface = iface := by
  have kept (stat : LdtStatus) (field : List UInt8) :
      (parseField stat field).iface = stat.iface := by
    unfold parseField
    split_ifs <;> rfl
  cases status with
  | none => rfl
  | some status =>
      have folded (fields : List (List UInt8)) (stat : LdtStatus) :
          (fields.foldl parseField stat).iface = stat.iface := by
        induction fields generalizing stat with
        | nil => rfl
        | cons field fields ih => rw [List.foldl_cons, ih, kept]
      exact folded _ _

section
variable {iface : CStr} {devices : List ReportedDevice}

/-- The entries of the devices with the name are as they should be. -/
theorem filtered_of_found (found : matching iface devices ≠ []) :
    Filtered iface devices ((matching iface devices).map ReportedDevice.entry) where
  named := by
    intro status member
    obtain ⟨device, deviceMem, rfl⟩ := List.mem_map.mp member
    have has : device.HasName iface := of_decide_eq_true (List.mem_filter.mp deviceMem).2
    rw [ReportedDevice.entry, iface_parsestat]
    exact (hasName_iff_copyIface iface device).mpr has
  found := fun _ => rfl
  absent := fun missed => absurd missed found

/-- What is returned where no device has the name is not. -/
theorem not_filtered_of_missed (missed : matching iface devices = []) {statlist : List LdtStatus}
    (parsed : tpParseStatus (some iface.bytes) (document devices) = some statlist) :
    ¬ Filtered iface devices statlist := by
  intro filtered
  obtain ⟨status, statlistEq, -⟩ := filtered.absent missed
  have named := filtered.named
  rcases List.eq_nil_or_concat devices with rfl | ⟨front, last, rfl⟩
  · rw [tpParseStatus_empty, Option.some.injEq, statlistEq] at parsed
    contradiction
  · rw [List.concat_eq_append] at missed parsed
    rw [tpParseStatus_missed iface missed, Option.some.injEq] at parsed
    rw [← parsed, List.forall_mem_singleton] at named
    have has := (hasName_iff_copyIface iface last).mp named
    exact matching_eq_nil_iff.mp missed ⟨last, by simp, has⟩

end

section
variable {xmlParse : List UInt8 → Except Int (List Tree)}
  {received : List (Except Int (List UInt8))} {stack : Int} {devices : List ReportedDevice}

theorem ldtGetStatus_of_reports (iface : CStr) (reports : Reports xmlParse received stack devices) :
    ldtGetStatus xmlParse (some iface.bytes) received stack =
      (tpParseStatus (some iface.bytes) (document devices)).map .ok := by
  obtain ⟨reply, info, answered, success, dataEq, parsed⟩ := reports
  simp only [ldtGetStatus, answered, Option.bind_eq_bind, Option.bind_some, if_neg success, dataEq,
    parsed]

/-- If the status is right a device has the name. -/
theorem exists_hasName_of_filterSound {iface : CStr}
    (reports : Reports xmlParse received stack devices)
    (sound : FilterSound xmlParse received stack devices iface) :
    ∃ device ∈ devices, device.HasName iface := by
  by_contra missing
  have missed := matching_eq_nil_iff.mpr missing
  obtain ⟨statlist, parsed⟩ : ∃ statlist,
      tpParseStatus (some iface.bytes) (document devices) = some statlist := by
    rcases List.eq_nil_or_concat devices with rfl | ⟨front, last, rfl⟩
    · exact ⟨[], tpParseStatus_empty iface⟩
    · rw [List.concat_eq_append] at missed ⊢
      exact ⟨_, tpParseStatus_missed iface missed⟩
  have returned := ldtGetStatus_of_reports iface reports
  rw [parsed] at returned
  exact not_filtered_of_missed missed parsed (sound statlist returned)

/-- The status of an interface is right if and only if a device of the list has its name. -/
theorem filterSound_iff (reports : Reports xmlParse received stack devices) (iface : CStr) :
    FilterSound xmlParse received stack devices iface ↔
      ∃ device ∈ devices, device.HasName iface := by
  constructor
  · exact exists_hasName_of_filterSound reports
  · intro named statlist returned
    have found : matching iface devices ≠ [] := fun missed =>
      matching_eq_nil_iff.mp missed named
    rw [ldtGetStatus_of_reports iface reports, tpParseStatus_found iface found,
      Option.map_some, Option.some.injEq, Except.ok.injEq] at returned
    rw [← returned]
    exact filtered_of_found found

end

/-- The trees of devices whose names are plain are those of reported devices. -/
theorem exists_reported (numbers : NdevId → DevNumbers) (system : System) {ids : List NdevId}
    (names : ∀ id ∈ ids, NetName (system.netdev id).name) :
    ∃ devices : List ReportedDevice,
      devices.map ReportedDevice.tree =
          ids.map (fun id => devTree (system.netdev id).name (numbers id) (tunOf system id)) ∧
        devices.map (fun device => device.name.bytes) =
          ids.map fun id => (system.netdev id).name := by
  induction ids with
  | nil => exact ⟨[], rfl, rfl⟩
  | cons id ids ih =>
      rw [List.forall_mem_cons] at names
      obtain ⟨devices, trees, sameNames⟩ := ih names.2
      have nameText := cstring_eq_self names.1.plain
      have nonzero : ∀ byte ∈ (system.netdev id).name, byte ≠ 0 := by
        rintro byte member rfl
        exact not_mem_of_plain names.1.plain (show isPlain 0 = false by decide) member
      obtain ⟨subs, tree⟩ : ∃ subs,
          devTree (system.netdev id).name (numbers id) (tunOf system id) =
            .tag (ascii "dev") [(ascii "name", (system.netdev id).name)] subs :=
        ⟨_, by rw [devTree, nameText]⟩
      refine ⟨⟨⟨(system.netdev id).name, nonzero⟩, names.1.short, subs⟩ :: devices, ?_, ?_⟩
      · rw [List.map_cons, List.map_cons, trees, tree, ReportedDevice.tree]
      · rw [List.map_cons, List.map_cons, sameNames]

section
variable (xmlParse : List UInt8 → Except Int (List Tree)) (family : NetlinkMessage.Family)
variable (seq pid : Nat) (request : Request) (fresh : Nat → UInt8) (stack : Int)
variable {numbers : NdevId → DevNumbers} {system : System} {ids : List NdevId}

/-- The message of the kernel module reports the devices of the namespace. -/
theorem reports_listText (reads : ReadsTrees xmlParse)
    (names : ∀ id ∈ describedDevices system ids, NetName (system.netdev id).name)
    (small : listSize numbers system ids < KMALLOC_LIMIT) {data : List UInt8}
    (holds : data.take (listText numbers system ids).length = listText numbers system ids) :
    ∃ msg devices, sendInfo family seq pid 0 (some data)
          ((listText numbers system ids).length % 2 ^ 32) true = .ok msg ∧
      Reports xmlParse [.ok msg] stack devices ∧
        devices.map (fun device => device.name.bytes) =
          (describedDevices system ids).map fun id => (system.netdev id).name := by
  obtain ⟨msg, reply, built, answered, success, info, dataEq, text⟩ :=
    ldtNlGetanswer_listText family seq pid stack small holds
  obtain ⟨devices, trees, sameNames⟩ := exists_reported numbers system names
  refine ⟨msg, devices, built, ⟨reply, info, answered, success, dataEq, ?_⟩, sameNames⟩
  rw [text, document, trees]
  exact reads _ _ (writes_listText numbers system names)

/-- A request for the status ends with an error for want of memory, or the tool receives the
devices of the namespace. -/
theorem reports_showDevlist (reads : ReadsTrees xmlParse)
    (names : ∀ id ∈ describedDevices system ids, NetName (system.netdev id).name)
    (allocations : Allocations)
    (limited : Limited numbers system allocations.krealloc 32 ids) :
    ∃ received, ldtNlShowDevlist family seq pid request fresh numbers system ids allocations =
        some received ∧
      ((∀ iface, ∃ ret, ldtGetStatus xmlParse iface received stack = some (.error ret)) ∨
        ∃ devices, Reports xmlParse received stack devices ∧
          devices.map (fun device => device.name.bytes) =
            (describedDevices system ids).map fun id => (system.netdev id).name) := by
  have failed := ldtGetStatus_netlinkAck xmlParse seq pid request stack
  rcases ldtGetAlldevinfo_quiet numbers system allocations.kmalloc allocations.krealloc ids with
    ⟨noMemory, -⟩ | ⟨granted, obuf, listed, text⟩
  · refine ⟨_, ?_, .inl failed⟩
    simp only [ldtNlShowDevlist, noMemory, Option.map_some,
      answers_of_ne family seq pid request (show -Errno.ENOMEM ≠ 0 by decide)]
  · have small : listSize numbers system ids < KMALLOC_LIMIT := by
      have bound := lt_of_limited numbers system 0 limited granted (by decide)
      omega
    obtain ⟨msg, devices, built, reports, sameNames⟩ := reports_listText xmlParse family seq pid
      stack reads names small (take_contents fresh text)
    cases skb : allocations.skb with
    | false =>
        refine ⟨_, ?_, .inl failed⟩
        simp only [ldtNlShowDevlist, listed, Option.map_some, skb, sendInfo_of_no_skb]
    | true =>
        refine ⟨[.ok msg], ?_, .inr ⟨devices, reports, sameNames⟩⟩
        simp only [ldtNlShowDevlist, listed, Option.map_some, skb, built]

end

/-- A name in capitals, and one that no device has. -/
def capitals : CStr where
  bytes := ascii "LDT0"
  nonzero := ne_zero_of_all (by decide)

def unknown : CStr where
  bytes := ascii "ldt9"
  nonzero := ne_zero_of_all (by decide)

/-- What the tool receives of a namespace with one device. -/
theorem exists_reports_linkedSystem :
    ∃ received devices, Reports (fun bytes => .ok (readAll bytes)) received 0 devices ∧
      devices.map (fun device => device.name.bytes) = [ascii "ldt0"] := by
  have small : listSize linkedNumbers linkedSystem [0] < KMALLOC_LIMIT := by decide +kernel
  obtain ⟨msg, devices, -, reports, sameNames⟩ :=
    reports_listText (fun bytes => .ok (readAll bytes)) assignedFamily 7 1000 0
      readsTrees_readAll (show ∀ id ∈ describedDevices linkedSystem [0],
        NetName (linkedSystem.netdev id).name by decide) small
      (List.take_length (l := listText linkedNumbers linkedSystem [0]))
  exact ⟨[.ok msg], devices, reports, sameNames⟩

theorem filterSound_linkedSystem :
    ∃ received devices, Reports (fun bytes => .ok (readAll bytes)) received 0 devices ∧
      FilterSound (fun bytes => .ok (readAll bytes)) received 0 devices capitals := by
  obtain ⟨received, devices, reports, sameNames⟩ := exists_reports_linkedSystem
  have member : ascii "ldt0" ∈ devices.map fun device => device.name.bytes := by
    rw [sameNames]
    exact List.mem_singleton_self _
  obtain ⟨device, deviceMem, nameEq⟩ := List.mem_map.mp member
  refine ⟨received, devices, reports, (filterSound_iff reports capitals).mpr
    ⟨device, deviceMem, ?_⟩⟩
  rw [ReportedDevice.HasName, nameEq]
  decide

/-- The entry for the name that no device has bears the name of the only device, `ldt0`. -/
theorem not_filterSound_linkedSystem :
    ∃ received devices, Reports (fun bytes => .ok (readAll bytes)) received 0 devices ∧
      devices.map (fun device => device.name.bytes) = [ascii "ldt0"] ∧
      ¬ FilterSound (fun bytes => .ok (readAll bytes)) received 0 devices unknown := by
  obtain ⟨received, devices, reports, sameNames⟩ := exists_reports_linkedSystem
  refine ⟨received, devices, reports, sameNames, ?_⟩
  intro sound
  obtain ⟨device, deviceMem, has⟩ := exists_hasName_of_filterSound reports sound
  have member := List.mem_map_of_mem (f := fun device : ReportedDevice => device.name.bytes)
    deviceMem
  rw [sameNames, List.mem_singleton] at member
  rw [ReportedDevice.HasName, member] at has
  exact absurd has (by decide)

end Tunprox.FilteredStatus
