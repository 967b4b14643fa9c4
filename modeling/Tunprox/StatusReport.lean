import Mathlib.Data.List.Forall2
import Tunprox.DevInfoBuffer
import Tunprox.DevInfoTree
import Tunprox.DeviceList
import Tunprox.StatusParse

/-!
# The status of all devices

The request for the status, from the descriptions that the kernel module prints to the flags
that the tool takes out of them.  The words of the element `status` say how the tunnel is;
there is no such element without a tunnel, and then the tool sets all flags.  The kernel's
allocations may fail, and they do if they ask for too much.
-/

namespace Tunprox.StatusReport

open Errno ByteBuffer ElementText WrittenTree StatusParse DevInfo Device NetlinkReply
open CommandResult PrintBuffer
open Connection (ConnState)
open EventRoundTrip (decimal runs NetName)
open Netlink (RERR_OK)

/-- Which allocations of a request succeed: that of the list, the one that enlarges the list
for a device, and that of the message. -/
structure Allocations where
  kmalloc : Bool
  krealloc : NdevId → Bool
  skb : Bool

/-- The memory of a buffer; what has not been written holds anything. -/
def contents (fresh : Nat → UInt8) (memory : Memory) : List UInt8 :=
  memory.mapIdx fun index byte => byte.getD (fresh index)

/-- A round for a device whose subflows stay as they are. -/
def quietRound (id : NdevId) : Round where
  ndev := id
  before := []
  between := []

section
variable (family : NetlinkMessage.Family) (seq pid : Nat) (request : Request) (fresh : Nat → UInt8)
variable (numbers : NdevId → DevNumbers) (system : System) (ids : List NdevId)

/-- `ldt_nl_show_devlist` in a namespace with the net devices `ids`: the messages that reach
the tool. -/
def ldtNlShowDevlist (allocations : Allocations) : Option (List (Except Int (List UInt8))) :=
  (ldtGetAlldevinfo numbers system (ids.map quietRound) allocations.kmalloc
      allocations.krealloc).map fun
    | .error ret => answers family seq pid request ret
    | .ok (data, len) =>
        match sendInfo family seq pid 0 (some (contents fresh data)) (len % 2 ^ 32)
            allocations.skb with
        | .error ret => [.ok (netlinkAck seq pid ret request)]
        | .ok msg => [.ok msg]

/-- A request for the status, without a filter. -/
def showStatus (xmlParse : List UInt8 → Except Int (List Tree)) (stack : Int)
    (allocations : Allocations) : Option (Except Int (List LdtStatus)) := do
  let received ← ldtNlShowDevlist family seq pid request fresh numbers system ids allocations
  ldtGetStatus xmlParse none received stack

end

def hasTunnel (tun : LdtTun) : Bool :=
  tun.tunops.isSome

/-- The status of a device, as it should be. -/
structure RightStatus (system : System) (id : NdevId) (status : LdtStatus) : Prop where
  iface : status.iface = (system.netdev id).name
  tunup : status.tunup = true ↔ hasTunnel (tunOf system id) = true
  linkup : status.linkup = true ↔
    hasTunnel (tunOf system id) = true ∧ linkUp (tunOf system id) = true
  pdevup : status.pdevup = true ↔
    hasTunnel (tunOf system id) = true ∧ (tunOf system id).pdevdown = false

/-- No allocation beyond the limit succeeds, where `size` is that of the list so far. -/
def Limited (numbers : NdevId → DevNumbers) (system : System) (krealloc : NdevId → Bool) :
    Nat → List NdevId → Prop
  | _, [] => True
  | size, id :: ids =>
      if isDescribed system id = true then
        let len := size + (description numbers system id).length
        (krealloc id = true → len < KMALLOC_LIMIT) ∧ Limited numbers system krealloc len ids
      else Limited numbers system krealloc size ids

/-- The parser reads trees of all texts that are a way to write them. -/
def ReadsTrees (xmlParse : List UInt8 → Except Int (List Tree)) : Prop :=
  ∀ trees bytes, Writes [] trees bytes → xmlParse bytes = .ok trees

section
variable (numbers : NdevId → DevNumbers) (system : System)

def describedDevices (ids : List NdevId) : List NdevId :=
  ids.filter (isDescribed system)

/-- The size of the kernel's buffer at the end. -/
def listSize (ids : List NdevId) : Nat :=
  32 + ((describedDevices system ids).map fun id =>
    (description numbers system id).length).sum

end

/-- Whatever allocations fail, the tool gets the right status of all devices in the order of
the kernel, or an error because of the failure. -/
def StatusSound (xmlParse : List UInt8 → Except Int (List Tree)) (family : NetlinkMessage.Family)
    (seq pid : Nat) (request : Request) (fresh : Nat → UInt8) (stack : Int)
    (numbers : NdevId → DevNumbers) (system : System) (ids : List NdevId) : Prop :=
  ∀ allocations : Allocations, Limited numbers system allocations.krealloc 32 ids →
    match showStatus family seq pid request fresh numbers system ids xmlParse stack
        allocations with
    | none => False
    | some (.error _) =>
        ¬ (allocations.kmalloc = true ∧ (∀ id ∈ ids, allocations.krealloc id = true) ∧
          allocations.skb = true)
    | some (.ok statlist) =>
        List.Forall₂ (RightStatus system) (describedDevices system ids) statlist

/-- What the tool makes of the tunnel is right: its state is printed, or it is up altogether. -/
def Reported (tun : LdtTun) : Prop :=
  runs tun = true ∨ hasTunnel tun = true ∧ linkUp tun = true ∧ tun.pdevdown = false

/-- The status that the tool gets of a device. -/
def statusOf (name : List UInt8) (tun : LdtTun) : LdtStatus :=
  if runs tun = true then
    { iface := name, linkup := linkUp tun, pdevup := !tun.pdevdown, tunup := true, ifup := true }
  else { iface := name, linkup := true, pdevup := true, tunup := true, ifup := true }

theorem rightStatus_statusOf_iff (system : System) (id : NdevId) :
    RightStatus system id (statusOf (system.netdev id).name (tunOf system id)) ↔
      Reported (tunOf system id) := by
  unfold statusOf Reported
  split
  · rename_i running
    have tunnel : hasTunnel (tunOf system id) = true := (Bool.and_eq_true_iff.mp running).1
    refine ⟨fun _ => .inl running, fun _ => ?_⟩
    constructor <;> simp [tunnel]
  · rename_i stopped
    constructor
    · intro right
      have linkup := right.linkup.mp rfl
      have pdevup := right.pdevup.mp rfl
      exact .inr ⟨linkup.1, linkup.2, pdevup.2⟩
    · rintro (running | ⟨tunnel, link, pdev⟩)
      · exact absurd running stopped
      · constructor <;> simp [tunnel, link, pdev]

/-- The words of the element `status` in the tool. -/
theorem topFields_statusText (numSubflow : Nat) (pdevdown : Bool) :
    topFields (statusText numSubflow pdevdown) =
      [if 0 < numSubflow then ascii "up" else ascii "down",
        if pdevdown then ascii "pdevdown" else ascii "pdevup", ascii "tunup", ascii "ifup"] := by
  unfold statusText
  split <;> split <;> decide

theorem parsestat_statusText (iface : List UInt8) (numSubflow : Nat) (pdevdown : Bool) :
    parsestat iface (some (statusText numSubflow pdevdown)) =
      { iface := iface, linkup := 0 < numSubflow, pdevup := !pdevdown, tunup := true,
        ifup := true } := by
  rw [parsestat, topFields_statusText]
  by_cases some_ : 0 < numSubflow
  · cases pdevdown with
    | false => simp only [if_pos some_, decide_eq_true some_]; rfl
    | true => simp only [if_pos some_, decide_eq_true some_]; rfl
  · cases pdevdown with
    | false => simp only [if_neg some_, decide_eq_false some_]; rfl
    | true => simp only [if_neg some_, decide_eq_false some_]; rfl

/-- Nothing is found in an element with a text and another tag. -/
theorem searchTag_elementTree (query : List UInt8) (element : Element) :
    searchTag query (elementTree element) = none := by
  simp [elementTree, searchTag, searchSubs, xmltagGetattr, findChild]

theorem findChild_append (query : List UInt8) (first second : List Tree) :
    findChild query (first ++ second) = (findChild query first).or (findChild query second) :=
  List.findSome?_append

theorem findChild_elementTrees {query : List UInt8} {elements : List Element}
    (others : ∀ element ∈ elements, strcaseeq element.tag query = false) :
    findChild query (elements.map elementTree) = none := by
  rw [findChild, List.findSome?_eq_none_iff]
  intro tree member
  obtain ⟨element, elementMem, rfl⟩ := List.mem_map.mp member
  simp [elementTree, others element elementMem]

/-- The element `status` is found in the tunnel. -/
theorem findChild_mpdccptunTrees (tdat : Mpdccptun) (pdevdown : Bool) :
    findChild (ascii "status") (mpdccptunTrees tdat pdevdown) =
      some [.text (statusText tdat.numSubflow pdevdown)] := by
  have others : ∀ tag ∈ addrTags, strcaseeq tag (ascii "status") = false := by decide
  have typeOther : strcaseeq (ascii "type") (ascii "status") = false := by decide
  have ipv6Other : strcaseeq (ascii "ipv6") (ascii "status") = false := by decide
  have same : strcaseeq (ascii "status") (ascii "status") = true := by decide
  have addresses : findChild (ascii "status") (tunaddrTrees tdat.addr) = none := by
    rw [tunaddrTrees, findChild_append, findChild_elementTrees, Option.or_none]
    · split
      · simp [findChild, ipv6Other]
      · rfl
    · intro element member
      exact others _ (tag_mem_addrTags _ element member)
  rw [mpdccptunTrees, findChild_append, findChild_append, addresses]
  simp [findChild, elementTree, typeOther, same]

/-- The element `status` of a device is that of its tunnel. -/
theorem searchTag_devTree (name : List UInt8) (numbers : DevNumbers) (tun : LdtTun) :
    searchTag (ascii "status") (devTree name numbers tun) =
      searchTag (ascii "status") (.tag (ascii "tun") [] (tunTrees tun)) := by
  have nameOther : strcaseeq (ascii "name") (ascii "status") = false := by decide
  have others : strcaseeq (ascii "mtu") (ascii "status") = false ∧
      strcaseeq (ascii "ctime") (ascii "status") = false ∧
        strcaseeq (ascii "mtime") (ascii "status") = false ∧
          strcaseeq (ascii "tun") (ascii "status") = false := by decide
  have attr : xmltagGetattr [(ascii "name", cstring name)] (ascii "status") = none := by
    simp [xmltagGetattr, nameOther]
  have child : findChild (ascii "status")
      [elementTree ⟨ascii "mtu", decimal numbers.mtu⟩,
        elementTree ⟨ascii "ctime", decimal numbers.ctime⟩,
        elementTree ⟨ascii "mtime", decimal numbers.mtime⟩,
        .tag (ascii "tun") [] (tunTrees tun)] = none := by
    simp [findChild, elementTree, others]
  rw [devTree, searchTag, attr, child]
  simp only [searchSubs, searchTag_elementTree]
  cases searchTag (ascii "status") (.tag (ascii "tun") [] (tunTrees tun)) with
  | none => rfl
  | some found => rfl

/-- The text that is found for a device. -/
theorem searchTag_tunTrees (tun : LdtTun) :
    searchTag (ascii "status") (.tag (ascii "tun") [] (tunTrees tun)) =
      if runs tun = true then
        tun.tundata.map fun state => statusText state.tdat.numSubflow tun.pdevdown
      else none := by
  have attr : xmltagGetattr [] (ascii "status") = none := rfl
  cases running : runs tun with
  | false =>
      rw [tunTrees_of_stopped running, searchTag, attr]
      rfl
  | true =>
      obtain ⟨state, tundata⟩ := exists_tundata running
      rw [tunTrees_of_runs running tundata, searchTag, attr, findChild_mpdccptunTrees, tundata]
      rfl

/-- What the tool makes of the tree of a device. -/
theorem parsestat_devTree (name : List UInt8) (numbers : DevNumbers) (tun : LdtTun) :
    parsestat name (searchTag (ascii "status") (devTree name numbers tun)) =
      statusOf name tun := by
  rw [searchTag_devTree, searchTag_tunTrees, statusOf]
  split
  · rename_i running
    obtain ⟨state, tundata⟩ := exists_tundata running
    rw [tundata, Option.map_some, parsestat_statusText, linkUp, tundata, Option.any_some]
  · rfl

theorem cstring_eq_self {name : List UInt8} (plain : Plain name) : cstring name = name := by
  refine List.takeWhile_eq_self_iff.mpr fun byte member => ?_
  have other := not_mem_of_plain plain (show isPlain 0 = false by decide)
  exact decide_eq_true fun zero => other (zero ▸ member)

theorem xmltagGetattr_name (name : List UInt8) :
    xmltagGetattr [(ascii "name", name)] (ascii "name") = some name := by
  have same : strcaseeq (ascii "name") (ascii "name") = true := by decide
  simp [xmltagGetattr, same]

/-- There is no device in an empty list. -/
theorem xmlcursSearchtag_nil :
    xmlcursSearchtag (ascii "dev") [.tag (ascii "ldtlist") [] []] = none := by
  have listOther : strcaseeq (ascii "ldtlist") (ascii "dev") = false := by decide
  have attr : xmltagGetattr [] (ascii "dev") = none := rfl
  simp [xmlcursSearchtag, findTag, listOther, tagSearchSubs, attr]

/-- The cursor starts at the first device of the list. -/
theorem xmlcursSearchtag_cons (attrs : List (List UInt8 × List UInt8)) (subs rest : List Tree) :
    xmlcursSearchtag (ascii "dev")
        [.tag (ascii "ldtlist") [] (.tag (ascii "dev") attrs subs :: rest)] =
      some (.tag (ascii "dev") attrs subs :: rest) := by
  have listOther : strcaseeq (ascii "ldtlist") (ascii "dev") = false := by decide
  have same : strcaseeq (ascii "dev") (ascii "dev") = true := by decide
  have attr : xmltagGetattr [] (ascii "dev") = none := rfl
  simp [xmlcursSearchtag, findTag, listOther, tagSearchSubs, attr, same]

/-- A name of a device is copied whole. -/
theorem copyIface_netName {name : List UInt8} (named : NetName name) :
    copyIface (cstring name) = name := by
  have bound := named.short
  unfold IFNAMSIZ at bound
  rw [cstring_eq_self named.plain]
  exact List.take_of_length_le (by omega)

section
variable (numbers : NdevId → DevNumbers) (system : System)

/-- The loop over the devices. -/
theorem parseDevs_devTrees {ids : List NdevId}
    (names : ∀ id ∈ ids, copyIface (cstring (system.netdev id).name) = (system.netdev id).name) :
    parseDevs none (ids.map fun id =>
        devTree (system.netdev id).name (numbers id) (tunOf system id)) =
      some (ids.map fun id => statusOf (system.netdev id).name (tunOf system id)) := by
  induction ids with
  | nil => rfl
  | cons id ids ih =>
      rw [List.forall_mem_cons] at names
      have found := parsestat_devTree (system.netdev id).name (numbers id) (tunOf system id)
      rw [devTree] at found
      rw [List.map_cons, List.map_cons, devTree, parseDevs, xmltagGetattr_name, ih names.2]
      simp only [Option.any_none, Bool.false_eq_true, if_false, Option.bind_eq_bind,
        Option.bind_some, names.1, found]

/-- The tree of the list of all devices. -/
def listTree (ids : List NdevId) : Tree :=
  .tag (ascii "ldtlist") [] ((describedDevices system ids).map fun id =>
    devTree (system.netdev id).name (numbers id) (tunOf system id))

def statuses (ids : List NdevId) : List LdtStatus :=
  (describedDevices system ids).map fun id =>
    statusOf (system.netdev id).name (tunOf system id)

theorem tpParseStatus_listTree {ids : List NdevId}
    (names : ∀ id ∈ describedDevices system ids,
      copyIface (cstring (system.netdev id).name) = (system.netdev id).name) :
    tpParseStatus none [listTree numbers system ids] = some (statuses system ids) := by
  have devs := parseDevs_devTrees numbers system names
  rw [listTree, statuses]
  cases listed : describedDevices system ids with
  | nil =>
      rw [List.map_nil, tpParseStatus, xmlcursSearchtag_nil]
      rfl
  | cons id rest =>
      rw [listed, List.map_cons] at devs
      rw [List.map_cons, devTree, tpParseStatus, xmlcursSearchtag_cons, ← devTree]
      simp only [devs, Option.bind_eq_bind, Option.bind_some, Option.isSome_none,
        Bool.false_eq_true, and_false, if_false]

/-- The text of the list of all devices. -/
def listText (ids : List NdevId) : List UInt8 :=
  listOpening ++ ((describedDevices system ids).map (description numbers system)).flatten ++
    listClosing

theorem length_listText (ids : List NdevId) :
    0 < (listText numbers system ids).length ∧
      (listText numbers system ids).length ≤ listSize numbers system ids := by
  have ends : listOpening.length = 10 ∧ listClosing.length = 11 := by decide
  simp only [listText, listSize, List.length_append, ends, List.length_flatten, List.map_map,
    Function.comp_def]
  omega

theorem nonzero_listText (ids : List NdevId) : (0 : UInt8) ∉ listText numbers system ids := by
  have ends : (0 : UInt8) ∉ listOpening ∧ (0 : UInt8) ∉ listClosing := by decide
  simp only [listText, List.mem_append, ends, false_or, or_false]
  intro member
  obtain ⟨text, textMem, inside⟩ := List.mem_flatten.mp member
  obtain ⟨id, -, rfl⟩ := List.mem_map.mp textMem
  exact nonzero_devText _ _ _ inside

theorem writes_descriptions {ids : List NdevId}
    (names : ∀ id ∈ ids, NetName (system.netdev id).name) :
    Writes [ascii "ldtlist"]
      (ids.map fun id => devTree (system.netdev id).name (numbers id) (tunOf system id))
      (ids.map (description numbers system)).flatten := by
  induction ids with
  | nil => exact .white (List.forall_mem_nil _)
  | cons id ids ih =>
      rw [List.forall_mem_cons] at names
      have here := writes_devText names.1.plain (numbers id) (tunOf system id)
      exact here.append (ih names.2)

/-- The list is one element, with the descriptions between the tags. -/
theorem listText_node (ids : List NdevId) :
    listText numbers system ids = opening (ascii "ldtlist") [] ++
      ([10] ++ ((describedDevices system ids).map (description numbers system)).flatten ++
        (closing (ascii "ldtlist") ++ [10])) := by
  have marks : listOpening = [60] ++ ascii "ldtlist" ++ [62] ++ [10] ∧
      listClosing = [60, 47] ++ ascii "ldtlist" ++ [62] ++ [10] := by decide
  simp [listText, marks, opening, closing, tagHead, attrsText]

/-- The text is a way to write the tree. -/
theorem writes_listText {ids : List NdevId}
    (names : ∀ id ∈ describedDevices system ids, NetName (system.netdev id).name) :
    Writes [] [listTree numbers system ids] (listText numbers system ids) := by
  have isTag : IsTag (ascii "ldtlist") := by decide
  have inside := (writes_descriptions numbers system names).white_append white_newline
  have list : Writes [] [listTree numbers system ids] _ :=
    .node (List.forall_mem_nil _) (isHead_of_isTag isTag) List.not_mem_nil inside
      (.white white_newline)
  simpa only [listText_node, List.nil_append] using list

/-- While the subflows stay as they are, no device loses its link. -/
theorem keepsLinks_quiet (ids : List NdevId) : KeepsLinks system (ids.map quietRound) := by
  induction ids with
  | nil => trivial
  | cons id ids ih =>
      refine ⟨?_, ih⟩
      rintro - ⟨-, up, down⟩
      exact Bool.false_ne_true (down.symm.trans up)

theorem descriptions_quiet (ids : List NdevId) :
    descriptions numbers system (ids.map quietRound) =
      (describedDevices system ids).map (description numbers system) := by
  induction ids with
  | nil => rfl
  | cons id ids ih =>
      have here : descriptions numbers system ((id :: ids).map quietRound) =
          (if isDescribed system id then [description numbers system id] else []) ++
            descriptions numbers system (ids.map quietRound) := rfl
      rw [here, ih, describedDevices, describedDevices, List.filter_cons]
      split
      · rfl
      · rfl

/-- If the list is returned, it has been enlarged for all its devices. -/
theorem krealloc_of_addDevinfos {krealloc : NdevId → Bool} {ids : List NdevId}
    {buffer last : OutBuffer}
    (returned : addDevinfos numbers krealloc system (ids.map quietRound) buffer =
      some (.ok last)) :
    ∀ id ∈ ids, isDescribed system id = true → krealloc id = true := by
  induction ids generalizing buffer with
  | nil => exact List.forall_mem_nil _
  | cons id ids ih =>
      rw [List.map_cons, addDevinfos, addDevinfo_eq] at returned
      split at returned
      · cases returned
      · rename_i succeeds
        obtain ⟨result, appended, rest⟩ := Option.bind_eq_some_iff.mp returned
        obtain ⟨next, -, rfl⟩ := Option.map_eq_some_iff.mp appended
        refine List.forall_mem_cons.mpr ⟨fun described => ?_, ih rest⟩
        by_contra failed
        exact succeeds ⟨described, Bool.eq_false_iff.mpr failed⟩

/-- The list is returned as it should be, unless there is no memory. -/
theorem ldtGetAlldevinfo_quiet (kmalloc : Bool) (krealloc : NdevId → Bool)
    (ids : List NdevId) :
    ldtGetAlldevinfo numbers system (ids.map quietRound) kmalloc krealloc =
          some (.error (-ENOMEM)) ∧
        ¬ (kmalloc = true ∧ ∀ id ∈ ids, krealloc id = true) ∨
      (∀ id ∈ ids, isDescribed system id = true → krealloc id = true) ∧
        ∃ obuf, ldtGetAlldevinfo numbers system (ids.map quietRound) kmalloc krealloc =
            some (.ok (obuf, (listText numbers system ids).length)) ∧
          obuf.take (listText numbers system ids).length =
            (listText numbers system ids).map some := by
  have sound := (listSound_iff numbers system (ids.map quietRound)).mpr
    (keepsLinks_quiet system ids) kmalloc krealloc
  rw [descriptions_quiet, ← listText] at sound
  cases kmalloc with
  | false => exact .inl ⟨rfl, fun all => Bool.false_ne_true all.1⟩
  | true =>
      rw [ldtGetAlldevinfo_eq] at sound ⊢
      rcases addDevinfos_cases numbers krealloc system (ids.map quietRound) openedBuffer with
        appends | ⟨⟨round, member, failed⟩, result⟩
      · right
        rw [appends] at sound ⊢
        cases appended : openedBuffer.appendAll
            (entries numbers system (ids.map quietRound)) with
        | none => simp [appended] at sound
        | some buffer =>
            rw [appended, Option.map_some] at appends
            have granted := krealloc_of_addDevinfos numbers system appends
            cases closed : buffer.close listClosing with
            | none => simp [appended, closed] at sound
            | some obuf =>
                simp only [appended, Option.map_some, Option.bind_some, closed] at sound ⊢
                obtain ⟨count, text⟩ := sound
                have bound := written_le obuf
                have length : buffer.position + listClosing.length =
                    (listText numbers system ids).length := by
                  have taken := congrArg List.length text
                  rwa [List.length_take_of_le (count.trans bound), List.length_map] at taken
                rw [length] at text ⊢
                exact ⟨granted, obuf, rfl, text⟩
      · left
        rw [result]
        refine ⟨rfl, fun all => ?_⟩
        obtain ⟨id, idMem, rfl⟩ := List.mem_map.mp member
        rw [quietRound, all.2 id idMem] at failed
        contradiction

theorem listSize_cons (id : NdevId) (ids : List NdevId) :
    listSize numbers system (id :: ids) = listSize numbers system ids +
      if isDescribed system id = true then (description numbers system id).length else 0 := by
  simp only [listSize, describedDevices, List.filter_cons]
  split
  · rw [List.map_cons, List.sum_cons]
    omega
  · rfl

/-- Where all allocations succeed, the list is not too large. -/
theorem lt_of_limited {krealloc : NdevId → Bool} (size : Nat) {ids : List NdevId}
    (limited : Limited numbers system krealloc (32 + size) ids)
    (granted : ∀ id ∈ ids, isDescribed system id = true → krealloc id = true)
    (small : 32 + size < KMALLOC_LIMIT) :
    size + listSize numbers system ids < KMALLOC_LIMIT := by
  induction ids generalizing size with
  | nil =>
      have empty : listSize numbers system [] = 32 := rfl
      omega
  | cons id ids ih =>
      rw [List.forall_mem_cons] at granted
      rw [listSize_cons]
      rw [Limited] at limited
      split at limited
      · rename_i described
        rw [if_pos described]
        have next := limited.1 (granted.1 described)
        rw [Nat.add_assoc] at limited next
        have rest := ih _ limited.2 granted.2 next
        omega
      · rename_i skipped
        rw [if_neg skipped]
        exact ih size limited granted.2 small

theorem limited_of_lt (krealloc : NdevId → Bool) (size : Nat) {ids : List NdevId}
    (small : size + listSize numbers system ids < KMALLOC_LIMIT) :
    Limited numbers system krealloc (32 + size) ids := by
  induction ids generalizing size with
  | nil => trivial
  | cons id ids ih =>
      rw [listSize_cons] at small
      have least : 32 ≤ listSize numbers system ids := Nat.le_add_right 32 _
      rw [Limited]
      split
      · rename_i described
        rw [if_pos described] at small
        refine ⟨fun _ => by omega, ?_⟩
        rw [Nat.add_assoc]
        exact ih _ (by omega)
      · rename_i skipped
        rw [if_neg skipped] at small
        exact ih size small

end

theorem take_contents (fresh : Nat → UInt8) {obuf : Memory} {text : List UInt8}
    (holds : obuf.take text.length = text.map some) :
    (contents fresh obuf).take text.length = text := by
  have written : (text.map some).mapIdx (fun index byte => byte.getD (fresh index)) = text := by
    apply List.ext_getElem
    · simp
    · simp
  rw [← List.take_append_drop text.length obuf, holds, contents, List.mapIdx_append, written,
    List.take_left]

theorem sendInfo_of_no_skb (family : NetlinkMessage.Family) (seq pid : Nat) (rval : Int)
    (data : Option (List UInt8)) (len : Nat) :
    sendInfo family seq pid rval data len false = .error (-ENOMEM) := by
  simp [sendInfo, NetlinkMessage.genlmsgNew]

section
variable (xmlParse : List UInt8 → Except Int (List Tree)) (family : NetlinkMessage.Family)
variable (seq pid : Nat) (request : Request) (fresh : Nat → UInt8) (stack : Int)

/-- A command without memory fails in the tool. -/
theorem ldtGetStatus_netlinkAck (iface : Option (List UInt8)) :
    ∃ ret, ldtGetStatus xmlParse iface [.ok (netlinkAck seq pid (-ENOMEM) request)] stack =
      some (.error ret) := by
  obtain ⟨reply, answered, failed⟩ := DeviceList.ldtNlGetanswer_netlinkAck seq pid request stack
    (show -2 ^ 31 ≤ -ENOMEM by decide) (by decide)
  exact ⟨reply.ret, by
    simp only [ldtGetStatus, answered, Option.bind_eq_bind, Option.bind_some, if_pos failed]⟩

variable {numbers : NdevId → DevNumbers} {system : System} {ids : List NdevId}

/-- The text gets to the tool. -/
theorem ldtNlGetanswer_listText (small : listSize numbers system ids < KMALLOC_LIMIT)
    {data : List UInt8}
    (holds : data.take (listText numbers system ids).length = listText numbers system ids) :
    ∃ msg reply, sendInfo family seq pid 0 (some data)
          ((listText numbers system ids).length % 2 ^ 32) true = .ok msg ∧
      ldtNlGetanswer [.ok msg] stack = some reply ∧ ¬ reply.ret < 0 ∧
        ∃ info, reply.data = some info ∧ cstring info = listText numbers system ids := by
  obtain ⟨positive, bound⟩ := length_listText numbers system ids
  unfold KMALLOC_LIMIT at small
  have len : (listText numbers system ids).length % 2 ^ 32 = (listText numbers system ids).length :=
    Nat.mod_eq_of_lt (by omega)
  have sent : infoData (some data) ((listText numbers system ids).length % 2 ^ 32) =
      some (listText numbers system ids) := by
    rw [len, infoData, Option.map_some, if_neg (by omega), holds]
  obtain ⟨msg, reply, built, answered, returned⟩ :=
    ldtNlGetanswer_sendInfo family seq pid sent (by unfold CHUNKSZ; omega) [] stack
  have success : ¬ reply.ret < 0 := by
    rw [returned.ret]
    decide
  have nonzero : ∀ byte ∈ listText numbers system ids, byte ≠ 0 := by
    rintro byte member rfl
    exact nonzero_listText numbers system ids member
  exact ⟨msg, reply, built, answered, success, _, returned.data,
    cstring_terminated ⟨listText numbers system ids, nonzero⟩⟩

/-- The tool takes the status of all devices out of the text. -/
theorem ldtGetStatus_listText (reads : ReadsTrees xmlParse)
    (names : ∀ id ∈ describedDevices system ids, NetName (system.netdev id).name)
    (small : listSize numbers system ids < KMALLOC_LIMIT) {data : List UInt8}
    (holds : data.take (listText numbers system ids).length = listText numbers system ids) :
    ∃ msg, sendInfo family seq pid 0 (some data)
          ((listText numbers system ids).length % 2 ^ 32) true = .ok msg ∧
      ldtGetStatus xmlParse none [.ok msg] stack = some (.ok (statuses system ids)) := by
  obtain ⟨msg, reply, built, answered, success, info, dataEq, text⟩ :=
    ldtNlGetanswer_listText family seq pid stack small holds
  have parsed := reads _ _ (writes_listText numbers system names)
  have status := tpParseStatus_listTree numbers system fun id member =>
    copyIface_netName (names id member)
  refine ⟨msg, built, ?_⟩
  simp only [ldtGetStatus, answered, Option.bind_eq_bind, Option.bind_some, if_neg success,
    dataEq, text, parsed, status, Option.map_some]

/-- A request ends with the status of all devices, or with an error for want of memory. -/
theorem showStatus_cases (reads : ReadsTrees xmlParse)
    (names : ∀ id ∈ describedDevices system ids, NetName (system.netdev id).name)
    (allocations : Allocations)
    (limited : Limited numbers system allocations.krealloc 32 ids) :
    (∃ ret, showStatus family seq pid request fresh numbers system ids xmlParse stack
          allocations = some (.error ret)) ∧
        ¬ (allocations.kmalloc = true ∧ (∀ id ∈ ids, allocations.krealloc id = true) ∧
          allocations.skb = true) ∨
      listSize numbers system ids < KMALLOC_LIMIT ∧
        showStatus family seq pid request fresh numbers system ids xmlParse stack allocations =
          some (.ok (statuses system ids)) := by
  obtain ⟨ret, failed⟩ := ldtGetStatus_netlinkAck xmlParse seq pid request stack none
  rcases ldtGetAlldevinfo_quiet numbers system allocations.kmalloc allocations.krealloc ids with
    ⟨noMemory, denied⟩ | ⟨granted, obuf, listed, text⟩
  · refine .inl ⟨⟨ret, ?_⟩, fun all => denied ⟨all.1, all.2.1⟩⟩
    simp only [showStatus, ldtNlShowDevlist, noMemory, Option.map_some, Option.bind_eq_bind,
      Option.bind_some, answers_of_ne family seq pid request (show -ENOMEM ≠ 0 by decide), failed]
  · have small : listSize numbers system ids < KMALLOC_LIMIT := by
      have bound := lt_of_limited numbers system 0 limited granted (by decide)
      omega
    obtain ⟨msg, built, status⟩ := ldtGetStatus_listText xmlParse family seq pid stack reads
      names small (take_contents fresh text)
    cases skb : allocations.skb with
    | false =>
        refine .inl ⟨⟨ret, ?_⟩, fun all => Bool.false_ne_true all.2.2⟩
        simp only [showStatus, ldtNlShowDevlist, listed, Option.map_some, skb,
          sendInfo_of_no_skb, Option.bind_eq_bind, Option.bind_some, failed]
    | true =>
        refine .inr ⟨small, ?_⟩
        simp only [showStatus, ldtNlShowDevlist, listed, Option.map_some, skb, built,
          Option.bind_eq_bind, Option.bind_some, status]

end

/-- The statuses are right if and only if each of them is. -/
theorem forall₂_statuses_iff (system : System) (ids : List NdevId) :
    List.Forall₂ (RightStatus system) (describedDevices system ids) (statuses system ids) ↔
      ∀ id ∈ describedDevices system ids, Reported (tunOf system id) := by
  rw [statuses, List.forall₂_map_right_iff, List.forall₂_same]
  exact forall₂_congr fun id _ => rightStatus_statusOf_iff system id

section
variable {xmlParse : List UInt8 → Except Int (List Tree)} {family : NetlinkMessage.Family}
variable {seq pid : Nat} {request : Request} {fresh : Nat → UInt8} {stack : Int}
variable {numbers : NdevId → DevNumbers} {system : System} {ids : List NdevId}

theorem reported_of_statusSound (reads : ReadsTrees xmlParse)
    (names : ∀ id ∈ describedDevices system ids, NetName (system.netdev id).name)
    (small : listSize numbers system ids < KMALLOC_LIMIT)
    (sound : StatusSound xmlParse family seq pid request fresh stack numbers system ids) :
    ∀ id ∈ describedDevices system ids, Reported (tunOf system id) := by
  have limited : Limited numbers system (fun _ => true) 32 ids :=
    limited_of_lt numbers system _ 0 (by omega)
  have result := sound ⟨true, fun _ => true, true⟩ limited
  rcases showStatus_cases xmlParse family seq pid request fresh stack reads names
      ⟨true, fun _ => true, true⟩ limited with ⟨-, denied⟩ | ⟨-, shown⟩
  · exact absurd ⟨rfl, fun _ _ => rfl, rfl⟩ denied
  · rw [shown] at result
    exact (forall₂_statuses_iff system ids).mp result

theorem statusSound_of_reported (reads : ReadsTrees xmlParse)
    (names : ∀ id ∈ describedDevices system ids, NetName (system.netdev id).name)
    (reported : listSize numbers system ids < KMALLOC_LIMIT →
      ∀ id ∈ describedDevices system ids, Reported (tunOf system id)) :
    StatusSound xmlParse family seq pid request fresh stack numbers system ids := by
  intro allocations limited
  rcases showStatus_cases xmlParse family seq pid request fresh stack reads names allocations
      limited with ⟨⟨ret, failed⟩, denied⟩ | ⟨small, shown⟩
  · rw [failed]
    exact denied
  · rw [shown]
    exact (forall₂_statuses_iff system ids).mpr (reported small)

end

/-- The status of all devices is right if and only if what the tool makes of the tunnel of each
device is; of a device without a tunnel it never is.  A list that is too large for the kernel
does not get to the tool. -/
theorem statusSound_iff_reported (xmlParse : List UInt8 → Except Int (List Tree))
    (reads : ReadsTrees xmlParse) (family : NetlinkMessage.Family) (seq pid : Nat)
    (request : Request) (fresh : Nat → UInt8) (stack : Int) (numbers : NdevId → DevNumbers)
    (system : System) (ids : List NdevId)
    (names : ∀ id ∈ describedDevices system ids, NetName (system.netdev id).name) :
    StatusSound xmlParse family seq pid request fresh stack numbers system ids ↔
      (listSize numbers system ids < KMALLOC_LIMIT →
        ∀ id ∈ describedDevices system ids, Reported (tunOf system id)) :=
  ⟨fun sound small => reported_of_statusSound reads names small sound,
    statusSound_of_reported reads names⟩

theorem readsTrees_readAll : ReadsTrees fun bytes => .ok (readAll bytes) :=
  fun _ _ writes => congrArg Except.ok (readAll_writes writes)

theorem netName_iff (name : List UInt8) :
    NetName name ↔ name.length < IFNAMSIZ ∧ name.all isWordByte = true := by
  rw [List.all_eq_true]
  constructor
  · intro named
    refine ⟨named.short, fun byte member => ?_⟩
    rw [isWordByte, named.plain byte member, named.solid byte member]
    rfl
  · rintro ⟨short, bytes⟩
    refine ⟨short, fun byte member => ?_, fun byte member => ?_⟩
    · exact (Bool.and_eq_true_iff.mp (bytes byte member)).1
    · simpa using (Bool.and_eq_true_iff.mp (bytes byte member)).2

instance (name : List UInt8) : Decidable (NetName name) :=
  decidable_of_iff _ (netName_iff name).symm

theorem statusSound_linkedSystem :
    StatusSound (fun bytes => .ok (readAll bytes)) assignedFamily 7 1000
      emptyRequest (fun _ => 0) 0 linkedNumbers linkedSystem [0] := by
  refine (statusSound_iff_reported _ readsTrees_readAll _ _ _ _ _ _ _ _ _ ?_).mpr ?_
  · decide
  · intro _ id _
    exact .inl rfl

/-- A device that has just been created, beside the one with a tunnel. -/
def mixedSystem : System where
  netdev id :=
    if id = 1 then
      { linkedSystem.netdev id with
        name := ascii "ldt1"
        ldt := some {
          pdev := none
          active := true
          hastun := false
          tun := ldtTunWith (some 1) } }
    else linkedSystem.netdev id
  nextNdev := 2
  sent := []
  fault := none

/-- All flags of the device without a tunnel are set. -/
theorem not_statusSound_mixedSystem :
    ¬ StatusSound (fun bytes => .ok (readAll bytes)) assignedFamily 7 1000
      emptyRequest (fun _ => 0) 0 linkedNumbers mixedSystem [0, 1] := by
  have names : ∀ id ∈ describedDevices mixedSystem [0, 1],
      NetName (mixedSystem.netdev id).name := by decide
  have small : listSize linkedNumbers mixedSystem [0, 1] < KMALLOC_LIMIT := by decide +kernel
  intro sound
  have reported := reported_of_statusSound readsTrees_readAll names small sound 1 (by decide)
  rcases reported with running | ⟨tunnel, -⟩
  · exact absurd running (by decide)
  · exact absurd tunnel (by decide)

end Tunprox.StatusReport
