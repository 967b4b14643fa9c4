import Mathlib.Data.List.Pairwise
import Tunprox.Device
import Tunprox.LabelledRun
import Tunprox.LinkedList

/-!
# The registry of tunnel types

`ldt_tun_register`, `ldt_tun_unregister` and `tun_reg_find` of `ldt_tun.c` on the
memory they work in.  The registered types form a list whose head is also to hold
the last entry in its `prev` link.  Removing the last entry leaves that link behind,
so what it leads to may be gone.  It is copied to the next head and never followed:
only entries behind the head are removed through their `prev`, and those links are
kept.  Hence a search finds what the history of the calls says.
-/

namespace Tunprox

open Errno LinkedList LabelledRun

/-- The data of a `struct tun_reg`. -/
structure TunRegEntry (Tunops : Type) where
  type : List UInt8
  tunops : Option Tunops
  deriving DecidableEq, Repr

/-- `struct tun_reg` -/
abbrev TunReg (Tunops : Type) :=
  Cell Nat (TunRegEntry Tunops)

/-- `tun_reg_list` and the memory of its entries, with the number of allocations so far. -/
structure TunRegistry (Tunops : Type) where
  heap : Heap Nat (TunRegEntry Tunops)
  tunRegList : Option Nat
  allocated : Nat

variable {Tunops : Type}

/-- `tun_reg_find` -/
def tunRegFind (registry : TunRegistry Tunops) (type : Option (List UInt8)) :
    Except Fault (Option Nat) :=
  if type.getD [] = [] then .ok none
  else
    search registry.heap (fun entry => kernelStrcaseeq entry.type (type.getD []))
      registry.allocated registry.tunRegList

/-- `tp_findtun` -/
def tpFindtun (registry : TunRegistry Tunops) (type : Option (List UInt8)) :
    Except Fault (Option Tunops) := do
  let found ← tunRegFind registry type
  match found with
  | none => pure none
  | some p => do
      let entry ← read registry.heap (some p)
      pure entry.value.tunops

/-- The lines of `ldt_tun_register` that fill the new entry `p` and put it at the front. -/
def tunRegLink (registry : TunRegistry Tunops) (entry : TunRegEntry Tunops) (p : Nat) :
    Except Fault (TunRegistry Tunops) := do
  let filled := Function.update registry.heap p (some ⟨entry, none, none⟩)
  let pointed ← write filled (some p) fun cell => { cell with next := registry.tunRegList }
  let linked ←
    match registry.tunRegList with
    | none => write pointed (some p) fun cell => { cell with prev := some p }
    | some head => do
        let first ← read pointed (some head)
        let copied ← write pointed (some p) fun cell => { cell with prev := first.prev }
        write copied (some head) fun cell => { cell with prev := some p }
  pure { heap := linked, tunRegList := some p, allocated := registry.allocated + 1 }

/-- `ldt_tun_register`; `tpNew` tells whether the operations have a `tp_new`, and
`kmalloc` is the memory that is given out. -/
def ldtTunRegister (tpNew : Tunops → Bool) (registry : TunRegistry Tunops)
    (type : Option (List UInt8)) (tunops : Option Tunops) (kmalloc : Option Nat) :
    Except Fault (Int × TunRegistry Tunops) :=
  if type.getD [] = [] ∨ tunops.any tpNew = false then .ok (-EINVAL, registry)
  else do
    let found ← tunRegFind registry type
    match found, kmalloc with
    | some _, _ => pure (-EEXIST, registry)
    | none, none => pure (-ENOMEM, registry)
    | none, some p => do
        let linked ← tunRegLink registry { type := type.getD [], tunops := tunops } p
        pure (0, linked)

/-- `if (p->next) p->next->prev = p->prev`, where `entry` is what `p` points to. -/
def tunRegSkipPrev (heap : Heap Nat (TunRegEntry Tunops)) (entry : TunReg Tunops) :
    Except Fault (Heap Nat (TunRegEntry Tunops)) :=
  match entry.next with
  | none => .ok heap
  | some next => write heap (some next) fun cell => { cell with prev := entry.prev }

/-- `if (p == tun_reg_list) tun_reg_list = p->next; else p->prev->next = p->next` -/
def tunRegSkipNext (registry : TunRegistry Tunops) (p : Nat) (entry : TunReg Tunops) :
    Except Fault (TunRegistry Tunops) :=
  if registry.tunRegList = some p then .ok { registry with tunRegList := entry.next }
  else
    (write registry.heap entry.prev fun cell => { cell with next := entry.next }).map
      fun heap => { registry with heap := heap }

/-- The lines of `ldt_tun_unregister` that take the entry `p` out of the list and free
it. -/
def tunRegUnlink (registry : TunRegistry Tunops) (p : Nat) :
    Except Fault (TunRegistry Tunops) := do
  let entry ← read registry.heap (some p)
  let skipped ← tunRegSkipPrev registry.heap entry
  let removed ← tunRegSkipNext { registry with heap := skipped } p entry
  let cleared ← write removed.heap (some p) fun _ => ⟨{ type := [], tunops := none }, none, none⟩
  pure { removed with heap := Function.update cleared p none }

/-- `ldt_tun_unregister` -/
def ldtTunUnregister (registry : TunRegistry Tunops) (type : Option (List UInt8)) :
    Except Fault (TunRegistry Tunops) :=
  if type.getD [] = [] then .ok registry
  else do
    let found ← tunRegFind registry type
    match found with
    | none => pure registry
    | some p => tunRegUnlink registry p

/-- A call on the registry, with the memory that `kmalloc` gives to a registration. -/
inductive TunRegCall (Tunops : Type) where
  | register (type : Option (List UInt8)) (tunops : Option Tunops) (kmalloc : Option Nat)
  | unregister (type : Option (List UInt8))
  | find (type : Option (List UInt8))

namespace TunRegistry

/-- The registry of a module that has just been loaded. -/
def initial : TunRegistry Tunops where
  heap := fun _ => none
  tunRegList := none
  allocated := 0

/-- The return value of a registration, and the registry after a call. -/
def perform (tpNew : Tunops → Bool) (registry : TunRegistry Tunops) :
    TunRegCall Tunops → Except Fault (Int × TunRegistry Tunops)
  | .register type tunops kmalloc => ldtTunRegister tpNew registry type tunops kmalloc
  | .unregister type => (ldtTunUnregister registry type).map fun next => (0, next)
  | .find type => (tunRegFind registry type).map fun _ => (0, registry)

/-- The registry, or what went wrong, and the calls with their return values, the latest
first. -/
structure Recorded (Tunops : Type) where
  registry : Except Fault (TunRegistry Tunops)
  history : List (TunRegCall Tunops × Int)

/-- `kmalloc` gives out memory that is not in use. -/
def Unused (registry : TunRegistry Tunops) : TunRegCall Tunops → Bool
  | .register _ _ (some p) => (registry.heap p).isNone
  | .register _ _ none | .unregister _ | .find _ => true

/-- Make a call.  After a fault nothing more happens. -/
def step (tpNew : Tunops → Bool) (state : Recorded Tunops) (call : TunRegCall Tunops) :
    Option (Recorded Tunops) :=
  match state.registry with
  | .error _ => some state
  | .ok registry =>
      if registry.Unused call then
        match registry.perform tpNew call with
        | .error fault => some { state with registry := .error fault }
        | .ok (ret, next) =>
            some { registry := .ok next, history := (call, ret) :: state.history }
      else none

/-- The latest successful registration of the name, in any case, that has not been undone
since, with the memory it got. -/
def latest (name : List UInt8) :
    List (TunRegCall Tunops × Int) → Option (Nat × TunRegEntry Tunops)
  | [] => none
  | (.register (some type) tunops (some p), 0) :: older =>
      if kernelStrcaseeq type name then some (p, { type := type, tunops := tunops })
      else latest name older
  | (.unregister (some type), _) :: older =>
      if kernelStrcaseeq type name then none else latest name older
  | _ :: older => latest name older

/-- The memory holds exactly the entries, linked in their order, with different names. -/
structure Represents (registry : TunRegistry Tunops)
    (entries : List (Nat × TunRegEntry Tunops)) : Prop where
  linked : Segment registry.heap none registry.tunRegList entries none
  distinct : (entries.map Prod.fst).Nodup
  unused : ∀ address, address ∉ entries.map Prod.fst → registry.heap address = none
  counted : entries.length ≤ registry.allocated
  named : ∀ entry ∈ entries, entry.2.type ≠ []
  names : entries.Pairwise fun first second =>
    kernelStrcaseeq first.2.type second.2.type = false

/-- The memory holds what the history says. -/
def Follows (history : List (TunRegCall Tunops × Int))
    (entries : List (Nat × TunRegEntry Tunops)) : Prop :=
  ∀ name, latest name history = entries.find? fun entry => kernelStrcaseeq entry.2.type name

end TunRegistry

open TunRegistry

theorem kernelStrcaseeq_eq_true_iff {first second : List UInt8} :
    kernelStrcaseeq first second = true ↔
      first.map kernelTolower = second.map kernelTolower := by
  rw [kernelStrcaseeq, beq_iff_eq]

/-- Equal names are equal to the same names. -/
theorem kernelStrcaseeq_congr {first second : List UInt8}
    (equal : kernelStrcaseeq first second = true) (name : List UInt8) :
    kernelStrcaseeq first name = kernelStrcaseeq second name := by
  rw [kernelStrcaseeq, kernelStrcaseeq, kernelStrcaseeq_eq_true_iff.mp equal]

theorem kernelStrcaseeq_comm (first second : List UInt8) :
    kernelStrcaseeq first second = kernelStrcaseeq second first := by
  rw [Bool.eq_iff_iff, kernelStrcaseeq_eq_true_iff, kernelStrcaseeq_eq_true_iff]
  exact eq_comm

theorem kernelStrcaseeq_nil {name : List UInt8} (named : name ≠ []) :
    kernelStrcaseeq name [] = false := by
  cases name with
  | nil => exact absurd rfl named
  | cons byte name => rfl

namespace TunRegistry

variable {registry : TunRegistry Tunops} {entries : List (Nat × TunRegEntry Tunops)}

theorem represents_initial : Represents (initial : TunRegistry Tunops) [] where
  linked := rfl
  distinct := List.nodup_nil
  unused := fun _ _ => rfl
  counted := Nat.le_refl 0
  named := nofun
  names := List.Pairwise.nil

/-- The search ends without a fault at the first entry with the name. -/
theorem Represents.tunRegFind_eq (represents : Represents registry entries)
    (type : Option (List UInt8)) :
    tunRegFind registry type =
      .ok ((entries.find? fun entry =>
        kernelStrcaseeq entry.2.type (type.getD [])).map Prod.fst) := by
  rw [tunRegFind]
  by_cases empty : type.getD [] = []
  · rw [if_pos empty, empty]
    have absent : entries.find? (fun entry => kernelStrcaseeq entry.2.type []) = none := by
      rw [List.find?_eq_none]
      intro entry member
      simp [kernelStrcaseeq_nil (represents.named entry member)]
    rw [absent]
    rfl
  · rw [if_neg empty]
    exact represents.linked.search_eq _ represents.counted

/-- No address in the list is unused. -/
theorem Represents.notMem_of_unused (represents : Represents registry entries) {p : Nat}
    (unused : registry.heap p = none) : p ∉ entries.map Prod.fst := by
  intro member
  obtain ⟨entry, entryMem, rfl⟩ := List.mem_map.mp member
  obtain ⟨next, prev, live⟩ := represents.linked.live entryMem
  simp [live] at unused

/-- Only entries of the list are in use. -/
theorem Represents.exists_entry (represents : Represents registry entries) {p : Nat}
    {cell : TunReg Tunops} (live : registry.heap p = some cell) :
    (p, cell.value) ∈ entries := by
  have member : p ∈ entries.map Prod.fst := by
    by_contra outside
    simp [represents.unused p outside] at live
  obtain ⟨entry, entryMem, rfl⟩ := List.mem_map.mp member
  obtain ⟨next, prev, entryLive⟩ := represents.linked.live entryMem
  rw [entryLive] at live
  rw [← Option.some.inj live]
  exact entryMem

/-- Two entries with equal names are one. -/
theorem Represents.eq_of_equal (represents : Represents registry entries) {p q : Nat}
    {first second : TunReg Tunops} (firstLive : registry.heap p = some first)
    (secondLive : registry.heap q = some second)
    (equal : kernelStrcaseeq first.value.type second.value.type = true) : p = q := by
  by_contra different
  have distinct : (p, first.value) ≠ (q, second.value) := fun same =>
    different (Prod.mk.inj same).1
  have symmetric : Std.Symm fun first second : Nat × TunRegEntry Tunops =>
      kernelStrcaseeq first.2.type second.2.type = false :=
    ⟨fun _ _ unequal => (kernelStrcaseeq_comm _ _).trans unequal⟩
  have unequal := represents.names.forall (represents.exists_entry firstLive)
    (represents.exists_entry secondLive) distinct
  simp [equal] at unequal

/-- Putting a new entry at the front copies the stale link of the old head and follows
none. -/
theorem Represents.tunRegLink (represents : Represents registry entries) {p : Nat}
    (unused : registry.heap p = none) (entry : TunRegEntry Tunops) (named : entry.type ≠ [])
    (new : ∀ other ∈ entries, kernelStrcaseeq entry.type other.2.type = false) :
    ∃ linked, Tunprox.tunRegLink registry entry p = .ok linked ∧
      Represents linked ((p, entry) :: entries) := by
  have outside : p ∉ entries.map Prod.fst := represents.notMem_of_unused unused
  have distinct : (((p, entry) :: entries).map Prod.fst).Nodup :=
    List.nodup_cons.mpr ⟨outside, represents.distinct⟩
  have names : ((p, entry) :: entries).Pairwise fun first second =>
      kernelStrcaseeq first.2.type second.2.type = false :=
    List.pairwise_cons.mpr ⟨new, represents.names⟩
  have allNamed : ∀ other ∈ (p, entry) :: entries, other.2.type ≠ [] :=
    List.forall_mem_cons.mpr ⟨named, represents.named⟩
  have counted : ((p, entry) :: entries).length ≤ registry.allocated + 1 :=
    Nat.succ_le_succ represents.counted
  cases entries with
  | nil =>
      have empty : registry.tunRegList = none := represents.linked
      refine ⟨{
        heap := Function.update registry.heap p (some ⟨entry, none, some p⟩)
        tunRegList := some p
        allocated := registry.allocated + 1 }, ?_, {
        linked := ?_
        distinct := distinct
        unused := ?_
        counted := counted
        named := allNamed
        names := names }⟩
      · simp only [Tunprox.tunRegLink, empty, write, Function.update_self, Function.update_idem,
          bind, Except.bind]
        rfl
      · exact ⟨rfl, none, some p, by simp, .inl rfl, rfl⟩
      · intro address other
        have different : address ≠ p := by simpa using other
        simp [Function.update_of_ne different, represents.unused address (by simp)]
  | cons first entries =>
      obtain ⟨head, value⟩ := first
      have started : registry.tunRegList = some head := represents.linked.1
      obtain ⟨cell, live, relinked⟩ := represents.linked.setPrev represents.distinct (some p)
      have different : head ≠ p := by
        intro same
        simp [same, unused] at live
      refine ⟨{
        heap := Function.update (Function.update registry.heap head
          (some { cell with prev := some p })) p (some ⟨entry, some head, cell.prev⟩)
        tunRegList := some p
        allocated := registry.allocated + 1 }, ?_, {
        linked := ?_
        distinct := distinct
        unused := ?_
        counted := counted
        named := allNamed
        names := names }⟩
      · rw [Function.update_comm different]
        simp only [Tunprox.tunRegLink, started, write, LinkedList.read, Function.update_self,
          Function.update_idem, Function.update_of_ne different, live, bind, Except.bind]
        rfl
      · refine ⟨rfl, some head, cell.prev, Function.update_self .., .inl rfl, ?_⟩
        rw [← started]
        exact relinked.update_of_notMem outside _
      · intro address other
        rw [List.map_cons, List.mem_cons, not_or] at other
        have notHead : address ≠ head := by
          intro same
          exact other.2 (by simp [same])
        have notNew : address ≠ p := other.1
        simp only [Function.update_of_ne notNew, Function.update_of_ne notHead]
        exact represents.unused address other.2

/-- The backward link of the entry after a removed one is led past it. -/
theorem exists_tunRegSkipPrev {heap : Heap Nat (TunRegEntry Tunops)} {before : Option Nat}
    {back : List (Nat × TunRegEntry Tunops)} (entry : TunReg Tunops)
    (segment : Segment heap before entry.next back none)
    (distinct : (back.map Prod.fst).Nodup) :
    ∃ skipped, tunRegSkipPrev heap entry = .ok skipped ∧
      Segment skipped entry.prev entry.next back none ∧
      ∀ address, address ∉ back.map Prod.fst → skipped address = heap address := by
  cases back with
  | nil =>
      have last : entry.next = none := segment
      exact ⟨heap, by rw [tunRegSkipPrev, last], last, fun _ _ => rfl⟩
  | cons first back =>
      obtain ⟨address, value⟩ := first
      obtain ⟨cell, live, relinked⟩ := segment.setPrev distinct entry.prev
      have started : entry.next = some address := segment.1
      refine ⟨_, ?_, relinked, ?_⟩
      · simp only [tunRegSkipPrev, started, write_of_live live]
      · intro other outside
        have different : other ≠ address := by
          intro same
          exact outside (by simp [same])
        exact Function.update_of_ne different _ heap

/-- The entry is led past from the head of the list or from the entry before it, which is
where its `prev` link leads. -/
theorem exists_tunRegSkipNext (skipped : TunRegistry Tunops)
    {front back : List (Nat × TunRegEntry Tunops)} {p : Nat}
    {entry : TunReg Tunops}
    (first : Segment skipped.heap none skipped.tunRegList front (some p))
    (second : Segment skipped.heap entry.prev entry.next back none)
    (linked : lastOf none front = none ∨ entry.prev = lastOf none front)
    (distinct : ((front ++ back).map Prod.fst).Nodup) (outside : p ∉ front.map Prod.fst) :
    ∃ removed, tunRegSkipNext skipped p entry = .ok removed ∧
      Segment removed.heap none removed.tunRegList (front ++ back) none ∧
      removed.allocated = skipped.allocated ∧
      ∀ address, address ∉ front.map Prod.fst →
        removed.heap address = skipped.heap address := by
  obtain rfl | ⟨shorter, ⟨address, value⟩, rfl⟩ := front.eq_nil_or_concat
  · have head : skipped.tunRegList = some p := first
    exact ⟨{ skipped with tunRegList := entry.next }, by rw [tunRegSkipNext, if_pos head],
      second.forget, rfl, fun _ _ => rfl⟩
  · rw [List.concat_eq_append] at *
    have leads : entry.prev = some address := by
      rw [lastOf_append_singleton] at linked
      simpa using linked
    have notHead : skipped.tunRegList ≠ some p := by
      intro head
      apply outside
      cases shorter with
      | nil => simp [Option.some.inj (head.symm.trans first.1)]
      | cons entry shorter => simp [Option.some.inj (head.symm.trans first.1)]
    rw [List.append_assoc, List.map_append, List.nodup_append] at distinct
    obtain ⟨shorterDistinct, lastDistinct, apart⟩ := distinct
    have notBack : address ∉ back.map Prod.fst := (List.nodup_cons.mp lastDistinct).1
    have frontDistinct : ((shorter ++ [(address, value)]).map Prod.fst).Nodup := by
      rw [List.map_append, List.nodup_append]
      refine ⟨shorterDistinct, List.nodup_singleton address, ?_⟩
      intro other member last lastMem
      rw [List.mem_singleton.mp lastMem]
      exact apart other member address (by simp)
    obtain ⟨cell, live, relinked⟩ := first.setNext frontDistinct entry.next
    refine ⟨{ skipped with
      heap := Function.update skipped.heap address
        (some { cell with next := entry.next }) }, ?_,
      Segment.append_iff.mpr ⟨entry.next, relinked, ?_⟩, rfl, ?_⟩
    · rw [tunRegSkipNext, if_neg notHead, leads, write_of_live live]
      rfl
    · rw [lastOf_append_singleton, ← leads]
      exact second.update_of_notMem notBack _
    · intro other notFront
      have different : other ≠ address := by
        intro same
        exact notFront (by simp [same])
      exact Function.update_of_ne different _ skipped.heap

/-- Taking an entry out follows its `prev` link only if another entry stands before it,
and then the link leads there. -/
theorem Represents.tunRegUnlink {front back : List (Nat × TunRegEntry Tunops)} {p : Nat}
    {entry : TunRegEntry Tunops}
    (represents : Represents registry (front ++ (p, entry) :: back)) :
    ∃ removed, Tunprox.tunRegUnlink registry p = .ok removed ∧
      Represents removed (front ++ back) := by
  have sublist : (front ++ back).Sublist (front ++ (p, entry) :: back) :=
    (List.Sublist.refl front).append (List.sublist_cons_self _ back)
  have distinct : ((front ++ back).map Prod.fst).Nodup :=
    represents.distinct.sublist (sublist.map Prod.fst)
  obtain ⟨frontDistinct, backDistinct, apart⟩ :
      (front.map Prod.fst).Nodup ∧ (p :: back.map Prod.fst).Nodup ∧
        ∀ address ∈ front.map Prod.fst, ∀ other ∈ p :: back.map Prod.fst,
          address ≠ other := by
    simpa only [List.map_append, List.map_cons, List.nodup_append] using represents.distinct
  have notFront : p ∉ front.map Prod.fst := fun member =>
    apart p member p List.mem_cons_self rfl
  have notBack : p ∉ back.map Prod.fst := (List.nodup_cons.mp backDistinct).1
  have outside : p ∉ (front ++ back).map Prod.fst := by
    rw [List.map_append, List.mem_append]
    exact not_or.mpr ⟨notFront, notBack⟩
  obtain ⟨middle, first, rfl, next, prev, live, linked, rest⟩ :=
    Segment.append_iff.mp represents.linked
  obtain ⟨skipped, skippedEq, second, sameBack⟩ :=
    exists_tunRegSkipPrev ⟨entry, next, prev⟩ rest (List.nodup_cons.mp backDistinct).2
  have skippedFront : Segment skipped none registry.tunRegList front (some p) := by
    apply first.congr
    intro address member
    exact sameBack address fun inBack =>
      apart address member address (List.mem_cons_of_mem p inBack) rfl
  obtain ⟨removed, removedEq, whole, allocated, sameFront⟩ :=
    exists_tunRegSkipNext { registry with heap := skipped } skippedFront second linked
      distinct notFront
  have stillLive : removed.heap p = some ⟨entry, next, prev⟩ :=
    (sameFront p notFront).trans ((sameBack p notBack).trans live)
  refine ⟨{ removed with heap := Function.update removed.heap p none }, ?_, {
    linked := whole.update_of_notMem outside none
    distinct := distinct
    unused := ?_
    counted := ?_
    named := fun other member => represents.named other (sublist.subset member)
    names := represents.names.sublist sublist }⟩
  · rw [Tunprox.tunRegUnlink, read_of_live live]
    simp only [bind, Except.bind, skippedEq, removedEq, write_of_live stillLive,
      Function.update_idem]
    rfl
  · intro address other
    by_cases same : address = p
    · rw [same]
      exact Function.update_self p none removed.heap
    · rw [List.map_append, List.mem_append, not_or] at other
      simp only [Function.update_of_ne same]
      refine (sameFront address other.1).trans ((sameBack address other.2).trans ?_)
      apply represents.unused
      simp only [List.map_append, List.map_cons, List.mem_append, List.mem_cons, not_or]
      exact ⟨other.1, same, other.2⟩
  · rw [allocated]
    exact Nat.le_trans sublist.length_le represents.counted

/-- A registration that fails is not remembered. -/
theorem latest_register_of_failed {type : Option (List UInt8)} {tunops : Option Tunops}
    {kmalloc : Option Nat} {ret : Int} (failed : ret ≠ 0) (name : List UInt8)
    (history : List (TunRegCall Tunops × Int)) :
    latest name ((.register type tunops kmalloc, ret) :: history) = latest name history := by
  rw [latest]
  · intro type tunops p same
    exact failed (Prod.mk.inj same).2
  · intro type ret same
    cases (Prod.mk.inj same).1

/-- What a registration does to the entries: nothing, with an error, or it adds one whose
name is new. -/
theorem Represents.ldtTunRegister_cases (represents : Represents registry entries)
    (tpNew : Tunops → Bool) (type : Option (List UInt8)) (tunops : Option Tunops)
    {kmalloc : Option Nat} (unused : ∀ p, kmalloc = some p → registry.heap p = none) :
    (∃ error, error ≠ 0 ∧
      ldtTunRegister tpNew registry type tunops kmalloc = .ok (error, registry)) ∨
    ∃ name p next, type = some name ∧ kmalloc = some p ∧
      ldtTunRegister tpNew registry type tunops kmalloc = .ok (0, next) ∧
      Represents next ((p, { type := name, tunops := tunops }) :: entries) := by
  by_cases refused : type.getD [] = [] ∨ tunops.any tpNew = false
  · left
    exact ⟨-EINVAL, by decide, by rw [ldtTunRegister, if_pos refused]⟩
  · rw [ldtTunRegister, if_neg refused, represents.tunRegFind_eq type]
    obtain ⟨name, rfl⟩ : ∃ name, type = some name := by
      cases type with
      | none => exact absurd (.inl rfl) refused
      | some name => exact ⟨name, rfl⟩
    have named : name ≠ [] := fun empty => refused (.inl empty)
    cases found : entries.find? fun entry => kernelStrcaseeq entry.2.type name with
    | some entry =>
        left
        exact ⟨-EEXIST, by decide, by simp only [Option.getD_some, found]; rfl⟩
    | none =>
        have new : ∀ other ∈ entries, kernelStrcaseeq name other.2.type = false := by
          intro other member
          rw [kernelStrcaseeq_comm]
          simpa using List.find?_eq_none.mp found other member
        cases kmalloc with
        | none =>
            left
            exact ⟨-ENOMEM, by decide, by simp only [Option.getD_some, found]; rfl⟩
        | some p =>
            right
            obtain ⟨next, linkedEq, linked⟩ :=
              represents.tunRegLink (unused p rfl) { type := name, tunops := tunops } named new
            refine ⟨name, p, next, rfl, rfl, ?_, linked⟩
            simp only [Option.getD_some, found, Option.map_none, bind, Except.bind, linkedEq]
            rfl

/-- What `ldt_tun_unregister` does to the entries: it takes out the one with the name. -/
theorem Represents.ldtTunUnregister_cases (represents : Represents registry entries)
    (type : Option (List UInt8)) :
    (ldtTunUnregister registry type = .ok registry ∧
      ∀ entry ∈ entries, kernelStrcaseeq entry.2.type (type.getD []) = false) ∨
    ∃ front entry back next, entries = front ++ entry :: back ∧
      kernelStrcaseeq entry.2.type (type.getD []) = true ∧
      ldtTunUnregister registry type = .ok next ∧ Represents next (front ++ back) := by
  by_cases empty : type.getD [] = []
  · left
    refine ⟨by rw [ldtTunUnregister, if_pos empty], ?_⟩
    intro entry member
    rw [empty]
    exact kernelStrcaseeq_nil (represents.named entry member)
  · rw [ldtTunUnregister, if_neg empty, represents.tunRegFind_eq type]
    cases found : entries.find? fun entry => kernelStrcaseeq entry.2.type (type.getD []) with
    | none =>
        left
        refine ⟨rfl, ?_⟩
        intro entry member
        simpa using List.find?_eq_none.mp found entry member
    | some entry =>
        right
        obtain ⟨equal, front, back, rfl, -⟩ := List.find?_eq_some_iff_append.mp found
        obtain ⟨next, unlinkedEq, unlinked⟩ := represents.tunRegUnlink
        exact ⟨front, entry, back, next, rfl, equal, unlinkedEq, unlinked⟩

/-- The name of an entry that is taken out is gone, and the other names stay. -/
theorem Represents.find?_of_removed {front back : List (Nat × TunRegEntry Tunops)}
    {entry : Nat × TunRegEntry Tunops} (represents : Represents registry (front ++ entry :: back))
    (name : List UInt8) :
    (front ++ back).find? (fun other => kernelStrcaseeq other.2.type name) =
      if kernelStrcaseeq entry.2.type name then none
      else (front ++ entry :: back).find? fun other => kernelStrcaseeq other.2.type name := by
  cases equal : kernelStrcaseeq entry.2.type name with
  | false => simp [List.find?_append, equal]
  | true =>
      rw [if_pos rfl, List.find?_eq_none]
      obtain ⟨-, behind, before⟩ := List.pairwise_append.mp represents.names
      intro other member sameName
      have same : kernelStrcaseeq entry.2.type other.2.type = true := by
        rw [kernelStrcaseeq_congr equal, kernelStrcaseeq_comm]
        exact sameName
      rcases List.mem_append.mp member with inFront | inBack
      · have different := before other inFront entry List.mem_cons_self
        rw [kernelStrcaseeq_comm, same] at different
        exact Bool.noConfusion different
      · have different := (List.pairwise_cons.mp behind).1 other inBack
        rw [same] at different
        exact Bool.noConfusion different

/-- A call that is made on memory that holds what the history says ends without a fault,
and the memory holds what the longer history says. -/
theorem Represents.perform {history : List (TunRegCall Tunops × Int)}
    (represents : Represents registry entries) (follows : Follows history entries)
    (tpNew : Tunops → Bool) {call : TunRegCall Tunops}
    (unused : registry.Unused call = true) :
    ∃ ret next others, registry.perform tpNew call = .ok (ret, next) ∧
      Represents next others ∧ Follows ((call, ret) :: history) others := by
  cases call with
  | register type tunops kmalloc =>
      have fresh : ∀ p, kmalloc = some p → registry.heap p = none := by
        rintro p rfl
        exact Option.isNone_iff_eq_none.mp unused
      obtain ⟨error, failed, refused⟩ | ⟨name, p, next, rfl, rfl, added, represents⟩ :=
        represents.ldtTunRegister_cases tpNew type tunops fresh
      · refine ⟨error, registry, entries, refused, represents, ?_⟩
        intro name
        rw [latest_register_of_failed failed]
        exact follows name
      · refine ⟨0, next, _, added, represents, ?_⟩
        intro other
        rw [latest, List.find?_cons]
        cases kernelStrcaseeq name other with
        | true => rfl
        | false => exact follows other
  | unregister type =>
      obtain ⟨kept, absent⟩ | ⟨front, entry, back, next, rfl, equal, removed, shorter⟩ :=
        represents.ldtTunUnregister_cases type
      · refine ⟨0, registry, entries, by rw [TunRegistry.perform, kept]; rfl, represents, ?_⟩
        intro name
        cases type with
        | none => exact follows name
        | some type =>
            rw [latest]
            cases equal : kernelStrcaseeq type name with
            | false => exact follows name
            | true =>
                rw [if_pos rfl, eq_comm, List.find?_eq_none]
                intro entry member
                rw [kernelStrcaseeq_comm, ← kernelStrcaseeq_congr equal, kernelStrcaseeq_comm]
                simpa using absent entry member
      · refine ⟨0, next, _, by rw [TunRegistry.perform, removed]; rfl, shorter, ?_⟩
        intro name
        rw [represents.find?_of_removed name, ← follows name]
        cases type with
        | none =>
            have named := represents.named entry (by simp)
            rw [Option.getD_none, kernelStrcaseeq_nil named] at equal
            exact Bool.noConfusion equal
        | some type =>
            rw [latest, kernelStrcaseeq_congr equal name]
            rfl
  | find type =>
      refine ⟨0, registry, entries, ?_, represents, follows⟩
      rw [TunRegistry.perform, represents.tunRegFind_eq type]
      rfl

/-- No call has gone wrong, and the memory holds what the history says. -/
def Sound (state : Recorded Tunops) : Prop :=
  ∃ registry entries, state.registry = .ok registry ∧ Represents registry entries ∧
    Follows state.history entries

theorem Sound.of_step {tpNew : Tunops → Bool} {state next : Recorded Tunops}
    {call : TunRegCall Tunops} (sound : Sound state)
    (stepped : step tpNew state call = some next) : Sound next := by
  obtain ⟨registry, entries, same, represents, follows⟩ := sound
  simp only [step, same] at stepped
  split_ifs at stepped with unused
  obtain ⟨ret, after, others, performed, represents, follows⟩ :=
    represents.perform follows tpNew unused
  rw [performed] at stepped
  rw [← Option.some.inj stepped]
  exact ⟨after, others, rfl, represents, follows⟩

/-- Before the first call. -/
def unrecorded : Recorded Tunops where
  registry := .ok initial
  history := []

theorem Sound.of_run {tpNew : Tunops → Bool} {calls : List (TunRegCall Tunops)}
    {final : Recorded Tunops} (ran : run (step tpNew) unrecorded calls = some final) :
    Sound final := by
  have started : Sound (unrecorded : Recorded Tunops) :=
    ⟨initial, [], rfl, represents_initial, fun _ => rfl⟩
  exact invariant_of_run (fun sound stepped => Sound.of_step sound stepped) started ran

/-- After any calls no link has been followed to an entry that is gone, a search finds the
entry of the latest registration of the name that has not been undone, and no two entries
have equal names. -/
theorem tunRegFind_of_run {tpNew : Tunops → Bool} {calls : List (TunRegCall Tunops)}
    {final : Recorded Tunops} (ran : run (step tpNew) unrecorded calls = some final) :
    ∃ registry, final.registry = .ok registry ∧
      (∀ type, tunRegFind registry type =
        .ok ((latest (type.getD []) final.history).map Prod.fst)) ∧
      (∀ name p entry, latest name final.history = some (p, entry) →
        ∃ next prev, registry.heap p = some ⟨entry, next, prev⟩) ∧
      ∀ p q first second, registry.heap p = some first → registry.heap q = some second →
        kernelStrcaseeq first.value.type second.value.type = true → p = q := by
  obtain ⟨registry, entries, same, represents, follows⟩ := Sound.of_run ran
  refine ⟨registry, same, ?_, ?_, ?_⟩
  · intro type
    rw [follows]
    exact represents.tunRegFind_eq type
  · intro name p entry found
    rw [follows] at found
    exact represents.linked.live (List.mem_of_find?_eq_some found)
  · intro p q first second firstLive secondLive equal
    exact represents.eq_of_equal firstLive secondLive equal

/-- The last entry is removed, its memory is used again, and the link of the head that led
to it is never followed. -/
theorem tunRegFind_of_run_reused :
    ∃ final, run (step fun _ : Bool => true) unrecorded
        [.register (some [97]) (some true) (some 1), .register (some [98]) (some true) (some 2),
          .unregister (some [65]), .register (some [99]) (some false) (some 1)] = some final ∧
      ∃ registry, final.registry = .ok registry ∧
        tunRegFind registry (some [67]) = .ok (some 1) ∧
        tunRegFind registry (some [97]) = .ok none := by
  refine ⟨_, rfl, ?_⟩
  obtain ⟨registry, same, found, -, -⟩ := @tunRegFind_of_run Bool (fun _ => true)
    [.register (some [97]) (some true) (some 1), .register (some [98]) (some true) (some 2),
      .unregister (some [65]), .register (some [99]) (some false) (some 1)] _ rfl
  exact ⟨registry, same, found (some [67]), found (some [97])⟩

/-- A registration that succeeded, with its memory, its name and its operations. -/
def registration (reg : Nat × List UInt8 × Tunops) : TunRegCall Tunops × Int :=
  (.register (some reg.2.1) (some reg.2.2) (some reg.1), 0)

theorem latest_registrations (regs : List (Nat × List UInt8 × Tunops)) (name : List UInt8) :
    latest name (regs.map registration) =
      (regs.find? fun reg => kernelStrcaseeq reg.2.1 name).map fun reg =>
        (reg.1, { type := reg.2.1, tunops := some reg.2.2 }) := by
  induction regs with
  | nil => rfl
  | cons reg regs ih =>
      rw [List.map_cons, registration, latest, List.find?_cons]
      cases kernelStrcaseeq reg.2.1 name with
      | true => rfl
      | false => exact ih

/-- Once the types of `ldt_mpdccp_register` are registered, in whatever memory, the table
of the operations is found through the memory as it is in the list of their names. -/
theorem tpFindtun_of_registered {tpNew : Device.LdtTunops → Bool}
    {calls : List (TunRegCall Device.LdtTunops)} {final : Recorded Device.LdtTunops}
    (ran : run (step tpNew) unrecorded calls = some final)
    {regs : List (Nat × List UInt8 × Device.LdtTunops)}
    (registered : final.history = regs.map registration)
    (types : regs.map Prod.snd = Device.tunRegList) (type : List UInt8) :
    ∃ registry, final.registry = .ok registry ∧
      tpFindtun registry (some type) = .ok (Device.tpFindtun type) := by
  obtain ⟨registry, entries, same, represents, follows⟩ := Sound.of_run ran
  have found : entries.find? (fun entry => kernelStrcaseeq entry.2.type type) =
      (regs.find? fun reg => kernelStrcaseeq reg.2.1 type).map fun reg =>
        (reg.1, { type := reg.2.1, tunops := some reg.2.2 }) := by
    rw [← follows type, registered, latest_registrations]
  refine ⟨registry, same, ?_⟩
  have listed : Device.tpFindtun type =
      (regs.find? fun reg => kernelStrcaseeq reg.2.1 type).map fun reg => reg.2.2 := by
    rw [Device.tpFindtun, ← types, List.find?_map, Option.map_map]
    split_ifs with empty
    · have absent : regs.find? (fun reg => kernelStrcaseeq reg.2.1 type) = none := by
        rw [List.find?_eq_none]
        intro reg member
        have listed : reg.2 ∈ Device.tunRegList := types ▸ List.mem_map_of_mem member
        have named : reg.2.1 ≠ [] := by
          have allNamed : Device.tunRegList.all (fun reg => !reg.1.isEmpty) = true := by decide
          simpa using List.all_eq_true.mp allNamed reg.2 listed
        simp [empty, kernelStrcaseeq_nil named]
      rw [absent]
      rfl
    · rfl
  rw [tpFindtun, represents.tunRegFind_eq, Option.getD_some, found, listed]
  cases hit : regs.find? fun reg => kernelStrcaseeq reg.2.1 type with
  | none => rfl
  | some reg =>
      rw [hit] at found
      obtain ⟨next, prev, live⟩ := represents.linked.live (List.mem_of_find?_eq_some found)
      simp only [bind, Except.bind, Option.map_some, read_of_live live]
      rfl

end TunRegistry

end Tunprox
