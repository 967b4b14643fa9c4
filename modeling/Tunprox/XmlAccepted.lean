import Mathlib.Data.List.DropRight
import Tunprox.ExceptRule
import Tunprox.XmlNormalize

/-!
# What comes out of the XML parser

Whatever text it is given, the parser comes to an end, and what it returns with the standard
flags is well formed: the names of tags, and those of attributes that have a value, have no
other characters than those of names, and there are only tags and texts, which are cut at their
ends.  A tag with `!` may clear an entry beside it, whose name or text is then a null pointer.
-/

namespace Tunprox.XmlAccepted

open ElementText (strip after)
open ExceptRule
open Netlink (RERR_NOT_FOUND)
open XmlParser XmlNormalize

/-- The faults of `xml_parse`; the rounds of the model are always enough. -/
def Expected (fault : Fault) : Prop :=
  fault = .wild ∨ fault = .ret RERR_NOT_FOUND ∨ fault = .ret RERR_INVALID_FORMAT

def IsNameText (name : List UInt8) : Prop :=
  ∀ byte ∈ name, isNameChar byte = true

/-- What stands for the name of an attribute begins like one, and is one if there is a value. -/
structure FormedAttr (attr : Attr) : Prop where
  start : attr.1.head?.any isNameChar = true
  name : attr.2.isSome = true → IsNameText attr.1

mutual

/-- What `parse_body` returns. -/
def Formed : XmlSub → Prop
  | .tag name attrs subs => IsNameText name ∧ (∀ attr ∈ attrs, FormedAttr attr) ∧ AllFormed subs
  | .exclamTag name attrs => IsNameText name ∧ ∀ attr ∈ attrs, FormedAttr attr
  | .text text => text.all isspace = false ∧ (60 : UInt8) ∉ text
  | .emptyText text => text.all isspace = true
  | .questionTag _ | .comment _ => True
  | .null _ => False

def AllFormed : List XmlSub → Prop
  | [] => True
  | sub :: subs => Formed sub ∧ AllFormed subs

end

section Attributes

end Attributes

section Body

end Body

section Kept

/-- An attribute with its value, which is a string. -/
structure CleanAttr (attr : Attr) : Prop extends FormedAttr attr where
  value : ∀ val, attr.2 = some val → (0 : UInt8) ∉ val

mutual

/-- There is no tag with `!`, and no entry that one has cleared. -/
def NoExclam : XmlSub → Prop
  | .tag _ _ subs => AllNoExclam subs
  | .exclamTag _ _ | .null _ => False
  | .questionTag _ | .comment _ | .text _ | .emptyText _ => True

def AllNoExclam : List XmlSub → Prop
  | [] => True
  | sub :: subs => NoExclam sub ∧ AllNoExclam subs

end

mutual

/-- What `xml_parse` returns with the standard flags.  A text of references alone may be empty
in the end, and tags and texts may be `cleared`. -/
def Clean (cleared : Prop) : XmlSub → Prop
  | .tag name attrs subs =>
      IsNameText name ∧ (∀ attr ∈ attrs, CleanAttr attr) ∧ AllClean cleared subs
  | .text text => text ≠ [] ∧ strip text = text ∧ (0 : UInt8) ∉ text
  | .emptyText text => text = []
  | .null type => cleared ∧ (type = .tag ∨ type = .text ∨ type = .emptyText)
  | .questionTag _ | .comment _ | .exclamTag _ _ => False

def AllClean (cleared : Prop) : List XmlSub → Prop
  | [] => True
  | sub :: subs => Clean cleared sub ∧ AllClean cleared subs

end

variable {cleared : Prop}

theorem allClean_iff {subs : List XmlSub} :
    AllClean cleared subs ↔ ∀ sub ∈ subs, Clean cleared sub := by
  induction subs with
  | nil => simp [AllClean]
  | cons sub subs ih => rw [AllClean, ih, List.forall_mem_cons]

/-- An entry that is kept may be cleared later. -/
theorem clean_xmltagHfree (exclam : cleared) {sub : XmlSub} (clean : Clean cleared sub) :
    Clean cleared (xmltagHfree sub) := by
  cases sub with
  | tag name attrs subs => exact ⟨exclam, .inl rfl⟩
  | text text => exact ⟨exclam, .inr (.inl rfl)⟩
  | emptyText text => exact ⟨exclam, .inr (.inr rfl)⟩
  | null type => exact clean
  | questionTag text => exact clean.elim
  | exclamTag name attrs => exact clean.elim
  | comment text => exact clean.elim

theorem allClean_modify (exclam : cleared) {subs : List XmlSub} (clean : AllClean cleared subs)
    (j : Nat) : AllClean cleared (subs.modify j xmltagHfree) := by
  induction subs generalizing j with
  | nil =>
      rw [List.modify_nil]
      trivial
  | cons sub subs ih =>
      cases j with
      | zero => exact ⟨clean_xmltagHfree exclam clean.1, clean.2⟩
      | succ j => exact ⟨clean.1, ih clean.2 j⟩

theorem strip_strip (text : List UInt8) : strip (strip text) = strip text := by
  have twice := List.dropWhile_idempotent isspace text
  generalize start : text.dropWhile isspace = cut at twice
  have again : (cut.rdropWhile isspace).dropWhile isspace = cut.rdropWhile isspace := by
    obtain ⟨tail, whole⟩ := List.rdropWhile_prefix isspace (l := cut)
    cases kept : cut.rdropWhile isspace with
    | nil => rfl
    | cons first rest =>
        rw [kept] at whole
        rw [← whole, List.cons_append, List.dropWhile_eq_self_iff] at twice
        exact List.dropWhile_cons_of_neg (twice (Nat.succ_pos _))
  calc strip (strip text)
      = ((cut.rdropWhile isspace).dropWhile isspace).rdropWhile isspace := by rw [← start]; rfl
    _ = cut.rdropWhile isspace := by rw [again, List.rdropWhile_idempotent]
    _ = strip text := by rw [← start]; rfl

theorem mem_of_mem_strip {text : List UInt8} {byte : UInt8} (member : byte ∈ strip text) :
    byte ∈ text := by
  have inner := List.mem_reverse.mp member
  have cut := (List.dropWhile_suffix isspace).subset inner
  exact (List.dropWhile_suffix isspace).subset (List.mem_reverse.mp cut)

theorem normalized_clean (str : List UInt8) :
    Holds (fun out => (0 : UInt8) ∉ out) Expected (normalized str) := by
  rw [normalized]
  by_cases defined : referencesDefined (str.length + 1) str = true
  · obtain ⟨out, eq, -, nonzero⟩ := normalizeString_of_defined defined
    rw [eq]
    exact nonzero
  · rw [normalizeString_of_wild defined]
    exact .inl rfl

theorem stripText_clean (str : List UInt8) :
    Holds (Clean cleared) Expected (stripText STANDARD str) := by
  apply (normalized_clean str).bind
  intro out nonzero
  rw [if_pos (show STANDARD.stripAllText = true from rfl)]
  simp only
  split
  · rename_i nothing
    exact nothing
  · rename_i something
    exact ⟨something, strip_strip out, fun member => nonzero (mem_of_mem_strip member)⟩

theorem normalizeAttr_clean {attr : Attr} (formed : FormedAttr attr) :
    Holds CleanAttr Expected (normalizeAttr attr) := by
  obtain ⟨var, val⟩ := attr
  cases val with
  | none => exact ⟨formed, fun val none => nomatch none⟩
  | some val =>
      apply (normalized_clean val).map
      intro out nonzero
      have same : FormedAttr (var, some out) := ⟨formed.start, fun _ => formed.name rfl⟩
      exact ⟨same, fun val eq => Option.some.inj eq ▸ nonzero⟩

/-- What is kept is clean, and entries ahead are cleared only where some may be. -/
structure CleanStrip (cleared : Prop) (strip : Strip) : Prop where
  kept : AllClean cleared strip.kept
  ahead : strip.cleared ≠ [] → cleared

theorem cleanStrip_start : CleanStrip cleared .start where
  kept := trivial
  ahead none := absurd rfl none

theorem CleanStrip.ahead_advance {strip : Strip} (clean : CleanStrip cleared strip)
    (some : strip.advance.cleared ≠ []) : cleared := by
  apply clean.ahead
  intro none
  exact some (Strip.advance_cleared none)

theorem CleanStrip.keep {strip : Strip} (clean : CleanStrip cleared strip) {sub : XmlSub}
    (subClean : Clean cleared sub) : CleanStrip cleared (strip.keep sub) where
  kept := by
    rw [allClean_iff]
    intro kept member
    rcases List.mem_append.mp member with before | here
    · exact allClean_iff.mp clean.kept kept before
    · rw [List.mem_singleton.mp here]
      exact subClean
  ahead := clean.ahead_advance

theorem hfree_clean (exclam : cleared) {strip : Strip} (clean : CleanStrip cleared strip)
    (size : Nat) (sub : XmlSub) (rest : List XmlSub) :
    Holds (CleanStrip cleared) Expected (strip.hfree size sub rest) := by
  unfold Strip.hfree
  cases strip.j with
  | none => exact .inl rfl
  | some j =>
      simp only
      split
      · exact .inl rfl
      · split
        · exact ⟨allClean_modify exclam clean.kept j, fun _ => exclam⟩
        · split
          · exact ⟨clean.kept, fun _ => exclam⟩
          · split
            · split
              · exact .inl rfl
              · exact clean
            · split
              · exact .inl rfl
              · exact clean

/-- Among the entries that are dropped, only a tag with `!` is a tag. -/
theorem exists_exclamTag_of_drops {strip : Strip} {sub : XmlSub} (formed : Formed sub)
    (dropped : STANDARD.drops (strip.type sub) = true) (isTag : (strip.type sub).isTag = true) :
    ∃ name attrs, sub = .exclamTag name attrs := by
  rcases strip.type_cases sub with same | ⟨-, empty⟩
  · rw [same] at dropped isTag
    cases sub with
    | exclamTag name attrs => exact ⟨name, attrs, rfl⟩
    | null type => exact formed.elim
    | tag name attrs subs => exact absurd dropped Bool.false_ne_true
    | questionTag text => exact absurd isTag Bool.false_ne_true
    | comment text => exact absurd isTag Bool.false_ne_true
    | text text => exact absurd isTag Bool.false_ne_true
    | emptyText text => exact absurd isTag Bool.false_ne_true
  · rw [empty] at isTag
    exact absurd isTag Bool.false_ne_true

theorem drop_clean {strip : Strip} (clean : CleanStrip cleared strip) {sub : XmlSub}
    (noExclam : ¬ cleared → NoExclam sub) (formed : Formed sub)
    (dropped : STANDARD.drops (strip.type sub) = true) (size : Nat) (rest : List XmlSub) :
    Holds (CleanStrip cleared) Expected (strip.drop size sub rest) := by
  have freed : Holds (CleanStrip cleared) Expected
      (if (strip.type sub).isTag then strip.hfree size sub rest else .ok strip) := by
    split
    · rename_i isTag
      obtain ⟨name, attrs, rfl⟩ := exists_exclamTag_of_drops formed dropped isTag
      exact hfree_clean (not_not.mp noExclam) clean size _ rest
    · exact clean
  exact freed.map fun _ clean => ⟨clean.kept, clean.ahead_advance⟩

/-- A cleared entry that is kept. -/
theorem null_clean {strip : Strip} (clean : CleanStrip cleared strip) {sub : XmlSub}
    (formed : Formed sub) (null : strip.isNull sub = true)
    (kept : ¬ STANDARD.drops (strip.type sub) = true) :
    Clean cleared (.null (strip.type sub)) := by
  have exclam : cleared := by
    apply clean.ahead
    intro none
    cases sub with
    | null type => exact formed.elim
    | _ => simp [Strip.isNull, none] at null
  rcases strip.type_cases sub with same | ⟨-, empty⟩
  · rw [same] at kept ⊢
    cases sub with
    | tag name attrs subs => exact ⟨exclam, .inl rfl⟩
    | text text => exact ⟨exclam, .inr (.inl rfl)⟩
    | null type => exact formed.elim
    | questionTag text => exact absurd rfl kept
    | exclamTag name attrs => exact absurd rfl kept
    | comment text => exact absurd rfl kept
    | emptyText text => exact absurd rfl kept
  · rw [empty]
    exact ⟨exclam, .inr (.inr rfl)⟩

mutual

theorem stripSub_clean : (sub : XmlSub) → Formed sub → (¬ cleared → NoExclam sub) →
    ¬ STANDARD.drops sub.type = true → Holds (Clean cleared) Expected (stripSub STANDARD sub)
  | .tag name attrs subs, formed, noExclam, _ => by
      rw [stripSub]
      apply (holds_mapM fun attr member => normalizeAttr_clean (formed.2.1 attr member)).bind
      intro attrs attrsClean
      apply (stripLoop_clean subs formed.2.2 noExclam subs.length .start cleanStrip_start).bind
      intro subs subsClean
      exact ⟨formed.1, attrsClean, subsClean⟩
  | .text text, _, _, _ => stripText_clean text
  | .questionTag _, _, _, kept => absurd rfl kept
  | .exclamTag _ _, _, _, kept => absurd rfl kept
  | .comment _, _, _, kept => absurd rfl kept
  | .emptyText _, _, _, kept => absurd rfl kept
  | .null _, formed, _, _ => formed.elim

/-- The loop of `strip_it` with the standard flags. -/
theorem stripLoop_clean : (subs : List XmlSub) → AllFormed subs →
    (¬ cleared → AllNoExclam subs) → (size : Nat) → (strip : Strip) →
    CleanStrip cleared strip →
    Holds (AllClean cleared) Expected (stripLoop STANDARD size strip subs)
  | [], _, _, _, _, clean => clean.kept
  | sub :: rest, formed, noExclam, size, strip, clean => by
      have noneHere : ¬ cleared → NoExclam sub := fun not => (noExclam not).1
      have noneBehind : ¬ cleared → AllNoExclam rest := fun not => (noExclam not).2
      rw [stripLoop]
      split
      · rename_i dropped
        apply (drop_clean clean noneHere formed.1 dropped size rest).bind
        intro strip stripClean
        exact stripLoop_clean rest formed.2 noneBehind size strip stripClean
      · rename_i kept
        split
        · rename_i null
          exact stripLoop_clean rest formed.2 noneBehind size _
            (clean.keep (null_clean clean formed.1 null kept))
        · rename_i whole
          rw [Strip.type_of_whole whole] at kept
          apply (stripSub_clean sub formed.1 noneHere kept).bind
          intro sub subClean
          exact stripLoop_clean rest formed.2 noneBehind size _ (clean.keep subClean)

end

/-- Behind a tag with one attribute, a tag with `!` clears the entry with the number one. -/
example : xmlParse STANDARD (ascii "<a x=\"1\"/>text<!b>") =
    .ok [.tag (ascii "a") [(ascii "x", some (ascii "1"))] [], .null .text] := by
  rfl

end Kept

end Tunprox.XmlAccepted
