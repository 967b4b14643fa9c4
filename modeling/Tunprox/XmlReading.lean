import Mathlib.Data.List.Forall2
import Tunprox.NameInXml
import Tunprox.XmlAccepted
import Tunprox.XmlContent

/-!
# The trees that the tool searches

`xml_parse` with the standard flags, as the tool calls it: what is left are tags and texts, the
texts without white space at their ends.  The file shows that this parser reads all texts that
`ReadsXml`, `ReadsTrees` and `ReadsElements` ask for.  Where C does not say what happens, the
parser here returns what a parameter says.
-/

namespace Tunprox.XmlReading

open ElementText (strip Plain IsTag isPlain not_mem_of_plain)
open WrittenTree (Tree White IsName isNameByte readText attrsText attrsText_cons tagHead opening
  closing single)
open XmlParser XmlNormalize XmlContent
open XmlAccepted (NoExclam AllNoExclam)

mutual

/-- A tag or a text of the parser as a tree.  Values that are null pointers and tags with `!`,
which the searches look at, are left out, as are cleared entries; they do not look at the
rest. -/
def toTree : XmlSub → Option (List Tree)
  | .tag name attrs subs => do
      let attrs ← attrs.mapM fun attr => attr.2.map fun val => (attr.1, val)
      let subs ← toTrees subs
      some [.tag name attrs subs]
  | .exclamTag _ _ | .null _ => none
  | .text text => some [.text text]
  | .questionTag _ | .comment _ | .emptyText _ => some []

def toTrees : List XmlSub → Option (List Tree)
  | [] => some []
  | sub :: subs => do
      let trees ← toTree sub
      let rest ← toTrees subs
      some (trees ++ rest)

end

/-- `xml_parse` in the tool.  The parameter stands for what happens where that is not
defined. -/
def frParse (undef : List UInt8 → Except Int (List Tree)) (bytes : List UInt8) :
    Except Int (List Tree) :=
  match xmlParse STANDARD bytes with
  | .ok subs => (toTrees subs).elim (undef bytes) .ok
  | .error (.ret ret) => .error ret
  | .error _ => undef bytes

mutual

/-- What the standard flags leave of an entry that is no tag with `!`, whatever stands beside
it. -/
def stripEntry : XmlSub → Parse (Option XmlSub)
  | .tag name attrs subs => do
      let attrs ← attrs.mapM normalizeAttr
      let subs ← stripEntries subs
      .ok (some (.tag name attrs subs))
  | .text text => (stripText STANDARD text).map some
  | .questionTag _ | .comment _ | .emptyText _ => .ok none
  | .exclamTag _ _ | .null _ => .error .wild

def stripEntries : List XmlSub → Parse (List XmlSub)
  | [] => .ok []
  | sub :: subs => do
      let kept ← stripEntry sub
      let rest ← stripEntries subs
      .ok (kept.toList ++ rest)

end

theorem whole_of_noExclam {strip : Strip} (none : strip.cleared = []) {sub : XmlSub}
    (plain : NoExclam sub) : ¬ strip.isNull sub = true := by
  cases sub with
  | null type => exact plain.elim
  | _ => simp [Strip.isNull, none]

/-- A declaration, a comment or an empty text is dropped. -/
theorem stripEntry_dropped {sub : XmlSub} (plain : NoExclam sub)
    (dropped : STANDARD.drops sub.type = true) :
    stripEntry sub = .ok none ∧ sub.type.isTag = false := by
  cases sub with
  | tag name attrs subs => exact absurd dropped Bool.false_ne_true
  | exclamTag name attrs => exact plain.elim
  | text text => exact absurd dropped Bool.false_ne_true
  | null type => exact plain.elim
  | _ => exact ⟨rfl, rfl⟩

mutual

theorem stripSub_eq : (sub : XmlSub) → NoExclam sub → ¬ STANDARD.drops sub.type = true →
    stripEntry sub = (stripSub STANDARD sub).map some
  | .tag name attrs subs, plain, _ => by
      rw [stripEntry, stripSub, stripLoop_eq subs plain subs.length rfl]
      cases attrs.mapM normalizeAttr with
      | error fault => rfl
      | ok attrs =>
          cases stripEntries subs with
          | error fault => rfl
          | ok subs => rfl
  | .text _, _, _ => rfl
  | .exclamTag _ _, plain, _ => plain.elim
  | .null _, plain, _ => plain.elim
  | .questionTag _, _, kept => absurd rfl kept
  | .comment _, _, kept => absurd rfl kept
  | .emptyText _, _, kept => absurd rfl kept

/-- Without a tag with `!` the loop of `strip_it` treats each entry for itself. -/
theorem stripLoop_eq : (subs : List XmlSub) → AllNoExclam subs → (size : Nat) →
    {strip : Strip} → strip.cleared = [] →
    stripLoop STANDARD size strip subs = (stripEntries subs).map (strip.kept ++ ·)
  | [], _, _, strip, _ => by
      rw [stripLoop, stripEntries, Except.map, List.append_nil]
  | sub :: rest, plain, size, strip, untouched => by
      have whole := whole_of_noExclam untouched plain.1
      have behind (next : Strip) (same : next.cleared = []) :=
        stripLoop_eq rest plain.2 size same
      rw [stripLoop, stripEntries, Strip.type_of_whole whole, if_neg whole]
      split
      · rename_i dropped
        obtain ⟨entry, noTag⟩ := stripEntry_dropped plain.1 dropped
        have next : strip.drop size sub rest =
            .ok { strip.advance with j := some (strip.kept.length + rest.length) } := by
          rw [Strip.drop, Strip.type_of_whole whole, noTag]
          rfl
        have later := behind { strip.advance with j := some (strip.kept.length + rest.length) }
          (Strip.advance_cleared untouched)
        rw [next, entry]
        simp only [Bind.bind, Except.bind, later]
        cases stripEntries rest with
        | error fault => rfl
        | ok others => rfl
      · rename_i kept
        rw [stripSub_eq sub plain.1 kept]
        cases stripSub STANDARD sub with
        | error fault => rfl
        | ok entry =>
            simp only [Except.map, Bind.bind, Except.bind]
            rw [behind (strip.keep entry) (Strip.advance_cleared untouched)]
            cases stripEntries rest with
            | error fault => rfl
            | ok others => simp [Except.map, Strip.keep]

end

theorem allNoExclam_append {first second : List XmlSub} (one : AllNoExclam first)
    (two : AllNoExclam second) : AllNoExclam (first ++ second) := by
  induction first with
  | nil => exact two
  | cons sub first ih => exact ⟨one.1, ih one.2⟩

theorem allNoExclam_textSubs (str : List UInt8) : AllNoExclam (textSubs str) := by
  unfold textSubs textSub
  split
  · exact trivial
  · split
    · exact ⟨trivial, trivial⟩
    · exact ⟨trivial, trivial⟩

theorem allNoExclam_content {outer : List (List UInt8)} {subs : List XmlSub}
    {bytes : List UInt8} (content : Content outer subs bytes) : AllNoExclam subs := by
  induction content with
  | text noLess => exact allNoExclam_textSubs _
  | declaration noLess closed rest ih =>
      exact allNoExclam_append (allNoExclam_textSubs _) ⟨trivial, ih⟩
  | single noLess named isAttrs fresh rest ih =>
      exact allNoExclam_append (allNoExclam_textSubs _) ⟨trivial, ih⟩
  | node noLess named isAttrs inside isWhite rest insideIh ih =>
      exact allNoExclam_append (allNoExclam_textSubs _) ⟨insideIh, ih⟩

theorem stripEntries_append {first second kept more : List XmlSub}
    (one : stripEntries first = .ok kept) (two : stripEntries second = .ok more) :
    stripEntries (first ++ second) = .ok (kept ++ more) := by
  induction first generalizing kept with
  | nil =>
      obtain rfl := Except.ok.inj one
      exact two
  | cons sub first ih =>
      rw [stripEntries] at one
      rw [List.cons_append, stripEntries]
      cases here : stripEntry sub with
      | error fault => simp [here, Bind.bind, Except.bind] at one
      | ok left =>
          cases rest : stripEntries first with
          | error fault => simp [here, rest, Bind.bind, Except.bind] at one
          | ok others =>
              simp only [here, rest, Bind.bind, Except.bind, Except.ok.injEq] at one ⊢
              rw [ih rest, ← one, List.append_assoc]

/-- The bytes are written inside of elements with the names `outer`, and the tool reads the
trees from them. -/
def Reads (outer : List (List UInt8)) (trees : List Tree) (bytes : List UInt8) : Prop :=
  ∃ subs kept, Content outer subs bytes ∧ stripEntries subs = .ok kept ∧
    toTrees kept = some trees

/-- A well-formed text is taken apart into its entries before they are stripped. -/
theorem xmlParse_of_content {subs : List XmlSub} {bytes : List UInt8}
    (content : Content [] subs bytes) : xmlParse STANDARD bytes = stripEntries subs := by
  have parsed : XmlParser.parseBody bytes = .ok subs :=
    enterBody_content content (Nat.lt_succ_self _)
  have stripped : stripIt STANDARD subs = stripEntries subs := by
    rw [stripIt, stripLoop_eq subs (allNoExclam_content content) subs.length rfl]
    cases stripEntries subs with
    | error fault => rfl
    | ok subs => rfl
  rw [xmlParse, parsed, ← stripped]
  rfl

theorem frParse_of_reads {trees : List Tree} {bytes : List UInt8} (reads : Reads [] trees bytes)
    (undef : List UInt8 → Except Int (List Tree)) : frParse undef bytes = .ok trees := by
  obtain ⟨subs, kept, content, stripped, read⟩ := reads
  rw [frParse, xmlParse_of_content content, stripped]
  simp only [read, Option.elim_some]

section Build

variable {outer : List (List UInt8)} {gap name bytes : List UInt8} {trees : List Tree}

theorem amp_not_mem_of_white (isWhite : White gap) : (38 : UInt8) ∉ gap := fun member =>
  absurd (isWhite 38 member) (by decide)

/-- White space before a tag is dropped. -/
theorem stripEntries_white (isWhite : White gap) : stripEntries (textSubs gap) = .ok [] := by
  unfold textSubs
  split
  · rfl
  · have empty : textSub gap = .emptyText gap := if_pos (List.all_eq_true.mpr isWhite)
    rw [empty]
    rfl

/-- What is left of a text. -/
theorem reads_text {str shown : List UInt8} (noLess : (60 : UInt8) ∉ str)
    (normal : normalizeString str = some shown) : Reads outer (readText shown) str := by
  cases white : str.all isspace with
  | true =>
      have isWhite : White str := List.all_eq_true.mp white
      have nonzero : (0 : UInt8) ∉ str := fun member => absurd (isWhite 0 member) (by decide)
      rw [normalizeString_plain (amp_not_mem_of_white isWhite) nonzero] at normal
      obtain rfl := Option.some.inj normal
      rw [WrittenTree.readText_of_white isWhite]
      exact ⟨_, [], .text noLess, stripEntries_white isWhite, rfl⟩
  | false =>
      have nonempty : str ≠ [] := by
        rintro rfl
        contradiction
      have entry : textSubs str = [.text str] := by
        rw [textSubs, if_neg nonempty, textSub, white, if_neg Bool.false_ne_true]
      have stripped : stripText STANDARD str =
          .ok (if strip shown = [] then .emptyText (strip shown) else .text (strip shown)) := by
        rw [stripText, normalized, normal]
        rfl
      refine ⟨_, [if strip shown = [] then .emptyText (strip shown) else .text (strip shown)],
        .text noLess, ?_, ?_⟩
      · rw [entry, stripEntries, stripEntry, stripped]
        rfl
      · unfold readText
        split
        · simp [toTrees, toTree]
        · simp [toTrees, toTree]

/-- The attributes without references. -/
def Shows (raw shown : List (List UInt8 × List UInt8)) : Prop :=
  List.Forall₂ (fun attr attr' => attr.1 = attr'.1 ∧ normalizeString attr.2 = some attr'.2)
    raw shown

variable {raw shown : List (List UInt8 × List UInt8)}

theorem normalizeAttr_shows (shows : Shows raw shown) :
    (quotedAttrs raw).mapM normalizeAttr = .ok (quotedAttrs shown) := by
  induction shows with
  | nil => rfl
  | @cons attr attr' raw shown here _ ih =>
      obtain ⟨var, value⟩ := attr
      obtain ⟨var', value'⟩ := attr'
      obtain ⟨rfl, normal⟩ := here
      have attrEq : normalizeAttr (var, some value) = .ok (var, some value') := by
        simp [normalizeAttr, normalized, normal, Except.map]
      have line : (quotedAttrs raw).mapM normalizeAttr = .ok (quotedAttrs shown) := ih
      have consed : quotedAttrs ((var, value) :: raw) = (var, some value) :: quotedAttrs raw := rfl
      rw [consed, List.mapM_cons, attrEq, line]
      rfl

theorem mapM_quotedAttrs (attrs : List (List UInt8 × List UInt8)) :
    ((quotedAttrs attrs).mapM fun attr => attr.2.map fun val => (attr.1, val)) = some attrs := by
  induction attrs with
  | nil => rfl
  | cons attr attrs ih =>
      have consed : quotedAttrs (attr :: attrs) = (attr.1, some attr.2) :: quotedAttrs attrs := rfl
      rw [consed, List.mapM_cons, ih]
      rfl

/-- A tag, as the tool reads it. -/
theorem toTrees_tag {kept rest : List XmlSub} {subs : List Tree}
    (inside : toTrees kept = some subs) (behind : toTrees rest = some trees) :
    toTrees (.tag name (quotedAttrs shown) kept :: rest) =
      some (.tag name shown subs :: trees) := by
  rw [toTrees, toTree, mapM_quotedAttrs, inside, behind]
  rfl

theorem stripEntries_tag {inner kept subs rest : List XmlSub} (shows : Shows raw shown)
    (inside : stripEntries inner = .ok kept) (behind : stripEntries subs = .ok rest) :
    stripEntries (.tag name (quotedAttrs raw) inner :: subs) =
      .ok (.tag name (quotedAttrs shown) kept :: rest) := by
  rw [stripEntries, stripEntry, normalizeAttr_shows shows, inside, behind]
  rfl

/-- An element with something in it. -/
theorem reads_node {attrText body tailGap : List UInt8} {subs : List Tree}
    (isWhite : White gap) (named : IsTagName name) (isAttrs : AttrText raw attrText)
    (shows : Shows raw shown) (inside : Reads (name :: outer) subs body)
    (tailWhite : White tailGap) (rest : Reads outer trees bytes) :
    Reads outer (.tag name shown subs :: trees)
      (gap ++ 60 :: (name ++ (attrText ++ 62 ::
        (body ++ 60 :: (47 :: (name ++ (tailGap ++ 62 :: bytes))))))) := by
  obtain ⟨inner, kept, content, stripped, read⟩ := inside
  obtain ⟨more, left, isRest, restStripped, restRead⟩ := rest
  have noLess : (60 : UInt8) ∉ gap := fun member => absurd (isWhite 60 member) (by decide)
  refine ⟨_, _, .node noLess named isAttrs content tailWhite isRest,
    stripEntries_append (stripEntries_white isWhite) (stripEntries_tag shows stripped restStripped), ?_⟩
  exact toTrees_tag read restRead

/-- A tag that opens and closes at once. -/
theorem reads_single {attrText : List UInt8} (isWhite : White gap) (named : IsTagName name)
    (isAttrs : AttrText raw attrText) (shows : Shows raw shown)
    (fresh : ∀ other ∈ outer, strcaseeq name other = false) (rest : Reads outer trees bytes) :
    Reads outer (.tag name shown [] :: trees)
      (gap ++ 60 :: (name ++ (attrText ++ 47 :: 62 :: bytes))) := by
  obtain ⟨more, left, isRest, restStripped, restRead⟩ := rest
  have noLess : (60 : UInt8) ∉ gap := fun member => absurd (isWhite 60 member) (by decide)
  refine ⟨_, _, .single noLess named isAttrs fresh isRest,
    stripEntries_append (stripEntries_white isWhite) (stripEntries_tag shows rfl restStripped), ?_⟩
  exact toTrees_tag rfl restRead

theorem reads_white (isWhite : White gap) : Reads outer [] gap :=
  ⟨_, [], .text fun member => absurd (isWhite 60 member) (by decide), stripEntries_white isWhite, rfl⟩

end Build

section Written

variable {outer : List (List UInt8)} {gap name bytes : List UInt8} {trees : List Tree}
variable {attrs : List (List UInt8 × List UInt8)}

theorem isNameChar_of_isNameByte : ∀ byte, isNameByte byte = true → isNameChar byte = true :=
  XmlTree.forall_byte (by decide +kernel)

theorem tolower_of_isNameByte : ∀ byte, isNameByte byte = true → tolower byte = byte :=
  XmlTree.forall_byte (by decide +kernel)

theorem isTagName_of_isName (named : IsName name) : IsTagName name where
  nonempty := named.nonempty
  chars := fun byte member => isNameChar_of_isNameByte byte (named.bytes byte member)

theorem map_tolower_of_isName (named : IsName name) : name.map tolower = name := by
  have same : name.map tolower = name.map id :=
    List.map_congr_left fun byte member => tolower_of_isNameByte byte (named.bytes byte member)
  rw [same, List.map_id]

/-- Names of small letters are different if the parser takes them for different ones. -/
theorem strcaseeq_of_isName {other : List UInt8} (named : IsName name) (isOther : IsName other)
    (ne : name ≠ other) : strcaseeq name other = false := by
  rw [strcaseeq, map_tolower_of_isName named, map_tolower_of_isName isOther]
  exact beq_eq_false_iff_ne.mpr ne

theorem fresh_of_not_mem (named : IsName name) (names : ∀ other ∈ outer, IsName other)
    (fresh : name ∉ outer) : ∀ other ∈ outer, strcaseeq name other = false := by
  intro other member
  exact strcaseeq_of_isName named (names other member) fun same => fresh (same ▸ member)

theorem attrText_attrsText (vars : ∀ attr ∈ attrs, IsName attr.1)
    (values : ∀ attr ∈ attrs, (34 : UInt8) ∉ attr.2) : AttrText attrs (attrsText attrs) := by
  induction attrs with
  | nil => exact .gap (List.forall_mem_nil _)
  | cons attr attrs ih =>
      obtain ⟨var, value⟩ := attr
      rw [List.forall_mem_cons] at vars values
      have blank : White [32] := List.all_eq_true.mp (by decide)
      have line : AttrText ((var, value) :: attrs)
          ([32] ++ (var ++ ([] ++ 61 :: ([] ++ 34 :: (value ++ 34 :: attrsText attrs))))) :=
        .attr (List.cons_ne_nil _ _) blank (isTagName_of_isName vars.1) (List.forall_mem_nil _)
          (List.forall_mem_nil _) values.1 (ih vars.2 values.2)
      rw [attrsText_cons]
      exact line

theorem shows_self (values : ∀ attr ∈ attrs, (38 : UInt8) ∉ attr.2 ∧ (0 : UInt8) ∉ attr.2) :
    Shows attrs attrs :=
  List.forall₂_same.mpr fun attr member =>
    ⟨rfl, normalizeString_plain (values attr member).1 (values attr member).2⟩

/-- The attributes of a tag that stand for themselves. -/
structure PlainAttrs (attrs : List (List UInt8 × List UInt8)) : Prop where
  vars : ∀ attr ∈ attrs, IsName attr.1
  values : ∀ attr ∈ attrs, (34 : UInt8) ∉ attr.2 ∧ (38 : UInt8) ∉ attr.2 ∧ (0 : UInt8) ∉ attr.2

theorem PlainAttrs.attrText (plain : PlainAttrs attrs) : AttrText attrs (attrsText attrs) :=
  attrText_attrsText plain.vars fun attr member => (plain.values attr member).1

theorem PlainAttrs.shows (plain : PlainAttrs attrs) : Shows attrs attrs :=
  shows_self fun attr member => (plain.values attr member).2

theorem reads_element {inner : List UInt8} {subs : List Tree} (isWhite : White gap)
    (named : IsName name) (plain : PlainAttrs attrs) (inside : Reads (name :: outer) subs inner)
    (rest : Reads outer trees bytes) :
    Reads outer (.tag name attrs subs :: trees)
      (gap ++ (opening name attrs ++ (inner ++ (closing name ++ bytes)))) := by
  have element := reads_node isWhite (isTagName_of_isName named) plain.attrText plain.shows inside
    (List.forall_mem_nil _) rest
  simpa [opening, closing, tagHead] using element

theorem reads_empty (isWhite : White gap) (named : IsName name) (plain : PlainAttrs attrs)
    (names : ∀ other ∈ outer, IsName other) (fresh : name ∉ outer)
    (rest : Reads outer trees bytes) :
    Reads outer (.tag name attrs [] :: trees) (gap ++ (single name attrs ++ bytes)) := by
  have tag := reads_single isWhite (isTagName_of_isName named) plain.attrText plain.shows
    (fresh_of_not_mem named names fresh) rest
  simpa [single, tagHead] using tag

theorem plainAttrs_of_isHead (head : WrittenTree.IsHead name attrs) : PlainAttrs attrs where
  vars := head.vars
  values := fun attr member =>
    ⟨not_mem_of_plain (head.values attr member) (by decide),
      not_mem_of_plain (head.values attr member) (by decide),
      not_mem_of_plain (head.values attr member) (by decide)⟩

/-- The tool reads the trees of a text in which no character means anything but the tags. -/
theorem reads_of_writes (writes : WrittenTree.Writes outer trees bytes)
    (names : ∀ other ∈ outer, IsName other) : Reads outer trees bytes := by
  induction writes with
  | white isWhite => exact reads_white isWhite
  | @leaf outer gap name text bytes attrs trees isWhite head fresh isText rest ih =>
      have normal : normalizeString text = some text :=
        normalizeString_plain (not_mem_of_plain isText.plain (by decide))
          (not_mem_of_plain isText.plain (by decide))
      have inside : Reads (name :: outer) (readText text) text :=
        reads_text (not_mem_of_plain isText.plain (by decide)) normal
      rw [WrittenTree.readText_of_isText isText] at inside
      exact reads_element isWhite head.name (plainAttrs_of_isHead head) inside (ih names)
  | empty isWhite head fresh rest ih =>
      exact reads_empty isWhite head.name (plainAttrs_of_isHead head) names fresh (ih names)
  | node isWhite head fresh inside rest insideIh ih =>
      have more := List.forall_mem_cons.mpr ⟨head.name, names⟩
      exact reads_element isWhite head.name (plainAttrs_of_isHead head) (insideIh more) (ih names)

theorem not_mem_of_isXmlText {text : List UInt8} (isText : XmlTree.IsXmlText text) :
    (60 : UInt8) ∉ text ∧ (38 : UInt8) ∉ text ∧ (0 : UInt8) ∉ text := by
  obtain ⟨chars, rfl, isData⟩ := isText
  refine ⟨?_, ?_, ?_⟩
  · exact XmlTree.not_mem_utf8 (by decide) fun member => (isData.noMarkup _ member).1 rfl
  · exact XmlTree.not_mem_utf8 (by decide) fun member => (isData.noMarkup _ member).2 rfl
  · exact XmlTree.not_mem_utf8 (by decide) fun member => absurd (isData.isChar _ member) (by decide)

theorem plainAttrs_of_isXmlHead (head : XmlTree.IsXmlHead name attrs) : PlainAttrs attrs where
  vars := fun attr member => (head.vars attr member).isName
  values := by
    intro attr member
    obtain ⟨chars, valueEq, plain⟩ := head.values attr member
    rw [← valueEq]
    refine ⟨?_, ?_, ?_⟩
    · exact XmlTree.not_mem_utf8 (by decide) fun inside => (plain.plain _ inside).2.2.2 rfl
    · exact XmlTree.not_mem_utf8 (by decide) fun inside => (plain.plain _ inside).2.2.1 rfl
    · exact XmlTree.not_mem_utf8 (by decide) fun inside =>
        absurd (plain.plain _ inside).1 (by decide)

theorem white_of_blank (blank : ∀ byte ∈ gap, XmlTree.isBlank byte = true) : White gap := by
  have white : ∀ byte, XmlTree.isBlank byte = true → isspace byte = true :=
    XmlTree.forall_byte (by decide +kernel)
  exact fun byte member => white byte (blank byte member)

theorem reads_of_writesXml (writes : XmlTree.WritesXml outer trees bytes)
    (names : ∀ other ∈ outer, IsName other) : Reads outer trees bytes := by
  induction writes with
  | white blank => exact reads_white (white_of_blank blank)
  | leaf blank head fresh isText rest ih =>
      obtain ⟨noLess, noAmp, nonzero⟩ := not_mem_of_isXmlText isText
      exact reads_element (white_of_blank blank) head.name.isName (plainAttrs_of_isXmlHead head)
        (reads_text noLess (normalizeString_plain noAmp nonzero)) (ih names)
  | empty blank head fresh rest ih =>
      exact reads_empty (white_of_blank blank) head.name.isName (plainAttrs_of_isXmlHead head)
        names fresh (ih names)
  | node blank head fresh inside rest insideIh ih =>
      have more := List.forall_mem_cons.mpr ⟨head.name.isName, names⟩
      exact reads_element (white_of_blank blank) head.name.isName (plainAttrs_of_isXmlHead head)
        (insideIh more) (ih names)

end Written

section Parser

variable (undef : List UInt8 → Except Int (List Tree))

theorem readsTrees_frParse : StatusReport.ReadsTrees (frParse undef) := fun _ _ writes =>
  frParse_of_reads (reads_of_writes writes (List.forall_mem_nil _)) undef

theorem readsXml_frParse : XmlTree.ReadsXml (frParse undef) := fun _ _ writes =>
  frParse_of_reads (reads_of_writesXml writes (List.forall_mem_nil _)) undef

end Parser

end Tunprox.XmlReading
