import Mathlib.Data.List.Infix
import Mathlib.Tactic.Common

/-!
# Well-formed XML documents

The grammar of XML 1.0 for documents without an XML declaration and without a document type
declaration, as relations between what is written and what a processor makes of it: references
are replaced, and the white space in the value of an attribute is blanks.  Line ends are line
feeds, as they are after a processor has read them.
-/

namespace Tunprox.XmlDocument

/-- `Char`, without the carriage return. -/
def isXmlChar (char : Char) : Bool :=
  char.toNat == 9 || char.toNat == 10 || (32 ≤ char.toNat && char.toNat ≤ 0xFFFD) ||
    0x10000 ≤ char.toNat

/-- `S` -/
def isXmlSpace (char : Char) : Bool :=
  char == ' ' || char.toNat == 9 || char.toNat == 10

/-- The double and the single quotation mark. -/
def quot : Char :=
  Char.ofNat 34

def apos : Char :=
  Char.ofNat 39

/-- The ranges of `NameStartChar` beyond ASCII. -/
def nameStartRanges : List (Nat × Nat) :=
  [(0xC0, 0xD6), (0xD8, 0xF6), (0xF8, 0x2FF), (0x370, 0x37D), (0x37F, 0x1FFF), (0x200C, 0x200D),
    (0x2070, 0x218F), (0x2C00, 0x2FEF), (0x3001, 0xD7FF), (0xF900, 0xFDCF), (0xFDF0, 0xFFFD),
    (0x10000, 0xEFFFF)]

/-- `NameStartChar` -/
def isNameStart (char : Char) : Bool :=
  char == ':' || char == '_' || char.isAlpha ||
    nameStartRanges.any fun range => range.1 ≤ char.toNat && char.toNat ≤ range.2

/-- `NameChar` -/
def isNameChar (char : Char) : Bool :=
  isNameStart char || char == '-' || char == '.' || char.isDigit || char.toNat == 0xB7 ||
    (0x300 ≤ char.toNat && char.toNat ≤ 0x36F) || (0x203F ≤ char.toNat && char.toNat ≤ 0x2040)

/-- `Name` -/
def isName : List Char → Bool
  | [] => false
  | first :: rest => isNameStart first && rest.all isNameChar

def White (chars : List Char) : Prop :=
  ∀ char ∈ chars, isXmlSpace char = true

/-- The entities that need no declaration. -/
def predefined : List (List Char × Char) :=
  [("lt".toList, '<'), ("gt".toList, '>'), ("amp".toList, '&'), ("apos".toList, apos),
    ("quot".toList, quot)]

/-- The number of a digit, also of a hexadecimal one. -/
def digitValue (char : Char) : Nat :=
  if char.isDigit then char.toNat - 48
  else if char.isUpper then char.toNat - 55
  else char.toNat - 87

def isHexDigit (char : Char) : Bool :=
  char.isDigit || (65 ≤ char.toNat && char.toNat ≤ 70) || (97 ≤ char.toNat && char.toNat ≤ 102)

/-- The character that the digits stand for. -/
def HasCode (base : Nat) (digits : List Char) (char : Char) : Prop :=
  digits ≠ [] ∧ digits.foldl (fun code digit => base * code + digitValue digit) 0 = char.toNat ∧
    (isXmlChar char = true ∨ char.toNat = 13)

/-- `Reference`, with the character that it is replaced by. -/
inductive Reference : Char → List Char → Prop where
  | entity {name : List Char} {char : Char} (known : (name, char) ∈ predefined) :
      Reference char ('&' :: (name ++ [';']))
  | decimal {digits : List Char} {char : Char} (isDigits : ∀ digit ∈ digits, digit.isDigit = true)
      (code : HasCode 10 digits char) : Reference char ('&' :: '#' :: (digits ++ [';']))
  | hex {digits : List Char} {char : Char} (isDigits : ∀ digit ∈ digits, isHexDigit digit = true)
      (code : HasCode 16 digits char) : Reference char ('&' :: '#' :: 'x' :: (digits ++ [';']))

/-- The inside of `AttValue` between two quotation marks, with the value of the attribute. -/
inductive AttValue (quote : Char) : List Char → List Char → Prop where
  | nil : AttValue quote [] []
  | char {char : Char} {value raw : List Char} (isChar : isXmlChar char = true)
      (notLess : char ≠ '<') (notAmp : char ≠ '&') (notQuote : char ≠ quote)
      (rest : AttValue quote value raw) :
      AttValue quote ((if isXmlSpace char then ' ' else char) :: value) (char :: raw)
  | reference {char : Char} {ref value raw : List Char} (isRef : Reference char ref)
      (rest : AttValue quote value raw) : AttValue quote (char :: value) (ref ++ raw)

/-- `(S Attribute)*` -/
inductive Attributes : List (List Char × List Char) → List Char → Prop where
  | nil : Attributes [] []
  | cons {gap name before behind value raw chars : List Char} {quote : Char}
      {attrs : List (List Char × List Char)} (space : gap ≠ []) (white : White gap)
      (isName : isName name = true) (whiteBefore : White before) (whiteBehind : White behind)
      (isQuote : quote = quot ∨ quote = apos) (isValue : AttValue quote value raw)
      (rest : Attributes attrs chars) :
      Attributes ((name, value) :: attrs)
        (gap ++ (name ++ (before ++ '=' :: (behind ++ quote :: (raw ++ quote :: chars)))))

/-- `CharData` -/
structure CharData (chars : List Char) : Prop where
  isChar : ∀ char ∈ chars, isXmlChar char = true
  noMarkup : ∀ char ∈ chars, char ≠ '<' ∧ char ≠ '&'
  noEnd : ¬ "]]>".toList <:+: chars

/-- `Comment` and `PI` -/
inductive Aside : List Char → Prop where
  | comment {chars : List Char} (isChar : ∀ char ∈ chars, isXmlChar char = true)
      (noDashes : ¬ "--".toList <:+: chars ++ ['-']) :
      Aside ('<' :: '!' :: ('-' :: '-' :: (chars ++ "-->".toList)))
  | instruction {target chars : List Char} (isName : isName target = true)
      (notXml : target.map Char.toLower ≠ "xml".toList)
      (space : ∀ first ∈ chars.head?, isXmlSpace first = true)
      (isChar : ∀ char ∈ chars, isXmlChar char = true) (noEnd : ¬ "?>".toList <:+: chars) :
      Aside ('<' :: '?' :: (target ++ (chars ++ "?>".toList)))

/-- What a processor makes of a document: elements with their attributes, and texts. -/
inductive Node where
  | text (chars : List Char)
  | element (name : List Char) (attrs : List (List Char × List Char)) (children : List Node)

def textNodes (chars : List Char) : List Node :=
  if chars = [] then [] else [.text chars]

mutual

/-- A part of `content` that is not `CharData`. -/
inductive Markup : List Node → List Char → Prop where
  | element {name chars gap inner gap' : List Char} {attrs : List (List Char × List Char)}
      {children : List Node} (isName : isName name = true) (isAttrs : Attributes attrs chars)
      (unique : (attrs.map Prod.fst).Nodup) (white : White gap)
      (content : Content children inner) (white' : White gap') :
      Markup [.element name attrs children]
        ('<' :: (name ++ (chars ++ (gap ++ '>' ::
          (inner ++ '<' :: '/' :: (name ++ (gap' ++ ['>'])))))))
  | empty {name chars gap : List Char} {attrs : List (List Char × List Char)}
      (isName : isName name = true) (isAttrs : Attributes attrs chars)
      (unique : (attrs.map Prod.fst).Nodup) (white : White gap) :
      Markup [.element name attrs []] ('<' :: (name ++ (chars ++ (gap ++ ['/', '>']))))
  | reference {char : Char} {ref : List Char} (isRef : Reference char ref) :
      Markup [.text [char]] ref
  | cdata {chars : List Char} (isChar : ∀ char ∈ chars, isXmlChar char = true)
      (noEnd : ¬ "]]>".toList <:+: chars) :
      Markup [.text chars] ('<' :: '!' :: ("[CDATA[".toList ++ (chars ++ "]]>".toList)))
  | aside {chars : List Char} (isAside : Aside chars) : Markup [] chars

/-- `content` -/
inductive Content : List Node → List Char → Prop where
  | chars {chars : List Char} (isData : CharData chars) : Content (textNodes chars) chars
  | cons {chars raw rest : List Char} {item nodes : List Node} (isData : CharData chars)
      (markup : Markup item raw) (content : Content nodes rest) :
      Content (textNodes chars ++ (item ++ nodes)) (chars ++ (raw ++ rest))

end

/-- `Misc*` -/
inductive Misc : List Char → Prop where
  | nil : Misc []
  | space {char : Char} {chars : List Char} (isSpace : isXmlSpace char = true)
      (rest : Misc chars) : Misc (char :: chars)
  | aside {chars more : List Char} (isAside : Aside chars) (rest : Misc more) :
      Misc (chars ++ more)

/-- `document`, with its root element. -/
inductive Document : Node → List Char → Prop where
  | mk {name before body behind : List Char} {attrs : List (List Char × List Char)}
      {children : List Node} (isMisc : Misc before)
      (markup : Markup [.element name attrs children] body) (isMisc' : Misc behind) :
      Document (.element name attrs children) (before ++ (body ++ behind))

/-- What is below the first element with the name. -/
def child (name : List Char) (nodes : List Node) : Option (List Node) :=
  nodes.findSome? fun
    | .text _ => none
    | .element other _ children => if other = name then some children else none

/-- The text of an element with the nodes. -/
def innerText (nodes : List Node) : List Char :=
  nodes.flatMap fun
    | .text chars => chars
    | .element _ _ _ => []

section Span

variable {Item : Type*} {property : Item → Prop}

/-- Two ways to cut a list behind items with a property and before one without it are the
same. -/
theorem span_unique {first second rest rest' : List Item} {stop stop' : Item}
    (all : ∀ item ∈ first, property item) (all' : ∀ item ∈ second, property item)
    (none : ¬ property stop) (none' : ¬ property stop')
    (same : first ++ stop :: rest = second ++ stop' :: rest') :
    first = second ∧ stop = stop' ∧ rest = rest' := by
  induction first generalizing second with
  | nil =>
      cases second with
      | nil =>
          obtain ⟨rfl, rfl⟩ := List.cons.inj same
          exact ⟨rfl, rfl, rfl⟩
      | cons item second =>
          obtain ⟨rfl, -⟩ := List.cons.inj same
          exact absurd (all' stop List.mem_cons_self) none
  | cons item first ih =>
      rw [List.forall_mem_cons] at all
      cases second with
      | nil =>
          obtain ⟨rfl, -⟩ := List.cons.inj same
          exact absurd all.1 none'
      | cons item' second =>
          rw [List.forall_mem_cons] at all'
          obtain ⟨rfl, sameRest⟩ := List.cons.inj same
          obtain ⟨rfl, rfl, rfl⟩ := ih all.2 all'.2 sameRest
          exact ⟨rfl, rfl, rfl⟩

end Span

theorem isNameChar_of_start {char : Char} (start : isNameStart char = true) :
    isNameChar char = true := by
  simp [isNameChar, start]

theorem isNameChar_of_isName {name : List Char} (named : isName name = true) :
    ∀ char ∈ name, isNameChar char = true := by
  cases name with
  | nil => exact List.forall_mem_nil _
  | cons first rest =>
      rw [isName, Bool.and_eq_true, List.all_eq_true] at named
      exact List.forall_mem_cons.mpr ⟨isNameChar_of_start named.1, named.2⟩

theorem eq_of_isXmlSpace {char : Char} (space : isXmlSpace char = true) :
    char = ' ' ∨ char = Char.ofNat 9 ∨ char = Char.ofNat 10 := by
  simp only [isXmlSpace, Bool.or_eq_true, beq_iff_eq] at space
  rcases space with (blank | tab) | newline
  · exact .inl blank
  · exact .inr (.inl (by rw [← tab, Char.ofNat_toNat]))
  · exact .inr (.inr (by rw [← newline, Char.ofNat_toNat]))

/-- There is no white space in a name. -/
theorem not_isNameChar_of_space {char : Char} (space : isXmlSpace char = true) :
    ¬ isNameChar char = true := by
  rcases eq_of_isXmlSpace space with rfl | rfl | rfl
  · decide
  · decide
  · decide

theorem exists_start_of_isName {name : List Char} (named : isName name = true) :
    ∃ first rest, name = first :: rest ∧ isNameStart first = true := by
  cases name with
  | nil => contradiction
  | cons first rest =>
      rw [isName, Bool.and_eq_true] at named
      exact ⟨first, rest, rfl, named.1⟩

theorem Reference.two_le_length {char : Char} {ref : List Char} (isRef : Reference char ref) :
    2 ≤ ref.length := by
  cases isRef with
  | entity known => simp
  | decimal isDigits code => simp
  | hex isDigits code => simp

theorem Reference.exists_start {char : Char} {ref : List Char} (isRef : Reference char ref) :
    ∃ rest, ref = '&' :: rest := by
  cases isRef with
  | entity known => exact ⟨_, rfl⟩
  | decimal isDigits code => exact ⟨_, rfl⟩
  | hex isDigits code => exact ⟨_, rfl⟩

/-- A quotation mark is in no reference. -/
theorem Reference.quote_not_mem {char quote : Char} {ref : List Char}
    (isQuote : quote = quot ∨ quote = apos) (isRef : Reference char ref) : quote ∉ ref := by
  have marks : quote ≠ '&' ∧ quote ≠ ';' ∧ quote ≠ '#' ∧ quote ≠ 'x' ∧
      isHexDigit quote = false ∧ quote.isDigit = false ∧
        ∀ entry ∈ predefined, quote ∉ entry.1 := by
    rcases isQuote with rfl | rfl
    · decide
    · decide
  obtain ⟨amp, semicolon, hash, letter, noHex, noDigit, noEntity⟩ := marks
  cases isRef with
  | entity known => simpa [amp, semicolon] using noEntity _ known
  | decimal isDigits code =>
      have free : quote ∉ _ := fun member => Bool.false_ne_true (noDigit ▸ isDigits quote member)
      simpa [amp, semicolon, hash] using free
  | hex isDigits code =>
      have free : quote ∉ _ := fun member => Bool.false_ne_true (noHex ▸ isDigits quote member)
      simpa [amp, semicolon, hash, letter] using free

section AttValue

variable {quote : Char} {value raw : List Char}

/-- The value of an attribute is not longer than what is written, and only as long if there is
no reference in it. -/
theorem AttValue.length_le (isValue : AttValue quote value raw) :
    value.length ≤ raw.length ∧
      (value.length = raw.length →
        ∀ char ∈ raw, isXmlChar char = true ∧ char ≠ '<' ∧ char ≠ '&') := by
  induction isValue with
  | nil => exact ⟨Nat.le_refl _, fun _ => List.forall_mem_nil _⟩
  | char isChar notLess notAmp notQuote rest ih =>
      simp only [List.length_cons, Nat.add_le_add_iff_right, Nat.add_right_cancel_iff,
        List.forall_mem_cons]
      exact ⟨ih.1, fun same => ⟨⟨isChar, notLess, notAmp⟩, ih.2 same⟩⟩
  | reference isRef rest ih =>
      have long := isRef.two_le_length
      simp only [List.length_cons, List.length_append]
      exact ⟨by omega, fun same => by omega⟩

theorem AttValue.quote_not_mem (isQuote : quote = quot ∨ quote = apos)
    (isValue : AttValue quote value raw) : quote ∉ raw := by
  induction isValue with
  | nil => exact List.not_mem_nil
  | char isChar notLess notAmp notQuote rest ih =>
      exact List.mem_cons.not.mpr (not_or.mpr ⟨notQuote.symm, ih⟩)
  | reference isRef rest ih =>
      exact List.mem_append.not.mpr (not_or.mpr ⟨isRef.quote_not_mem isQuote, ih⟩)

/-- Text without characters that mean something is the value as it is written. -/
theorem attValue_of_plain {chars : List Char}
    (plain : ∀ char ∈ chars, isXmlChar char = true ∧ char ≠ '<' ∧ char ≠ '&' ∧ char ≠ quote)
    (solid : ∀ char ∈ chars, isXmlSpace char = false) : AttValue quote chars chars := by
  induction chars with
  | nil => exact .nil
  | cons char chars ih =>
      rw [List.forall_mem_cons] at plain solid
      obtain ⟨isChar, notLess, notAmp, notQuote⟩ := plain.1
      have same := AttValue.char isChar notLess notAmp notQuote (ih plain.2 solid.2)
      rwa [solid.1] at same

end AttValue

/-- How an item of markup begins. -/
theorem Aside.exists_start {chars : List Char} (isAside : Aside chars) :
    ∃ second rest, chars = '<' :: second :: rest ∧ (second = '!' ∨ second = '?') := by
  cases isAside with
  | comment isChar noDashes => exact ⟨_, _, rfl, .inl rfl⟩
  | instruction isName notXml space isChar noEnd => exact ⟨_, _, rfl, .inr rfl⟩

theorem Markup.exists_start {item : List Node} {raw : List Char} (markup : Markup item raw) :
    (∃ rest, raw = '&' :: rest) ∨
      ∃ second rest, raw = '<' :: second :: rest ∧
        (second = '!' ∨ second = '?' ∨ isNameStart second = true) := by
  cases markup with
  | element isName isAttrs unique white content white' =>
      obtain ⟨first, rest, rfl, start⟩ := exists_start_of_isName isName
      exact .inr ⟨first, _, rfl, .inr (.inr start)⟩
  | empty isName isAttrs unique white =>
      obtain ⟨first, rest, rfl, start⟩ := exists_start_of_isName isName
      exact .inr ⟨first, _, rfl, .inr (.inr start)⟩
  | reference isRef => exact .inl isRef.exists_start
  | cdata isChar noEnd => exact .inr ⟨_, _, rfl, .inl rfl⟩
  | aside isAside =>
      obtain ⟨second, rest, rfl, mark⟩ := isAside.exists_start
      exact .inr ⟨second, rest, rfl, mark.imp_right .inl⟩

/-- Nothing stands before a root element with which the document begins. -/
theorem Misc.eq_nil {before rest more : List Char} {second : Char} (isMisc : Misc before)
    (start : isNameStart second = true) (same : before ++ rest = '<' :: second :: more) :
    before = [] := by
  cases isMisc with
  | nil => rfl
  | space isSpace _ =>
      obtain ⟨rfl, -⟩ := List.cons.inj same
      contradiction
  | aside isAside _ =>
      obtain ⟨mark, inner, rfl, isMark⟩ := isAside.exists_start
      obtain ⟨-, same⟩ := List.cons.inj same
      obtain ⟨rfl, -⟩ := List.cons.inj same
      rcases isMark with rfl | rfl
      · contradiction
      · contradiction

section Opening

variable {attrs : List (List Char × List Char)} {chars gap rest : List Char} {stop : Char}

/-- What follows the name in a tag is no part of it. -/
theorem exists_stop (rest : List Char) (isAttrs : Attributes attrs chars) (white : White gap)
    (outside : ¬ isNameChar stop = true) :
    ∃ first more, chars ++ (gap ++ stop :: rest) = first :: more ∧
      ¬ isNameChar first = true := by
  have ofWhite : ∀ {blanks : List Char}, White blanks → ∀ first more, blanks = first :: more →
      ¬ isNameChar first = true := by
    intro blanks isWhite first more same
    exact not_isNameChar_of_space (isWhite first (same ▸ List.mem_cons_self))
  cases isAttrs with
  | nil =>
      cases gap with
      | nil => exact ⟨stop, rest, rfl, outside⟩
      | cons first gap => exact ⟨first, _, rfl, ofWhite white first gap rfl⟩
  | @cons space name before behind value raw chars quote attrs nonempty whiteSpace =>
      cases space with
      | nil => contradiction
      | cons first space => exact ⟨first, _, rfl, ofWhite whiteSpace first space rfl⟩

/-- A tag without attributes. -/
theorem attributes_end (isAttrs : Attributes attrs chars) (white : White gap) {more : List Char}
    (noSpace : isXmlSpace stop = false) {other : Char}
    (same : chars ++ (gap ++ other :: rest) = stop :: more) :
    attrs = [] ∧ other = stop ∧ rest = more := by
  have noGap : ∀ {blanks rest' : List Char}, White blanks → blanks ++ rest' = stop :: more →
      blanks = [] := by
    intro blanks rest' isWhite begins
    cases blanks with
    | nil => rfl
    | cons first blanks =>
        obtain ⟨rfl, -⟩ := List.cons.inj begins
        rw [isWhite first List.mem_cons_self] at noSpace
        contradiction
  cases isAttrs with
  | nil =>
      obtain rfl := noGap white same
      obtain ⟨rfl, rfl⟩ := List.cons.inj same
      exact ⟨rfl, rfl, rfl⟩
  | @cons space name before behind value raw chars quote attrs nonempty whiteSpace =>
      rw [List.append_assoc] at same
      exact absurd (noGap whiteSpace same) nonempty

/-- The first attribute of a tag, written with one blank before it. -/
theorem attributes_first (isAttrs : Attributes attrs chars) (white : White gap)
    {name more : List Char} (named : isName name = true)
    (noSpace : isXmlSpace stop = false) (noName : ¬ isNameStart stop = true)
    (same : chars ++ (gap ++ stop :: rest) = ' ' :: (name ++ '=' :: quot :: more)) :
    ∃ value raw attrs' chars', attrs = (name, value) :: attrs' ∧ AttValue quot value raw ∧
      Attributes attrs' chars' ∧ raw ++ quot :: (chars' ++ (gap ++ stop :: rest)) = more := by
  obtain ⟨first, letters, rfl, start⟩ := exists_start_of_isName named
  have firstSolid : ¬ isXmlSpace first = true := fun space =>
    not_isNameChar_of_space space (isNameChar_of_start start)
  have blank : White [' '] := by
    intro char member
    rw [List.mem_singleton.mp member]
    rfl
  have line : ' ' :: (first :: letters ++ '=' :: quot :: more) =
      [' '] ++ first :: (letters ++ '=' :: quot :: more) := rfl
  rw [line] at same
  cases isAttrs with
  | nil =>
      obtain ⟨-, rfl, -⟩ := span_unique white blank (by rw [noSpace]; exact Bool.false_ne_true)
        firstSolid same
      exact absurd start noName
  | @cons space name' before behind value raw chars quote attrs nonempty whiteSpace isName
      whiteBefore whiteBehind isQuote isValue isRest =>
      obtain ⟨first', letters', rfl, start'⟩ := exists_start_of_isName isName
      have firstSolid' : ¬ isXmlSpace first' = true := fun space =>
        not_isNameChar_of_space space (isNameChar_of_start start')
      simp only [List.append_assoc, List.cons_append] at same
      obtain ⟨rfl, rfl, sameRest⟩ := span_unique whiteSpace blank firstSolid' firstSolid same
      have inName := (List.forall_mem_cons.mp (isNameChar_of_isName named)).2
      have inName' := (List.forall_mem_cons.mp (isNameChar_of_isName isName)).2
      have noEqual : ¬ isNameChar '=' = true := by decide
      cases before with
      | cons char before =>
          have space : isXmlSpace char = true := whiteBefore char List.mem_cons_self
          obtain ⟨-, rfl, -⟩ := span_unique inName' inName (not_isNameChar_of_space space) noEqual
            sameRest
          contradiction
      | nil =>
          obtain ⟨rfl, -, sameValue⟩ := span_unique inName' inName noEqual noEqual sameRest
          cases behind with
          | cons char behind =>
              have space : isXmlSpace char = true := whiteBehind char List.mem_cons_self
              obtain ⟨rfl, -⟩ := List.cons.inj sameValue
              contradiction
          | nil =>
              obtain ⟨rfl, rfl⟩ := List.cons.inj sameValue
              exact ⟨value, raw, attrs, chars, rfl, isValue, isRest, rfl⟩

end Opening

section Inversion

variable {item nodes : List Node} {raw behind more tag : List Char} {stop : Char}

/-- Inversion of markup that begins with a known tag. -/
theorem Markup.of_tag (markup : Markup item raw) (named : isName tag = true)
    (outside : ¬ isNameChar stop = true) (same : raw ++ behind = '<' :: (tag ++ stop :: more)) :
    (∃ attrs chars gap children inner gap', Attributes attrs chars ∧ White gap ∧ White gap' ∧
        item = [.element tag attrs children] ∧ Content children inner ∧
          chars ++ (gap ++ '>' :: (inner ++ '<' :: '/' :: (tag ++ (gap' ++ '>' :: behind)))) =
            stop :: more) ∨
      ∃ attrs chars gap, Attributes attrs chars ∧ White gap ∧ item = [.element tag attrs []] ∧
        chars ++ (gap ++ '/' :: '>' :: behind) = stop :: more := by
  obtain ⟨first, letters, tagEq, start⟩ := exists_start_of_isName named
  have noMark : first ≠ '!' ∧ first ≠ '?' := by
    constructor
    · rintro rfl
      contradiction
    · rintro rfl
      contradiction
  have inTag := isNameChar_of_isName named
  cases markup with
  | @element name chars gap inner gap' attrs children isName isAttrs unique white content white' =>
      simp only [List.cons_append, List.append_assoc, List.nil_append] at same
      obtain ⟨-, same⟩ := List.cons.inj same
      have greater : ¬ isNameChar '>' = true := by decide
      obtain ⟨next, left, split, noName⟩ := exists_stop
        (inner ++ '<' :: '/' :: (name ++ (gap' ++ '>' :: behind))) isAttrs white greater
      rw [split] at same
      obtain ⟨rfl, rfl, rfl⟩ :=
        span_unique (isNameChar_of_isName isName) inTag noName outside same
      exact .inl ⟨attrs, chars, gap, children, inner, gap', isAttrs, white, white', rfl, content,
        split⟩
  | @empty name chars gap attrs isName isAttrs unique white =>
      simp only [List.cons_append, List.append_assoc, List.nil_append] at same
      obtain ⟨-, same⟩ := List.cons.inj same
      have slash : ¬ isNameChar '/' = true := by decide
      obtain ⟨next, left, split, noName⟩ := exists_stop ('>' :: behind) isAttrs white slash
      rw [split] at same
      obtain ⟨rfl, rfl, rfl⟩ :=
        span_unique (isNameChar_of_isName isName) inTag noName outside same
      exact .inr ⟨attrs, chars, gap, isAttrs, white, rfl, split⟩
  | reference isRef =>
      obtain ⟨rest, rfl⟩ := isRef.exists_start
      obtain ⟨mark, -⟩ := List.cons.inj same
      contradiction
  | cdata isChar noEnd =>
      rw [tagEq] at same
      obtain ⟨-, same⟩ := List.cons.inj same
      obtain ⟨mark, -⟩ := List.cons.inj same
      exact absurd mark.symm noMark.1
  | aside isAside =>
      obtain ⟨second, rest, rfl, isMark⟩ := isAside.exists_start
      rw [tagEq] at same
      obtain ⟨-, same⟩ := List.cons.inj same
      obtain ⟨rfl, -⟩ := List.cons.inj same
      exact absurd isMark (not_or.mpr noMark)

/-- An element whose tag has no attributes. -/
theorem Markup.of_plainTag (markup : Markup item raw) (named : isName tag = true)
    (same : raw ++ behind = '<' :: (tag ++ '>' :: more)) :
    ∃ children inner gap', item = [.element tag [] children] ∧ Content children inner ∧
      White gap' ∧ more = inner ++ '<' :: '/' :: (tag ++ (gap' ++ '>' :: behind)) := by
  rcases markup.of_tag named (by decide) same with
    ⟨attrs, chars, gap, children, inner, gap', isAttrs, white, white', rfl, content, split⟩ |
      ⟨attrs, chars, gap, isAttrs, white, rfl, split⟩
  · obtain ⟨rfl, -, rfl⟩ := attributes_end isAttrs white (by decide) split
    exact ⟨children, inner, gap', rfl, content, white', rfl⟩
  · obtain ⟨-, slash, -⟩ := attributes_end isAttrs white (by decide) split
    contradiction

/-- Content up to a tag: the text before the tag, and the tag is that of an element in it, or the
one that ends it. -/
theorem Content.of_tag (content : Content nodes raw) {text : List Char} {second : Char}
    (noMarkup : ∀ char ∈ text, char ≠ '<' ∧ char ≠ '&')
    (same : raw ++ '<' :: '/' :: behind = text ++ '<' :: second :: more) :
    (nodes = textNodes text ∧ CharData text ∧ second = '/' ∧ behind = more) ∨
      ∃ item markup nodes' rest, nodes = textNodes text ++ (item ++ nodes') ∧ CharData text ∧
        Markup item markup ∧ Content nodes' rest ∧
          markup ++ (rest ++ '<' :: '/' :: behind) = '<' :: second :: more := by
  have less : ¬ ('<' ≠ '<' ∧ '<' ≠ '&') := fun both => both.1 rfl
  cases content with
  | chars isData =>
      obtain ⟨rfl, -, same⟩ := span_unique isData.noMarkup noMarkup less less same
      obtain ⟨rfl, rfl⟩ := List.cons.inj same
      exact .inl ⟨rfl, isData, rfl, rfl⟩
  | @cons before markup rest item nodes isData isMarkup content =>
      simp only [List.append_assoc] at same
      rcases isMarkup.exists_start with ⟨inner, rfl⟩ | ⟨mark, inner, rfl, -⟩
      · have amp : ¬ ('&' ≠ '<' ∧ '&' ≠ '&') := fun both => both.2 rfl
        obtain ⟨-, mark, -⟩ := span_unique isData.noMarkup noMarkup amp less same
        contradiction
      · obtain ⟨rfl, -, sameRest⟩ := span_unique isData.noMarkup noMarkup less less same
        exact .inr ⟨item, _, nodes, rest, rfl, isData, isMarkup, content,
          congrArg ('<' :: ·) sameRest⟩

/-- Content that begins with a text and an element that holds a text. -/
theorem Content.of_textElement (content : Content nodes raw) {before text : List Char}
    (noMarkup : ∀ char ∈ before, char ≠ '<' ∧ char ≠ '&')
    (noMarkup' : ∀ char ∈ text, char ≠ '<' ∧ char ≠ '&') (named : isName tag = true)
    (same : raw ++ '<' :: '/' :: behind =
      before ++ '<' :: (tag ++ '>' :: (text ++ '<' :: '/' :: (tag ++ '>' :: more)))) :
    CharData text ∧ ∃ nodes' rest, Content nodes' rest ∧ rest ++ '<' :: '/' :: behind = more := by
  obtain ⟨first, letters, tagEq, start⟩ := exists_start_of_isName named
  have opened : '<' :: (tag ++ '>' :: (text ++ '<' :: '/' :: (tag ++ '>' :: more))) =
      '<' :: first :: (letters ++ '>' :: (text ++ '<' :: '/' :: (tag ++ '>' :: more))) := by
    rw [tagEq]
    rfl
  rw [opened] at same
  rcases content.of_tag noMarkup same with
    ⟨-, -, rfl, -⟩ | ⟨item, markup, nodes', rest, -, -, isMarkup, isRest, split⟩
  · contradiction
  rw [← opened] at split
  obtain ⟨children, inner, gap', -, inside, white', innerEq⟩ := isMarkup.of_plainTag named split
  rcases inside.of_tag noMarkup' innerEq.symm with
    ⟨-, isData, -, ends⟩ | ⟨item', markup', nodes'', rest', -, -, isMarkup', -, split'⟩
  · refine ⟨isData, nodes', rest, isRest, ?_⟩
    have closed := List.append_cancel_left ends
    cases gap' with
    | nil => exact (List.cons.inj closed).2
    | cons char gap' =>
        obtain ⟨rfl, -⟩ := List.cons.inj closed
        exact absurd (white' _ List.mem_cons_self) (by decide)
  · rcases isMarkup'.exists_start with ⟨inner', rfl⟩ | ⟨mark, inner', rfl, isMark⟩
    · obtain ⟨amp, -⟩ := List.cons.inj split'
      contradiction
    · obtain ⟨-, split'⟩ := List.cons.inj split'
      obtain ⟨rfl, -⟩ := List.cons.inj split'
      exact absurd isMark (by decide)

variable {attr name : List Char} {attrs : List (List Char × List Char)} {children : List Node}

theorem Document.exists_markup {root : Node} {second : Char}
    (document : Document root ('<' :: second :: more)) (start : isNameStart second = true) :
    ∃ body behind, Markup [root] body ∧ body ++ behind = '<' :: second :: more := by
  generalize same : '<' :: second :: more = chars at document
  cases document with
  | @mk name before body behind attrs children isMisc markup isMisc' =>
      obtain rfl := isMisc.eq_nil start same.symm
      exact ⟨body, behind, markup, rfl⟩

/-- The first attribute of the root of a document, and what follows it. -/
theorem Document.of_tag
    (document : Document (.element name attrs children)
      ('<' :: (tag ++ ' ' :: (attr ++ '=' :: quot :: more))))
    (named : isName tag = true) (named' : isName attr = true) :
    name = tag ∧ ∃ value raw attrs' chars' gap left, attrs = (attr, value) :: attrs' ∧
      AttValue quot value raw ∧ Attributes attrs' chars' ∧ White gap ∧
        raw ++ quot :: (chars' ++ (gap ++ left)) = more ∧
          ((∃ inner behind, Content children inner ∧
              left = '>' :: (inner ++ '<' :: '/' :: behind)) ∨
            ∃ behind, left = '/' :: '>' :: behind) := by
  obtain ⟨first, letters, tagEq, start⟩ := exists_start_of_isName named
  have opened : '<' :: (tag ++ ' ' :: (attr ++ '=' :: quot :: more)) =
      '<' :: first :: (letters ++ ' ' :: (attr ++ '=' :: quot :: more)) := by
    rw [tagEq]
    rfl
  rw [opened] at document
  obtain ⟨body, behind, markup, same⟩ := document.exists_markup start
  rw [← opened] at same
  rcases markup.of_tag named (by decide) same with
    ⟨attrs, chars, gap, inside, inner, gap', isAttrs, white, white', itemEq, content, split⟩ |
      ⟨attrs, chars, gap, isAttrs, white, itemEq, split⟩
  · obtain ⟨rfl, rfl, rfl⟩ := Node.element.inj (List.singleton_inj.mp itemEq)
    obtain ⟨value, raw, attrs', chars', rfl, isValue, isRest, moreEq⟩ :=
      attributes_first isAttrs white named' (by decide) (by decide) split
    exact ⟨rfl, value, raw, attrs', chars', gap, _, rfl, isValue, isRest, white, moreEq,
      .inl ⟨inner, _, content, rfl⟩⟩
  · obtain ⟨rfl, rfl, rfl⟩ := Node.element.inj (List.singleton_inj.mp itemEq)
    obtain ⟨value, raw, attrs', chars', rfl, isValue, isRest, moreEq⟩ :=
      attributes_first isAttrs white named' (by decide) (by decide) split
    exact ⟨rfl, value, raw, attrs', chars', gap, _, rfl, isValue, isRest, white, moreEq,
      .inr ⟨_, rfl⟩⟩

end Inversion

/-- If the value of an attribute is what stands up to the next quotation mark or further, there
is nothing in it that means something. -/
theorem AttValue.plain_of_eq {raw left chars rest : List Char}
    (isValue : AttValue quot chars raw) (same : raw ++ quot :: left = chars ++ quot :: rest) :
    ∀ char ∈ chars, isXmlChar char = true ∧ char ≠ '<' ∧ char ≠ '&' ∧ char ≠ quot := by
  have noQuote := isValue.quote_not_mem (.inl rfl)
  obtain ⟨shorter, plain⟩ := isValue.length_le
  have whole : raw = chars := by
    rcases List.append_eq_append_iff.mp same with ⟨more, charsEq, -⟩ | ⟨more, rawEq, split⟩
    · have lengths := congrArg List.length charsEq
      rw [List.length_append] at lengths
      have nothing : more = [] := List.eq_nil_of_length_eq_zero (by omega)
      rw [charsEq, nothing, List.append_nil]
    · cases more with
      | nil => rw [rawEq, List.append_nil]
      | cons char more =>
          obtain ⟨rfl, -⟩ := List.cons.inj split
          exact absurd (by rw [rawEq]; simp) noQuote
  subst whole
  intro char member
  obtain ⟨isChar, notLess, notAmp⟩ := plain rfl char member
  exact ⟨isChar, notLess, notAmp, fun same => noQuote (same ▸ member)⟩

end Tunprox.XmlDocument
