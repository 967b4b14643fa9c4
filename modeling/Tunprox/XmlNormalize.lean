import Mathlib.Data.List.TakeWhile
import Tunprox.ByteBuffer
import Tunprox.XmlParser

/-!
# References in texts

`normalize_string` replaces the references of a string in place: it reads on at one place and
writes at another one before it.  `strip_it` does so for all texts and values, cuts the white
space off the texts, and drops what the flags name.  When it drops a tag, it frees the members
of the entry whose number an earlier round has left in the variable `j`.
-/

namespace Tunprox.XmlNormalize

open ByteBuffer (cstring)
open ElementText (strip)
open XmlParser

/-- `named_chars` -/
def namedChars : List (String × Nat) :=
  [("&quot;", 34), ("&amp;", 38), ("&lt;", 60), ("&gt;", 62), ("&nbsp;", 160), ("&iexcl;", 161),
    ("&cent;", 162), ("&pound;", 163), ("&curren;", 164), ("&yen;", 165), ("&brvbar;", 166),
    ("&sect;", 167), ("&uml;", 168), ("&copy;", 169), ("&ordf;", 170), ("&laquo;", 171),
    ("&not;", 172), ("&shy;", 173), ("&reg;", 174), ("&macr;", 175), ("&deg;", 176),
    ("&plusmn;", 177), ("&sup2;", 178), ("&sup3;", 179), ("&acute;", 180), ("&micro;", 181),
    ("&para;", 182), ("&middot;", 183), ("&cedil;", 184), ("&sup1;", 185), ("&ordm;", 186),
    ("&raquo;", 187), ("&frac14;", 188), ("&frac12;", 189), ("&frac34;", 190), ("&iquest;", 191),
    ("&Agrave;", 192), ("&Aacute;", 193), ("&Acirc;", 194), ("&Atilde;", 195), ("&Auml;", 196),
    ("&Aring;", 197), ("&AElig;", 198), ("&Ccedil;", 199), ("&Egrave;", 200), ("&Eacute;", 201),
    ("&Ecirc;", 202), ("&Euml;", 203), ("&Igrave;", 204), ("&Iacute;", 205), ("&Icirc;", 206),
    ("&Iuml;", 207), ("&ETH;", 208), ("&Ntilde;", 209), ("&Ograve;", 210), ("&Oacute;", 211),
    ("&Ocirc;", 212), ("&Otilde;", 213), ("&Ouml;", 214), ("&times;", 215), ("&Oslash;", 216),
    ("&Ugrave;", 217), ("&Uacute;", 218), ("&Ucirc;", 219), ("&Uuml;", 220), ("&Yacute;", 221),
    ("&THORN;", 222), ("&szlig;", 223), ("&agrave;", 224), ("&aacute;", 225), ("&acirc;", 226),
    ("&atilde;", 227), ("&auml;", 228), ("&aring;", 229), ("&aelig;", 230), ("&ccedil;", 231),
    ("&egrave;", 232), ("&eacute;", 233), ("&ecirc;", 234), ("&euml;", 235), ("&igrave;", 236),
    ("&iacute;", 237), ("&icirc;", 238), ("&iuml;", 239), ("&eth;", 240), ("&ntilde;", 241),
    ("&ograve;", 242), ("&oacute;", 243), ("&ocirc;", 244), ("&otilde;", 245), ("&ouml;", 246),
    ("&divide;", 247), ("&oslash;", 248), ("&ugrave;", 249), ("&uacute;", 250), ("&ucirc;", 251),
    ("&uuml;", 252), ("&yacute;", 253), ("&thorn;", 254), ("&yuml;", 255), ("&Alpha;", 913),
    ("&alpha;", 945), ("&Beta;", 914), ("&beta;", 946), ("&Gamma;", 915), ("&gamma;", 947),
    ("&Delta;", 916), ("&delta;", 948), ("&Epsilon;", 917), ("&epsilon;", 949), ("&Zeta;", 918),
    ("&zeta;", 950), ("&Eta;", 919), ("&eta;", 951), ("&Theta;", 920), ("&theta;", 952),
    ("&Iota;", 921), ("&iota;", 953), ("&Kappa;", 922), ("&kappa;", 954), ("&Lambda;", 923),
    ("&lambda;", 955), ("&Mu;", 924), ("&mu;", 956), ("&Nu;", 925), ("&nu;", 957), ("&Xi;", 926),
    ("&xi;", 958), ("&Omicron;", 927), ("&omicron;", 959), ("&Pi;", 928), ("&pi;", 960),
    ("&Rho;", 929), ("&rho;", 961), ("&Sigma;", 931), ("&sigmaf;", 962), ("&sigma;", 963),
    ("&Tau;", 932), ("&tau;", 964), ("&Upsilon;", 933), ("&upsilon;", 965), ("&Phi;", 934),
    ("&phi;", 966), ("&Chi;", 935), ("&chi;", 967), ("&Psi;", 936), ("&psi;", 968),
    ("&Omega;", 937), ("&omega;", 969), ("&thetasym;", 977), ("&upsih;", 978), ("&piv;", 982),
    ("&forall;", 8704), ("&part;", 8706), ("&exist;", 8707), ("&empty;", 8709),
    ("&nabla;", 8711), ("&isin;", 8712), ("&notin;", 8713), ("&ni;", 8715), ("&prod;", 8719),
    ("&sum;", 8721), ("&minus;", 8722), ("&lowast;", 8727), ("&radic;", 8730), ("&prop;", 8733),
    ("&infin;", 8734), ("&ang;", 8736), ("&and;", 8743), ("&or;", 8744), ("&cap;", 8745),
    ("&cup;", 8746), ("&int;", 8747), ("&there4;", 8756), ("&sim;", 8764), ("&cong;", 8773),
    ("&asymp;", 8776), ("&ne;", 8800), ("&equiv;", 8801), ("&le;", 8804), ("&ge;", 8805),
    ("&sub;", 8834), ("&sup;", 8835), ("&nsub;", 8836), ("&sube;", 8838), ("&supe;", 8839),
    ("&oplus;", 8853), ("&otimes;", 8855), ("&perp;", 8869), ("&sdot;", 8901), ("&loz;", 9674),
    ("&lceil;", 8968), ("&rceil;", 8969), ("&lfloor;", 8970), ("&rfloor;", 8971),
    ("&lang;", 9001), ("&rang;", 9002), ("&larr;", 8592), ("&uarr;", 8593), ("&rarr;", 8594),
    ("&darr;", 8595), ("&harr;", 8596), ("&crarr;", 8629), ("&lArr;", 8656), ("&uArr;", 8657),
    ("&rArr;", 8658), ("&dArr;", 8659), ("&hArr;", 8660), ("&bull;", 8226), ("&prime;", 8242),
    ("&Prime;", 8243), ("&oline;", 8254), ("&frasl;", 8260), ("&weierp;", 8472),
    ("&image;", 8465), ("&real;", 8476), ("&trade;", 8482), ("&euro;", 8364),
    ("&alefsym;", 8501), ("&spades;", 9824), ("&clubs;", 9827), ("&hearts;", 9829),
    ("&diams;", 9830), ("&OElig;", 338), ("&oelig;", 339), ("&Scaron;", 352), ("&scaron;", 353),
    ("&Yuml;", 376), ("&fnof;", 402), ("&ensp;", 8194), ("&emsp;", 8195), ("&thinsp;", 8201),
    ("&zwnj;", 8204), ("&zwj;", 8205), ("&lrm;", 8206), ("&rlm;", 8207), ("&ndash;", 8211),
    ("&mdash;", 8212), ("&lsquo;", 8216), ("&rsquo;", 8217), ("&sbquo;", 8218),
    ("&ldquo;", 8220), ("&rdquo;", 8221), ("&bdquo;", 8222), ("&dagger;", 8224),
    ("&Dagger;", 8225), ("&hellip;", 8230), ("&permil;", 8240), ("&lsaquo;", 8249),
    ("&rsaquo;", 8250), ("&circ;", 710)]

/-- The bytes that `add_utf8_char` writes. -/
def utf8Char (val : Nat) : List UInt8 :=
  let tail := fun shift => UInt8.ofNat (128 + (val >>> shift) % 64)
  if val < 2 ^ 7 then [UInt8.ofNat val]
  else if val < 2 ^ 11 then [UInt8.ofNat (192 + (val >>> 6) % 32), tail 0]
  else if val < 2 ^ 16 then [UInt8.ofNat (224 + (val >>> 12) % 16), tail 6, tail 0]
  else if val < 2 ^ 21 then [UInt8.ofNat (240 + (val >>> 18) % 8), tail 12, tail 6, tail 0]
  else if val < 2 ^ 26 then
    [UInt8.ofNat (248 + (val >>> 24) % 4), tail 18, tail 12, tail 6, tail 0]
  else [UInt8.ofNat (252 + (val >>> 30) % 2), tail 24, tail 18, tail 12, tail 6, tail 0]

def isHex (byte : UInt8) : Bool :=
  isdigit byte || (65 ≤ byte && byte ≤ 70) || (97 ≤ byte && byte ≤ 102)

def hexValue (byte : UInt8) : Nat :=
  if isdigit byte then byte.toNat - 48
  else if 97 ≤ byte then byte.toNat - 87
  else byte.toNat - 55

/-- What a round of `normalize_string` reads, and what it writes at the other place.  Nothing
is written for a name that is not known. -/
structure Step where
  consumed : List UInt8
  written : List UInt8
  rest : List UInt8

/-- The number of a reference behind `&#` or `&#x`.  The round ends behind the byte that is no
digit, whatever it is; numbers that are no `int` are not defined. -/
def numericStep (lead : List UInt8) (isDigit : UInt8 → Bool) (base : Nat)
    (digit : UInt8 → Nat) (s : List UInt8) : Option Step :=
  let digits := s.takeWhile isDigit
  let num := digits.foldl (fun num byte => base * num + digit byte) 0
  match s.dropWhile isDigit with
  | [] => none
  | last :: rest =>
      if num < 2 ^ 31 then
        some { consumed := lead ++ (digits ++ [last]), written := utf8Char num, rest := rest }
      else none

/-- The reference at `s`, which begins with `&`. -/
def referenceStep (s : List UInt8) : Option Step :=
  match s with
  | amp :: 35 :: 120 :: digits => numericStep [amp, 35, 120] isHex 16 hexValue digits
  | amp :: 35 :: 88 :: digits => numericStep [amp, 35, 88] isHex 16 hexValue digits
  | amp :: 35 :: digits => numericStep [amp, 35] isdigit 10 (fun byte => byte.toNat - 48) digits
  | _ =>
      match namedChars.find? fun nc => strcaseeq (s.take (ascii nc.1).length) (ascii nc.1) with
      | some nc =>
          let len := (ascii nc.1).length
          some { consumed := s.take len, written := utf8Char nc.2, rest := s.drop len }
      | none =>
          let skipped := ((s.take 10).takeWhile (· ≠ 59)).length
          let len := if (s.drop skipped).head? = some 59 then skipped + 1 else 1
          some { consumed := s.take len, written := [], rest := s.drop len }

def nextStep : List UInt8 → Option Step
  | [] => none
  | byte :: bytes =>
      if byte ≠ 38 then some { consumed := [byte], written := [byte], rest := bytes }
      else referenceStep (byte :: bytes)

/-- The loop of `normalize_string`: `gap` are the bytes from the place that it writes at to the
place that it reads at.  The place that it writes at goes on by one byte in each round, also
if more bytes are written.  What is written never goes beyond what is read. -/
def normalizeLoop : Nat → List UInt8 → List UInt8 → Option (List UInt8)
  | 0, _, _ => none
  | _ + 1, _, [] => some []
  | fuel + 1, gap, byte :: bytes => do
      let step ← nextStep (byte :: bytes)
      let cells := gap ++ step.consumed
      if step.written.length ≤ cells.length then
        match step.written ++ cells.drop step.written.length with
        | [] => none
        | out :: gap => (normalizeLoop fuel gap step.rest).map (out :: ·)
      else none

/-- `normalize_string` without the flag for Latin-1. -/
def normalizeString (str : List UInt8) : Option (List UInt8) :=
  (normalizeLoop (str.length + 1) [] str).map cstring

/-- The flags of `xml_parse` that `strip_it` looks at. -/
structure Flags where
  noQuestion : Bool
  noComment : Bool
  noEmptyText : Bool
  noExclam : Bool
  noNormalTag : Bool
  stripAllText : Bool
  deriving DecidableEq, Repr

/-- The types that the flags drop. -/
def Flags.drops (flags : Flags) : SubType → Bool
  | .tag => flags.noNormalTag
  | .questionTag => flags.noQuestion
  | .exclamTag => flags.noExclam
  | .comment => flags.noComment
  | .text => false
  | .emptyText => flags.noEmptyText

/-- `XMLPARSER_FLAGS_STANDARD` -/
def STANDARD : Flags where
  noQuestion := true
  noComment := true
  noEmptyText := true
  noExclam := true
  noNormalTag := false
  stripAllText := true

/-- `normalize_string` in `strip_it`. -/
def normalized (str : List UInt8) : Parse (List UInt8) :=
  match normalizeString str with
  | none => .error .wild
  | some str => .ok str

/-- The text of an entry that is kept. -/
def stripText (flags : Flags) (str : List UInt8) : Parse XmlSub := do
  let str ← normalized str
  let str := if flags.stripAllText then strip str else str
  .ok (if str = [] then .emptyText str else .text str)

/-- The value of an attribute. -/
def normalizeAttr (attr : Attr) : Parse Attr :=
  match attr.2 with
  | none => .ok attr
  | some val => (normalized val).map fun val => (attr.1, some val)

/-- `xmltag_hfree` -/
def xmltagHfree (sub : XmlSub) : XmlSub :=
  .null sub.type

/-- There is memory to free. -/
def hasMembers : XmlSub → Bool
  | .tag _ attrs subs => !attrs.isEmpty || !subs.isEmpty
  | .exclamTag _ attrs => !attrs.isEmpty
  | _ => false

/-- Where `strip_it` is: the entries that it has kept, whose number is `i`; the variable `j`,
which is not set at the start; and how far ahead the entries are that it has cleared. -/
structure Strip where
  kept : List XmlSub
  j : Option Nat
  cleared : List Nat

namespace Strip

def start : Strip where
  kept := []
  j := none
  cleared := []

/-- The name or the text of the entry is a null pointer. -/
def isNull (strip : Strip) : XmlSub → Bool
  | .null _ => true
  | _ => strip.cleared.contains 0

/-- `type` of the entry; a text that is a null pointer is taken for an empty one. -/
def type (strip : Strip) (sub : XmlSub) : SubType :=
  if strip.isNull sub && sub.type == .text then .emptyText else sub.type

/-- The entries ahead are one entry nearer. -/
def advance (strip : Strip) : Strip :=
  { strip with
    cleared := strip.cleared.filterMap fun ahead => if ahead = 0 then none else some (ahead - 1) }

/-- The loop over the attributes of a tag leaves their number in `j`. -/
def attrsLen : XmlSub → Option Nat
  | .tag _ attrs _ => some attrs.length
  | .null .tag => some 0
  | _ => none

def keep (strip : Strip) (sub : XmlSub) : Strip :=
  { strip.advance with kept := strip.kept ++ [sub], j := (attrsLen sub).or strip.j }

/-- `xmltag_hfree` of the entry number `j`, where `rest` stands behind the entry that is dropped
and `size` entries are allocated.  What lies behind the end of the list are copies of its last
entry, and their members are those of this entry; `parse_body` puts nothing but a text behind a
tag with `!`. -/
def hfree (size : Nat) (strip : Strip) (sub : XmlSub) (rest : List XmlSub) : Parse Strip :=
  match strip.j with
  | none => .error .wild
  | some j =>
      let i := strip.kept.length
      if size ≤ j then .error .wild
      else if j < i then .ok { strip with kept := strip.kept.modify j xmltagHfree }
      else if j ≤ i + rest.length then .ok { strip with cleared := (j - i) :: strip.cleared }
      else
        match rest.getLast? with
        | none => if strip.isNull sub && hasMembers sub then .error .wild else .ok strip
        | some last => if hasMembers last then .error .wild else .ok strip

/-- A tag is freed before the entries behind it take its place, which leaves the new length of
the list in `j`. -/
def drop (size : Nat) (strip : Strip) (sub : XmlSub) (rest : List XmlSub) : Parse Strip :=
  let freed := if (strip.type sub).isTag then strip.hfree size sub rest else .ok strip
  freed.map fun strip =>
    { strip.advance with j := some (strip.kept.length + rest.length) }

theorem type_cases (strip : Strip) (sub : XmlSub) :
    strip.type sub = sub.type ∨ strip.isNull sub = true ∧ strip.type sub = .emptyText := by
  unfold type
  split
  · rename_i null
    exact .inr ⟨(Bool.and_eq_true_iff.mp null).1, rfl⟩
  · exact .inl rfl

theorem advance_cleared {strip : Strip} (none : strip.cleared = []) :
    strip.advance.cleared = [] := by
  rw [advance, none]
  rfl

theorem type_of_whole {strip : Strip} {sub : XmlSub} (whole : ¬ strip.isNull sub = true) :
    strip.type sub = sub.type :=
  (strip.type_cases sub).resolve_right fun null => whole null.1

end Strip

mutual

/-- What a round of `strip_it` makes of an entry that it keeps. -/
def stripSub (flags : Flags) : XmlSub → Parse XmlSub
  | .tag name attrs subs => do
      let attrs ← attrs.mapM normalizeAttr
      let subs ← stripLoop flags subs.length .start subs
      .ok (.tag name attrs subs)
  | .text text => stripText flags text
  | .questionTag text => .ok (.questionTag text)
  | .exclamTag name attrs => .ok (.exclamTag name attrs)
  | .comment text => .ok (.comment text)
  | .emptyText text => .ok (.emptyText text)
  | .null type => .ok (.null type)

/-- The loop of `strip_it`. -/
def stripLoop (flags : Flags) (size : Nat) (strip : Strip) :
    List XmlSub → Parse (List XmlSub)
  | [] => .ok strip.kept
  | sub :: rest =>
      if flags.drops (strip.type sub) then do
        let strip ← strip.drop size sub rest
        stripLoop flags size strip rest
      else if strip.isNull sub then
        stripLoop flags size (strip.keep (.null (strip.type sub))) rest
      else do
        let kept ← stripSub flags sub
        stripLoop flags size (strip.keep kept) rest

end

/-- `strip_it` -/
def stripIt (flags : Flags) (subs : List XmlSub) : Parse (List XmlSub) :=
  stripLoop flags subs.length .start subs

/-- `xml_parse` of a string. -/
def xmlParse (flags : Flags) (xmlText : List UInt8) : Parse (List XmlSub) := do
  let subs ← parseBody xmlText
  stripIt flags subs

section InPlace

/-- A round reads the start of what is left, at least a byte, and writes no more than that. -/
structure Step.Fits (step : Step) (s : List UInt8) : Prop where
  split : s = step.consumed ++ step.rest
  reads : step.consumed ≠ []
  room : step.written.length ≤ step.consumed.length

theorem length_utf8Char_le (val : Nat) : (utf8Char val).length ≤ 6 := by
  unfold utf8Char
  grind

theorem le_of_length_utf8Char {val : Nat} (long : 3 < (utf8Char val).length) :
    2 ^ 16 ≤ val := by
  unfold utf8Char at long
  grind

/-- A number has as many digits as its size asks for. -/
theorem foldl_digits_lt {base : Nat} {digit : UInt8 → Nat} {digits : List UInt8}
    (small : ∀ byte ∈ digits, digit byte < base) (num : Nat) :
    digits.foldl (fun num byte => base * num + digit byte) num <
      base ^ digits.length * (num + 1) := by
  induction digits generalizing num with
  | nil => simp
  | cons byte digits ih =>
      rw [List.forall_mem_cons] at small
      have rest := ih small.2 (base * num + digit byte)
      have bound : base * num + digit byte + 1 ≤ base * (num + 1) := by
        have here := small.1
        rw [Nat.mul_succ]
        omega
      calc (byte :: digits).foldl (fun num byte => base * num + digit byte) num
          < base ^ digits.length * (base * num + digit byte + 1) := rest
        _ ≤ base ^ digits.length * (base * (num + 1)) := Nat.mul_le_mul_left _ bound
        _ = base ^ (byte :: digits).length * (num + 1) := by
            rw [List.length_cons, Nat.pow_succ, Nat.mul_assoc]

/-- The digits of a number are no fewer than the bytes of the character, but for the three that
stand around them. -/
theorem length_utf8Char_le_digits {base count val : Nat} (small : base ≤ 16)
    (bound : val < base ^ count) : (utf8Char val).length ≤ count + 3 := by
  by_cases short : (utf8Char val).length ≤ 3
  · omega
  · have large : 2 ^ 16 ≤ val := le_of_length_utf8Char (by omega)
    have digits : base ^ count ≤ 16 ^ count := Nat.pow_le_pow_left small count
    have most := length_utf8Char_le val
    have many : 4 < count := by
      by_contra few
      have power : 16 ^ count ≤ 16 ^ 4 := Nat.pow_le_pow_right (by decide) (by omega)
      omega
    omega

theorem numericStep_fits {lead s : List UInt8} {isDigit : UInt8 → Bool} {base : Nat}
    {digit : UInt8 → Nat} (small : base ≤ 16) (leads : 2 ≤ lead.length)
    (digitLt : ∀ byte, isDigit byte = true → digit byte < base) {step : Step}
    (found : numericStep lead isDigit base digit s = some step) : step.Fits (lead ++ s) := by
  have split := List.takeWhile_append_dropWhile (p := isDigit) (l := s)
  unfold numericStep at found
  cases left : s.dropWhile isDigit with
  | nil => simp [left] at found
  | cons last rest =>
      rw [left] at split
      simp only [left] at found
      split at found
      · rename_i isInt
        cases found
        have digits : ∀ byte ∈ s.takeWhile isDigit, digit byte < base := fun byte member =>
          digitLt byte (List.all_eq_true.mp List.all_takeWhile byte member)
        have bound := foldl_digits_lt digits 0
        rw [Nat.zero_add, Nat.mul_one] at bound
        have short := length_utf8Char_le_digits small bound
        constructor
        · simp only [List.append_assoc, List.singleton_append, split]
        · simp
        · simp only [List.length_append, List.length_cons, List.length_nil]
          omega
      · cases found

theorem hexValue_lt : ∀ byte, isHex byte = true → hexValue byte < 16 := by
  intro byte isDigit
  have all : ∀ value < 256, isHex (UInt8.ofNat value) = true →
      hexValue (UInt8.ofNat value) < 16 := by decide +kernel
  have here := all byte.toNat byte.toNat_lt
  rw [UInt8.ofNat_toNat] at here
  exact here isDigit

theorem decimalDigit_lt : ∀ byte, isdigit byte = true → byte.toNat - 48 < 10 := by
  intro byte isDigit
  have all : ∀ value < 256, isdigit (UInt8.ofNat value) = true →
      (UInt8.ofNat value).toNat - 48 < 10 := by decide +kernel
  have here := all byte.toNat byte.toNat_lt
  rw [UInt8.ofNat_toNat] at here
  exact here isDigit

/-- No named character is as long as its name. -/
theorem length_namedChars :
    (namedChars.all fun nc => decide ((utf8Char nc.2).length ≤ (ascii nc.1).length ∧
      0 < (ascii nc.1).length)) = true := by
  decide +kernel

theorem length_take_of_strcaseeq {s name : List UInt8}
    (same : strcaseeq (s.take name.length) name = true) : (s.take name.length).length =
      name.length := by
  have lower : (s.take name.length).map tolower = name.map tolower := beq_iff_eq.mp same
  simpa using congrArg List.length lower

theorem referenceStep_fits {byte : UInt8} {bytes : List UInt8} {step : Step}
    (found : referenceStep (byte :: bytes) = some step) : step.Fits (byte :: bytes) := by
  unfold referenceStep at found
  split at found
  · rename_i eq
    rw [eq]
    exact numericStep_fits (Nat.le_refl _) (by simp) hexValue_lt found
  · rename_i eq
    rw [eq]
    exact numericStep_fits (Nat.le_refl _) (by simp) hexValue_lt found
  · rename_i eq
    rw [eq]
    exact numericStep_fits (by decide) (by simp) decimalDigit_lt found
  · split at found
    · rename_i nc member
      cases found
      have fits := List.all_eq_true.mp length_namedChars nc (List.mem_of_find?_eq_some member)
      have same := List.find?_some member
      have taken := length_take_of_strcaseeq same
      have bound := of_decide_eq_true fits
      constructor
      · exact (List.take_append_drop _ _).symm
      · intro nothing
        simp only at nothing
        rw [nothing, List.length_nil] at taken
        omega
      · rw [taken]
        exact bound.1
    · cases found
      constructor
      · exact (List.take_append_drop _ _).symm
      · intro nothing
        rw [List.take_eq_nil_iff] at nothing
        rcases nothing with zero | empty
        · split at zero <;> omega
        · cases empty
      · exact Nat.zero_le _

/-- No round of `normalize_string` writes more bytes than it reads. -/
theorem nextStep_fits {s : List UInt8} {step : Step} (found : nextStep s = some step) :
    step.Fits s := by
  cases s with
  | nil => cases found
  | cons byte bytes =>
      rw [nextStep] at found
      split at found
      · cases found
        constructor
        · rfl
        · exact List.cons_ne_nil _ _
        · exact Nat.le_refl _
      · exact referenceStep_fits found

/-- All references of a string are defined: no number is at its end or too large. -/
def referencesDefined : Nat → List UInt8 → Bool
  | 0, _ => false
  | _ + 1, [] => true
  | fuel + 1, byte :: bytes =>
      match nextStep (byte :: bytes) with
      | none => false
      | some step => referencesDefined fuel step.rest

/-- The place that is written at never overtakes the one that is read at: there is always room
for what is written, and the result is no longer than the string. -/
theorem normalizeLoop_room {fuel : Nat} (gap : List UInt8) {s : List UInt8}
    (enough : s.length < fuel) :
    if referencesDefined fuel s then
      ∃ out, normalizeLoop fuel gap s = some out ∧ out.length ≤ s.length
    else normalizeLoop fuel gap s = none := by
  induction fuel generalizing gap s with
  | zero => exact absurd enough (Nat.not_lt_zero _)
  | succ fuel ih =>
      cases s with
      | nil => exact ⟨[], rfl, Nat.le_refl _⟩
      | cons byte bytes =>
          rw [referencesDefined]
          cases found : nextStep (byte :: bytes) with
          | none => simp [normalizeLoop, found]
          | some step =>
              have fits := nextStep_fits found
              have positive := List.length_pos_of_ne_nil fits.reads
              have whole := congrArg List.length fits.split
              rw [List.length_append] at whole
              have room := fits.room
              have enters : step.written.length ≤ (gap ++ step.consumed).length := by
                rw [List.length_append]
                omega
              obtain ⟨out, cells, eq⟩ := List.exists_cons_of_ne_nil
                (l := step.written ++ (gap ++ step.consumed).drop step.written.length)
                (List.ne_nil_of_length_pos (by
                  rw [List.length_append, List.length_drop, List.length_append]
                  omega))
              have rest := ih cells (s := step.rest) (by omega)
              simp only [normalizeLoop, found, Option.bind_eq_bind, Option.bind_some, if_pos enters,
                eq]
              split
              · rename_i defined
                rw [if_pos defined] at rest
                obtain ⟨outs, normalized, shorter⟩ := rest
                refine ⟨out :: outs, by rw [normalized, Option.map_some], ?_⟩
                rw [List.length_cons]
                omega
              · rename_i wild
                rw [if_neg wild] at rest
                rw [rest, Option.map_none]

theorem nonzero_cstring (memory : List UInt8) : (0 : UInt8) ∉ cstring memory := by
  intro member
  have nonzero := List.all_eq_true.mp (List.all_takeWhile (p := (· ≠ (0 : UInt8)))) 0 member
  exact absurd rfl (of_decide_eq_true nonzero)

theorem normalizeString_of_defined {str : List UInt8}
    (defined : referencesDefined (str.length + 1) str = true) :
    ∃ out, normalizeString str = some out ∧ out.length ≤ str.length ∧ (0 : UInt8) ∉ out := by
  have room := normalizeLoop_room [] (Nat.lt_succ_self str.length)
  rw [if_pos defined] at room
  obtain ⟨out, normalized, shorter⟩ := room
  refine ⟨cstring out, ?_, ?_, nonzero_cstring out⟩
  · rw [normalizeString, normalized, Option.map_some]
  · exact (List.takeWhile_prefix _).length_le.trans shorter

theorem normalizeString_of_wild {str : List UInt8}
    (wild : ¬ referencesDefined (str.length + 1) str = true) : normalizeString str = none := by
  have room := normalizeLoop_room [] (Nat.lt_succ_self str.length)
  rw [if_neg wild] at room
  rw [normalizeString, room, Option.map_none]

/-- `normalize_string` is defined if all references are, for it never writes where it has not
read yet, and its result is a string that is no longer than the one before. -/
theorem normalizeString_room (str : List UInt8) :
    if referencesDefined (str.length + 1) str then
      ∃ out, normalizeString str = some out ∧ out.length ≤ str.length ∧ (0 : UInt8) ∉ out
    else normalizeString str = none := by
  split
  · rename_i defined
    exact normalizeString_of_defined defined
  · rename_i wild
    exact normalizeString_of_wild wild

/-- A string without a reference stays as it is. -/
theorem normalizeLoop_plain {fuel : Nat} {s : List UInt8} (plain : (38 : UInt8) ∉ s)
    (enough : s.length < fuel) : normalizeLoop fuel [] s = some s := by
  induction fuel generalizing s with
  | zero => exact absurd enough (Nat.not_lt_zero _)
  | succ fuel ih =>
      cases s with
      | nil => rfl
      | cons byte bytes =>
          have other : byte ≠ 38 := fun amp => plain (amp ▸ List.mem_cons_self)
          have rest := ih (s := bytes) (fun member => plain (List.mem_cons_of_mem _ member))
            (Nat.lt_of_succ_lt_succ enough)
          rw [normalizeLoop, nextStep, if_pos other]
          simp [rest]

theorem normalizeString_plain {str : List UInt8} (plain : (38 : UInt8) ∉ str)
    (nonzero : (0 : UInt8) ∉ str) : normalizeString str = some str := by
  have whole : cstring str = str := List.takeWhile_eq_self_iff.mpr fun byte member =>
    decide_eq_true fun zero => nonzero (zero ▸ member)
  rw [normalizeString, normalizeLoop_plain plain (Nat.lt_succ_self _), Option.map_some, whole]

end InPlace

end Tunprox.XmlNormalize
