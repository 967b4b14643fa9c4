import Mathlib.Data.List.TakeWhile
import Mathlib.Data.Nat.Digits.Lemmas
import Tunprox.CString

/-!
# Internet addresses as texts

`inet_ntop` and `inet_pton` of the C library, on the bytes of an address.  The text of an IPv6
address leaves out the longest run of zeros and may end with an IPv4 address; whichever run is
left out, the text is read as the address it was made of.
-/

namespace Tunprox.InetText

/-- The digits of a number, the first one first. -/
def numeral (base number : Nat) : List Nat :=
  if number = 0 then [0] else (Nat.digits base number).reverse

/-- The number that digits stand for behind those already read. -/
def readDigits (base value : Nat) (digits : List Nat) : Nat :=
  digits.foldl (fun value digit => base * value + digit) value

def digitByte (digit : Nat) : UInt8 :=
  UInt8.ofNat (if digit < 10 then 48 + digit else 87 + digit)

/-- The conversions `%u` and `%x`. -/
def numberText (base number : Nat) : List UInt8 :=
  (numeral base number).map digitByte

/-- The value of a hexadecimal digit. -/
def digitValue (byte : UInt8) : Option Nat :=
  if 48 ≤ byte ∧ byte ≤ 57 then some (byte.toNat - 48)
  else if 97 ≤ byte ∧ byte ≤ 102 then some (byte.toNat - 87)
  else if 65 ≤ byte ∧ byte ≤ 70 then some (byte.toNat - 55)
  else none

section Numeral

variable {base number : Nat}

theorem numeral_ne_nil (base number : Nat) : numeral base number ≠ [] := by
  unfold numeral
  split
  · exact List.cons_ne_nil _ _
  · rename_i nonzero
    exact List.reverse_ne_nil_iff.mpr (Nat.digits_ne_nil_iff_ne_zero.mpr nonzero)

theorem lt_of_mem_numeral (large : 1 < base) {digit : Nat}
    (member : digit ∈ numeral base number) : digit < base := by
  unfold numeral at member
  split at member
  · obtain rfl := List.mem_singleton.mp member
    omega
  · exact Nat.digits_lt_base large (List.mem_reverse.mp member)

theorem length_numeral_le {width : Nat} (large : 1 < base) (positive : 0 < width)
    (small : number < base ^ width) : (numeral base number).length ≤ width := by
  unfold numeral
  split
  · exact positive
  · rw [List.length_reverse]
    exact (Nat.digits_length_le_iff large number).mpr small

theorem readDigits_numeral (base number : Nat) :
    readDigits base 0 (numeral base number) = number := by
  unfold readDigits numeral
  split
  · rename_i zero
    simp [zero]
  · rw [List.foldl_reverse]
    calc (Nat.digits base number).foldr (fun digit value => base * value + digit) 0
        = (Nat.digits base number).foldr (fun digit value => digit + base * value) 0 := by
          simp only [Nat.add_comm]
      _ = Nat.ofDigits base (Nat.digits base number) := (Nat.ofDigits_eq_foldr _ _).symm
      _ = number := Nat.ofDigits_digits base number

/-- A number does not start with a zero that is not its only digit. -/
theorem eq_nil_of_numeral_zero {rest : List Nat} (digits : numeral base number = 0 :: rest) :
    rest = [] := by
  unfold numeral at digits
  split at digits
  · exact (List.cons.inj digits).2.symm
  · rename_i nonzero
    have last := Nat.getLast_digit_ne_zero base nonzero
    have first : (Nat.digits base number).reverse.head? = some 0 := by
      rw [digits]
      rfl
    have nonempty : Nat.digits base number ≠ [] := Nat.digits_ne_nil_iff_ne_zero.mpr nonzero
    rw [List.head?_reverse, List.getLast?_eq_some_getLast nonempty] at first
    exact absurd (Option.some.inj first) last

theorem le_readDigits (positive : 0 < base) (value : Nat) (digits : List Nat) :
    value ≤ readDigits base value digits := by
  induction digits generalizing value with
  | nil => exact le_refl value
  | cons digit digits ih =>
      have longer : value ≤ base * value + digit :=
        Nat.le_add_right_of_le (Nat.le_mul_of_pos_left value positive)
      exact longer.trans (ih _)

theorem digitValue_digitByte {digit : Nat} (small : digit < 16) :
    digitValue (digitByte digit) = some digit := by
  interval_cases digit <;> rfl

theorem isdigit_digitByte {digit : Nat} (small : digit < 10) :
    isdigit (digitByte digit) = true ∧ (digitByte digit).toNat - 48 = digit := by
  interval_cases digit <;> decide

theorem digitByte_ne_zero {digit : Nat} (small : digit < 10) : digitByte digit ≠ 0 := by
  intro zero
  have isDigit := (isdigit_digitByte small).1
  rw [zero] at isDigit
  exact absurd isDigit (by decide)

theorem map_digitValue_numberText (large : 1 < base) (small : base ≤ 16) (number : Nat) :
    (numberText base number).map digitValue = (numeral base number).map some := by
  rw [numberText, List.map_map]
  exact List.map_congr_left fun digit member =>
    digitValue_digitByte (Nat.lt_of_lt_of_le (lt_of_mem_numeral large member) small)

/-- Different numbers have different texts. -/
theorem numberText_injective (large : 1 < base) (small : base ≤ 16) :
    Function.Injective (numberText base) := by
  intro first second same
  have digits := congrArg (List.map digitValue) same
  rw [map_digitValue_numberText large small, map_digitValue_numberText large small] at digits
  have numerals := List.map_injective_iff.mpr (Option.some_injective _) digits
  rw [← readDigits_numeral base first, numerals, readDigits_numeral]

end Numeral

/-- The loop of `inet_pton` for IPv4, with the numbers that a dot has ended and the one that is
being read. -/
def pton4Loop : List UInt8 → List UInt8 → Option Nat → Option (List UInt8)
  | [], octets, current =>
      current.bind fun value =>
        if octets.length = 3 then some (octets ++ [UInt8.ofNat value]) else none
  | byte :: src, octets, current =>
      if isdigit byte then
        match current with
        | none => pton4Loop src octets (some (byte.toNat - 48))
        | some value =>
            if value = 0 then none
            else if 255 < 10 * value + (byte.toNat - 48) then none
            else pton4Loop src octets (some (10 * value + (byte.toNat - 48)))
      else if byte = 46 then
        match current with
        | none => none
        | some value =>
            if octets.length = 3 then none
            else pton4Loop src (octets ++ [UInt8.ofNat value]) none
      else none

/-- `inet_pton` for `AF_INET`: the bytes of the address. -/
def inetPton4 (src : List UInt8) : Option (List UInt8) :=
  pton4Loop src [] none

/-- `inet_ntop` for `AF_INET` -/
def inetNtop4 (bytes : List UInt8) : List UInt8 :=
  (ascii ".").intercalate (bytes.map fun byte => numberText 10 byte.toNat)

section Dotted

theorem pton4Loop_digits {digits : List Nat} {value : Nat} (src octets : List UInt8)
    (small : ∀ digit ∈ digits, digit < 10) (nonzero : digits = [] ∨ value ≠ 0)
    (inRange : readDigits 10 value digits ≤ 255) :
    pton4Loop (digits.map digitByte ++ src) octets (some value) =
      pton4Loop src octets (some (readDigits 10 value digits)) := by
  induction digits generalizing value with
  | nil => rfl
  | cons digit digits ih =>
      have notZero := nonzero.resolve_left (List.cons_ne_nil _ _)
      obtain ⟨isDigit, valueEq⟩ := isdigit_digitByte (small digit List.mem_cons_self)
      have later : 10 * value + digit ≤ 255 :=
        (le_readDigits (by decide) _ digits).trans inRange
      simp only [List.map_cons, List.cons_append, pton4Loop, isDigit, if_true, notZero, if_false,
        valueEq, Nat.not_lt.mpr later]
      apply ih
      · exact fun digit member => small digit (List.mem_cons_of_mem _ member)
      · right
        omega
      · exact inRange

/-- A number below 256 is read as a whole. -/
theorem pton4Loop_number {number : Nat} (small : number < 256) (src octets : List UInt8) :
    pton4Loop (numberText 10 number ++ src) octets none =
      pton4Loop src octets (some number) := by
  have value := readDigits_numeral 10 number
  unfold numberText
  cases digits : numeral 10 number with
  | nil => exact absurd digits (numeral_ne_nil 10 number)
  | cons first rest =>
      have all : ∀ digit ∈ first :: rest, digit < 10 := fun digit member =>
        lt_of_mem_numeral (by decide) (digits ▸ member)
      obtain ⟨isDigit, valueEq⟩ := isdigit_digitByte (all first List.mem_cons_self)
      have whole : readDigits 10 first rest = number := by
        rw [digits] at value
        simpa [readDigits] using value
      simp only [List.map_cons, List.cons_append, pton4Loop, isDigit, if_true, valueEq]
      rw [pton4Loop_digits, whole]
      · exact fun digit member => all digit (List.mem_cons_of_mem _ member)
      · by_cases zero : first = 0
        · left
          subst zero
          exact eq_nil_of_numeral_zero digits
        · exact Or.inr zero
      · omega

theorem pton4Loop_dot {octets : List UInt8} (value : Nat) (src : List UInt8)
    (few : octets.length < 3) :
    pton4Loop (46 :: src) octets (some value) =
      pton4Loop src (octets ++ [UInt8.ofNat value]) none := by
  have notLast : octets.length ≠ 3 := by omega
  simp [pton4Loop, isdigit, notLast]

theorem inetNtop4_four (a b c d : UInt8) :
    inetNtop4 [a, b, c, d] = numberText 10 a.toNat ++ 46 :: (numberText 10 b.toNat ++
      46 :: (numberText 10 c.toNat ++ 46 :: (numberText 10 d.toNat ++ []))) := by
  have dot : ascii "." = [46] := by decide
  simp [inetNtop4, dot, List.intercalate]

theorem numberText_ne_nil (base number : Nat) : numberText base number ≠ [] :=
  List.map_eq_nil_iff.not.mpr (numeral_ne_nil base number)

theorem inetNtop4_ne_nil (bytes : List UInt8) (length : bytes.length = 4) :
    inetNtop4 bytes ≠ [] := by
  obtain ⟨a, b, c, d, rfl⟩ : ∃ a b c d, bytes = [a, b, c, d] := by
    match bytes, length with
    | [a, b, c, d], _ => exact ⟨a, b, c, d, rfl⟩
  rw [inetNtop4_four]
  exact List.append_ne_nil_of_left_ne_nil (numberText_ne_nil 10 a.toNat) _

/-- IPv4 addresses are read as they are written. -/
theorem inetPton4_inetNtop4 {bytes : List UInt8} (length : bytes.length = 4) :
    inetPton4 (inetNtop4 bytes) = some bytes := by
  obtain ⟨a, b, c, d, rfl⟩ : ∃ a b c d, bytes = [a, b, c, d] := by
    match bytes, length with
    | [a, b, c, d], _ => exact ⟨a, b, c, d, rfl⟩
  rw [inetNtop4_four, inetPton4, pton4Loop_number a.toNat_lt, pton4Loop_dot,
    pton4Loop_number b.toNat_lt, pton4Loop_dot, pton4Loop_number c.toNat_lt, pton4Loop_dot,
    pton4Loop_number d.toNat_lt]
  · simp [pton4Loop]
  · simp
  · simp
  · simp

theorem length_of_pton4Loop {src octets bytes : List UInt8} {current : Option Nat}
    (parsed : pton4Loop src octets current = some bytes) : bytes.length = 4 := by
  induction src generalizing octets current with
  | nil =>
      obtain ⟨value, -, result⟩ := Option.bind_eq_some_iff.mp parsed
      split at result
      · obtain rfl := Option.some.inj result
        simp [*]
      · contradiction
  | cons byte src ih =>
      unfold pton4Loop at parsed
      split at parsed
      · cases current with
        | none => exact ih parsed
        | some value =>
            simp only at parsed
            split at parsed
            · contradiction
            split at parsed
            · contradiction
            · exact ih parsed
      · split at parsed
        · cases current with
          | none => contradiction
          | some value =>
              simp only at parsed
              split at parsed
              · contradiction
              · exact ih parsed
        · contradiction

end Dotted

/-- The two bytes of a group. -/
def wordBytes (word : Nat) : List UInt8 :=
  [UInt8.ofNat (word / 256), UInt8.ofNat (word % 256)]

/-- The groups of an address. -/
def words : List UInt8 → List Nat
  | high :: low :: bytes => (high.toNat * 256 + low.toNat) :: words bytes
  | _ => []

/-- What `inet_pton` for IPv6 keeps in its loop: the bytes before `tp`, how many of them stand
before the two colons, where the token began, and the digits of the token. -/
structure Scan where
  out : List UInt8
  colonp : Option Nat
  curtok : List UInt8
  seen : Nat
  val : Nat

def pton6Loop : List UInt8 → Scan → Option Scan
  | [], scan => some scan
  | ch :: src, scan =>
      match digitValue ch with
      | some digit =>
          if scan.seen = 4 then none
          else
            pton6Loop src { scan with seen := scan.seen + 1, val := 16 * scan.val + digit }
      | none =>
          if ch = 58 then
            if scan.seen = 0 then
              if scan.colonp = none then
                pton6Loop src { scan with colonp := some scan.out.length, curtok := src }
              else none
            else if src = [] then none
            else if 16 < scan.out.length + 2 then none
            else
              pton6Loop src
                { scan with
                  out := scan.out ++ wordBytes scan.val
                  curtok := src
                  seen := 0
                  val := 0 }
          else if ch = 46 ∧ scan.out.length + 4 ≤ 16 then
            (inetPton4 scan.curtok).map fun octets =>
              { scan with out := scan.out ++ octets, seen := 0 }
          else none

/-- The last group. -/
def Scan.finished (scan : Scan) : Option (List UInt8) :=
  if scan.seen = 0 then some scan.out
  else if 16 < scan.out.length + 2 then none
  else some (scan.out ++ wordBytes scan.val)

/-- The two colons are replaced by zeros. -/
def spread (colonp : Option Nat) (out : List UInt8) : Option (List UInt8) :=
  match colonp with
  | none => if out.length = 16 then some out else none
  | some before =>
      if out.length = 16 then none
      else some (out.take before ++ List.replicate (16 - out.length) 0 ++ out.drop before)

def pton6From (src : List UInt8) : Option (List UInt8) :=
  (pton6Loop src ⟨[], none, src, 0, 0⟩).bind fun scan => scan.finished.bind (spread scan.colonp)

/-- `inet_pton` for `AF_INET6`: the bytes of the address. -/
def inetPton6 : List UInt8 → Option (List UInt8)
  | [] => none
  | 58 :: 58 :: src => pton6From (58 :: src)
  | 58 :: _ => none
  | ch :: src => pton6From (ch :: src)

theorem length_wordBytes (word : Nat) : (wordBytes word).length = 2 :=
  rfl

/-- Nothing is written behind the 16 bytes of the address. -/
theorem pton6Loop_room {src : List UInt8} {scan final : Scan} (room : scan.out.length ≤ 16)
    (parsed : pton6Loop src scan = some final) : final.out.length ≤ 16 := by
  induction src generalizing scan with
  | nil =>
      obtain rfl := Option.some.inj parsed
      exact room
  | cons ch src ih =>
      unfold pton6Loop at parsed
      split at parsed
      · split at parsed
        · contradiction
        · exact ih (by exact room) parsed
      · split at parsed
        · split at parsed
          · split at parsed
            · exact ih (by exact room) parsed
            · contradiction
          · split at parsed
            · contradiction
            split at parsed
            · contradiction
            · rename_i enough
              apply ih _ parsed
              rw [List.length_append, length_wordBytes]
              omega
        · split at parsed
          · rename_i dotted
            obtain ⟨octets, octetsRead, rfl⟩ := Option.map_eq_some_iff.mp parsed
            have four := length_of_pton4Loop octetsRead
            rw [List.length_append, four]
            exact dotted.2
          · contradiction

theorem length_of_pton6From {src bytes : List UInt8} (parsed : pton6From src = some bytes) :
    bytes.length = 16 := by
  obtain ⟨scan, scanned, rest⟩ := Option.bind_eq_some_iff.mp parsed
  obtain ⟨out, finished, result⟩ := Option.bind_eq_some_iff.mp rest
  have room := pton6Loop_room (by exact Nat.zero_le 16) scanned
  have outRoom : out.length ≤ 16 := by
    unfold Scan.finished at finished
    split at finished
    · obtain rfl := Option.some.inj finished
      exact room
    · split at finished
      · contradiction
      · obtain rfl := Option.some.inj finished
        rw [List.length_append, length_wordBytes]
        omega
  unfold spread at result
  split at result
  · split at result
    · obtain rfl := Option.some.inj result
      assumption
    · contradiction
  · split at result
    · contradiction
    · obtain rfl := Option.some.inj result
      simp only [List.length_append, List.length_take, List.length_replicate, List.length_drop]
      omega

/-- What `inet_pton` accepts as an IPv6 address has 16 bytes. -/
theorem length_of_inetPton6 {src bytes : List UInt8} (parsed : inetPton6 src = some bytes) :
    bytes.length = 16 := by
  unfold inetPton6 at parsed
  split at parsed
  · contradiction
  · exact length_of_pton6From parsed
  · contradiction
  · exact length_of_pton6From parsed

/-- Groups with colons between them. -/
def wordsText : List Nat → List UInt8
  | [] => []
  | [word] => numberText 16 word
  | word :: next :: words => numberText 16 word ++ 58 :: wordsText (next :: words)

/-- Groups with a colon behind each. -/
def groupsText (words : List Nat) : List UInt8 :=
  words.flatMap fun word => numberText 16 word ++ [58]

/-- How many zeros there are from a group on. -/
def runLength (words : List Nat) (base : Nat) : Nat :=
  ((words.drop base).takeWhile fun word => word == 0).length

/-- The first of the longest runs of zeros: where it begins, and its length. -/
def bestRun (words : List Nat) : Nat × Nat :=
  (List.range words.length).foldl
    (fun best base => if best.2 < runLength words base then (base, runLength words base) else best)
    (0, 0)

/-- `inet_ntop` for `AF_INET6`, on the bytes of an address. -/
def inetNtop6 (bytes : List UInt8) : List UInt8 :=
  let groups := words bytes
  let best := bestRun groups
  if best.2 < 2 then wordsText groups
  else if best = (0, 6) then 58 :: 58 :: inetNtop4 (bytes.drop 12)
  else if best = (0, 5) ∧ groups[5]? = some 65535 then
    58 :: 58 :: (numberText 16 65535 ++ 58 :: inetNtop4 (bytes.drop 12))
  else
    (if best.1 = 0 then [58] else groupsText (groups.take best.1)) ++
      58 :: wordsText (groups.drop (best.1 + best.2))

section Groups

theorem pton6Loop_digits {digits : List Nat} (src : List UInt8) (scan : Scan)
    (small : ∀ digit ∈ digits, digit < 16) (few : scan.seen + digits.length ≤ 4) :
    pton6Loop (digits.map digitByte ++ src) scan =
      pton6Loop src
        { scan with
          seen := scan.seen + digits.length
          val := readDigits 16 scan.val digits } := by
  induction digits generalizing scan with
  | nil => rfl
  | cons digit digits ih =>
      have value := digitValue_digitByte (small digit List.mem_cons_self)
      rw [List.length_cons] at few
      have room : scan.seen ≠ 4 := by omega
      simp only [List.map_cons, List.cons_append, pton6Loop, value, if_neg room]
      rw [ih]
      · simp only [readDigits, List.foldl_cons, List.length_cons, Nat.add_assoc,
          Nat.add_comm 1 digits.length]
      · exact fun digit member => small digit (List.mem_cons_of_mem _ member)
      · simp only
        omega

/-- A number is read as a whole. -/
theorem pton6Loop_number {base number : Nat} (large : 1 < base) (small : base ≤ 16)
    (short : (numeral base number).length ≤ 4) (src out : List UInt8) (colonp : Option Nat)
    (curtok : List UInt8) :
    ∃ seen val, seen ≠ 0 ∧ (base = 16 → val = number) ∧
      pton6Loop (numberText base number ++ src) ⟨out, colonp, curtok, 0, 0⟩ =
        pton6Loop src ⟨out, colonp, curtok, seen, val⟩ := by
  refine ⟨(numeral base number).length, readDigits 16 0 (numeral base number), ?_, ?_, ?_⟩
  · exact List.length_eq_zero_iff.not.mpr (numeral_ne_nil base number)
  · rintro rfl
    exact readDigits_numeral 16 number
  · rw [numberText, pton6Loop_digits]
    · simp only [Nat.zero_add]
    · intro digit member
      exact (lt_of_mem_numeral large member).trans_le small
    · simpa using short

theorem length_group {word : Nat} (small : word < 65536) : (numeral 16 word).length ≤ 4 :=
  length_numeral_le (by decide) (by decide) small

/-- A group with the colon behind it. -/
theorem pton6Loop_group {word : Nat} {src out : List UInt8} (colonp : Option Nat)
    (curtok : List UInt8) (small : word < 65536) (more : src ≠ [])
    (room : out.length + 2 ≤ 16) :
    pton6Loop (numberText 16 word ++ 58 :: src) ⟨out, colonp, curtok, 0, 0⟩ =
      pton6Loop src ⟨out ++ wordBytes word, colonp, src, 0, 0⟩ := by
  obtain ⟨seen, val, some, same, read⟩ := pton6Loop_number (by decide) (le_refl 16)
    (length_group small) (58 :: src) out colonp curtok
  obtain rfl := same rfl
  have colon : digitValue 58 = none := by decide
  rw [read]
  simp only [pton6Loop, colon, if_true, if_neg some, if_neg more, if_neg (Nat.not_lt.mpr room)]

theorem length_flatMap_wordBytes (words : List Nat) :
    (words.flatMap wordBytes).length = 2 * words.length := by
  induction words with
  | nil => rfl
  | cons word words ih =>
      rw [List.flatMap_cons, List.length_append, ih, List.length_cons]
      simp only [wordBytes, List.length_cons, List.length_nil]
      omega

/-- Groups with a colon behind each. -/
theorem pton6Loop_groups {groups : List Nat} {src : List UInt8} (colonp : Option Nat)
    (out curtok : List UInt8) (small : ∀ word ∈ groups, word < 65536) (more : src ≠ [])
    (room : out.length + 2 * groups.length ≤ 16) :
    ∃ token, pton6Loop (groupsText groups ++ src) ⟨out, colonp, curtok, 0, 0⟩ =
      pton6Loop src ⟨out ++ groups.flatMap wordBytes, colonp, token, 0, 0⟩ := by
  induction groups generalizing out curtok with
  | nil => exact ⟨curtok, by simp [groupsText]⟩
  | cons word groups ih =>
      rw [List.length_cons] at room
      obtain ⟨token, read⟩ := ih (out ++ wordBytes word) (groupsText groups ++ src)
        (fun word member => small word (List.mem_cons_of_mem _ member))
        (by simp only [wordBytes, List.length_append, List.length_cons, List.length_nil]; omega)
      refine ⟨token, ?_⟩
      have behind : groupsText groups ++ src ≠ [] := by simp [more]
      have split : groupsText (word :: groups) ++ src =
          numberText 16 word ++ 58 :: (groupsText groups ++ src) := by
        simp [groupsText]
      rw [split, pton6Loop_group colonp curtok (small word List.mem_cons_self) behind
        (by omega), read]
      simp only [List.flatMap_cons, List.append_assoc]

/-- Groups at the end of a text. -/
theorem pton6Loop_wordsText {groups : List Nat} (colonp : Option Nat)
    (out curtok : List UInt8) (small : ∀ word ∈ groups, word < 65536)
    (room : out.length + 2 * groups.length ≤ 16) :
    ∃ scan, pton6Loop (wordsText groups) ⟨out, colonp, curtok, 0, 0⟩ = some scan ∧
      scan.colonp = colonp ∧ scan.finished = some (out ++ groups.flatMap wordBytes) := by
  induction groups using wordsText.induct generalizing out curtok with
  | case1 => exact ⟨⟨out, colonp, curtok, 0, 0⟩, rfl, rfl, by simp [Scan.finished]⟩
  | case2 word =>
      obtain ⟨seen, val, some, same, read⟩ := pton6Loop_number (by decide) (le_refl 16)
        (length_group (small word List.mem_cons_self)) [] out colonp curtok
      obtain rfl := same rfl
      rw [List.append_nil] at read
      refine ⟨_, read, rfl, ?_⟩
      have fits : ¬ 16 < out.length + 2 := by
        rw [List.length_singleton] at room
        omega
      simp [Scan.finished, some, fits]
  | case3 word next groups ih =>
      simp only [List.length_cons] at room
      have more : wordsText (next :: groups) ≠ [] := by
        cases groups with
        | nil => exact numberText_ne_nil 16 next
        | cons other groups => simp [wordsText]
      obtain ⟨scan, read, kept, finished⟩ := ih (out ++ wordBytes word)
        (wordsText (next :: groups))
        (fun word member => small word (List.mem_cons_of_mem _ member))
        (by simp only [wordBytes, List.length_append, List.length_cons, List.length_nil]; omega)
      refine ⟨scan, ?_, kept, ?_⟩
      · rw [wordsText, pton6Loop_group colonp curtok (small word List.mem_cons_self) more
          (by omega)]
        exact read
      · rw [finished]
        simp only [List.flatMap_cons, List.append_assoc]

/-- The two colons. -/
theorem pton6Loop_colon (src out curtok : List UInt8) :
    pton6Loop (58 :: src) ⟨out, none, curtok, 0, 0⟩ =
      pton6Loop src ⟨out, some out.length, src, 0, 0⟩ := by
  have colon : digitValue 58 = none := by decide
  simp only [pton6Loop, colon, if_true]

/-- An IPv4 address at the end of a text. -/
theorem pton6Loop_inetNtop4 {bytes out : List UInt8} (colonp : Option Nat)
    (length : bytes.length = 4)
    (room : out.length + 4 ≤ 16) :
    ∃ scan, pton6Loop (inetNtop4 bytes) ⟨out, colonp, inetNtop4 bytes, 0, 0⟩ = some scan ∧
      scan.colonp = colonp ∧ scan.finished = some (out ++ bytes) := by
  obtain ⟨a, b, c, d, rfl⟩ : ∃ a b c d, bytes = [a, b, c, d] := by
    match bytes, length with
    | [a, b, c, d], _ => exact ⟨a, b, c, d, rfl⟩
  have whole := inetPton4_inetNtop4 length
  have short : (numeral 10 a.toNat).length ≤ 4 :=
    length_numeral_le (by decide) (by decide) (a.toNat_lt.trans (by decide))
  generalize text : inetNtop4 [a, b, c, d] = token at whole
  rw [inetNtop4_four] at text
  obtain ⟨seen, val, -, -, read⟩ := pton6Loop_number (by decide) (by decide) short
    (46 :: (numberText 10 b.toNat ++
      46 :: (numberText 10 c.toNat ++ 46 :: (numberText 10 d.toNat ++ [])))) out colonp token
  have dot : digitValue 46 = none := by decide
  have noColon : (46 : UInt8) ≠ 58 := by decide
  refine ⟨⟨out ++ [a, b, c, d], colonp, token, 0, val⟩, ?_, rfl, by simp [Scan.finished]⟩
  rw [text] at read
  rw [read]
  simp only [pton6Loop, dot, if_neg noColon, true_and, if_pos room, whole, Option.map_some]

end Groups

section RoundTrip

theorem words_lt (bytes : List UInt8) : ∀ word ∈ words bytes, word < 65536 := by
  induction bytes using words.induct with
  | case1 high low bytes ih =>
      intro word member
      rcases List.mem_cons.mp member with rfl | member
      · have highSmall := high.toNat_lt
        have lowSmall := low.toNat_lt
        omega
      · exact ih word member
  | case2 bytes short =>
      intro word member
      rw [words.eq_2 bytes short] at member
      contradiction

/-- The bytes of the groups of an address. -/
theorem flatMap_words (count : Nat) {bytes : List UInt8} (length : bytes.length = 2 * count) :
    (words bytes).length = count ∧ (words bytes).flatMap wordBytes = bytes := by
  induction count generalizing bytes with
  | zero =>
      obtain rfl := List.length_eq_zero_iff.mp length
      exact ⟨rfl, rfl⟩
  | succ count ih =>
      obtain ⟨high, low, bytes, rfl⟩ : ∃ high low rest, bytes = high :: low :: rest := by
        match bytes, length with
        | high :: low :: rest, _ => exact ⟨high, low, rest, rfl⟩
      have shorter : bytes.length = 2 * count := by simpa [Nat.mul_add] using length
      obtain ⟨counted, same⟩ := ih shorter
      have lowSmall := low.toNat_lt
      have first : (high.toNat * 256 + low.toNat) / 256 = high.toNat := by omega
      have second : (high.toNat * 256 + low.toNat) % 256 = low.toNat := by omega
      constructor
      · rw [words, List.length_cons, counted]
      · rw [words, List.flatMap_cons, same, wordBytes, first, second, UInt8.ofNat_toNat,
          UInt8.ofNat_toNat]
        rfl

/-- What is taken for the longest run are zeros. -/
theorem bestRun_le (groups : List Nat) :
    (bestRun groups).2 ≤ runLength groups (bestRun groups).1 := by
  unfold bestRun
  have kept (bases : List Nat) (best : Nat × Nat) (zeros : best.2 ≤ runLength groups best.1) :
      let last := bases.foldl (fun best base =>
        if best.2 < runLength groups base then (base, runLength groups base) else best) best
      last.2 ≤ runLength groups last.1 := by
    induction bases generalizing best with
    | nil => exact zeros
    | cons base bases ih =>
        apply ih
        by_cases longer : best.2 < runLength groups base
        · simp only [if_pos longer]
          exact le_refl _
        · simp only [if_neg longer]
          exact zeros
  exact kept _ _ (Nat.zero_le _)

theorem take_of_le_runLength {groups : List Nat} {base length : Nat}
    (zeros : length ≤ runLength groups base) :
    (groups.drop base).take length = List.replicate length 0 := by
  have front := List.takeWhile_prefix (l := groups.drop base) (fun word => word == 0)
  obtain ⟨rest, split⟩ := front
  have taken : (groups.drop base).take length =
      ((groups.drop base).takeWhile fun word => word == 0).take length := by
    conv_lhs => rw [← split]
    exact List.take_append_of_le_length zeros
  rw [taken, List.eq_replicate_iff]
  constructor
  · rw [List.length_take]
    exact Nat.min_eq_left zeros
  · intro word member
    simpa using List.mem_takeWhile_imp (List.mem_of_mem_take member)

/-- An address around the run that its text leaves out. -/
theorem eq_around_run {groups : List Nat} {base length : Nat}
    (zeros : length ≤ runLength groups base) :
    groups = groups.take base ++ (List.replicate length 0 ++ groups.drop (base + length)) := by
  have back := (List.take_append_drop length (groups.drop base)).symm
  rw [take_of_le_runLength zeros, List.drop_drop] at back
  conv_lhs => rw [← List.take_append_drop base groups, back]

theorem flatMap_zeros (length : Nat) :
    (List.replicate length 0).flatMap wordBytes = List.replicate (2 * length) 0 := by
  induction length with
  | zero => rfl
  | succ length ih =>
      rw [List.replicate_succ, List.flatMap_cons, ih, Nat.mul_add]
      rfl

theorem spread_some (before after : List UInt8) {gap : Nat} (positive : 0 < gap)
    (length : before.length + gap + after.length = 16) :
    spread (some before.length) (before ++ after) =
      some (before ++ List.replicate gap 0 ++ after) := by
  have short : (before ++ after).length ≠ 16 := by
    rw [List.length_append]
    omega
  have rest : 16 - (before ++ after).length = gap := by
    rw [List.length_append]
    omega
  rw [spread, if_neg short, rest, List.take_left, List.drop_left]

theorem inetPton6_digit {digit : Nat} (small : digit < 16) (src : List UInt8) :
    inetPton6 (digitByte digit :: src) = pton6From (digitByte digit :: src) := by
  have noColon : digitByte digit ≠ 58 := by
    interval_cases digit <;> decide
  unfold inetPton6
  split
  · contradiction
  · rename_i same
    exact absurd (List.cons.inj same).1 noColon
  · rename_i same
    exact absurd (List.cons.inj same).1 noColon
  · rename_i same
    rw [same]

/-- A text that starts with a number. -/
theorem inetPton6_number {base number : Nat} (large : 1 < base) (small : base ≤ 16)
    (src : List UInt8) :
    inetPton6 (numberText base number ++ src) = pton6From (numberText base number ++ src) := by
  unfold numberText
  cases digits : numeral base number with
  | nil => exact absurd digits (numeral_ne_nil base number)
  | cons first rest =>
      have member : first ∈ numeral base number := digits ▸ List.mem_cons_self
      exact inetPton6_digit ((lt_of_mem_numeral large member).trans_le small) _

/-- A text without two colons. -/
theorem inetPton6_wordsText {bytes : List UInt8} (length : bytes.length = 16) :
    inetPton6 (wordsText (words bytes)) = some bytes := by
  obtain ⟨count, same⟩ := flatMap_words 8 length
  have small := words_lt bytes
  obtain ⟨scan, read, noColons, finished⟩ := pton6Loop_wordsText none []
    (wordsText (words bytes)) small (by rw [count]; decide)
  rw [List.nil_append, same] at finished
  have whole : pton6From (wordsText (words bytes)) = some bytes := by
    rw [pton6From, read, Option.bind_some, finished, Option.bind_some, noColons, spread,
      if_pos length]
  rw [← whole]
  cases groups : words bytes with
  | nil =>
      rw [groups] at count
      contradiction
  | cons word rest =>
      cases rest with
      | nil =>
          rw [groups, List.length_singleton] at count
          contradiction
      | cons next rest => exact inetPton6_number (by decide) (le_refl 16) _

/-- A text with two colons in place of a run of zeros. -/
theorem inetPton6_colons {bytes : List UInt8} {base run : Nat} (length : bytes.length = 16)
    (positive : 0 < run) (zeros : run ≤ runLength (words bytes) base) :
    inetPton6 ((if base = 0 then [58] else groupsText ((words bytes).take base)) ++
      58 :: wordsText ((words bytes).drop (base + run))) = some bytes := by
  obtain ⟨count, same⟩ := flatMap_words 8 length
  have small := words_lt bytes
  have split := eq_around_run zeros
  generalize beforeEq : (words bytes).take base = before at split ⊢
  generalize afterEq : (words bytes).drop (base + run) = after at split ⊢
  have total : before.length + (run + after.length) = 8 := by
    rw [← count, split]
    simp
  have parts : bytes = before.flatMap wordBytes ++ List.replicate (2 * run) 0 ++
      after.flatMap wordBytes := by
    rw [← same, split]
    simp only [List.flatMap_append, flatMap_zeros, List.append_assoc]
  have smallBefore : ∀ word ∈ before, word < 65536 := fun word member =>
    small word (by rw [split]; exact List.mem_append_left _ member)
  have smallAfter : ∀ word ∈ after, word < 65536 := fun word member =>
    small word (by
      rw [split]
      exact List.mem_append_right _ (List.mem_append_right _ member))
  have lengthBefore := length_flatMap_wordBytes before
  have lengthAfter := length_flatMap_wordBytes after
  obtain ⟨scan, read, colons, finished⟩ :=
    pton6Loop_wordsText (some (before.flatMap wordBytes).length)
      (before.flatMap wordBytes) (wordsText after) smallAfter (by omega)
  have filled := spread_some (before.flatMap wordBytes) (after.flatMap wordBytes)
    (show 0 < 2 * run by omega) (by omega)
  obtain ⟨token, groups⟩ := pton6Loop_groups none []
    (groupsText before ++ 58 :: wordsText after) smallBefore
    (List.cons_ne_nil 58 (wordsText after))
    (by rw [List.length_nil]; omega)
  have whole : pton6From (groupsText before ++ 58 :: wordsText after) = some bytes := by
    rw [pton6From, groups, List.nil_append, pton6Loop_colon, read, Option.bind_some, finished,
      Option.bind_some, colons, filled, ← parts]
  by_cases first : base = 0
  · obtain rfl : before = [] := by
      rw [← beforeEq, first, List.take_zero]
    rw [if_pos first]
    exact whole
  · rw [if_neg first, ← whole]
    cases before with
    | nil =>
        have short : ((words bytes).take base).length = 0 := by
          rw [beforeEq]
          rfl
        rw [List.length_take, count] at short
        omega
    | cons word before =>
        simp only [groupsText, List.flatMap_cons, List.append_assoc]
        exact inetPton6_number (by decide) (le_refl 16) _

/-- A text that ends with an IPv4 address. -/
theorem inetPton6_dotted {bytes : List UInt8} (length : bytes.length = 16)
    (middle text : List UInt8) (short : middle.length ≤ 10)
    (front : bytes.take 12 = List.replicate (12 - middle.length) 0 ++ middle)
    (read : pton6Loop (text ++ inetNtop4 (bytes.drop 12))
        ⟨[], some 0, text ++ inetNtop4 (bytes.drop 12), 0, 0⟩ =
      pton6Loop (inetNtop4 (bytes.drop 12))
        ⟨middle, some 0, inetNtop4 (bytes.drop 12), 0, 0⟩) :
    inetPton6 (58 :: 58 :: (text ++ inetNtop4 (bytes.drop 12))) = some bytes := by
  have back : (bytes.drop 12).length = 4 := by
    rw [List.length_drop, length]
  obtain ⟨scan, dotted, colons, finished⟩ :=
    pton6Loop_inetNtop4 (some 0) back (show middle.length + 4 ≤ 16 by omega)
  have filled := spread_some [] (middle ++ bytes.drop 12)
    (show 0 < 12 - middle.length by omega)
    (by rw [List.length_nil, List.length_append, back]; omega)
  rw [List.nil_append, List.nil_append, ← List.append_assoc, ← front, List.take_append_drop]
    at filled
  rw [inetPton6, pton6From, pton6Loop_colon, List.length_nil, read, dotted, Option.bind_some,
    finished, Option.bind_some, colons]
  exact filled

theorem take_bytes_of_groups {bytes : List UInt8} {run : Nat} (length : bytes.length = 16)
    (zeros : run ≤ runLength (words bytes) 0) :
    bytes.take (2 * run) = List.replicate (2 * run) 0 := by
  obtain ⟨-, same⟩ := flatMap_words 8 length
  have split := eq_around_run zeros
  rw [List.take_zero, List.nil_append] at split
  have parts : bytes = List.replicate (2 * run) 0 ++
      ((words bytes).drop (0 + run)).flatMap wordBytes := by
    rw [← flatMap_zeros, ← List.flatMap_append, ← split, same]
  conv_lhs => rw [parts]
  exact List.take_left' List.length_replicate

/-- The bytes of one group. -/
theorem take_drop_of_getElem? {bytes : List UInt8} {index word : Nat}
    (group : (words bytes)[index]? = some word) :
    (bytes.drop (2 * index)).take 2 = wordBytes word := by
  induction index generalizing bytes with
  | zero =>
      unfold words at group
      split at group
      · rename_i high low rest
        obtain rfl := Option.some.inj group
        have lowSmall := low.toNat_lt
        have first : (high.toNat * 256 + low.toNat) / 256 = high.toNat := by omega
        have second : (high.toNat * 256 + low.toNat) % 256 = low.toNat := by omega
        rw [wordBytes, first, second, UInt8.ofNat_toNat, UInt8.ofNat_toNat]
        rfl
      · contradiction
  | succ index ih =>
      unfold words at group
      split at group
      · exact ih group
      · contradiction

/-- IPv6 addresses are read as they are written. -/
theorem inetPton6_inetNtop6 {bytes : List UInt8} (length : bytes.length = 16) :
    inetPton6 (inetNtop6 bytes) = some bytes := by
  have zeros := bestRun_le (words bytes)
  unfold inetNtop6
  simp only
  split
  · exact inetPton6_wordsText length
  · rename_i long
    split
    · rename_i six
      rw [six] at zeros
      have front := take_bytes_of_groups length zeros
      exact inetPton6_dotted length [] [] (Nat.zero_le 10)
        (front.trans (List.append_nil _).symm) rfl
    · split
      · rename_i five
        obtain ⟨five, mapped⟩ := five
        rw [five] at zeros
        have front := take_bytes_of_groups length zeros
        have twelve : bytes.take 12 = List.replicate 10 0 ++ wordBytes 65535 := by
          rw [← take_drop_of_getElem? mapped]
          exact (List.take_add (i := 10) (j := 2)).trans (congrArg (· ++ _) front)
        have group := pton6Loop_group (some 0)
          (numberText 16 65535 ++ 58 :: inetNtop4 (bytes.drop 12))
          (show 65535 < 65536 by decide)
          (inetNtop4_ne_nil (bytes.drop 12) (by rw [List.length_drop, length]))
          (show ([] : List UInt8).length + 2 ≤ 16 by decide)
        have text : numberText 16 65535 ++ 58 :: inetNtop4 (bytes.drop 12) =
            numberText 16 65535 ++ [58] ++ inetNtop4 (bytes.drop 12) := by
          simp
        rw [text] at group ⊢
        exact inetPton6_dotted length _ _ (by decide) twelve group
      · exact inetPton6_colons length (by omega) zeros

end RoundTrip

section Bytes

/-- The bytes of the text of an address. -/
def isTextByte (byte : UInt8) : Bool :=
  (digitValue byte).isSome || byte == 58 || byte == 46

theorem isTextByte_numberText (number : Nat) {base : Nat} (large : 1 < base)
    (small : base ≤ 16) :
    ∀ byte ∈ numberText base number, isTextByte byte = true ∧ byte ≠ 58 := by
  intro byte member
  obtain ⟨digit, digitMember, rfl⟩ := List.mem_map.mp member
  have below : digit < 16 := (lt_of_mem_numeral large digitMember).trans_le small
  interval_cases digit <;> decide

theorem isTextByte_inetNtop4 {bytes : List UInt8} (length : bytes.length = 4) :
    ∀ byte ∈ inetNtop4 bytes, isTextByte byte = true ∧ byte ≠ 58 := by
  obtain ⟨a, b, c, d, rfl⟩ : ∃ a b c d, bytes = [a, b, c, d] := by
    match bytes, length with
    | [a, b, c, d], _ => exact ⟨a, b, c, d, rfl⟩
  have number (value : Nat) := isTextByte_numberText value (show 1 < 10 by decide)
    (show 10 ≤ 16 by decide)
  have dot : isTextByte 46 = true ∧ (46 : UInt8) ≠ 58 := by decide
  rw [inetNtop4_four]
  intro byte member
  simp only [List.mem_append, List.mem_cons, List.not_mem_nil, or_false] at member
  rcases member with member | rfl | member | rfl | member | rfl | member
  · exact number _ byte member
  · exact dot
  · exact number _ byte member
  · exact dot
  · exact number _ byte member
  · exact dot
  · exact number _ byte member

theorem isTextByte_wordsText (groups : List Nat) :
    ∀ byte ∈ wordsText groups, isTextByte byte = true := by
  have number (value : Nat) (byte : UInt8) (member : byte ∈ numberText 16 value) :=
    (isTextByte_numberText _ (by decide) (le_refl 16) byte member).1
  induction groups using wordsText.induct with
  | case1 => simp [wordsText]
  | case2 word => exact number word
  | case3 word next groups ih =>
      intro byte member
      rw [wordsText] at member
      rcases List.mem_append.mp member with member | member
      · exact number word byte member
      · rcases List.mem_cons.mp member with rfl | member
        · decide
        · exact ih byte member

theorem isTextByte_groupsText (groups : List Nat) :
    ∀ byte ∈ groupsText groups, isTextByte byte = true := by
  intro byte member
  obtain ⟨word, -, inside⟩ := List.mem_flatMap.mp member
  rcases List.mem_append.mp inside with inside | inside
  · exact (isTextByte_numberText _ (by decide) (le_refl 16) byte inside).1
  · obtain rfl := List.mem_singleton.mp inside
    decide

/-- The text of an IPv6 address has the bytes of such a text only. -/
theorem isTextByte_inetNtop6 {bytes : List UInt8} (length : bytes.length = 16) :
    ∀ byte ∈ inetNtop6 bytes, isTextByte byte = true := by
  have colon : isTextByte 58 = true := by decide
  have back : (bytes.drop 12).length = 4 := by rw [List.length_drop, length]
  have dotted (byte : UInt8) (member : byte ∈ inetNtop4 (bytes.drop 12)) :=
    (isTextByte_inetNtop4 back byte member).1
  unfold inetNtop6
  simp only
  split
  · exact isTextByte_wordsText _
  · split
    · intro byte member
      simp only [List.mem_cons] at member
      rcases member with rfl | rfl | member
      · exact colon
      · exact colon
      · exact dotted byte member
    · split
      · intro byte member
        simp only [List.mem_cons, List.mem_append] at member
        rcases member with rfl | rfl | member | rfl | member
        · exact colon
        · exact colon
        · exact (isTextByte_numberText _ (by decide) (le_refl 16) byte member).1
        · exact colon
        · exact dotted byte member
      · intro byte member
        rcases List.mem_append.mp member with member | member
        · split at member
          · obtain rfl := List.mem_singleton.mp member
            exact colon
          · exact isTextByte_groupsText _ byte member
        · rcases List.mem_cons.mp member with rfl | member
          · exact colon
          · exact isTextByte_wordsText _ byte member

theorem length_inetNtop4_le {bytes : List UInt8} (length : bytes.length = 4) :
    (inetNtop4 bytes).length ≤ 15 := by
  obtain ⟨a, b, c, d, rfl⟩ : ∃ a b c d, bytes = [a, b, c, d] := by
    match bytes, length with
    | [a, b, c, d], _ => exact ⟨a, b, c, d, rfl⟩
  have number (byte : UInt8) : (numberText 10 byte.toNat).length ≤ 3 := by
    rw [numberText, List.length_map]
    exact length_numeral_le (by decide) (by decide) (byte.toNat_lt.trans (by decide))
  have first := number a
  have second := number b
  have third := number c
  have fourth := number d
  rw [inetNtop4_four]
  simp only [List.length_append, List.length_cons, List.length_nil]
  omega

theorem length_group_le {word : Nat} (small : word < 65536) :
    (numberText 16 word).length ≤ 4 := by
  rw [numberText, List.length_map]
  exact length_group small

theorem length_wordsText_le {groups : List Nat} (small : ∀ word ∈ groups, word < 65536) :
    (wordsText groups).length ≤ 5 * groups.length := by
  induction groups using wordsText.induct with
  | case1 => simp [wordsText]
  | case2 word =>
      have short := length_group_le (small word List.mem_cons_self)
      rw [wordsText, List.length_singleton]
      omega
  | case3 word next groups ih =>
      have short := length_group_le (small word List.mem_cons_self)
      have rest := ih fun word member => small word (List.mem_cons_of_mem _ member)
      rw [wordsText, List.length_append, List.length_cons, List.length_cons]
      omega

theorem length_groupsText_le {groups : List Nat} (small : ∀ word ∈ groups, word < 65536) :
    (groupsText groups).length ≤ 5 * groups.length := by
  induction groups with
  | nil => simp [groupsText]
  | cons word groups ih =>
      have short := length_group_le (small word List.mem_cons_self)
      have rest := ih fun word member => small word (List.mem_cons_of_mem _ member)
      have split : groupsText (word :: groups) =
          numberText 16 word ++ [58] ++ groupsText groups := rfl
      rw [split, List.length_append, List.length_append, List.length_singleton,
        List.length_cons]
      omega

/-- The text of an IPv6 address is not long. -/
theorem length_inetNtop6_le {bytes : List UInt8} (length : bytes.length = 16) :
    (inetNtop6 bytes).length ≤ 41 := by
  obtain ⟨count, -⟩ := flatMap_words 8 length
  have small := words_lt bytes
  have dotted := length_inetNtop4_le (show (bytes.drop 12).length = 4 by
    rw [List.length_drop, length])
  have mapped := length_group_le (show 65535 < 65536 by decide)
  have taken (base : Nat) : (groupsText ((words bytes).take base)).length ≤ _ :=
    length_groupsText_le fun word member => small word (List.mem_of_mem_take member)
  have dropped (base : Nat) : (wordsText ((words bytes).drop base)).length ≤ _ :=
    length_wordsText_le fun word member => small word (List.mem_of_mem_drop member)
  simp only [List.length_take, List.length_drop, count] at taken dropped
  unfold inetNtop6
  simp only
  split
  · have whole := dropped 0
    rw [List.drop_zero] at whole
    omega
  · split
    · rw [List.length_cons, List.length_cons]
      omega
    · split
      · rw [List.length_cons, List.length_cons, List.length_append, List.length_cons]
        omega
      · have before := taken (bestRun (words bytes)).1
        have behind := dropped ((bestRun (words bytes)).1 + (bestRun (words bytes)).2)
        rw [List.length_append, List.length_cons]
        split
        · rw [List.length_singleton]
          omega
        · omega

theorem count_numberText (number : Nat) : (numberText 16 number).count 58 = 0 := by
  apply List.count_eq_zero.mpr
  intro member
  exact (isTextByte_numberText _ (by decide) (le_refl 16) 58 member).2 rfl

theorem count_wordsText (word : Nat) (groups : List Nat) :
    (wordsText (word :: groups)).count 58 = groups.length := by
  induction groups generalizing word with
  | nil => exact count_numberText word
  | cons next groups ih =>
      rw [wordsText, List.count_append, List.count_cons_self, count_numberText, ih,
        List.length_cons, Nat.zero_add]

/-- The text of an IPv6 address has two colons at least. -/
theorem two_le_count_inetNtop6 {bytes : List UInt8} (length : bytes.length = 16) :
    2 ≤ (inetNtop6 bytes).count 58 := by
  obtain ⟨count, -⟩ := flatMap_words 8 length
  unfold inetNtop6
  simp only
  split
  · cases groups : words bytes with
    | nil =>
        rw [groups] at count
        contradiction
    | cons word rest =>
        rw [groups, List.length_cons] at count
        rw [count_wordsText]
        omega
  · split
    · rw [List.count_cons_self, List.count_cons_self]
      omega
    · split
      · rw [List.count_cons_self, List.count_cons_self]
        omega
      · rw [List.count_append, List.count_cons_self]
        split
        · rw [List.count_singleton_self]
          omega
        · rename_i later
          have positive :
              1 ≤ (groupsText ((words bytes).take (bestRun (words bytes)).1)).count 58 := by
            cases front : (words bytes).take (bestRun (words bytes)).1 with
            | nil =>
                have short := congrArg List.length front
                rw [List.length_take, count, List.length_nil] at short
                omega
            | cons word front =>
                simp only [groupsText, List.flatMap_cons, List.count_append,
                  List.count_singleton_self]
                omega
          omega

/-- What is read as an IPv4 address has digits and dots only. -/
theorem digits_of_pton4Loop {src octets bytes : List UInt8} {current : Option Nat}
    (read : pton4Loop src octets current = some bytes) :
    ∀ byte ∈ src, isdigit byte = true ∨ byte = 46 := by
  induction src generalizing octets current with
  | nil => simp
  | cons first src ih =>
      intro byte member
      unfold pton4Loop at read
      by_cases digit : isdigit first
      · rw [if_pos digit] at read
        have later : ∀ byte ∈ src, isdigit byte = true ∨ byte = 46 := by
          split at read
          · exact ih read
          · split_ifs at read
            exact ih read
        rcases List.mem_cons.mp member with rfl | member
        · exact Or.inl digit
        · exact later byte member
      · rw [if_neg digit] at read
        by_cases dot : first = 46
        · rw [if_pos dot] at read
          have later : ∀ byte ∈ src, isdigit byte = true ∨ byte = 46 := by
            cases current with
            | none => contradiction
            | some value =>
                simp only at read
                split_ifs at read
                exact ih read
          rcases List.mem_cons.mp member with rfl | member
          · exact Or.inr dot
          · exact later byte member
        · rw [if_neg dot] at read
          contradiction

/-- An IPv4 address with more behind a colon is no IPv6 address. -/
theorem inetPton6_inetNtop4 {bytes : List UInt8} (length : bytes.length = 4) (src : List UInt8) :
    inetPton6 (inetNtop4 bytes ++ 58 :: src) = none := by
  obtain ⟨a, b, c, d, rfl⟩ : ∃ a b c d, bytes = [a, b, c, d] := by
    match bytes, length with
    | [a, b, c, d], _ => exact ⟨a, b, c, d, rfl⟩
  have refused : inetPton4 (inetNtop4 [a, b, c, d] ++ 58 :: src) = none := by
    rw [Option.eq_none_iff_forall_ne_some]
    intro read same
    have bad := digits_of_pton4Loop same 58 (by simp)
    exact absurd bad (by decide)
  have short : (numeral 10 a.toNat).length ≤ 4 :=
    length_numeral_le (by decide) (by decide) (a.toNat_lt.trans (by decide))
  have dot : digitValue 46 = none := by decide
  have noColon : (46 : UInt8) ≠ 58 := by decide
  generalize text : inetNtop4 [a, b, c, d] ++ 58 :: src = token at refused ⊢
  rw [inetNtop4_four, List.append_assoc] at text
  rw [← text, inetPton6_number (by decide) (by decide), pton6From, text]
  obtain ⟨seen, val, -, -, read⟩ := pton6Loop_number (by decide) (by decide) short
    ((46 :: (numberText 10 b.toNat ++
      46 :: (numberText 10 c.toNat ++ 46 :: (numberText 10 d.toNat ++ [])))) ++ 58 :: src) []
    none token
  rw [text] at read
  rw [read]
  simp only [List.cons_append, pton6Loop, dot, if_neg noColon, true_and, refused,
    Option.map_none, ite_self, Option.bind_none]

end Bytes

end Tunprox.InetText
