import Mathlib.Data.List.Basic
import Mathlib.Tactic.Common

/-!
# Text in UTF-8

The bytes of a text, and where the text can be cut at the byte of an ASCII character: the bytes
of all other characters are above them.
-/

namespace Tunprox.Utf8Text

/-- The bytes of the characters. -/
def utf8 (chars : List Char) : List UInt8 :=
  chars.flatMap String.utf8EncodeChar

@[simp]
theorem utf8_nil : utf8 [] = [] :=
  rfl

@[simp]
theorem utf8_cons (char : Char) (chars : List Char) :
    utf8 (char :: chars) = String.utf8EncodeChar char ++ utf8 chars :=
  rfl

@[simp]
theorem utf8_append (first second : List Char) :
    utf8 (first ++ second) = utf8 first ++ utf8 second :=
  List.flatMap_append

/-- No character's bytes begin with those of another. -/
theorem encode_append_inj {first second : Char} {rest rest' : List UInt8}
    (same : String.utf8EncodeChar first ++ rest = String.utf8EncodeChar second ++ rest') :
    first = second ∧ rest = rest' := by
  have decoded := congrArg (fun bytes => (List.toByteArray bytes).utf8DecodeChar? 0) same
  simp only [List.toByteArray_append, ByteArray.utf8DecodeChar?_utf8EncodeChar_append,
    Option.some.injEq] at decoded
  subst decoded
  exact ⟨rfl, List.append_cancel_left same⟩

/-- The characters are told apart from the first on. -/
theorem exists_of_utf8_append {chars first : List Char} {rest : List UInt8}
    (same : utf8 chars = utf8 first ++ rest) :
    ∃ more, chars = first ++ more ∧ utf8 more = rest := by
  induction first generalizing chars with
  | nil => exact ⟨chars, rfl, same⟩
  | cons char first ih =>
      cases chars with
      | nil =>
          simp only [utf8_nil, utf8_cons, List.append_assoc] at same
          have empty := (List.append_eq_nil_iff.mp same.symm).1
          exact absurd empty String.utf8EncodeChar_ne_nil
      | cons other chars =>
          simp only [utf8_cons, List.append_assoc] at same
          obtain ⟨rfl, sameRest⟩ := encode_append_inj same
          obtain ⟨more, rfl, ends⟩ := ih sameRest
          exact ⟨more, rfl, ends⟩

theorem utf8_injective : Function.Injective utf8 := by
  intro first second same
  have extended : utf8 first = utf8 second ++ [] := by rw [same, List.append_nil]
  obtain ⟨more, rfl, nothing⟩ := exists_of_utf8_append extended
  cases more with
  | nil => exact List.append_nil second
  | cons char more =>
      exact absurd (List.append_eq_nil_iff.mp nothing).1 String.utf8EncodeChar_ne_nil

theorem high_ofNat {value : Nat} (lower : 128 ≤ value) (upper : value < 256) :
    128 ≤ UInt8.ofNat value := by
  rw [UInt8.le_iff_toNat_le, UInt8.toNat_ofNat_of_lt' upper]
  exact lower

/-- An ASCII character is one byte, and all bytes of another are above. -/
theorem encode_cases (char : Char) :
    (String.utf8EncodeChar char = [UInt8.ofNat char.toNat] ∧ char.toNat < 128) ∨
      ∀ byte ∈ String.utf8EncodeChar char, 128 ≤ byte := by
  unfold String.utf8EncodeChar
  simp only
  split
  · rename_i small
    exact .inl ⟨rfl, Nat.lt_succ_of_le small⟩
  · right
    split
    · simp only [List.forall_mem_cons, List.not_mem_nil, false_implies, implies_true, and_true]
      exact ⟨high_ofNat (by omega) (by omega), high_ofNat (by omega) (by omega)⟩
    · split
      · simp only [List.forall_mem_cons, List.not_mem_nil, false_implies, implies_true, and_true]
        exact ⟨high_ofNat (by omega) (by omega), high_ofNat (by omega) (by omega),
          high_ofNat (by omega) (by omega)⟩
      · simp only [List.forall_mem_cons, List.not_mem_nil, false_implies, implies_true, and_true]
        exact ⟨high_ofNat (by omega) (by omega), high_ofNat (by omega) (by omega),
          high_ofNat (by omega) (by omega), high_ofNat (by omega) (by omega)⟩

/-- The character of an ASCII byte. -/
theorem char_of_encode {char : Char} {byte : UInt8} (low : byte < 128)
    (single : String.utf8EncodeChar char = [byte]) : char = Char.ofNat byte.toNat := by
  rcases encode_cases char with ⟨encoded, small⟩ | high
  · rw [encoded] at single
    obtain ⟨rfl, -⟩ := List.cons.inj single
    rw [UInt8.toNat_ofNat_of_lt' (Nat.lt_trans small (by decide)), Char.ofNat_toNat]
  · have above := high byte (by rw [single]; exact List.mem_singleton_self byte)
    exact absurd above (UInt8.not_le.mpr low)

theorem encode_ofNat : ∀ value < 128,
    String.utf8EncodeChar (Char.ofNat value) = [UInt8.ofNat value] := by
  decide

/-- The characters of ASCII bytes. -/
def asciiChars (bytes : List UInt8) : List Char :=
  bytes.map fun byte => Char.ofNat byte.toNat

theorem utf8_asciiChars {bytes : List UInt8} (low : ∀ byte ∈ bytes, byte < 128) :
    utf8 (asciiChars bytes) = bytes := by
  induction bytes with
  | nil => rfl
  | cons byte bytes ih =>
      rw [List.forall_mem_cons] at low
      have small : byte.toNat < 128 := UInt8.lt_iff_toNat_lt.mp low.1
      rw [asciiChars, List.map_cons, utf8_cons, encode_ofNat _ small, UInt8.ofNat_toNat]
      exact congrArg (byte :: ·) (ih low.2)

end Tunprox.Utf8Text
