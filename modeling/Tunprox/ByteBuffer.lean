import Mathlib.Data.List.Basic
import Mathlib.Tactic.Ring

/-!
# Buffers of bytes

Memory as a list of bytes: loads, stores and moves that fail outside of it, numbers of a
fixed width with the low byte first, and strings that end at their zero byte.
-/

namespace Tunprox.ByteBuffer

/-- `width` bytes of the number, the low one first. -/
def littleEndian : Nat → Nat → List UInt8
  | 0, _ => []
  | width + 1, value => UInt8.ofNat value :: littleEndian width (value / 256)

/-- The number that the bytes stand for, the low one first. -/
def ofLittleEndian : List UInt8 → Nat
  | [] => 0
  | byte :: bytes => byte.toNat + 256 * ofLittleEndian bytes

@[simp]
theorem length_littleEndian (width value : Nat) : (littleEndian width value).length = width := by
  induction width generalizing value with
  | zero => rfl
  | succ width ih => simp only [littleEndian, List.length_cons, ih]

theorem ofLittleEndian_littleEndian (width value : Nat) :
    ofLittleEndian (littleEndian width value) = value % 256 ^ width := by
  induction width generalizing value with
  | zero => simp [littleEndian, ofLittleEndian, Nat.mod_one]
  | succ width ih =>
      simp only [littleEndian, ofLittleEndian, ih]
      have low : (UInt8.ofNat value).toNat = value % 256 := by
        simp
      rw [low, Nat.pow_succ, Nat.mul_comm (256 ^ width) 256, Nat.mod_mul]

/-- Numbers that fit are read back. -/
theorem ofLittleEndian_of_lt {width value : Nat} (fits : value < 256 ^ width) :
    ofLittleEndian (littleEndian width value) = value := by
  rw [ofLittleEndian_littleEndian, Nat.mod_eq_of_lt fits]

theorem ofLittleEndian_lt (bytes : List UInt8) : ofLittleEndian bytes < 256 ^ bytes.length := by
  induction bytes with
  | nil => exact Nat.one_pos
  | cons byte bytes ih =>
      have low := byte.toNat_lt
      rw [ofLittleEndian, List.length_cons, Nat.pow_succ]
      omega

/-- The `count` bytes at the offset. -/
def load (buffer : List UInt8) (offset count : Nat) : Option (List UInt8) :=
  if offset + count ≤ buffer.length then some ((buffer.drop offset).take count) else none

def loadNumber (buffer : List UInt8) (offset width : Nat) : Option Nat :=
  (load buffer offset width).map ofLittleEndian

def store (buffer : List UInt8) (offset : Nat) (data : List UInt8) : Option (List UInt8) :=
  if offset + data.length ≤ buffer.length then
    some (buffer.take offset ++ data ++ buffer.drop (offset + data.length))
  else none

/-- `memmove`, whose source and target may overlap. -/
def memmove (buffer : List UInt8) (target source count : Nat) : Option (List UInt8) :=
  (load buffer source count).bind (store buffer target)

theorem load_of_drop {buffer data after : List UInt8} {offset : Nat}
    (inside : offset ≤ buffer.length) (split : buffer.drop offset = data ++ after) :
    load buffer offset data.length = some data := by
  have lengths : (buffer.drop offset).length = data.length + after.length := by
    rw [split, List.length_append]
  rw [List.length_drop] at lengths
  rw [load, if_pos (by omega), split, List.take_left]

theorem drop_append_of_length {before after : List UInt8} {offset : Nat}
    (offsetEq : before.length = offset) : (before ++ after).drop offset = after := by
  rw [← offsetEq, List.drop_left]

theorem loadNumber_append {before after : List UInt8} {offset width value : Nat}
    (offsetEq : before.length = offset) (fits : value < 256 ^ width) :
    loadNumber (before ++ (littleEndian width value ++ after)) offset width =
      some value := by
  have inside : offset ≤ (before ++ (littleEndian width value ++ after)).length := by
    rw [List.length_append]
    omega
  have loaded := load_of_drop inside (drop_append_of_length offsetEq)
  rw [length_littleEndian] at loaded
  rw [loadNumber, loaded, Option.map_some, ofLittleEndian_of_lt fits]

/-- What is stored behind the written part of a buffer. -/
theorem store_append {written rest data : List UInt8} (room : data.length ≤ rest.length) :
    store (written ++ rest) written.length data =
      some (written ++ data ++ rest.drop data.length) := by
  have fits : written.length + data.length ≤ (written ++ rest).length := by
    rw [List.length_append]
    omega
  rw [store, if_pos fits, List.take_left, List.drop_append]
  have none : written.drop (written.length + data.length) = [] :=
    List.drop_eq_nil_of_le (by omega)
  have offset : written.length + data.length - written.length = data.length := by omega
  rw [none, offset, List.nil_append]

theorem length_store {buffer data stored : List UInt8} {offset : Nat}
    (storedEq : store buffer offset data = some stored) :
    stored.length = buffer.length ∧ offset + data.length ≤ buffer.length := by
  rw [store, Option.ite_none_right_eq_some, Option.some.injEq] at storedEq
  obtain ⟨inside, rfl⟩ := storedEq
  simp only [List.length_append, List.length_take, List.length_drop]
  omega

theorem length_of_loadNumber {buf : List UInt8} {offset width value : Nat}
    (loaded : loadNumber buf offset width = some value) : offset + width ≤ buf.length := by
  obtain ⟨bytes, bytesEq, -⟩ := Option.map_eq_some_iff.mp loaded
  rw [load, Option.ite_none_right_eq_some] at bytesEq
  exact bytesEq.1

theorem loadNumber_eq_none {buf : List UInt8} {offset width : Nat}
    (outside : ¬ offset + width ≤ buf.length) : loadNumber buf offset width = none := by
  rw [loadNumber, load, if_neg outside, Option.map_none]

theorem exists_loadNumber {buf : List UInt8} {offset width : Nat}
    (inside : offset + width ≤ buf.length) :
    loadNumber buf offset width =
      some (ofLittleEndian ((buf.drop offset).take width)) := by
  rw [loadNumber, load, if_pos inside, Option.map_some]

/-- What stands behind the end of a message does not matter within it. -/
theorem loadNumber_append_left {buf : List UInt8} {offset width : Nat}
    (inside : offset + width ≤ buf.length) (behind : List UInt8) :
    loadNumber (buf ++ behind) offset width = loadNumber buf offset width := by
  have longer : offset + width ≤ (buf ++ behind).length := by
    rw [List.length_append]
    omega
  have source : width ≤ (buf.drop offset).length := by
    rw [List.length_drop]
    omega
  rw [exists_loadNumber longer, exists_loadNumber inside,
    List.drop_append_of_le_length (by omega), List.take_append_of_le_length source]

/-- Behind an offset two buffers are the same. -/
theorem load_congr_drop {first second : List UInt8} {ptr offset : Nat} (count : Nat)
    (lengths : first.length = second.length) (same : first.drop ptr = second.drop ptr)
    (behind : ptr ≤ offset) : load first offset count = load second offset count := by
  have sameAt : first.drop offset = second.drop offset := by
    rw [← Nat.add_sub_cancel' behind, ← List.drop_drop, same, List.drop_drop]
  rw [load, load, lengths, sameAt]

/-- What is stored before an offset is not seen behind it. -/
theorem drop_of_store {buffer data stored : List UInt8} {offset ptr : Nat}
    (storedEq : store buffer offset data = some stored) (before : offset + data.length ≤ ptr) :
    stored.drop ptr = buffer.drop ptr := by
  rw [store, Option.ite_none_right_eq_some, Option.some.injEq] at storedEq
  obtain ⟨inside, rfl⟩ := storedEq
  have front : (buffer.take offset ++ data).length = offset + data.length := by
    rw [List.length_append, List.length_take_of_le (by omega)]
  rw [← Nat.add_sub_cancel' before, ← front, ← List.drop_drop, List.drop_left, front,
    List.drop_drop]

/-- A move within a buffer is seen only where it puts the bytes. -/
theorem exists_memmove {buffer : List UInt8} {target source count : Nat}
    (inside : source + count ≤ buffer.length) (room : target + count ≤ buffer.length) :
    ∃ moved, memmove buffer target source count = some moved ∧
      moved.length = buffer.length ∧
        ∀ ptr, target + count ≤ ptr → moved.drop ptr = buffer.drop ptr := by
  have data : ((buffer.drop source).take count).length = count := by
    rw [List.length_take, List.length_drop]
    omega
  obtain ⟨moved, stored⟩ : ∃ moved,
      store buffer target ((buffer.drop source).take count) = some moved := by
    rw [store, if_pos (by rw [data]; exact room)]
    exact ⟨_, rfl⟩
  refine ⟨moved, ?_, (length_store stored).1, ?_⟩
  · rw [memmove, load, if_pos inside, Option.bind_some, stored]
  · intro ptr behind
    exact drop_of_store stored (by rw [data]; exact behind)

theorem memmove_eq_none {buffer : List UInt8} {target source count : Nat}
    (outside : ¬ source + count ≤ buffer.length) :
    memmove buffer target source count = none := by
  rw [memmove, load, if_neg outside, Option.bind_none]

/-- What is stored in place of a part of a buffer. -/
theorem store_middle {before old after data : List UInt8} (same : data.length = old.length) :
    store (before ++ old ++ after) before.length data = some (before ++ data ++ after) := by
  rw [List.append_assoc, store_append, same, List.drop_left]
  rw [List.length_append]
  omega

/-- The byte at the offset. -/
theorem loadNumber_byte (byte : UInt8) {buffer after : List UInt8} {offset : Nat}
    (inside : offset ≤ buffer.length) (split : buffer.drop offset = byte :: after) :
    loadNumber buffer offset 1 = some byte.toNat := by
  have loaded := load_of_drop inside (show buffer.drop offset = [byte] ++ after from split)
  rw [List.length_singleton] at loaded
  rw [loadNumber, loaded, Option.map_some]
  rfl

theorem toNat_eq_zero_iff (byte : UInt8) : byte.toNat = 0 ↔ byte = 0 := by
  constructor
  · intro zero
    exact UInt8.toNat_inj.mp zero
  · rintro rfl
    rfl

/-- An array of numbers of one width. -/
def numbers (width : Nat) (values : List Nat) : List UInt8 :=
  values.flatMap (littleEndian width)

theorem numbers_append (width : Nat) (first second : List Nat) :
    numbers width (first ++ second) = numbers width first ++ numbers width second :=
  List.flatMap_append

theorem numbers_singleton (width value : Nat) :
    numbers width [value] = littleEndian width value :=
  List.flatMap_singleton ..

@[simp]
theorem length_numbers (width : Nat) (values : List Nat) :
    (numbers width values).length = width * values.length := by
  induction values with
  | nil => rfl
  | cons value values ih =>
      have combined := numbers_append width [value] values
      rw [List.singleton_append] at combined
      rw [combined, List.length_append, numbers_singleton, length_littleEndian, ih,
        List.length_cons]
      ring

/-- An entry of an array at the front of a buffer. -/
theorem loadNumber_numbers {width value : Nat} (front back : List Nat) (after : List UInt8)
    (fits : value < 256 ^ width) :
    loadNumber (numbers width (front ++ value :: back) ++ after) (width * front.length) width =
      some value := by
  have split : front ++ value :: back = front ++ ([value] ++ back) := rfl
  rw [split, numbers_append, numbers_append, numbers_singleton, List.append_assoc,
    List.append_assoc]
  exact loadNumber_append (length_numbers width front) fits

/-- An entry of an array at the front of a buffer is overwritten. -/
theorem store_numbers (width value old : Nat) (front back : List Nat) (after : List UInt8) :
    store (numbers width (front ++ old :: back) ++ after) (width * front.length)
        (littleEndian width value) =
      some (numbers width (front ++ value :: back) ++ after) := by
  have split (entry : Nat) : numbers width (front ++ entry :: back) ++ after =
      numbers width front ++ littleEndian width entry ++ (numbers width back ++ after) := by
    have parts : front ++ entry :: back = front ++ ([entry] ++ back) := rfl
    rw [parts, numbers_append, numbers_append, numbers_singleton]
    simp only [List.append_assoc]
  rw [split, split, ← length_numbers width front]
  apply store_middle
  rw [length_littleEndian, length_littleEndian]

/-- An array at the front of a buffer grows by an entry. -/
theorem store_numbers_append {width : Nat} (value : Nat) (values : List Nat)
    {rest : List UInt8} (room : width ≤ rest.length) :
    store (numbers width values ++ rest) (width * values.length) (littleEndian width value) =
      some (numbers width (values ++ [value]) ++ rest.drop width) := by
  rw [← length_numbers width values, store_append, length_littleEndian, numbers_append,
    numbers_singleton]
  rw [length_littleEndian]
  exact room

/-- A string up to its zero byte. -/
def cstring (memory : List UInt8) : List UInt8 :=
  memory.takeWhile (· ≠ 0)

def strlen (memory : List UInt8) : Nat :=
  (cstring memory).length

/-- The bytes of a string, none of which is zero. -/
structure CStr where
  bytes : List UInt8
  nonzero : ∀ byte ∈ bytes, byte ≠ 0

theorem ne_zero_of_all {bytes : List UInt8}
    (all : (bytes.all fun byte => byte != 0) = true) : ∀ byte ∈ bytes, byte ≠ 0 :=
  fun byte member => bne_iff_ne.mp (List.all_eq_true.mp all byte member)

/-- The string in memory. -/
def CStr.terminated (string : CStr) : List UInt8 :=
  string.bytes ++ [0]

@[simp]
theorem CStr.length_terminated (string : CStr) :
    string.terminated.length = string.bytes.length + 1 := by
  simp [CStr.terminated]

/-- A string is read back up to its zero byte, whatever follows. -/
theorem cstring_append_zero (string : CStr) (after : List UInt8) :
    cstring (string.bytes ++ 0 :: after) = string.bytes := by
  have all : ∀ byte ∈ string.bytes, decide (byte ≠ 0) = true := by
    intro byte member
    exact decide_eq_true (string.nonzero byte member)
  rw [cstring, List.takeWhile_append_of_pos all]
  simp

theorem cstring_terminated (string : CStr) : cstring string.terminated = string.bytes :=
  cstring_append_zero string []

theorem strlen_terminated (string : CStr) : strlen string.terminated = string.bytes.length := by
  rw [strlen, cstring_terminated]

def CStr.empty : CStr where
  bytes := []
  nonzero := by simp

end Tunprox.ByteBuffer
