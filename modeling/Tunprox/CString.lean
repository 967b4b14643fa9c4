import Mathlib.Init

/-!
# Strings of the C library

Strings are the bytes before the terminating zero.  The kernel's `tolower`
knows the letters of Latin-1, that of the C locale only the ASCII letters.
-/

namespace Tunprox

def tolower (byte : UInt8) : UInt8 :=
  if 65 ≤ byte ∧ byte ≤ 90 then byte + 32 else byte

def kernelTolower (byte : UInt8) : UInt8 :=
  if (65 ≤ byte ∧ byte ≤ 90) ∨ (192 ≤ byte ∧ byte ≤ 222 ∧ byte ≠ 215) then byte + 32
  else byte

/-- `!strcasecmp (first, second)` in a program. -/
def strcaseeq (first second : List UInt8) : Bool :=
  first.map tolower == second.map tolower

/-- `!strcasecmp (first, second)` in the kernel. -/
def kernelStrcaseeq (first second : List UInt8) : Bool :=
  first.map kernelTolower == second.map kernelTolower

/-- `isspace` of the C locale. -/
def isspace (byte : UInt8) : Bool :=
  byte == 32 || 9 ≤ byte && byte ≤ 13

def isdigit (byte : UInt8) : Bool :=
  48 ≤ byte && byte ≤ 57

/-- The value of the decimal digits at the start of a string. -/
def digits (string : List UInt8) : Nat :=
  (string.takeWhile isdigit).foldl (fun value byte => 10 * value + (byte.toNat - 48)) 0

/-- `atoi` of a number that fits. -/
def atoi (string : List UInt8) : Int :=
  match string.dropWhile isspace with
  | [] => 0
  | 45 :: rest => -digits rest
  | 43 :: rest => digits rest
  | first :: rest => digits (first :: rest)

/-- The bytes of a string literal. -/
def ascii (literal : String) : List UInt8 :=
  literal.toByteArray.data.toList

end Tunprox
