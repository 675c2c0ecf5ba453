import Attest.Text.Blank

/-!
# Hexadecimal text of bytes

Two digits a byte. Writing uses small digits; reading takes either case and lets blanks stand
between bytes. Reading what was written gives the bytes back (`readBytes?_writeBytes`).
-/
namespace Attest.Hex

/-- The value of a hexadecimal digit of either case. -/
def digitValue? (c : Char) : Option Nat :=
  if '0' ≤ c && c ≤ '9' then some (c.toNat - '0'.toNat)
  else if 'a' ≤ c && c ≤ 'f' then some (c.toNat - 'a'.toNat + 10)
  else if 'A' ≤ c && c ≤ 'F' then some (c.toNat - 'A'.toNat + 10)
  else none

/-- A hexadecimal digit of either case. -/
def isDigit (c : Char) : Bool := (digitValue? c).isSome

/-- The small digit of a value below sixteen. -/
def digit (value : Nat) : Char :=
  if value < 10 then Char.ofNat ('0'.toNat + value) else Char.ofNat ('a'.toNat + (value - 10))

/-- The two digits of a byte. -/
def writeByte (byte : UInt8) : List Char := [digit (byte.toNat / 16), digit (byte.toNat % 16)]

/-- The digits of bytes. -/
def writeBytes (bytes : List UInt8) : List Char := bytes.flatMap writeByte

/-- Read bytes, none if a digit lacks its partner or another character occurs. -/
def readBytes? : List Char → Option (List UInt8)
  | [] => some []
  | [c] => if Text.isAsciiBlank c then some [] else none
  | c :: d :: rest =>
    if Text.isAsciiBlank c then readBytes? (d :: rest)
    else do
      let high ← digitValue? c
      let low ← digitValue? d
      let bytes ← readBytes? rest
      return UInt8.ofNat (high * 16 + low) :: bytes

/-- The digits of a natural number, at least one. -/
def writeNat (value : Nat) : List Char := Nat.toDigits 16 value

/-- The digits of an integer after the mark `0x`, the sign before it. -/
def writeInt (value : Int) : List Char :=
  if value < 0 then '-' :: '0' :: 'x' :: writeNat value.natAbs
  else '0' :: 'x' :: writeNat value.natAbs

/-- A small digit reads as its value. -/
theorem digitValue?_digit {value : Nat} (bound : value < 16) :
    digitValue? (digit value) = some value := by
  have all : ∀ value ∈ List.range 16, digitValue? (digit value) = some value := by decide
  exact all value (List.mem_range.mpr bound)

/-- No small digit is a blank. -/
theorem isAsciiBlank_digit {value : Nat} (bound : value < 16) :
    Text.isAsciiBlank (digit value) = false := by
  have all : ∀ value ∈ List.range 16, Text.isAsciiBlank (digit value) = false := by decide
  exact all value (List.mem_range.mpr bound)

/-- Bytes written are read back. -/
theorem readBytes?_writeBytes (bytes : List UInt8) :
    readBytes? (writeBytes bytes) = some bytes := by
  induction bytes with
  | nil => rfl
  | cons byte rest inductive_hypothesis =>
    have bound : byte.toNat < 256 := byte.toNat_lt
    have high : byte.toNat / 16 < 16 := by omega
    have low : byte.toNat % 16 < 16 := by omega
    have whole : byte.toNat / 16 * 16 + byte.toNat % 16 = byte.toNat := by omega
    rw [writeBytes, List.flatMap_cons, writeByte, List.cons_append, List.cons_append,
      List.nil_append, readBytes?, isAsciiBlank_digit high]
    rw [writeBytes] at inductive_hypothesis
    simp [-UInt8.ofNat_add, digitValue?_digit high, digitValue?_digit low, inductive_hypothesis,
      whole]

end Attest.Hex
