import Attest.BigEndian

/-!
# Base 58

Bytes as a number in base 58, written with the digits and letters that cannot be mistaken for one
another. Zero bytes at the front, which a number does not show, are written one digit each.
-/
namespace Attest.Base58

/-- The digits in the order of their values. -/
def alphabet : List Char := "123456789ABCDEFGHJKLMNPQRSTUVWXYZabcdefghijkmnopqrstuvwxyz".toList

/-- The digits of a number after those given, none for zero. -/
def digits (value : Nat) (after : List Char) : List Char :=
  if value = 0 then after else digits (value / 58) (alphabet.getD (value % 58) '1' :: after)
  termination_by value
  decreasing_by omega

/-- The text of bytes. -/
def encode (bytes : List UInt8) : List Char :=
  (bytes.takeWhile (· == 0)).map (fun _ => '1') ++ digits (BigEndian.value bytes) []

end Attest.Base58
