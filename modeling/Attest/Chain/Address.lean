import Attest.Failure.Basic
import Attest.Keccak
import Attest.Text.Case

/-!
# Addresses

An address is forty hexadecimal digits, with or without the mark `0x`, its letters in either case.
In its one checked spelling a letter is large where the digit at its place in the hash of the small
spelling is eight or more.
-/
namespace Attest.Address

/-- The number of digits. -/
def digits : Nat := 40

/-- A text without the mark of base sixteen. -/
def unmarked (text : List Char) : List Char := Code.body text

/-- Whether a text is hexadecimal, with or without the mark. -/
def isHex (text : List Char) : Bool := (unmarked text).all Hex.isDigit

/-- The words by which a text is refused as an address. -/
def refusal (text : List Char) : String :=
  if isHex text then
    "Unknown format " ++ String.ofList (Json.literalText text) ++ ", attempted to normalize to " ++
      String.ofList (Json.literalText (Code.normalize text))
  else
    "when sending a str, it must be a hex string. Got: " ++ String.ofList (Json.literalText text)

/-- A digit in its checked case, given the hash digit at its place. -/
def checkedDigit (digit check : Char) : Char :=
  if 8 ≤ (Hex.digitValue? check).getD 0 then digit.toUpper else digit

/-- The checked spelling of small digits. -/
def checked (small : List Char) : List Char :=
  let checks := Hex.writeBytes (Keccak.digest (Utf8.encode small))
  Code.marked (List.zipWith checkedDigit small checks)

/-- The checked spelling of an address. -/
def ofText (text : String) : Except Failure String :=
  let body := unmarked text.toList
  if isHex text.toList && body.length == digits then
    .ok (String.ofList (checked (Text.lower body)))
  else .error (.chain (.invalidAddress text (refusal text.toList)))

/-- Forty hexadecimal digits are an address. -/
theorem ofText_eq_ok {text : String} (hex : isHex text.toList = true)
    (length : (unmarked text.toList).length = digits) :
    ofText text = .ok (String.ofList (checked (Text.lower (unmarked text.toList)))) := by
  simp [ofText, hex, length]

end Attest.Address
