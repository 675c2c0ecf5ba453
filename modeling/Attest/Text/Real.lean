import Attest.Double
import Attest.Text.Hex
import Attest.Text.Numeral

/-!
# Numerals of numbers that need not be whole

A numeral has digits with an optional point among them and an optional power of ten. It may stand
between blanks and carry a sign, its digits may come from any script, and a single low line may
stand between two digits. Words stand for the numbers that are not finite.
-/
namespace Attest.Numeral

/-- A digit of any script as one of the ASCII range. -/
def plainDigit (c : Char) : Char :=
  match Text.decimalValue? c with
  | some value => Hex.digit value
  | none => c

/-- A digit of the ASCII range. -/
def isPlainDigit (c : Char) : Bool := '0' ≤ c && c ≤ '9'

/-- A text without its low lines, none if one stands elsewhere than between two digits. -/
def withoutLines (before : Bool) : List Char → Option (List Char)
  | [] => some []
  | '_' :: c :: rest =>
    if before && isPlainDigit c then (withoutLines true rest).map (c :: ·) else none
  | c :: rest => if c == '_' then none else (withoutLines (isPlainDigit c) rest).map (c :: ·)

/-- The value of digits of the ASCII range. -/
def plainValue (digits : List Char) : Nat :=
  digits.foldl (fun value c => 10 * value + (c.toNat - '0'.toNat)) 0

/-- The power of ten that a whole text gives, zero if it is empty. -/
def power? : List Char → Option Int
  | [] => some 0
  | c :: rest =>
    if c == 'e' || c == 'E' then
      let (sign, digits) : Int × List Char := match rest with
        | '-' :: digits => (-1, digits)
        | '+' :: digits => (1, digits)
        | digits => (1, digits)
      if !digits.isEmpty && digits.all isPlainDigit then some (sign * (plainValue digits : Nat))
      else none
    else none

/-- The number that digits with a point and a power of ten give. -/
def readPositional? (negative : Bool) (text : List Char) : Option Double :=
  let whole := text.takeWhile isPlainDigit
  let rest := text.dropWhile isPlainDigit
  let (fraction, rest) := match rest with
    | '.' :: rest => (rest.takeWhile isPlainDigit, rest.dropWhile isPlainDigit)
    | rest => ([], rest)
  let digits := whole ++ fraction
  if digits.isEmpty then none
  else
    (power? rest).map fun power =>
      Double.ofDecimal negative (plainValue digits) (power - (fraction.length : Nat))

/-- The number that a text without a sign gives. -/
def readUnsigned? (negative : Bool) (text : List Char) : Option Double :=
  let word := String.ofList (text.map Char.toLower)
  if word = "inf" || word = "infinity" then some (Double.ofFields negative 0x7ff 0)
  else if word = "nan" then some .nan
  else readPositional? negative text

/-- The number that a text gives. -/
def readReal? (text : List Char) : Option Double := do
  match ← withoutLines false ((bare text).map plainDigit) with
  | '-' :: rest => readUnsigned? true rest
  | '+' :: rest => readUnsigned? false rest
  | rest => readUnsigned? false rest

end Attest.Numeral
