/-!
# Binary floating point numbers

A number of the 64-bit binary format is held as its bits, so equality, storage and printing are
exact. It is read from a decimal by rounding to the nearest, widened from the shorter formats of
16 and 32 bits without loss, and printed with the fewest digits that read back.
-/
namespace Attest

/-- A 64-bit binary floating point number: sign, eleven bits of exponent, fifty-two of fraction. -/
structure Double where
  /-- The bits of the format, the sign highest. -/
  bits : UInt64
  deriving DecidableEq, Repr

namespace Double

/-- The one pattern that stands for every undefined result. -/
def nan : Double := ⟨0x7ff8000000000000⟩

/-- The number with a sign, an exponent field and a fraction field. -/
def ofFields (negative : Bool) (exponent fraction : Nat) : Double :=
  ⟨UInt64.ofNat ((if negative then Nat.pow 2 63 else 0) + exponent * Nat.pow 2 52 + fraction)⟩

/-- The sign bit. -/
def negative (number : Double) : Bool := Nat.pow 2 63 ≤ number.bits.toNat

/-- The exponent field. -/
def exponent (number : Double) : Nat := number.bits.toNat / Nat.pow 2 52 % Nat.pow 2 11

/-- The fraction field. -/
def fraction (number : Double) : Nat := number.bits.toNat % Nat.pow 2 52

/-- An undefined result. -/
def isNaN (number : Double) : Bool := number.exponent == 0x7ff && number.fraction != 0

/-- Either infinity. -/
def isInfinite (number : Double) : Bool := number.exponent == 0x7ff && number.fraction == 0

/-- Zero of either sign. -/
def isZero (number : Double) : Bool := number.exponent == 0 && number.fraction == 0

/-- The whole number `m` and the power `q` with which a finite number has the size `m * 2 ^ q`. -/
def scaled (number : Double) : Nat × Int :=
  if number.exponent == 0 then (number.fraction, -1074)
  else (Nat.pow 2 52 + number.fraction, (number.exponent : Int) - 1075)

/-- The number that the bits of a shorter format stand for, given the widths of its exponent and
fraction fields. -/
def widen (exponentWidth fractionWidth bits : Nat) : Double :=
  let negative := bits / Nat.pow 2 (exponentWidth + fractionWidth) % 2 == 1
  let exponent := bits / Nat.pow 2 fractionWidth % Nat.pow 2 exponentWidth
  let fraction := bits % Nat.pow 2 fractionWidth
  let bias := Nat.pow 2 (exponentWidth - 1) - 1
  if exponent == Nat.pow 2 exponentWidth - 1 then
    if fraction == 0 then ofFields negative 0x7ff 0 else nan
  else if exponent == 0 then
    if fraction == 0 then ofFields negative 0 0
    else
      let top := fraction.log2
      ofFields negative (1024 + top - bias - fractionWidth)
        ((fraction - Nat.pow 2 top) * Nat.pow 2 (52 - top))
  else ofFields negative (exponent + 1023 - bias) (fraction * Nat.pow 2 (52 - fractionWidth))

/-- The number with given bits, every undefined result being the same. -/
def ofBits (bits : UInt64) : Double :=
  if (⟨bits⟩ : Double).isNaN then nan else ⟨bits⟩

/-- The number nearest to `digits * 10 ^ power`. -/
def ofDecimal (negative : Bool) (digits : Nat) (power : Int) : Double :=
  let length : Int := (Nat.toDigits 10 digits).length
  if digits == 0 || length + power < -400 then ofFields negative 0 0
  else if 400 < length + power then ofFields negative 0x7ff 0
  else
    let size := Float.ofScientific digits (decide (power < 0)) power.natAbs
    ofFields negative 0 (size.toBits.toNat % Nat.pow 2 63)

/-- The size of a power of two or ten that multiplies. -/
def multiplier (base : Nat) (power : Int) : Nat := 
  if power < 0 then 1 else Nat.pow base power.natAbs

/-- The size of a power of two or ten that divides. -/
def divisor (base : Nat) (power : Int) : Nat := 
  if power < 0 then Nat.pow base power.natAbs else 1

/-- The decimals of a number of digits that read back as a positive finite number: the digits
before and after its exact value on that grid, the nearer one first. -/
def candidates (number : Double) (count : Nat) (point : Int) : List (Nat × Int) :=
  let (m, q) := number.scaled
  -- in quarters of a unit of the last binary place
  let middle := 4 * m
  let low := if number.fraction == 0 && 1 < number.exponent then middle - 1 else middle - 2
  let high := middle + 2
  let unit := q - 2
  let power := point - count
  let grid := multiplier 10 power * divisor 2 unit
  let scale := multiplier 2 unit * divisor 10 power
  let inside (digits : Nat) : Bool :=
    if m % 2 == 0 then low * scale ≤ digits * grid && digits * grid ≤ high * scale
    else low * scale < digits * grid && digits * grid < high * scale
  let below := middle * scale / grid
  let rest := middle * scale % grid
  let nearerAbove := grid < 2 * rest || (grid == 2 * rest && below % 2 == 1)
  let order := if nearerAbove then [below + 1, below] else [below, below + 1]
  (order.filter fun digits => 0 < digits && inside digits).map fun digits => (digits, power)

/-- The number of digits before the point: the power of ten just above a positive number. -/
def magnitude (number : Double) : Int :=
  let (m, q) := number.scaled
  let whole := m * multiplier 2 q / divisor 2 q
  if 0 < whole then (Nat.toDigits 10 whole).length
  else
    let leading := (List.range 400).find? fun count =>
      divisor 2 q ≤ m * multiplier 2 q * Nat.pow 10 (count + 1)
    Int.negOfNat (leading.getD 0)

/-- The fewest digits that read back as a positive finite number, and their power of ten. -/
def shortest (number : Double) : Nat × Int :=
  let point := number.magnitude
  ((List.range 17).flatMap fun count => number.candidates (count + 1) point).headD (0, 0)

/-- Digits without the zeros at their end. -/
def significant (digits : Nat) : List Char :=
  ((Nat.toDigits 10 digits).reverse.dropWhile (· == '0')).reverse

/-- The digits of a decimal exponent, at least two. -/
def exponentDigits (power : Nat) : List Char :=
  if power < 10 then '0' :: Nat.toDigits 10 power else Nat.toDigits 10 power

/-- A number as text: positional from a ten-thousandth to below ten to the sixteenth, with a point
and at least one digit after it, and with an exponent of at least two digits otherwise. -/
def text (number : Double) : List Char :=
  let sign := if number.negative then ['-'] else []
  if number.isNaN then "nan".toList
  else if number.isInfinite then sign ++ "inf".toList
  else if number.isZero then sign ++ "0.0".toList
  else
    let (value, power) := number.shortest
    let digits := significant value
    let point : Int := power + (Nat.toDigits 10 value).length
    sign ++
      if -4 < point && point ≤ 16 then
        if point ≤ 0 then "0.".toList ++ List.replicate point.natAbs '0' ++ digits
        else if digits.length ≤ point.natAbs then
          digits ++ List.replicate (point.natAbs - digits.length) '0' ++ ".0".toList
        else digits.take point.natAbs ++ '.' :: digits.drop point.natAbs
      else
        let mantissa := if digits.length == 1 then digits else digits.take 1 ++ '.' :: digits.drop 1
        let exponent := point - 1
        mantissa ++ (if exponent < 0 then "e-".toList else "e+".toList) ++
          exponentDigits exponent.natAbs

/-- A number as text in base sixteen: the leading bit, thirteen digits of fraction and a power of
two. -/
def hexText (number : Double) : List Char :=
  let sign := if number.negative then ['-'] else []
  if number.isNaN then "nan".toList
  else if number.isInfinite then sign ++ "inf".toList
  else if number.isZero then sign ++ "0x0.0p+0".toList
  else
    let digits := Nat.toDigits 16 number.fraction
    let lead := if number.exponent == 0 then '0' else '1'
    let power : Int := if number.exponent == 0 then -1022 else (number.exponent : Int) - 1023
    sign ++ '0' :: 'x' :: lead :: '.' :: List.replicate (13 - digits.length) '0' ++ digits ++
      'p' :: (if power < 0 then '-' else '+') :: Nat.toDigits 10 power.natAbs

end Double

end Attest
