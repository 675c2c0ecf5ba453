import Attest.Text.Blank
import Attest.Text.Digit

/-!
# Numerals

Reading an integer in a base from two to thirty-six. A numeral may stand between blanks and
carry a sign, its digits may come from any script, and a single low line may stand between two
digits. In base sixteen the mark `0x` may precede the digits.
-/
namespace Attest.Numeral

/-- A blank that may surround a numeral. The separators of the ASCII range are no such blanks. -/
def isBlank (c : Char) : Bool :=
  Text.isAsciiBlank c || (0x80 ≤ c.toNat && Text.isBlank c)

/-- The value of a character as a digit, letters following the nine digits in either case. -/
def digitValue? (c : Char) : Option Nat :=
  if 'a' ≤ c && c ≤ 'z' then some (c.toNat - 'a'.toNat + 10)
  else if 'A' ≤ c && c ≤ 'Z' then some (c.toNat - 'A'.toNat + 10)
  else Text.decimalValue? c

/-- The value of a character as a digit of a base. -/
def digitOf? (base : Nat) (c : Char) : Option Nat :=
  (digitValue? c).filter (· < base)

/-- Read on after a digit, with the value read so far. -/
def readOn (base total : Nat) : List Char → Option Nat
  | [] => some total
  | '_' :: c :: rest => (digitOf? base c).bind fun digit => readOn base (total * base + digit) rest
  | c :: rest => (digitOf? base c).bind fun digit => readOn base (total * base + digit) rest

/-- Digits and the low lines between them, without sign or blanks. -/
def readNat? (base : Nat) : List Char → Option Nat
  | [] => none
  | c :: rest => (digitOf? base c).bind fun digit => readOn base digit rest

/-- The blanks at both ends taken away. -/
def bare (text : List Char) : List Char :=
  ((text.dropWhile isBlank).reverse.dropWhile isBlank).reverse

/-- The mark of base sixteen taken away, with the low line that may follow it. -/
def afterMark : List Char → List Char
  | '0' :: 'x' :: '_' :: rest => rest
  | '0' :: 'X' :: '_' :: rest => rest
  | '0' :: 'x' :: rest => rest
  | '0' :: 'X' :: rest => rest
  | text => text

/-- An integer in a base, with what the base allows before its digits. -/
def readSigned? (base : Nat) (mark : List Char → List Char) (text : List Char) : Option Int :=
  match bare text with
  | '-' :: rest => (readNat? base (mark rest)).map fun value => -(value : Int)
  | '+' :: rest => (readNat? base (mark rest)).map fun value => (value : Int)
  | rest => (readNat? base (mark rest)).map fun value => (value : Int)

/-- An integer in base ten. -/
def readDecimal? (text : List Char) : Option Int := readSigned? 10 id text

/-- An integer in base sixteen. -/
def readHex? (text : List Char) : Option Int := readSigned? 16 afterMark text

end Attest.Numeral
