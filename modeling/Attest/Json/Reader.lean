import Attest.Json.Basic
import Attest.Text.Hex

/-!
# Reading JSON

A reader takes a value from the front of a text and returns the text after it. It accepts the
grammar of JSON and beyond it the three words for numbers that are not finite. Of members with
one name the first keeps its place and the last its value.
-/
namespace Attest.Json

/-- A problem and the text that begins where it lies. -/
abbrev Stop := ReadProblem × List Char

/-- The blanks between tokens. -/
def isSpace (c : Char) : Bool := c == ' ' || c == '\t' || c == '\n' || c == '\r'

/-- A text from its first character that is no blank. -/
def skip (source : List Char) : List Char := source.dropWhile isSpace

/-- The value of four hexadecimal digits. -/
def unit? (a b c d : Char) : Option Nat := do
  let high := (← Hex.digitValue? a) * 0x10 + (← Hex.digitValue? b)
  return high * 0x100 + (← Hex.digitValue? c) * 0x10 + (← Hex.digitValue? d)

/-- The first half of a pair of units that stands for one character. -/
def isLeadUnit (value : Nat) : Bool := 0xd800 ≤ value && value < 0xdc00

/-- The second half of a pair of units that stands for one character. -/
def isTrailUnit (value : Nat) : Bool := 0xdc00 ≤ value && value < 0xe000

/-- The character of a unit. Half a pair alone stands for no character and is replaced. -/
def unitChar (value : Nat) : Char :=
  if isLeadUnit value || isTrailUnit value then Char.ofNat 0xfffd else Char.ofNat value

/-- The character of a pair of units. -/
def pairChar (lead trail : Nat) : Char :=
  Char.ofNat (0x10000 + (lead - 0xd800) * 0x400 + (trail - 0xdc00))

/-- The character that a letter after a backslash stands for. -/
def escaped? : Char → Option Char
  | '"' => some '"'
  | '\\' => some '\\'
  | '/' => some '/'
  | 'b' => some '\x08'
  | 'f' => some '\x0c'
  | 'n' => some '\n'
  | 'r' => some '\r'
  | 't' => some '\t'
  | _ => none

/-- The characters of a text up to its closing quote, in reverse, from the text after its opening
quote; `opened` begins at that quote. -/
def readChars (opened : List Char) (read : List Char) :
    List Char → Except Stop (List Char × List Char)
  | [] => .error (.unterminated, opened)
  | '"' :: rest => .ok (read, rest)
  | '\\' :: 'u' :: a :: b :: c :: d :: next :: rest =>
    match unit? a b c d with
    | none => .error (.codePoint, 'u' :: a :: b :: c :: d :: next :: rest)
    | some lead =>
      match next, rest with
      | '\\', 'u' :: e :: f :: g :: h :: last :: rest =>
        if isLeadUnit lead then
          match unit? e f g h with
          | none => .error (.codePoint, 'u' :: e :: f :: g :: h :: last :: rest)
          | some trail =>
            if isTrailUnit trail then readChars opened (pairChar lead trail :: read) (last :: rest)
            else
              readChars opened (unitChar lead :: read)
                ('\\' :: 'u' :: e :: f :: g :: h :: last :: rest)
        else
          readChars opened (unitChar lead :: read)
            ('\\' :: 'u' :: e :: f :: g :: h :: last :: rest)
      | next, rest => readChars opened (unitChar lead :: read) (next :: rest)
  | '\\' :: 'u' :: rest => .error (.codePoint, 'u' :: rest)
  | ['\\'] => .error (.unterminated, opened)
  | '\\' :: c :: rest =>
    match escaped? c with
    | some meant => readChars opened (meant :: read) rest
    | none => .error (.escape, '\\' :: c :: rest)
  | c :: rest =>
    if c.toNat < 0x20 then .error (.control, c :: rest) else readChars opened (c :: read) rest
  termination_by source => source.length

/-- The text after an opening quote. -/
def readText (opened rest : List Char) : Except Stop (String × List Char) :=
  (readChars opened [] rest).map fun (read, rest) => (String.ofList read.reverse, rest)

/-- The digits at the front of a text and the text after them. -/
def spanDigits (source : List Char) : List Char × List Char :=
  (source.takeWhile Char.isDigit, source.dropWhile Char.isDigit)

/-- The number that decimal digits say. -/
def digitsValue (digits : List Char) : Nat :=
  digits.foldl (fun total c => total * 10 + (c.toNat - 0x30)) 0

/-- The digits after a point, none if no digit follows a point. -/
def readFraction : List Char → List Char × List Char
  | '.' :: c :: rest => if c.isDigit then spanDigits (c :: rest) else ([], '.' :: c :: rest)
  | source => ([], source)

/-- The exponent and whether there is one. -/
def readExponent (source : List Char) : Option Int × List Char :=
  match source with
  | mark :: rest =>
    if mark == 'e' || mark == 'E' then
      let (negative, signless) := match rest with
        | '-' :: rest => (true, rest)
        | '+' :: rest => (false, rest)
        | rest => (false, rest)
      match spanDigits signless with
      | ([], _) => (none, source)
      | (digits, rest) =>
        let size := digitsValue digits
        (some (if negative then -(size : Int) else size), rest)
    else (none, source)
  | [] => (none, source)

/-- The number at the front of a text. -/
def readNumber? (source : List Char) : Option (Json × List Char) :=
  let (negative, signless) := match source with
    | '-' :: rest => (true, rest)
    | rest => (false, rest)
  let (whole, rest) := match signless with
    | '0' :: rest => (['0'], rest)
    | rest => spanDigits rest
  if whole.isEmpty then none
  else
    let (fraction, rest) := readFraction rest
    let (exponent, rest) := readExponent rest
    if fraction.isEmpty && exponent.isNone then
      let size : Int := digitsValue whole
      some (int (if negative then -size else size), rest)
    else
      let power : Int := exponent.getD 0 - fraction.length
      some (real (Double.ofDecimal negative (digitsValue (whole ++ fraction)) power), rest)

/-- The value that a word stands for, at the front of a text. -/
def readWord? : List Char → Option (Json × List Char)
  | 'n' :: 'u' :: 'l' :: 'l' :: rest => some (null, rest)
  | 't' :: 'r' :: 'u' :: 'e' :: rest => some (bool true, rest)
  | 'f' :: 'a' :: 'l' :: 's' :: 'e' :: rest => some (bool false, rest)
  | 'N' :: 'a' :: 'N' :: rest => some (real .nan, rest)
  | 'I' :: 'n' :: 'f' :: 'i' :: 'n' :: 'i' :: 't' :: 'y' :: rest =>
    some (real (.ofFields false 0x7ff 0), rest)
  | '-' :: 'I' :: 'n' :: 'f' :: 'i' :: 'n' :: 'i' :: 't' :: 'y' :: rest =>
    some (real (.ofFields true 0x7ff 0), rest)
  | _ => none

mutual

/-- The value at the front of a text. Every value and every member takes one of `fuel`, at most
two for a character. -/
def readValue (fuel : Nat) (source : List Char) : Except Stop (Json × List Char) :=
  match fuel with
  | 0 => .error (.value, source)
  | fuel + 1 =>
    match source with
    | '"' :: rest => (readText source rest).map fun (read, rest) => (.text read, rest)
    | '{' :: rest =>
      match skip rest with
      | '}' :: rest => .ok (record [], rest)
      | rest => (readMembers fuel [] rest).map fun (members, rest) => (record members, rest)
    | '[' :: rest =>
      match skip rest with
      | ']' :: rest => .ok (list [], rest)
      | rest => (readItems fuel [] rest).map fun (items, rest) => (list items.reverse, rest)
    | source =>
      match readWord? source with
      | some found => .ok found
      | none =>
        match readNumber? source with
        | some found => .ok found
        | none => .error (.value, source)

/-- The members of a record up to its end, after those read. -/
def readMembers (fuel : Nat) (read : List (String × Json)) (source : List Char) :
    Except Stop (List (String × Json) × List Char) :=
  match fuel with
  | 0 => .error (.value, source)
  | fuel + 1 =>
    match source with
    | '"' :: rest => do
      let (name, rest) ← readText source rest
      match skip rest with
      | ':' :: rest =>
        let (value, rest) ← readValue fuel (skip rest)
        let read := Table.put read name value
        match skip rest with
        | '}' :: rest => .ok (read, rest)
        | ',' :: rest => readMembers fuel read (skip rest)
        | rest => .error (.comma, rest)
      | rest => .error (.colon, rest)
    | source => .error (.memberName, source)

/-- The items of a list up to its end, in reverse, after those read. -/
def readItems (fuel : Nat) (read : List Json) (source : List Char) :
    Except Stop (List Json × List Char) :=
  match fuel with
  | 0 => .error (.value, source)
  | fuel + 1 => do
    let (value, rest) ← readValue fuel source
    match skip rest with
    | ']' :: rest => .ok (value :: read, rest)
    | ',' :: rest => readItems fuel (value :: read) (skip rest)
    | rest => .error (.comma, rest)

end

/-- The value of a whole text, blanks around it allowed. -/
def read (source : List Char) : Except ReadError Json :=
  let located (stop : Stop) := ReadError.after (source.take (source.length - stop.2.length)) stop.1
  match readValue (2 * source.length + 2) (skip source) with
  | .error stop => .error (located stop)
  | .ok (value, rest) =>
    match skip rest with
    | [] => .ok value
    | rest => .error (located (.extra, rest))

end Attest.Json
