import Attest.Json.Basic
import Attest.Text.Hex

/-!
# Printing JSON

Three printed forms: on one line without blanks, over several lines with members indented, and as
a literal whose texts stand in single quotes. The first two write every character outside the
printable ASCII range as escaped UTF-16 units.
-/
namespace Attest.Json

/-- The escape of a UTF-16 unit: `u` and four digits after a backslash. -/
def unitEscape (value : Nat) : List Char :=
  ['\\', 'u', Hex.digit (value / 0x1000 % 16), Hex.digit (value / 0x100 % 16),
    Hex.digit (value / 0x10 % 16), Hex.digit (value % 16)]

/-- A character inside double quotes. -/
def escapeChar (c : Char) : List Char :=
  let n := c.toNat
  if c == '"' then ['\\', '"']
  else if c == '\\' then ['\\', '\\']
  else if c == '\n' then ['\\', 'n']
  else if c == '\r' then ['\\', 'r']
  else if c == '\t' then ['\\', 't']
  else if n == 0x08 then ['\\', 'b']
  else if n == 0x0c then ['\\', 'f']
  else if 0x20 ≤ n && n ≤ 0x7e then [c]
  else if n < 0x10000 then unitEscape n
  else
    unitEscape (0xd800 + (n - 0x10000) / 0x400) ++ unitEscape (0xdc00 + (n - 0x10000) % 0x400)

/-- A text in double quotes. -/
def quoted (value : String) : List Char := '"' :: value.toList.flatMap escapeChar ++ ['"']

/-- An integer in base ten. -/
def decimal (value : Int) : List Char := (toString value).toList

/-- A number that need not be whole, with a word for each that is not finite. -/
def realText (value : Double) : List Char :=
  if value.isNaN then "NaN".toList
  else if value.isInfinite then
    if value.negative then "-Infinity".toList else "Infinity".toList
  else value.text

/-- What stands between the lines of a printed value: nothing, or a line end and two blanks for
each level. -/
def lineBreak (indented : Bool) (level : Nat) : List Char :=
  if indented then '\n' :: List.replicate (2 * level) ' ' else []

mutual

/-- A value at a level of nesting. -/
def print (indented : Bool) (level : Nat) : Json → List Char
  | null => "null".toList
  | bool value => if value then "true".toList else "false".toList
  | int value => decimal value
  | real value => realText value
  | text value => quoted value
  | list [] => ['[', ']']
  | list (first :: rest) =>
    '[' :: lineBreak indented (level + 1) ++ print indented (level + 1) first ++
      printItems indented (level + 1) rest ++ lineBreak indented level ++ [']']
  | record [] => ['{', '}']
  | record ((name, value) :: rest) =>
    '{' :: lineBreak indented (level + 1) ++ quoted name ++ ':' ::
      (if indented then [' '] else []) ++ print indented (level + 1) value ++
      printMembers indented (level + 1) rest ++ lineBreak indented level ++ ['}']

/-- Further items, a comma before each. -/
def printItems (indented : Bool) (level : Nat) : List Json → List Char
  | [] => []
  | item :: rest =>
    ',' :: lineBreak indented level ++ print indented level item ++
      printItems indented level rest

/-- Further members, a comma before each. -/
def printMembers (indented : Bool) (level : Nat) : List (String × Json) → List Char
  | [] => []
  | (name, value) :: rest =>
    ',' :: lineBreak indented level ++ quoted name ++ ':' ::
      (if indented then [' '] else []) ++ print indented level value ++
      printMembers indented level rest

end

/-- A value on one line without blanks. -/
def compact (value : Json) : String := String.ofList (print false 0 value)

/-- A value over several lines, two blanks for each level. -/
def pretty (value : Json) : String := String.ofList (print true 0 value)

/-- The runs of characters past the ASCII range that leave no mark when printed. -/
def markless : List (Nat × Nat) :=
  [(0x80, 0xa0), (0xad, 0xad), (0x600, 0x605), (0x61c, 0x61c), (0x6dd, 0x6dd), (0x70f, 0x70f),
    (0x890, 0x891), (0x8e2, 0x8e2), (0x1680, 0x1680), (0x180e, 0x180e), (0x2000, 0x200f),
    (0x2028, 0x202f), (0x205f, 0x206f), (0x3000, 0x3000), (0xd800, 0xf8ff), (0xfdd0, 0xfdef),
    (0xfeff, 0xfeff), (0xfff0, 0xfffb), (0xfffe, 0xffff), (0x110bd, 0x110bd),
    (0x110cd, 0x110cd), (0x13430, 0x13438), (0x1bca0, 0x1bca3), (0x1d173, 0x1d17a),
    (0xe0000, 0xe0fff), (0xf0000, 0x10ffff)]

/-- The digits of a value padded with zeros to a width. -/
def padded (width value : Nat) : List Char :=
  let digits := Hex.writeNat value
  List.replicate (width - digits.length) '0' ++ digits

/-- A character inside the quote of a literal. -/
def literalChar (quote c : Char) : List Char :=
  let n := c.toNat
  if c == quote || c == '\\' then ['\\', c]
  else if c == '\n' then ['\\', 'n']
  else if c == '\r' then ['\\', 'r']
  else if c == '\t' then ['\\', 't']
  else if n < 0x20 || n == 0x7f then '\\' :: 'x' :: padded 2 n
  else if n < 0x7f || !(markless.any fun run => run.1 ≤ n && n ≤ run.2) then [c]
  else if n < 0x100 then '\\' :: 'x' :: padded 2 n
  else if n < 0x10000 then '\\' :: 'u' :: padded 4 n
  else '\\' :: 'U' :: padded 8 n

/-- A text as a literal: in single quotes, or in double ones if it holds only single ones. -/
def literalText (value : List Char) : List Char :=
  let quote := if value.contains '\'' && !value.contains '"' then '"' else '\''
  quote :: value.flatMap (literalChar quote) ++ [quote]

mutual

/-- A value as a literal. -/
def literal : Json → List Char
  | null => "None".toList
  | bool value => if value then "True".toList else "False".toList
  | int value => decimal value
  | real value => value.text
  | text value => literalText value.toList
  | list [] => ['[', ']']
  | list (first :: rest) => '[' :: literal first ++ literalItems rest ++ [']']
  | record [] => ['{', '}']
  | record ((name, value) :: rest) =>
    '{' :: literalText name.toList ++ ':' :: ' ' :: literal value ++ literalMembers rest ++ ['}']

/-- Further items, a comma before each. -/
def literalItems : List Json → List Char
  | [] => []
  | item :: rest => ',' :: ' ' :: literal item ++ literalItems rest

/-- Further members, a comma before each. -/
def literalMembers : List (String × Json) → List Char
  | [] => []
  | (name, value) :: rest =>
    ',' :: ' ' :: literalText name.toList ++ ':' :: ' ' :: literal value ++ literalMembers rest

end

/-- A value in a sentence: a text as it stands and any other value as a literal. -/
def plain : Json → String
  | text value => value
  | value => String.ofList (literal value)

end Attest.Json
