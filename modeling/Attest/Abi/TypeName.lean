import Attest.Abi.Error
import Attest.Abi.Type

/-!
# Names of types

A name is letters with an optional number or pair of numbers, or names in brackets with commas
between them; either may be followed by the sizes of the arrays and lists of it. Numbers do not
begin with zero. A few words stand for longer names. Not every name within the grammar names a type:
the letters have to be known and the numbers have to obey the rules for them.
-/
namespace Attest

/-- The number or numbers behind the letters of a name. -/
inductive TypeSize where
  | absent
  | one (number : Nat)
  | two (first second : Nat)
  deriving DecidableEq, Repr

/-- A name within the grammar. The places of names in a whole are counted from one. -/
inductive TypeName where
  /-- Letters with their numbers, the text of both, and the text and column of the name. -/
  | basic (letters : List Char) (size : TypeSize) (core whole : List Char) (column : Nat)
      (arrays : List (Option Nat))
  /-- Names in brackets. -/
  | tuple (items : List TypeName) (arrays : List (Option Nat))

namespace TypeName

/-- A letter of the ASCII range. -/
def isLetter (c : Char) : Bool := ('a' ≤ c && c ≤ 'z') || ('A' ≤ c && c ≤ 'Z')

/-- A digit of the ASCII range. -/
def isDigit (c : Char) : Bool := '0' ≤ c && c ≤ '9'

/-- A number from the front of a text, and the text after it. -/
def readNumber? : List Char → Option (Nat × List Char)
  | [] => none
  | first :: rest =>
    if '1' ≤ first && first ≤ '9' then
      let digits := first :: rest.takeWhile isDigit
      some (digits.foldl (fun value c => 10 * value + (c.toNat - '0'.toNat)) 0,
        rest.dropWhile isDigit)
    else none

/-- The size from the front of a text, and the text after it. -/
def readSize (source : List Char) : TypeSize × List Char :=
  match readNumber? source with
  | none => (.absent, source)
  | some (first, 'x' :: rest) =>
    match readNumber? rest with
    | none => (.one first, 'x' :: rest)
    | some (second, rest) => (.two first second, rest)
  | some (first, rest) => (.one first, rest)

/-- The sizes of arrays from the front of a text, none for a list, and the text after them. -/
def readArrays : Nat → List Char → List (Option Nat) × List Char
  | 0, source => ([], source)
  | _, [] => ([], [])
  | fuel + 1, source@(c :: rest) =>
    if c = '[' then
      match rest with
      | ']' :: rest =>
        let (more, rest) := readArrays fuel rest
        (none :: more, rest)
      | rest =>
        match readNumber? rest with
        | some (size, ']' :: rest) =>
          let (more, rest) := readArrays fuel rest
          (some size :: more, rest)
        | _ => ([], source)
    else ([], source)

/-- What of a text stands before its end `rest`. -/
def upTo (source rest : List Char) : List Char := source.take (source.length - rest.length)

mutual

/-- A name from the front of a text of which `total` characters were there at first, and the text
after it. -/
def read (total : Nat) : Nat → List Char → Option (TypeName × List Char)
  | 0, _ => none
  | fuel + 1, '(' :: rest => do
    let (first, rest) ← read total fuel rest
    let (more, rest) ← readMore total fuel rest
    let (arrays, rest) := readArrays rest.length rest
    return (.tuple (first :: more) arrays, rest)
  | _ + 1, source => do
    let letters := source.takeWhile isLetter
    guard !letters.isEmpty
    let (size, bare) := readSize (source.dropWhile isLetter)
    let (arrays, rest) := readArrays bare.length bare
    return (.basic letters size (upTo source bare) (upTo source rest)
      (total - source.length + 1) arrays, rest)

/-- Further names, a comma before each, up to the closing bracket. -/
def readMore (total : Nat) : Nat → List Char → Option (List TypeName × List Char)
  | 0, _ => none
  | fuel + 1, ',' :: rest => do
    let (next, rest) ← read total fuel rest
    let (more, rest) ← readMore total fuel rest
    return (next :: more, rest)
  | _ + 1, ')' :: rest => some ([], rest)
  | _ + 1, _ => none

end

/-- The name that a whole text is, if it is within the grammar. -/
def ofText? (text : List Char) : Option TypeName :=
  match read text.length (text.length + 1) text with
  | some (name, []) => some name
  | _ => none

/-- The words that stand for longer names. -/
def shorthands : List (String × String) :=
  [("uint", "uint256"), ("int", "int256"), ("fixed", "fixed128x18"), ("ufixed", "ufixed128x18"),
    ("function", "bytes24"), ("byte", "bytes1")]

/-- A word, or the longer name that it stands for. -/
def expandWord (word : List Char) : List Char :=
  match shorthands.find? fun row => row.1.toList == word with
  | some row => row.2.toList
  | none => word

/-- A character of a word. -/
def isWordChar (c : Char) : Bool := isLetter c || isDigit c

/-- A text with its words expanded, after the characters of the word at its front in reverse. -/
def expandFrom (word : List Char) : List Char → List Char
  | [] => expandWord word.reverse
  | c :: rest =>
    if isWordChar c then expandFrom (c :: word) rest
    else expandWord word.reverse ++ c :: expandFrom [] rest

/-- A text with each of its words that stands for a longer name replaced by that name. -/
def expand (text : List Char) : List Char := expandFrom [] text

/-- The letters that may stand alone. -/
def known : List String :=
  ["uint", "int", "fixed", "ufixed", "address", "bool", "bytes", "function", "string"]

/-- Whether a name is letters and numbers alone, and no letters that may stand alone. -/
def isUnknownAlone : TypeName → Bool
  | basic letters _ _ _ _ [] => !(known.map String.toList).contains letters
  | _ => false

/-- Whether the number of bits is one of whole bytes up to a word. -/
def sizeRule? (bits : Nat) (bounds step : SuffixRule) : Option SuffixRule :=
  if bits < 8 || 256 < bits then some bounds else if bits % 8 != 0 then some step else none

/-- The rule for the numbers behind letters that they break. -/
def brokenRule? (letters : List Char) (size : TypeSize) : Option SuffixRule :=
  match String.ofList letters, size with
  | "string", .absent => none
  | "string", _ => some .textPlain
  | "bytes", .two _ _ => some .bytesNumber
  | "bytes", .one number => if 32 < number then some .bytesMost else none
  | "int", .one bits => sizeRule? bits .wholeBounds .wholeStep
  | "int", _ => some .wholeNumber
  | "uint", .one bits => sizeRule? bits .wholeBounds .wholeStep
  | "uint", _ => some .wholeNumber
  | "fixed", .two bits places => fixedRule? bits places
  | "fixed", _ => some .fixedForm
  | "ufixed", .two bits places => fixedRule? bits places
  | "ufixed", _ => some .fixedForm
  | "hash", .one _ => none
  | "hash", _ => some .hashNumber
  | "address", .absent => none
  | "address", _ => some .addressPlain
  | _, _ => none
where
  /-- The rule for bits and decimal places that they break. -/
  fixedRule? (bits places : Nat) : Option SuffixRule :=
    (sizeRule? bits .fixedBounds .fixedStep).or
      (if places < 1 || 80 < places then some (.fixedPlaces places) else none)

mutual

/-- The first suffix in a name that breaks a rule. -/
def badSuffix? (text : List Char) : TypeName → Option AbiError
  | basic letters size _ whole column _ =>
    (brokenRule? letters size).map (.badSuffix whole text column)
  | tuple items _ => anyBadSuffix? text items

/-- The first suffix in names that breaks a rule. -/
def anyBadSuffix? (text : List Char) : List TypeName → Option AbiError
  | [] => none
  | item :: rest => (badSuffix? text item).or (anyBadSuffix? text rest)

end

/-- The type that letters and numbers name. -/
def element? (letters : List Char) (size : TypeSize) : Option AbiType :=
  match String.ofList letters, size with
  | "uint", .one bits => some (.uint bits)
  | "int", .one bits => some (.int bits)
  | "ufixed", .two bits places => some (.ufixed bits places)
  | "fixed", .two bits places => some (.fixed bits places)
  | "address", _ => some .address
  | "bool", _ => some .bool
  | "bytes", .one size => some (.word size)
  | "bytes", .absent => some .bytes
  | "string", _ => some .string
  | _, _ => none

/-- The arrays and lists of a type. -/
def withArrays (type : AbiType) (arrays : List (Option Nat)) : AbiType :=
  arrays.foldl (fun type size => match size with
    | some size => .array type size
    | none => .list type) type

mutual

/-- The type that a name whose suffixes obey the rules names. -/
def type : TypeName → Except AbiError AbiType
  | basic letters size core _ _ arrays =>
    match element? letters size with
    | some element => .ok (withArrays element arrays)
    | none => .error (.unknownName core)
  | tuple items arrays => return withArrays (.tuple (← types items)) arrays

/-- The types that names name. -/
def types : List TypeName → Except AbiError (List AbiType)
  | [] => .ok []
  | item :: rest => return (← type item) :: (← types rest)

end

end TypeName

namespace AbiType

/-- Whether a tuple of nothing occurs in a text. -/
def hasEmptyTuple : List Char → Bool
  | '(' :: ')' :: _ => true
  | _ :: rest => hasEmptyTuple rest
  | [] => false

/-- The type of a name. -/
def ofName (text : List Char) : Except AbiError AbiType :=
  match TypeName.ofText? text with
  | none => .error (if hasEmptyTuple text then .emptyTuple else .badName)
  | some name =>
    if name.isUnknownAlone then .error (.unknownName text)
    else
      let expanded := TypeName.expand text
      match TypeName.ofText? expanded with
      | none => .error .badName
      | some name =>
        match name.badSuffix? expanded with
        | some error => .error error
        | none => name.type

end AbiType

end Attest
