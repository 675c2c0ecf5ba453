import Attest.Double
import Attest.Json.Printer
import Attest.Table

/-!
# CBOR items

The data items of the concise binary format: integers of any size, byte and text strings, lists,
maps in the order of their entries, and the simple values.
-/
namespace Attest

/-- A data item. -/
inductive Cbor where
  | int (value : Int)
  | bytes (value : List UInt8)
  | text (value : List Char)
  | list (items : List Cbor)
  | map (entries : List (Cbor × Cbor))
  | bool (value : Bool)
  | null
  | undefined
  | simple (value : Nat)
  | real (value : Double)

namespace Cbor

instance : Inhabited Cbor := ⟨null⟩

/-- Whether a value says something: null, false, zero and what is empty do not. -/
def holds : Cbor → Bool
  | int value => value != 0
  | bytes value => !value.isEmpty
  | text value => !value.isEmpty
  | list items => !items.isEmpty
  | map entries => !entries.isEmpty
  | bool value => value
  | null => false
  | undefined => false
  | simple _ => true
  | real value => !value.isZero

/-- Whether an item is a given text. -/
def isText (item : Cbor) (expected : String) : Bool :=
  match item with
  | text found => found == expected.toList
  | _ => false

/-- The number that an item stands for, as a whole number and a power of two. A truth value stands
for zero or one. -/
def scaled? : Cbor → Option (Int × Int)
  | int value => some (value, 0)
  | bool value => some (if value then 1 else 0, 0)
  | real value =>
    if value.exponent == 0x7ff then none
    else
      let (m, q) := value.scaled
      some (if value.negative then -(m : Int) else m, q)
  | _ => none

/-- Whether two scaled numbers are equal. -/
def sameScaled (a b : Int × Int) : Bool :=
  a.1 * Nat.pow 2 (a.2 - min a.2 b.2).toNat == b.1 * Nat.pow 2 (b.2 - min a.2 b.2).toNat

mutual

/-- Whether two items are one key of a map: numbers are compared by value, whatever their kind. -/
def sameKey : Cbor → Cbor → Bool
  | bytes a, bytes b => a == b
  | text a, text b => a == b
  | list a, list b => sameKeys a b
  | map a, map b => sameEntries a b
  | null, null => true
  | undefined, undefined => true
  | simple a, simple b => a == b
  | a, b =>
    match scaled? a, scaled? b with
    | some a, some b => sameScaled a b
    | none, none =>
      match a, b with
      | real a, real b => a == b && !a.isNaN
      | _, _ => false
    | _, _ => false

/-- Whether two lists of items are pairwise one key. -/
def sameKeys : List Cbor → List Cbor → Bool
  | [], [] => true
  | a :: as, b :: bs => sameKey a b && sameKeys as bs
  | _, _ => false

/-- Whether two maps have pairwise the same entries. -/
def sameEntries : List (Cbor × Cbor) → List (Cbor × Cbor) → Bool
  | [], [] => true
  | (a, x) :: as, (b, y) :: bs => sameKey a b && sameKey x y && sameEntries as bs
  | _, _ => false

end

/-- Write an entry: a key that occurs keeps its place and gets the value. -/
def putEntry (entries : List (Cbor × Cbor)) (key value : Cbor) : List (Cbor × Cbor) :=
  match entries with
  | [] => [(key, value)]
  | row :: rest =>
    if sameKey row.1 key then (row.1, value) :: rest else row :: putEntry rest key value

/-- The value of a text key. -/
def entry? (entries : List (Cbor × Cbor)) (key : String) : Option Cbor :=
  (entries.find? fun row => row.1.isText key).map Prod.snd

/-- A byte as a character of a literal. -/
def literalByte (quote : Char) (byte : UInt8) : List Char :=
  let n := byte.toNat
  if n < 0x7f then Json.literalChar quote (Char.ofNat n)
  else '\\' :: 'x' :: Json.padded 2 n

/-- Bytes as a literal. -/
def literalBytes (value : List UInt8) : List Char :=
  let quote := if value.contains 0x27 && !value.contains 0x22 then '"' else '\''
  'b' :: quote :: value.flatMap (literalByte quote) ++ [quote]

mutual

/-- An item as a literal. -/
def literal : Cbor → List Char
  | int value => Json.decimal value
  | bytes value => literalBytes value
  | text value => Json.literalText value
  | list [] => ['[', ']']
  | list (first :: rest) => '[' :: literal first ++ literalItems rest ++ [']']
  | map [] => ['{', '}']
  | map ((key, value) :: rest) =>
    '{' :: literal key ++ ':' :: ' ' :: literal value ++ literalEntries rest ++ ['}']
  | bool value => if value then "True".toList else "False".toList
  | null => "None".toList
  | undefined => "undefined".toList
  | simple value => "CBORSimpleValue(value=".toList ++ Json.decimal value ++ [')']
  | real value => value.text

/-- Further items, a comma before each. -/
def literalItems : List Cbor → List Char
  | [] => []
  | item :: rest => ',' :: ' ' :: literal item ++ literalItems rest

/-- Further entries, a comma before each. -/
def literalEntries : List (Cbor × Cbor) → List Char
  | [] => []
  | (key, value) :: rest =>
    ',' :: ' ' :: literal key ++ ':' :: ' ' :: literal value ++ literalEntries rest

end

/-- An item in a sentence: a text as it stands and any other item as a literal. -/
def plain : Cbor → List Char
  | text value => value
  | item => literal item

end Cbor

end Attest
