import Attest.Abi.Type
import Attest.BigEndian
import Attest.Text.Utf8

/-!
# Encoding arguments

The one canonical encoding of values. The items of a list, array or tuple are encoded in two parts:
first for each item its words, or the distance to its encoding if it is dynamic, and then the
encodings of the dynamic items in order.
-/
namespace Attest

/-- The value of an argument. -/
inductive AbiValue where
  | number (value : Int)
  | flag (value : Bool)
  | octets (value : List UInt8)
  | chars (value : List Char)
  | items (values : List AbiValue)

namespace AbiType

/-- The word of an integer. -/
def wordOf (value : Int) : List UInt8 := BigEndian.lowBytes wordBytes value

/-- The number of bytes in whole words that hold a number of bytes. -/
def wholeWords (count : Nat) : Nat := (count + 31) / wordBytes * wordBytes

/-- Bytes with zeros after them up to whole words. -/
def padded (value : List UInt8) : List UInt8 :=
  value ++ List.replicate (wholeWords value.length - value.length) 0

/-- Bytes behind the word of their number. -/
def counted (value : List UInt8) : List UInt8 := wordOf value.length ++ padded value

/-- The encoding of an item among others, and whether a pointer stands for it. -/
structure Encoded where
  /-- Whether a pointer stands in its place. -/
  pointed : Bool
  /-- Its encoding. -/
  bytes : List UInt8

/-- The bytes that an encoded item takes in the first part. -/
def Encoded.headBytes (item : Encoded) : Nat :=
  if item.pointed then wordBytes else item.bytes.length

/-- The first part: items and pointers, the encodings of the items pointed to beginning at `next`.
-/
def heads (next : Nat) : List Encoded → List UInt8
  | [] => []
  | item :: rest =>
    if item.pointed then wordOf next ++ heads (next + item.bytes.length) rest
    else item.bytes ++ heads next rest

/-- The second part: the encodings of the items pointed to. -/
def tails (items : List Encoded) : List UInt8 :=
  items.flatMap fun item => if item.pointed then item.bytes else []

/-- The bytes that items take in the first part. -/
def headLength (items : List Encoded) : Nat :=
  items.foldr (fun item length => item.headBytes + length) 0

/-- The encoding of items in two parts. -/
def joined (items : List Encoded) : List UInt8 := heads (headLength items) items ++ tails items

mutual

/-- The encoding of a value of a type. -/
def encode : AbiType → AbiValue → List UInt8
  | word _, .octets value => padded value
  | bool, .flag value => wordOf (if value then 1 else 0)
  | bytes, .octets value => counted value
  | string, .chars value => counted (Utf8.encode value)
  | array item _, .items values =>
    joined (values.map fun value => ⟨item.isDynamic, encode item value⟩)
  | list item, .items values =>
    wordOf values.length ++ joined (values.map fun value => ⟨item.isDynamic, encode item value⟩)
  | tuple items, .items values => joined (encodeEach items values)
  | _, .number value => wordOf value
  | _, _ => []

/-- The encodings of values of types. -/
def encodeEach : List AbiType → List AbiValue → List Encoded
  | item :: items, value :: values =>
    ⟨item.isDynamic, encode item value⟩ :: encodeEach items values
  | _, _ => []

end

end AbiType

end Attest
