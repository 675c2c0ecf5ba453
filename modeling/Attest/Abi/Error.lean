import Attest.Cbor.Basic
import Attest.Text.Utf8

/-!
# Why arguments cannot be read

The ways in which the name of a type names none, and in which bytes are no encoding of a value.
-/
namespace Attest

/-- A rule for the number behind the name of a type. -/
inductive SuffixRule where
  | textPlain
  | bytesNumber
  | bytesMost
  | wholeNumber
  | wholeBounds
  | wholeStep
  | fixedForm
  | fixedBounds
  | fixedStep
  | fixedPlaces (places : Nat)
  | hashNumber
  | addressPlain
  deriving DecidableEq, Repr

/-- Why arguments cannot be read. -/
inductive AbiError where
  /-- The text of the bytes is not hexadecimal from a position on. -/
  | notHex (position : Nat)
  /-- A name outside the grammar. -/
  | badName
  /-- A name with a tuple of nothing. -/
  | emptyTuple
  /-- A name within the grammar that names no type. -/
  | unknownName (name : List Char)
  /-- A name with a suffix that breaks a rule, and the whole name in which it stands. -/
  | badSuffix (name whole : List Char) (column : Nat) (rule : SuffixRule)
  /-- The bytes end within a word. -/
  | shortWord (found : Nat)
  /-- The bytes end within counted bytes. -/
  | shortBytes (wanted found : Nat)
  /-- A count of bytes past every length that can be stored. -/
  | oversized
  /-- What stands beside a short value is not the padding of its sign. -/
  | padding (found : List UInt8)
  /-- A truth value that is neither zero nor one. -/
  | notBool (found : List UInt8)
  /-- A pointer at a place leads into the pointers or past the end. -/
  | pointer (inTuple : Bool) (place : Nat)
  /-- The bytes of a text are no UTF-8. -/
  | notUtf8 (error : Utf8.Error)
  deriving DecidableEq, Repr

/-- The words for a broken rule. -/
def SuffixRule.message : SuffixRule → String
  | textPlain => "string type cannot have suffix"
  | bytesNumber => "bytes type must have either no suffix or a numerical suffix"
  | bytesMost => "maximum 32 bytes for fixed-length bytes"
  | wholeNumber => "integer type must have numerical suffix"
  | wholeBounds => "integer size out of bounds (max 256 bits)"
  | wholeStep => "integer size must be multiple of 8"
  | fixedForm => "fixed type must have suffix of form <bits>x<exponent>, e.g. 128x19"
  | fixedBounds => "fixed size out of bounds (max 256 bits)"
  | fixedStep => "fixed size must be multiple of 8"
  | fixedPlaces places =>
    "fixed exponent size out of bounds, " ++ toString places ++ " must be in 1-80"
  | hashNumber => "hash type must have numerical suffix"
  | addressPlain => "address cannot have suffix"

/-- The words for an error. -/
def AbiError.message : AbiError → String
  | notHex position =>
    "non-hexadecimal number found in fromhex() arg at position " ++ toString position
  | badName => ""
  | emptyTuple => "Zero-sized tuple types \"()\" are not supported."
  | unknownName name =>
    "No matching entries for '" ++ String.ofList name ++ "' in decoder registry"
  | badSuffix name whole column rule =>
    "For '" ++ String.ofList name ++ "' type at column " ++ toString column ++ " in '" ++
      String.ofList whole ++ "': " ++ rule.message
  | shortWord found =>
    "Tried to read 32 bytes, only got " ++ toString found ++ " bytes."
  | shortBytes wanted found =>
    "Tried to read " ++ toString wanted ++ " bytes, only got " ++ toString found ++ " bytes"
  | oversized => ""
  | padding found => "Padding bytes were not empty: " ++ String.ofList (Cbor.literalBytes found)
  | notBool found =>
    "Boolean must be either 0x0 or 0x1.  Got: " ++ String.ofList (Cbor.literalBytes found)
  | pointer inTuple place =>
    "Invalid pointer in " ++ (if inTuple then "tuple" else "array") ++ " at location " ++
      toString place ++ " in payload"
  | notUtf8 error => error.message

end Attest
