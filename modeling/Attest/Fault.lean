import Attest.Json.ReadError

/-!
# Faults of values from outside

Documents, replies and references come from other programs and may have any shape. A fault says
how a value misses the shape that its reader needs.
-/
namespace Attest

/-- How a value from outside misses the shape that is needed. -/
inductive Fault where
  /-- A record lacks a member that has to be there. -/
  | absentMember
  /-- A question that only another kind of value answers. -/
  | wrongKind
  /-- An operation that does not apply to this kind of value. -/
  | unsuitable
  /-- A numeral or hexadecimal text that cannot be read. -/
  | badNumeral
  /-- A length past every length that can be stored. -/
  | oversized
  /-- A text with a character that its encoding lacks, or bytes that are no text in it. -/
  | unencodable
  /-- A text that is no JSON. -/
  | notJson (error : Json.ReadError)
  /-- A file that does not exist. -/
  | noSuchFile
  /-- A type name outside the grammar of the contract interface. -/
  | badTypeName
  /-- Bytes that do not begin with a CBOR item. -/
  | notCbor
  deriving DecidableEq, Repr

/-- Whether a fault lies in the value itself and not in its kind: text that cannot be read as what
it should say. -/
def Fault.isUnreadable : Fault → Bool
  | .badNumeral | .unencodable | .notJson _ => true
  | _ => false

end Attest
