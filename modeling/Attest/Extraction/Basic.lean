import Attest.Listing
import Attest.Transformation.Basic

/-!
# Extraction

Filling a part of a compiled bytecode, the template, from the deployed one and recording what was
filled. An extraction holds the filled template, the transformations in the order of filling, the
values, and for each placeholder text the address that took its place.
-/
namespace Attest

/-- A template filled from the deployed bytecode, and the record of the filling. -/
structure Extraction where
  /-- The filled template. -/
  code : Code
  /-- What was filled, in order. -/
  transformations : List Transformation := []
  /-- With what. -/
  values : Values := {}
  /-- The address that took the place of each placeholder. -/
  libraryMap : Table Code Code := []
  deriving DecidableEq, Repr

namespace Extraction

/-- The text of a part of the deployed bytecode, which must not end before it. -/
def deployed (real : Code) (part : Part) (start length : Int) : Except Failure Code :=
  if (real.byteLength : Int) < start + length then
    .error (.region (.outside part start length real.byteLength))
  else .ok (Code.region real start length)

/-- Whether a value recorded before differs from one found now. -/
def conflict? (table : Table String Code) (id : String) (found : Code) : Option Code :=
  (table.get? id).filter (· != found)

/-- How a bytecode of a library begins that refuses calls made directly to it: an instruction that
pushes an address of zeros, to be replaced by the library's own. -/
def protectionMark : Code :=
  Code.marked ('7' :: '3' :: Placeholder.zeros)

/-- The bytes of an address. -/
def addressBytes : Nat := Placeholder.addressDigits / 2

/-- The transformation that fills in the address of a library's call protection. -/
def protectionTransformation : Transformation := ⟨.replace, .callProtection, 1, none⟩

/-- Fill in the address of a library's call protection, if the template begins with one. -/
def callProtection (template real : Code) : Except Failure Extraction :=
  if protectionMark.isPrefixOf template then do
    let address ← deployed real .callProtection 1 addressBytes
    return {
      code := Code.overwrite template 1 address
      transformations := [protectionTransformation]
      values := { callProtection := some (Code.marked address) } }
  else .ok { code := template }

end Extraction

end Attest
