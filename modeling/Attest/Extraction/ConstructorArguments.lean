import Attest.Abi.Constructor
import Attest.Abi.Decoder
import Attest.Abi.TypeName
import Attest.Extraction.Basic

/-!
# Extracting the arguments of the constructor

What the deployed creation bytecode has beyond the template is taken for the encoded arguments of
the constructor. The bytes prove themselves to be arguments by the values read from them having
these very bytes for their encoding.
-/
namespace Attest

/-- What an error in arguments makes of their extraction. -/
def AbiError.failure : AbiError → Failure
  | .badName => .fault .badTypeName
  | .oversized => .fault .oversized
  | error => .arguments (.undecodable error)

namespace Extraction

/-- The first position of a hexadecimal text at which no byte can be read. -/
def hexFault (position : Nat) : List Char → Nat
  | [] => position
  | [c] => if Text.isAsciiBlank c || !Hex.isDigit c then position else position + 1
  | c :: d :: rest =>
    if Text.isAsciiBlank c then hexFault (position + 1) (d :: rest)
    else if !Hex.isDigit c then position
    else if !Hex.isDigit d then position + 1
    else hexFault (position + 2) rest

/-- The bytes of a hexadecimal text. -/
def argumentBytes (text : Code) : Except AbiError (List UInt8) :=
  match Hex.readBytes? text with
  | some bytes => .ok bytes
  | none =>
    .error (.notHex ((text.findIdx? fun c => 0x80 ≤ c.toNat).getD (hexFault 0 text)))

/-- The encoding of the values of types that bytes give when they are read. -/
def reencoded (names : List (List Char)) (text : Code) : Except AbiError (List UInt8) := do
  let data ← argumentBytes text
  let type := AbiType.tuple (← names.mapM AbiType.ofName)
  return type.encode (← type.decodeAt data 0)

/-- The transformation that inserts arguments. -/
def argumentsTransformation (offset : Nat) : Transformation :=
  ⟨.insert, .constructorArguments, offset, none⟩

/-- Take what the deployed creation bytecode has beyond the template for the arguments of the
constructor. -/
def constructorArguments (real template : Code) (interface : Json) :
    Except Failure Extraction := do
  if real.length ≤ template.length then return { code := template }
  let surplus := Text.lower (real.drop template.length)
  let inputs := ((← Interface.constructorInputs interface).getD .null)
  if !inputs.holds then throw (.arguments .inputsMissing)
  let names ← Interface.parameterTypes (← inputs.listed)
  let again ← (reencoded names surplus).mapError AbiError.failure
  let canonical := Hex.writeBytes again
  if canonical ≠ surplus then
    throw (.arguments (.notCanonical (Code.marked canonical) (Code.marked surplus)))
  return {
    code := real
    transformations := [argumentsTransformation template.byteLength]
    values := { constructorArguments := some (Code.marked surplus) } }

end Extraction

end Attest
