import Attest.Auxdata.Style
import Attest.Cbor.Reader
import Attest.Failure.Basic
import Attest.Text.Numeral

/-!
# The auxdata at the end of a bytecode

A bytecode may end in an auxdata: a payload that holds a CBOR item, and the suffix that gives its
length. Splitting looks only at the end: it reads the suffix, cuts off what the suffix claims, and
takes it for auxdata if it is hexadecimal. A claimed payload that is hexadecimal and begins with no
CBOR item is a fault of the bytecode; every other misfit means that there is no auxdata.
-/
namespace Attest

/-- The auxdata at the end of a bytecode. -/
structure Trailer where
  /-- The text of the bytes that hold the item. -/
  payload : Code
  /-- The text of the length that follows. -/
  suffix : Code
  /-- The item at the front of the payload. -/
  item : Cbor

/-- A bytecode and the auxdata cut from its end, if it has one. -/
structure Split where
  /-- The marked code before the auxdata, or all of it. -/
  execution : Code
  /-- The auxdata. -/
  trailer : Option Trailer

namespace Trailer

/-- The digits of the length that follows a payload. -/
def suffixDigits : Nat := 4

/-- The bytes of a payload that no length follows. -/
def fixedBytes : Nat := 11

/-- The parts that a body falls into when a payload of as many digits stands before its suffix. -/
def cutAt (body : Code) (digits : Int) : Option (Code × Code × Code) :=
  let stop : Int := body.length - suffixDigits
  let start := stop - digits
  if start < 0 then none
  else
    some (Slice.upTo body start, Slice.between body start stop,
      body.drop (body.length - suffixDigits))

/-- Execution part, payload and suffix that the end of a body claims. -/
def cut? (style : AuxdataStyle) (body : Code) : Option (Code × Code × Code) :=
  if style = .vyperBefore035 then
    let digits := 2 * fixedBytes
    if body.length < digits then none
    else some (body.take (body.length - digits), body.drop (body.length - digits), [])
  else if body.length < suffixDigits then none
  else
    match Numeral.readHex? (body.drop (body.length - suffixDigits)) with
    | none => none
    | some length =>
      if style = .vyper then
        if 2 * length < suffixDigits then none else cutAt body (2 * length - suffixDigits)
      else cutAt body (2 * length)

/-- The item that a payload holds: none if the payload is not hexadecimal, and a fault if its bytes
begin with no item. -/
def item? (payload : Code) : Except Failure (Option Cbor) :=
  if payload.isEmpty then .ok none
  else
    match Hex.readBytes? payload with
    | none => .ok none
    | some bytes =>
      match Cbor.decode? bytes with
      | none => .error (.fault .notCbor)
      | some item => .ok (some item)

/-- The digits of an auxdata. -/
def digits (trailer : Trailer) : Code := trailer.payload ++ trailer.suffix

end Trailer

/-- Split a bytecode before its auxdata. -/
def split (bytecode : Code) (style : AuxdataStyle) : Except Failure Split :=
  if bytecode.isEmpty then .error (.argument .emptyBytecode)
  else
    let whole : Split := ⟨Code.marked bytecode.body, none⟩
    match Trailer.cut? style bytecode.body with
    | none => .ok whole
    | some (execution, payload, suffix) =>
      match Trailer.item? payload with
      | .error failure => .error failure
      | .ok none => .ok whole
      | .ok (some item) => .ok ⟨Code.marked execution, some ⟨payload, suffix, item⟩⟩

end Attest
