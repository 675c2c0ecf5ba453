import Attest.Auxdata.Location
import Attest.Extraction.Basic

/-!
# Filling auxdatas

The auxdata of a bytecode depends on the names and comments of the sources. Taking the deployed text
of every auxdata over into the template leaves only differences of the code itself.
-/
namespace Attest.Extraction

/-- Take one auxdata over. -/
def fillAuxdata (real : Code) (id : String) (place : AuxdataPosition) (done : Extraction) :
    Except Failure Extraction := do
  let length : Int := place.value.byteLength
  let value ← deployed real (.auxdata id) place.offset length
  return { done with
    code := Code.splice done.code place.offset value length
    transformations := done.transformations ++ [⟨.replace, .auxdata, place.offset, some id⟩]
    values := { done.values with
      auxdatas := done.values.auxdatas.put id (Code.marked value) } }

/-- Take auxdatas over in order. -/
def fillAuxdatas (real : Code) (done : Extraction) : AuxdataPositions → Except Failure Extraction
  | [] => .ok done
  | (id, place) :: rest => do fillAuxdatas real (← fillAuxdata real id place done) rest

/-- Take all auxdatas over. -/
def auxdatas (template real : Code) (places : AuxdataPositions) : Except Failure Extraction :=
  fillAuxdatas real { code := template } places

end Attest.Extraction
