import Attest.Auxdata.Style
import Attest.Extraction.Library

/-!
# Filling immutables

The slots of an immutable hold zeros in the template and its value in the deployed bytecode; all
slots of one immutable have to hold one value. Newer Vyper compilers leave no slots: the values of
all immutables are appended to the code when it is deployed, so they are inserted.
-/
namespace Attest

/-- A slot of an immutable. -/
structure ImmutableSlot where
  /-- The id of the immutable. -/
  id : String
  /-- The offset of the slot. -/
  start : Int
  /-- Its length in bytes. -/
  length : Int
  deriving DecidableEq, Repr

namespace ImmutableSlot

/-- The slots of one immutable. -/
def ofReferences (id : String) (references : Json) : Listing ImmutableSlot :=
  .after references.listed fun references =>
    .collect (fun reference => .one ((readSpan reference).map fun (start, length) =>
      ⟨id, start, length⟩)) references

/-- The slots that immutable references name, id by id. -/
def listing (references : Json) : Listing ImmutableSlot :=
  if references.holds then
    .after references.members fun ids => .collect (fun (id, slots) => ofReferences id slots) ids
  else .empty

end ImmutableSlot

/-- How immutables get into the code of a style. -/
def AuxdataStyle.immutableAction (style : AuxdataStyle) : Action :=
  if style = .vyper then .insert else .replace

namespace Extraction

/-- Fill one slot. -/
def fillImmutable (real : Code) (action : Action) (slot : ImmutableSlot) (done : Extraction) :
    Except Failure Extraction := do
  let value ← deployed real (.immutable slot.id) slot.start slot.length
  match conflict? done.values.immutables slot.id (Code.marked value) with
  | some recorded => .error (.region (.immutableConflict slot.id recorded (Code.marked value)))
  | none =>
    let transformation : Transformation := ⟨action, .immutable, slot.start, some slot.id⟩
    return { done with
      code := transformation.write done.code value
      transformations := done.transformations ++ [transformation]
      values := { done.values with
        immutables := done.values.immutables.put slot.id (Code.marked value) } }

/-- Fill slots in order. -/
def fillImmutables (real : Code) (action : Action) (done : Extraction) :
    List ImmutableSlot → Except Failure Extraction
  | [] => .ok done
  | slot :: rest => do fillImmutables real action (← fillImmutable real action slot done) rest

/-- Fill all slots of immutables. -/
def immutables (template real : Code) (slots : Listing ImmutableSlot) (style : AuxdataStyle) :
    Except Failure Extraction := do
  slots.settle (← fillImmutables real style.immutableAction { code := template } slots.entries)

end Extraction

end Attest
