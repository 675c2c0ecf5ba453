import Attest.Extraction.Basic
import Attest.Json.Basic

/-!
# Filling the slots of libraries

Each slot of a library holds one of its placeholders in the template and its address in the deployed
bytecode. All slots of one library have to hold one address.
-/
namespace Attest

/-- A slot that a compiler leaves for the address of a library. -/
structure LibrarySlot where
  /-- The full name of the library. -/
  name : String
  /-- The offset of the slot. -/
  start : Int
  /-- Its length in bytes. -/
  length : Int
  deriving DecidableEq, Repr

/-- The offset and the length that a reference gives. -/
def readSpan (reference : Json) : Except Fault (Int × Int) := do
  let start ← reference.member "start"
  let length ← reference.member "length"
  return (← start.whole, ← length.whole)

namespace LibrarySlot

/-- The slots of one library. -/
def ofReferences (name : String) (references : Json) : Listing LibrarySlot :=
  .after references.listed fun references =>
    .collect (fun reference => .one ((readSpan reference).map fun (start, length) =>
      ⟨name, start, length⟩)) references

/-- The slots of the libraries of one source file. -/
def ofFile (file : String) (libraries : Json) : Listing LibrarySlot :=
  .after libraries.members fun libraries =>
    .collect (fun (library, references) => ofReferences (file ++ ":" ++ library) references)
      libraries

/-- The slots that link references name, file by file. -/
def listing (references : Json) : Listing LibrarySlot :=
  if references.holds then
    .after references.members fun files =>
      .collect (fun (file, libraries) => ofFile file libraries) files
  else .empty

end LibrarySlot

namespace Extraction

/-- Fill one slot. -/
def fillLibrary (real : Code) (slot : LibrarySlot) (done : Extraction) :
    Except Failure Extraction := do
  let held := Code.region done.code slot.start slot.length
  if (Placeholder.accepted slot.name).contains held then
    let address ← deployed real (.library slot.name) slot.start slot.length
    match conflict? done.values.libraries slot.name (Code.marked address) with
    | some recorded =>
      .error (.region (.libraryConflict slot.name recorded (Code.marked address)))
    | none =>
      return {
        code := Code.overwrite done.code slot.start address
        transformations := done.transformations ++
          [⟨.replace, .library, slot.start, some slot.name⟩]
        values := { done.values with
          libraries := done.values.libraries.put slot.name (Code.marked address) }
        libraryMap := done.libraryMap.put held (Code.marked address) }
  else .error (.placeholder ⟨slot.name, slot.start, held⟩)

/-- Fill slots in order. -/
def fillLibraries (real : Code) (done : Extraction) : List LibrarySlot → Except Failure Extraction
  | [] => .ok done
  | slot :: rest => do fillLibraries real (← fillLibrary real slot done) rest

/-- Fill all slots of libraries. -/
def libraries (template real : Code) (slots : Listing LibrarySlot) : Except Failure Extraction := do
  slots.settle (← fillLibraries real { code := template } slots.entries)

end Extraction

end Attest
