import Attest.Auxdata.Contents
import Attest.Extraction.Auxdata
import Attest.Extraction.ConstructorArguments
import Attest.Extraction.Immutable
import Attest.Extraction.Library

/-!
# Matching a compiled bytecode with the deployed one

The template is filled from the deployed bytecode part by part, and then compared with it. It
matches perfectly if it is the same without a change to any auxdata and the auxdatas prove the
metadata by content hashes. It matches partly if it is the same once the auxdatas are filled in too,
or if nothing proves the metadata. A part that the deployed bytecode cannot fill is a difference; a
template that does not hold what its references promise is malformed and ends the matching.
-/
namespace Attest

/-- How far a compiled bytecode is the deployed one. -/
inductive MatchStatus where
  | perfect
  | partly
  | differs
  deriving DecidableEq, Repr

namespace MatchStatus

/-- The name of a status. -/
def name : MatchStatus → String
  | perfect => "perfect"
  | partly => "partial"
  | differs => "none"

/-- The status of a name. -/
def ofName? (text : String) : Option MatchStatus :=
  [perfect, partly, differs].find? (·.name == text)

/-- Whether the bytecodes match at all. -/
def matched (status : MatchStatus) : Bool := status != differs

end MatchStatus

/-- The outcome of a comparison, with what was filled. -/
structure Match where
  /-- How far the bytecodes agree. -/
  status : MatchStatus
  /-- What was filled, in order. -/
  transformations : List Transformation := []
  /-- With what. -/
  values : Values := {}
  /-- The filled template. -/
  code : Code := []
  /-- The address that took the place of each placeholder. -/
  libraryMap : Table Code Code := []
  deriving DecidableEq, Repr

namespace Match

/-- Whether a filled template is the deployed code, or for code that creates begins it. -/
def agrees (kind : CodeKind) (template real : Code) : Bool :=
  match kind with
  | .creation => template.isPrefixOf real
  | .runtime => template == real

/-- Whether an auxdata fixes the metadata by a content hash. -/
def provesMetadata (style : AuxdataStyle) (value : Code) : Except Failure Bool :=
  match Contents.decode value style with
  | .ok contents => .ok contents.hasContentHash
  | .error (.auxdata _) => .ok false
  | .error failure => .error failure

/-- Whether all auxdatas fix the metadata. -/
def allProve (style : AuxdataStyle) : AuxdataPositions → Except Failure Bool
  | [] => .ok true
  | (_, position) :: rest => do
    if ← provesMetadata style position.value then allProve style rest else return false

/-- The status of code that agrees without a change to any auxdata. -/
def provenStatus (style : AuxdataStyle) (positions : AuxdataPositions) :
    Except Failure MatchStatus := do
  if positions.isEmpty then return .partly
  else if ← allProve style positions then return .perfect
  else return .partly

/-- A match that has an extraction's filling added to it. -/
def extend (found : Match) (extraction : Extraction) : Match :=
  { found with
    transformations := found.transformations ++ extraction.transformations
    values := found.values.merge extraction.values
    code := extraction.code }

/-- The template filled with libraries and immutables. -/
def linked (template real : Code) (libraries : Listing LibrarySlot)
    (immutables : Listing ImmutableSlot) (style : AuxdataStyle) : Except Failure Match := do
  let linked ← Extraction.libraries template real libraries
  let start : Match := {
    status := .differs
    transformations := linked.transformations
    values := linked.values
    code := linked.code.normalize
    libraryMap := linked.libraryMap }
  return start.extend (← Extraction.immutables start.code real immutables style)

/-- Compare a linked template with the deployed code, filling in the auxdatas if they differ. -/
def compare (kind : CodeKind) (found : Match) (real : Code) (positions : AuxdataPositions)
    (style : AuxdataStyle) : Except Failure Match := do
  if agrees kind found.code real then
    return { found with status := ← provenStatus style positions }
  else if positions.isEmpty then return found
  else
    let auxdatas ← Extraction.auxdatas found.code real positions
    if agrees kind auxdatas.code real then return { found.extend auxdatas with status := .partly }
    else return found

/-- Take what follows matched code that creates a contract for the arguments of its constructor. -/
def takeArguments (found : Match) (real : Code) (interface : Json) : Except Failure Match := do
  if found.status.matched then
    return found.extend (← Extraction.constructorArguments real found.code interface)
  else return found

/-- A part that cannot be filled makes a difference. -/
def orDiffers (template : Code) (result : Except Failure Match) : Except Failure Match :=
  match result with
  | .error (.region _) => .ok { status := .differs, code := template }
  | result => result

/-- Match a template with the deployed code. -/
def ofCode (kind : CodeKind) (template real : Code) (libraries : Listing LibrarySlot)
    (positions : AuxdataPositions) (immutables : Listing ImmutableSlot) (style : AuxdataStyle)
    (interface : Json) : Except Failure Match :=
  let real := real.normalize
  orDiffers template.normalize do
    let found ← linked template real libraries immutables style
    let found ← compare kind found real positions style
    match kind with
    | .creation => takeArguments found real interface
    | .runtime => return found

/-- Match the code that a contract runs. -/
def runtime (template real : Code) (libraries : Listing LibrarySlot)
    (positions : AuxdataPositions) (immutables : Listing ImmutableSlot) (style : AuxdataStyle) :
    Except Failure Match :=
  let real := real.normalize
  match Extraction.callProtection template real with
  | .error (.region _) => .ok { status := .differs, code := template }
  | .error failure => .error failure
  | .ok protection => do
    let found ← ofCode .runtime protection.code real libraries positions immutables style .null
    return { found with
      transformations := protection.transformations ++ found.transformations
      values := protection.values.merge found.values }

/-- Match the code that creates a contract. -/
def creation (template real : Code) (libraries : Listing LibrarySlot)
    (positions : AuxdataPositions) (interface : Json) (style : AuxdataStyle) :
    Except Failure Match :=
  ofCode .creation template real libraries positions .empty style interface

end Match

end Attest
