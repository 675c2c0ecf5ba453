import Attest.Proofs.Result
import Attest.Transformation.Printer

/-!
# Reading exported transformations

Who holds only the record of a match reads its transformations and values back in it. What is left
out reads as absent, so nothing is lost (`Values.ofJson_toJson`), but for a reason that this library
does not know and that bears the name of one that it does; a list that can be replayed has none
(`Transformation.known_of_replayOn`).
-/
namespace Attest

/-- The characters of a member that may be absent. -/
def Json.chars? (record : Json) (key : String) : Except Fault (Option (List Char)) := do
  match ← record.member? key with
  | none => return none
  | some value => return some (← value.chars)

/-- The rows of a record of texts. -/
def codeRows : List (String × Json) → Except Fault (Table String Code)
  | [] => .ok []
  | (key, value) :: rest => do return (key, ← value.chars) :: (← codeRows rest)

namespace Values

/-- A table of codes in a member that may be absent. -/
def codesIn (record : Json) (key : String) : Except Fault (Table String Code) := do
  codeRows (← (← record.memberD key (.record [])).members)

/-- The values that a record tells. -/
def ofJson (record : Json) : Except Fault Values := do
  let constructorArguments ← record.chars? Reason.constructorArguments.name
  let callProtection ← record.chars? Reason.callProtection.name
  let libraries ← codesIn record "libraries"
  let immutables ← codesIn record "immutables"
  let auxdatas ← codesIn record Reason.auxdata.name
  return { constructorArguments, callProtection, libraries, immutables, auxdatas }

end Values

namespace Transformation

/-- The transformation that a record tells. -/
def ofJson (record : Json) : Except Fault Transformation := do
  let action ← (← record.member "type").chars
  let reason ← (← record.member "reason").chars
  let offset ← (← record.member "offset").whole
  let id ← record.chars? "id"
  return {
    action := .ofName (String.ofList action)
    reason := .ofName (String.ofList reason)
    offset
    id := id.map String.ofList }

end Transformation

end Attest
