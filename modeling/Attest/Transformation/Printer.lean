import Attest.Json.Basic
import Attest.Transformation.Basic

/-!
# Transformations as JSON

The record of a transformation and of the values that transformations write. What is absent is left
out: an id, a value that was not filled, a table without rows.
-/
namespace Attest

/-- A code as JSON. -/
def Code.toJson (code : Code) : Json := .text (String.ofList code)

/-- The record of a transformation. -/
def Transformation.toJson (transformation : Transformation) : Json :=
  .record ([("type", .text transformation.action.name),
    ("reason", .text transformation.reason.name), ("offset", .int transformation.offset)] ++
    transformation.id.toList.map fun id => ("id", .text id))

namespace Values

/-- A table of codes as JSON. -/
def tableJson (table : Table String Code) : Json :=
  .record (table.map fun (key, value) => (key, value.toJson))

/-- The member of a table that has rows. -/
def tableMember (name : String) (table : Table String Code) : List (String × Json) :=
  if table.isEmpty then [] else [(name, tableJson table)]

/-- The member of a value that is there. -/
def scalarMember (name : String) (value : Option Code) : List (String × Json) :=
  value.toList.map fun value => (name, value.toJson)

/-- The record of values. -/
def toJson (values : Values) : Json :=
  .record (scalarMember Reason.constructorArguments.name values.constructorArguments ++
    scalarMember Reason.callProtection.name values.callProtection ++
    tableMember "libraries" values.libraries ++ tableMember "immutables" values.immutables ++
    tableMember Reason.auxdata.name values.auxdatas)

end Values

end Attest
