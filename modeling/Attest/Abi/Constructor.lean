import Attest.Json.Basic

/-!
# The constructor in a contract's interface

The interface of a contract lists its functions and its constructor. A parameter names its type; for
a tuple it lists the components, which have types of their own.
-/
namespace Attest.Interface

/-- The name of the type of a parameter. -/
def typeName (members : List (String × Json)) : Except Fault (List Char) :=
  match Table.get? members "type" with
  | none => .error .absentMember
  | some name => name.chars

/-- How the name of the type of a tuple begins. -/
def tupleWord : List Char := "tuple".toList

mutual

/-- The full name of the type of a parameter, with the types of components in brackets in the place
of the word for a tuple. -/
def parameterType : Json → Except Fault (List Char)
  | .record members => do
    let name ← typeName members
    if tupleWord.isPrefixOf name then
      let components ← componentsAmong members
      return '(' :: List.intercalate [','] components ++ ')' :: name.drop tupleWord.length
    else return name
  | _ => .error .unsuitable

/-- The full names of the types of the components that are listed among members. -/
def componentsAmong : List (String × Json) → Except Fault (List (List Char))
  | [] => .ok []
  | (name, value) :: rest =>
    if name = "components" then componentTypes value else componentsAmong rest

/-- The full names of the types of components. -/
def componentTypes : Json → Except Fault (List (List Char))
  | .list items => parameterTypes items
  | .text value => if value.isEmpty then .ok [] else .error .unsuitable
  | .record members => if members.isEmpty then .ok [] else .error .unsuitable
  | _ => .error .unsuitable

/-- The full names of the types of parameters. -/
def parameterTypes : List Json → Except Fault (List (List Char))
  | [] => .ok []
  | first :: rest => return (← parameterType first) :: (← parameterTypes rest)

end

/-- The parameters of the first constructor among entries. -/
def constructorAmong : List Json → Except Fault (Option Json)
  | [] => .ok none
  | entry :: rest => do
    match ← entry.member? "type" with
    | some (.text "constructor") => entry.member? "inputs"
    | _ => constructorAmong rest

/-- The parameters of the constructor, if the interface lists it with any. -/
def constructorInputs (interface : Json) : Except Fault (Option Json) := do
  if interface.holds then constructorAmong (← interface.listed) else return none

end Attest.Interface
