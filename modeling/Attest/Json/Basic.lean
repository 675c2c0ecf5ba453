import Attest.Double
import Attest.Fault
import Attest.Table

/-!
# JSON values

Values with the members of a record kept in order. A document from outside may have any shape, so
each way of looking into a value says which fault a value of another shape is.
-/
namespace Attest

/-- A JSON value. Whole numbers are unbounded and are told apart from the others. -/
inductive Json where
  | null
  | bool (value : Bool)
  | int (value : Int)
  | real (value : Double)
  | text (value : String)
  | list (items : List Json)
  | record (members : List (String × Json))

namespace Json

instance : Inhabited Json := ⟨null⟩

/-- Whether a value says something: null, false, zero and what is empty do not. -/
def holds : Json → Bool
  | null => false
  | bool value => value
  | int value => value != 0
  | real value => !value.isZero
  | text value => !value.isEmpty
  | list items => !items.isEmpty
  | record members => !members.isEmpty

/-- Null counts as no value. -/
def present : Json → Option Json
  | null => none
  | value => some value

/-- The first value unless it says nothing. -/
def orElse (value other : Json) : Json := if value.holds then value else other

/-- The members of a record. -/
def members : Json → Except Fault (List (String × Json))
  | record members => .ok members
  | _ => .error .wrongKind

/-- A member that may be absent. -/
def member? (value : Json) (key : String) : Except Fault (Option Json) :=
  value.members.map (Table.get? · key)

/-- A member, or another value where it is absent. -/
def memberD (value : Json) (key : String) (other : Json) : Except Fault Json :=
  (value.member? key).map (·.getD other)

/-- A member that has to be there. -/
def member (value : Json) (key : String) : Except Fault Json :=
  match value with
  | record members =>
    match Table.get? members key with
    | some found => .ok found
    | none => .error .absentMember
  | _ => .error .unsuitable

/-- A member of a member. -/
def path (value : Json) : List String → Except Fault Json
  | [] => .ok value
  | key :: rest => do (← value.member key).path rest

/-- What a value lists: the items of a list, the characters of a text, the keys of a record. -/
def listed : Json → Except Fault (List Json)
  | list items => .ok items
  | text value => .ok (value.toList.map fun c => text (String.singleton c))
  | record members => .ok (members.map fun row => text row.1)
  | _ => .error .unsuitable

/-- The characters of a text. -/
def chars : Json → Except Fault (List Char)
  | text value => .ok value.toList
  | _ => .error .wrongKind

/-- A whole number, a truth value counting as zero or one. -/
def whole : Json → Except Fault Int
  | int value => .ok value
  | bool value => .ok (if value then 1 else 0)
  | _ => .error .unsuitable

/-- Whether a value is a given text. -/
def isText (value : Json) (expected : String) : Bool :=
  match value with
  | text found => found == expected
  | _ => false

/-- The value of an optional text. -/
def ofText? : Option String → Json
  | some value => text value
  | none => null

end Json

end Attest
