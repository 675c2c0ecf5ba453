import Attest.Failure.Basic
import Attest.Table

/-!
# Transformations

A transformation says that a part of a compiled bytecode is filled with a value to give the deployed
one: what is done, why, at which offset, and for which library, immutable or auxdata. The values are
kept beside the transformations. Replaying transformations over the compiled bytecode, in their
order, gives the deployed bytecode back.
-/
namespace Attest

/-- Whether a value is written over as many bytes or between two bytes. -/
inductive Action where
  | insert
  | replace
  deriving DecidableEq, Repr

/-- Why a part of a bytecode is filled. -/
inductive Reason where
  | constructorArguments
  | library
  | immutable
  | auxdata
  | callProtection
  /-- A reason that this library does not know. -/
  | other (name : String)
  deriving DecidableEq, Repr

/-- How one part of a compiled bytecode is filled. -/
structure Transformation where
  /-- What is done. -/
  action : Action
  /-- Why. -/
  reason : Reason
  /-- The offset in bytes. -/
  offset : Int
  /-- The library, immutable or auxdata. -/
  id : Option String := none
  deriving DecidableEq, Repr

/-- The values that fill the parts of a bytecode. -/
structure Values where
  /-- The bytes after the creation code. -/
  constructorArguments : Option Code := none
  /-- The address in front of a library's code. -/
  callProtection : Option Code := none
  /-- The address of each library by its full name. -/
  libraries : Table String Code := []
  /-- The value of each immutable by its id. -/
  immutables : Table String Code := []
  /-- The text of each auxdata by its id. -/
  auxdatas : Table String Code := []
  deriving DecidableEq, Repr

namespace Action

/-- The name of an action. -/
def name : Action → String
  | insert => "insert"
  | replace => "replace"

/-- The action of a name: all but one name replace. -/
def ofName (text : String) : Action := if text = "insert" then insert else replace

end Action

namespace Reason

/-- The name of a reason. -/
def name : Reason → String
  | constructorArguments => "constructorArguments"
  | library => "library"
  | immutable => "immutable"
  | auxdata => "cborAuxdata"
  | callProtection => "callProtection"
  | other name => name

/-- The reason of a name. -/
def ofName (text : String) : Reason :=
  ([constructorArguments, library, immutable, auxdata, callProtection].find?
    (·.name == text)).getD (other text)

end Reason

namespace Values

/-- A scalar that says something, or else another. -/
def prefer (value other : Option Code) : Option Code :=
  match value with
  | some (c :: rest) => some (c :: rest)
  | _ => other

/-- The values of both, the later ones winning. -/
def merge (values later : Values) : Values where
  constructorArguments := prefer later.constructorArguments values.constructorArguments
  callProtection := prefer later.callProtection values.callProtection
  libraries := values.libraries.merge later.libraries
  immutables := values.immutables.merge later.immutables
  auxdatas := values.auxdatas.merge later.auxdatas

/-- The value of an id in a table. -/
def ofId (table : Table String Code) (id : Option String) : Except Failure Code :=
  match id.bind table.get? with
  | some value => .ok value
  | none => .error (.fault .absentMember)

/-- A value that has to be there. -/
def given (value : Option Code) : Except Failure Code :=
  match value with
  | some value => .ok value
  | none => .error (.fault .wrongKind)

/-- The value that a transformation writes. -/
def lookup (values : Values) (transformation : Transformation) : Except Failure Code :=
  match transformation.reason with
  | .constructorArguments => given values.constructorArguments
  | .callProtection => given values.callProtection
  | .library => ofId values.libraries transformation.id
  | .immutable => ofId values.immutables transformation.id
  | .auxdata => ofId values.auxdatas transformation.id
  | .other name => .error (.argument (.unknownReason name))

end Values

namespace Transformation

/-- Write a value into a marked code. -/
def write (transformation : Transformation) (code value : Code) : Code :=
  match transformation.action with
  | .insert => Code.insert code transformation.offset value
  | .replace => Code.overwrite code transformation.offset value

/-- Apply transformations in their order to a marked code. -/
def replayOn (values : Values) (code : Code) : List Transformation → Except Failure Code
  | [] => .ok code
  | transformation :: rest => do
    let value ← values.lookup transformation
    replayOn values (transformation.write code value.body) rest

/-- Apply transformations in their order to a compiled bytecode. -/
def replay (compiled : Code) (transformations : List Transformation) (values : Values) :
    Except Failure Code :=
  replayOn values (Code.marked compiled.body) transformations

/-- Replaying one list after another replays both. -/
theorem replayOn_append (values : Values) (code : Code) (first second : List Transformation) :
    replayOn values code (first ++ second) =
      (replayOn values code first).bind fun code => replayOn values code second := by
  induction first generalizing code with
  | nil => rfl
  | cons transformation rest inductive_hypothesis =>
    simp only [List.cons_append, replayOn, bind, Except.bind]
    cases values.lookup transformation with
    | error => rfl
    | ok value => exact inductive_hypothesis _

end Transformation

end Attest
