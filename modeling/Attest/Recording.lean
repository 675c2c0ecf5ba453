import Attest.Chain.Basic
import Attest.Compiler.Basic

/-!
# Recordings

A recording holds what lay outside during a run: the replies of providers, the answers of tools, the
keyring and the environment. With a recording a run can be gone through again.
-/
namespace Attest

/-- What lies outside. -/
structure Recording where
  /-- The replies of providers. -/
  network : Network
  /-- The answers of tools. -/
  tools : Toolbox
  /-- The keyring and the environment. -/
  secrets : Secrets

namespace Recording

/-- A member of a record, null where it is absent. -/
def get (value : Json) (name : String) : Json :=
  match value with
  | .record members => (Table.get? members name).getD .null
  | _ => .null

/-- The items of a list. -/
def items : Json → List Json
  | .list items => items
  | _ => []

/-- The text of a text. -/
def textOf : Json → String
  | .text value => value
  | _ => ""

/-- A whole number, or another where there is none. -/
def wholeOr (default : Int) (value : Json) : Int := value.whole.toOption.getD default

/-- The texts of a table. -/
def texts (value : Json) : Table String String :=
  match value with
  | .record members => members.filterMap fun (name, value) =>
    match value with
    | .text value => some (name, value)
    | _ => none
  | _ => []

/-- A piece of a body: the seconds that it takes and its text. -/
def piece (value : Json) : Rat × List UInt8 :=
  match value with
  | .list [seconds, text] => ((seconds.seconds.toOption.bind id).getD 0, textOf text)
  | _ => (0, "")

/-- The body of a reply with a result or an error. -/
def body (members : List (String × Json)) : String :=
  let kept := members.filter fun row => row.1 = "result" || row.1 = "error"
  (Json.record ([("jsonrpc", .text "2.0"), ("id", .int 1)] ++ kept)).compact

/-- A reply of a provider. -/
def reply (value : Json) : NetworkReply :=
  let status := wholeOr 200 (get value "status")
  match value with
  | .record members =>
    match Table.get? members "exception", Table.get? members "chunks",
      Table.get? members "raw" with
    | some name, _, _ => .broken (.other (textOf name))
    | none, some pieces, _ => .pieces status ((items pieces).map piece)
    | none, none, some text => .pieces status [(0, textOf text)]
    | none, none, none => .pieces status [(0, body members)]
  | _ => .pieces status []

/-- The answer of a tool. -/
def toolReply (value : Json) : ToolReply :=
  let exit := wholeOr 0 (get value "returncode")
  let errors := (Hex.readBytes? (textOf (get value "stderr")).toList).getD []
  match get value "installRaise", get value "raise", get value "stdout" with
  | .record refusal, _, _ => .notInstalled (textOf (get (.record refusal) "message"))
  | _, .record refusal, _ =>
    .failed (textOf (get (.record refusal) "kind")) (textOf (get (.record refusal) "message"))
  | _, _, .text output => .written exit errors output
  | _, _, _ => .document exit errors (get value "output")

/-- A recording from its record. -/
def ofJson (value : Json) : Recording where
  network := { replies := (items (get value "responses")).map reply }
  tools := { replies := (items (get value "tools")).map toolReply }
  secrets := { keyring := texts (get value "keyring"), environment := texts (get value "env") }

end Recording

end Attest
