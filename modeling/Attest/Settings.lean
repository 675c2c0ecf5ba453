import Attest.Json.Basic

/-!
# Settings

How long a request may take, where files are found by their content, and under which service secrets
are kept. A chain keeps the settings that held when it was opened.
-/
namespace Attest

/-- The settings of a program. -/
structure Settings where
  /-- The seconds that a request may take. -/
  timeout : Json := .int 10
  /-- The address under which files are found by their content. -/
  gateway : String := "https://ipfs.io/ipfs/"
  /-- The service under which secrets are kept. -/
  service : String := "contractmatch"

namespace Settings

/-- A text from a record of settings. -/
def textOf : Json → Except Fault String
  | .text value => .ok value
  | _ => .error .unsuitable

/-- Settings with some written in a record; a record that names any other is refused. -/
def withMembers (settings : Settings) : List (String × Json) → Except Fault Settings
  | [] => .ok settings
  | ("rpc_timeout", value) :: rest => withMembers { settings with timeout := value } rest
  | ("ipfs_gateway", value) :: rest => do
    withMembers { settings with gateway := ← textOf value } rest
  | ("keyring_service", value) :: rest => do
    withMembers { settings with service := ← textOf value } rest
  | _ :: _ => .error .unsuitable

/-- The settings that a record writes over the first ones. -/
def ofJson (value : Json) : Except Fault Settings := do withMembers {} (← value.members)

/-- The record of settings. -/
def toJson (settings : Settings) : Json :=
  .record [("rpc_timeout", settings.timeout), ("ipfs_gateway", .text settings.gateway),
    ("keyring_service", .text settings.service)]

/-- The address of a file by its content, at a gateway or else at that of the settings. -/
def contentUrl (settings : Settings) (content : String) (gateway : Option String) : String :=
  let base := ((gateway.filter (! ·.isEmpty)).getD settings.gateway)
  (if base.endsWith "/" then base else base ++ "/") ++ content

end Settings

end Attest
