import Attest.Chain.Address
import Attest.Chain.Network
import Attest.Chain.Provider

/-!
# Chains

A chain is asked through its providers, one after another until one gives an acceptable answer. A
provider that refuses, does not reply in time or replies with something unreadable is passed over;
only when all were passed over does the question fail.
-/
namespace Attest

/-- A chain, its providers, and the network through which they are asked. -/
structure Chain where
  /-- The number of the chain. -/
  id : Int
  /-- Its name. -/
  name : String
  /-- The settings that held when it was opened. -/
  settings : Settings
  /-- Its providers in the order in which they are asked. -/
  providers : List Provider
  /-- The network. -/
  network : Network
  /-- The number of the last request. -/
  sent : Nat := 0

namespace Chain

/-- Open a chain. A chain without a name has its number for one. -/
def connect (id : Int) (name : String) (rpcs : Json) (settings : Settings) (network : Network) :
    Attempt Secrets Chain := do
  if !rpcs.holds then throw (.chain (.noProvider id))
  let providers ← Provider.ofJsons settings (← rpcs.listed)
  return { id, name := if name.isEmpty then toString id else name, settings, providers, network }

/-- The result in the body of a reply. -/
def resultOf (provider : Provider) (method : String) (body : List UInt8) : Except Failure Json := do
  let data ← Json.readDocument body
  let error ← data.memberD "error" .null
  if error.holds then .error (.chain (.refused method provider.describe error.plain))
  else data.memberD "result" .null

/-- Ask one provider. -/
def send (provider : Provider) (method : String) (parameters : List Json) :
    Attempt Chain Json := do
  modify fun chain => { chain with sent := chain.sent + 1 }
  let chain ← get
  let body : Json := .record [("jsonrpc", .text "2.0"), ("id", .int chain.sent),
    ("method", .text method), ("params", .list parameters)]
  let request : NetworkRequest := ⟨provider.url, provider.headers, chain.settings.timeout, body⟩
  let reply ← Attempt.within network (fun chain network => { chain with network })
    (Network.post request)
  resultOf provider method reply

/-- Ask one provider for an acceptable answer. -/
def sendFor (accept : Json → Bool) (provider : Provider) (method : String)
    (parameters : List Json) (description : String) : Attempt Chain Json := do
  let result ← send provider method parameters
  if accept result then return result
  else throw (.chain (.notFound description provider.describe))

/-- The first answer among those of providers, passing over those that give none. -/
def firstAnswer {α : Type} (ask : Provider → Attempt Chain (Option α)) :
    List Provider → Attempt Chain (Option α)
  | [] => return none
  | provider :: rest => do
    match ← Attempt.outcome (ask provider) with
    | .ok (some answer) => return some answer
    | .ok none => firstAnswer ask rest
    | .error failure =>
      if failure.isPassedOn then firstAnswer ask rest else throw failure

/-- Ask the providers in turn for an acceptable answer. -/
def request (accept : Json → Bool) (method : String) (parameters : List Json)
    (description : String) : Attempt Chain Json := do
  let chain ← get
  let ask (provider : Provider) : Attempt Chain (Option Json) := do
    return some (← sendFor accept provider method parameters description)
  match ← firstAnswer ask chain.providers with
  | some answer => return answer
  | none => throw (.chain (.unavailable description chain.id))

/-- Whether a value is a text. -/
def isAnyText : Json → Bool
  | .text _ => true
  | _ => false

/-- Whether a value is there. -/
def isPresent (value : Json) : Bool := value.present.isSome

/-- The name of a block. -/
def blockName (block : Option Int) : String :=
  match block with
  | some number => String.ofList (Hex.writeInt number)
  | none => "latest"

/-- The code at an address, at a block or now. -/
def bytecode (address : String) (block : Option Int) : Attempt Chain Json := do
  let address ← Address.ofText address
  request isAnyText "eth_getCode" [.text address, .text (blockName block)]
    ("bytecode of " ++ address)

/-- A transaction. -/
def transaction (hash : String) : Attempt Chain Json :=
  request isPresent "eth_getTransactionByHash" [.text hash] ("tx " ++ hash)

/-- The receipt of a transaction. -/
def receipt (hash : String) : Attempt Chain Json :=
  request isPresent "eth_getTransactionReceipt" [.text hash] ("receipt of tx " ++ hash)

end Chain

end Attest
