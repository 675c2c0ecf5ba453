import Attest.Chain.Secrets
import Attest.Json.Printer

/-!
# Providers

A provider answers requests about a chain at an address. The address may have a place for a key; the
query behind it may hold a key too, so a provider is known by its address without the query.
-/
namespace Attest

/-- A provider. -/
structure Provider where
  /-- Its address. -/
  url : String
  /-- The headers that it wants. -/
  headers : Json := .record []
  /-- The method by which it gives traces, if any. -/
  traces : Json := .null

namespace Provider

/-- The place for a key in an address. -/
def keyPlace : List Char := ['\x7b', 'A', 'P', 'I', '_', 'K', 'E', 'Y', '\x7d']

/-- A text with each place for a key filled. `fuel` bounds the number of characters. -/
def fillKeys (key : List Char) : Nat → List Char → List Char
  | _, [] => []
  | 0, text => text
  | fuel + 1, c :: rest =>
    if keyPlace.isPrefixOf (c :: rest) then
      key ++ fillKeys key fuel ((c :: rest).drop keyPlace.length)
    else c :: fillKeys key fuel rest

/-- The words by which a provider is known. -/
def describe (provider : Provider) : String :=
  "RpcProvider(" ++ String.ofList (provider.url.toList.takeWhile (· != '?')) ++ ")"

/-- The address of a provider that a record describes, its key filled in. -/
def urlOf (settings : Settings) (record url : Json) : Attempt Secrets String := do
  let name ← record.memberD "apiKeyName" .null
  if name.holds then
    match (← Secrets.find settings name.plain).filter (! ·.isEmpty) with
    | none => throw (.chain (.noKey name.plain))
    | some key =>
      let place ← url.chars
      return String.ofList (fillKeys key.toList place.length place)
  else return String.ofList (← url.chars)

/-- The provider that an address or a record describes. -/
def ofJson (settings : Settings) (value : Json) : Attempt Secrets Provider := do
  match value with
  | .text url => return { url }
  | value =>
    let place ← value.member "url"
    let url ← urlOf settings value place
    let headers ← value.memberD "headers" .null
    let traces ← value.memberD "traceSupport" .null
    return { url, headers := headers.orElse (.record []), traces }

/-- The providers that values describe. -/
def ofJsons (settings : Settings) : List Json → Attempt Secrets (List Provider)
  | [] => return []
  | value :: rest => do
    let first ← ofJson settings value
    let others ← ofJsons settings rest
    return first :: others

end Provider

end Attest
