import Attest.Chain.Basic

/-!
# Traces

A contract that another contract created has its creation code in the trace of the transaction. A
trace comes in one of two forms: a list in which each entry says what was created, or a tree of
calls with the frames of creations in it.
-/
namespace Attest

/-- The form in which a provider gives traces. -/
inductive TraceForm where
  /-- A list of entries. -/
  | listed
  /-- A tree of calls. -/
  | nested
  deriving DecidableEq, Repr

namespace TraceForm

/-- The method that asks for a form. -/
def method : TraceForm → String
  | listed => "trace_transaction"
  | nested => "debug_traceTransaction"

/-- The form of a method. -/
def ofMethod? (value : Json) : Option TraceForm :=
  [listed, nested].find? fun form => value.isText form.method

end TraceForm

namespace Trace

mutual

/-- The frames of creations in a frame's own place, or in the calls beneath a frame of another
kind. -/
def creationsOf : Json → Except Fault (List Json)
  | .record members =>
    match Table.get? members "type" with
    | some (.text "CREATE") => .ok [.record members]
    | some (.text "CREATE2") => .ok [.record members]
    | _ => creationsBeneath members
  | _ => .error .wrongKind

/-- The frames of creations in the calls that are listed among members. -/
def creationsBeneath : List (String × Json) → Except Fault (List Json)
  | [] => .ok []
  | (name, value) :: rest =>
    if name = "calls" then
      if value.holds then creations value else .ok []
    else creationsBeneath rest

/-- The frames of creations in calls, in the order of the calls. -/
def creations : Json → Except Fault (List Json)
  | .list calls => creationsAmong calls
  | .text value => if value.isEmpty then .ok [] else .error .wrongKind
  | .record members => if members.isEmpty then .ok [] else .error .wrongKind
  | _ => .error .unsuitable

/-- The frames of creations in a list of calls. -/
def creationsAmong : List Json → Except Fault (List Json)
  | [] => .ok []
  | call :: rest => return (← creationsOf call) ++ (← creationsAmong rest)

end

/-- Whether a member that is absent or a text is an address, whatever the case of its letters. -/
def isAddress (found : Json) (address : String) : Except Fault Bool := do
  return Text.lower (← found.chars) == Text.lower address.toList

/-- The entries of a list that tell of creations. -/
def createEntries : List Json → Except Fault (List Json)
  | [] => .ok []
  | entry :: rest => do
    let isCreate := (← entry.memberD "type" .null).isText "create"
    let others ← createEntries rest
    return if isCreate then entry :: others else others

/-- What an entry tells of the created contract. -/
def created (entry : Json) : Except Fault Json := do
  return (← entry.memberD "result" .null).orElse (.record [])

/-- The creation code in the first entry for an address. -/
def codeIn (address : String) : List Json → Except Failure (Option Json)
  | [] => .ok none
  | entry :: rest => do
    let found ← (← created entry).memberD "address" (.text "")
    if ← isAddress found address then
      let code ← (← entry.memberD "action" (.record [])).memberD "init" .null
      if code.holds then return some code else .error (.chain .noInitCode)
    else codeIn address rest

/-- The addresses in entries. -/
def addressesIn : List Json → Except Fault (List String)
  | [] => .ok []
  | entry :: rest => do
    match ← (← created entry).memberD "address" (.text "?") with
    | .text address => return address :: (← addressesIn rest)
    | _ => .error .unsuitable

/-- The creation code of an address in a list of entries. -/
def codeInList (provider : Provider) (hash address : String) (traces : Json) :
    Except Failure Json := do
  match traces with
  | .list (first :: rest) =>
    let entries ← createEntries (first :: rest)
    match ← codeIn address entries with
    | some code => return code
    | none =>
      let addresses ← addressesIn entries
      .error (.chain (.notCreated hash address (String.intercalate ", " addresses)))
  | _ => .error (.chain (.malformedTraces hash provider.describe))

/-- The creation code in the first frame for an address. -/
def inputIn (hash address : String) : List Json → Except Failure Json
  | [] => .error (.chain (.noCreateCall address hash))
  | frame :: rest => do
    if ← isAddress (← frame.memberD "to" (.text "")) address then frame.member "input"
    else inputIn hash address rest

/-- The creation code of an address in a tree of calls. -/
def codeInTree (provider : Provider) (hash address : String) (trace : Json) :
    Except Failure Json := do
  let malformed : Failure := .chain (.malformedTraces hash provider.describe)
  match trace with
  | .record members =>
    match Table.get? members "calls" with
    | some calls =>
      if calls.holds then inputIn hash address (← creations calls) else .error malformed
    | none => .error malformed
  | _ => .error malformed

end Trace

namespace Chain

/-- The creation code of an address in the trace that a provider gives of a transaction. -/
def tracedCode (form : TraceForm) (provider : Provider) (hash address : String) :
    Attempt Chain Json := do
  match form with
  | .listed =>
    let traces ← send provider form.method [.text hash]
    Trace.codeInList provider hash address traces
  | .nested =>
    let trace ← send provider form.method
      [.text hash, .record [("tracer", .text "callTracer")]]
    Trace.codeInTree provider hash address trace

/-- The creation code of a contract that another contract created. -/
def factoryCode (hash address : String) : Attempt Chain Json := do
  let chain ← get
  let tracing := chain.providers.filter (·.traces.holds)
  if tracing.isEmpty then throw (.chain (.noTraces chain.id))
  let ask (provider : Provider) : Attempt Chain (Option Json) := do
    match TraceForm.ofMethod? provider.traces with
    | some form => return some (← tracedCode form provider hash address)
    | none => return none
  match ← firstAnswer ask tracing with
  | some code => return code
  | none => throw (.chain (.creationNotTraced address hash chain.id))

/-- The creation code of a contract and the receipt of the transaction that created it. The receipt
names a contract only if no other contract created it; then the code is the transaction's input. -/
def creation (address hash : String) (transaction : Option Json) : Attempt Chain (Json × Json) := do
  let receipt ← receipt hash
  let transaction ← match transaction with
    | some transaction => pure transaction
    | none => Chain.transaction hash
  let created ← receipt.memberD "contractAddress" .null
  if created.holds then
    if ← Trace.isAddress created address then return (← transaction.member "input", receipt)
    else throw (.chain (.otherContract address created.plain hash))
  else return (← factoryCode hash address, receipt)

end Chain

end Attest
