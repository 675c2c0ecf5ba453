import Attest.CommandLine.Options
import Attest.Recording
import Attest.Verification.Basic

/-!
# Runs of the command line

A run reads the command line and the document that it names, verifies the contract and prints one
record: the attestation, or what kept the contract from being verified. It ends with zero if the
contract was verified, with one if not, and with two if the command line is not complete.
-/
namespace Attest.CommandLine

/-- How a run ends. -/
structure Outcome where
  /-- The exit code, or a failure that is not reported. -/
  exit : Except Failure Nat
  /-- What is printed. -/
  output : String := ""
  /-- The settings at the end. -/
  settings : Settings
  /-- The requests to providers. -/
  requests : List NetworkRequest := []
  /-- What tools were asked. -/
  calls : List ToolCall := []

/-- The settings that a request asks for. -/
def Request.settings (request : Request) : Settings :=
  match request.options.timeout with
  | some limit => { timeout := .real limit }
  | none => {}

/-- The compiler that a request asks for. -/
def Request.compiler (request : Request) (tools : Toolbox) : Except Failure Compiler :=
  match request.options.language with
  | .solidity => .ok (.solc [] tools)
  | .vyper =>
    match nonempty? request.options.vyperBinary with
    | some path => .ok (.vyper [(request.version, path)] tools)
    | none => .error (.usage .noVyperBinary)

/-- The verification that a request asks for. -/
def Request.verification (request : Request) (input : Json) (recording : Recording) :
    Except Failure Verification := do
  let rpcs := Json.list (request.options.rpcs.map .text)
  let (chain, _) :=
    (Chain.connect request.chainId "" rpcs request.settings recording.network).run
      recording.secrets
  let chain ← chain
  let compiler ← request.compiler recording.tools
  let compilation ← Compilation.start compiler request.version input request.target
    request.options.language
  return {
    compilation
    chain
    address := request.address
    creator := request.options.creator
    verbose := request.options.verbose }

/-- A printed record. -/
def printed (value : Json) : String := value.pretty ++ "\n"

/-- The record of a failure that is reported. -/
def refusal (request : Request) (report : Report) : Json :=
  .record [("address", .text request.address), ("chainId", .int request.chainId),
    ("error", .text report.code), ("message", .text report.text)]

/-- The exit code and what is printed for the end of a verification. -/
def conclude (request : Request) (result : Except Failure Attestation) :
    Except Failure (Nat × String) :=
  match result with
  | .error failure =>
    match failure.report? true with
    | some report => .ok (1, printed (refusal request report))
    | none => .error failure
  | .ok attestation => do
    let written ← attestation.toJson request.settings
    return (if attestation.matched then 0 else 1, printed written)

/-- The outcome of a verification. -/
def finish (request : Request) (result : Except Failure Attestation)
    (requests : List NetworkRequest) (calls : List ToolCall) : Outcome :=
  let outcome : Outcome := { exit := .ok 0, settings := request.settings, requests, calls }
  match conclude request result with
  | .ok (exit, output) => { outcome with exit := .ok exit, output }
  | .error failure => { outcome with exit := .error failure }

/-- Go through a request whose document is given. -/
def perform (request : Request) (input : Json) (recording : Recording) : Outcome :=
  match request.verification input recording with
  | .error failure => finish request (.error failure) [] []
  | .ok verification =>
    let (result, after) := Verification.verify.run verification
    finish request result after.chain.network.requests after.compilation.compiler.toolCalls

/-- Run a command line. `file` gives the text of a file. -/
def run (arguments : List String) (file : String → Option String) (recording : Recording) :
    Outcome :=
  match parse arguments with
  | none => { exit := .ok 2, settings := {} }
  | some request =>
    match file request.input with
    | none => { exit := .error (.fault .noSuchFile), settings := request.settings }
    | some text =>
      match Json.read text.toList with
      | .error error => { exit := .error (.fault (.notJson error)), settings := request.settings }
      | .ok input => perform request input recording

end Attest.CommandLine
