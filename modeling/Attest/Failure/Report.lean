import Attest.Failure.Basic

/-!
# Reports of failures

What a failure says to people and to programs: a message, and a code by which callers tell failures
apart. Each kind of failure is worded in one place, and `Failure.report?` gathers them.
-/
namespace Attest

/-- The families of failures that this library reports. -/
inductive Family where
  | general
  | compilation
  | verification
  | chain
  | auxdata
  | malformed
  | placeholder
  | arguments
  | region
  deriving DecidableEq, Repr

/-- The code that a family gives to every failure in it. -/
def Family.fixedCode? : Family → Option String
  | placeholder => some "library_placeholder_mismatch"
  | arguments => some "constructor_arguments_mismatch"
  | region => some "region_mismatch"
  | _ => none

/-- What a failure says: a message and a code by which programs tell failures apart. -/
structure Report where
  /-- The family. -/
  family : Family
  /-- The message. -/
  message : String
  /-- The code. -/
  code : String
  deriving DecidableEq, Repr

namespace Report

/-- A report. The family's own code comes first; a report without a code has its message for one. -/
def make (family : Family) (message : String) (code : Option String) : Report :=
  { family := family
    message := message
    code := (family.fixedCode?.or (code.filter (! ·.isEmpty))).getD message }

/-- The message with the code behind it, unless they are the same. -/
def text (report : Report) : String :=
  if report.message = report.code then report.message
  else report.message ++ " (" ++ report.code ++ ")"

end Report

/-- The words of a detail. -/
def Detail.text : Detail → String
  | own text => text
  | outside text => text

/-- A message that ends in a detail, the words from outside being left out unless `full`. -/
def Detail.after (message : String) (full : Bool) : Detail → String
  | own text => message ++ ": " ++ text
  | outside text => if full then message ++ ": " ++ text else message

/-- The name of a part. -/
def Part.text : Part → String
  | callProtection => "Call protection address"
  | library name => "Library " ++ name
  | immutable id => "Immutable " ++ id
  | auxdata id => "Auxdata " ++ id

/-- A code in a message. -/
def shown (code : Code) : String := String.ofList code

/-- The words of a region failure. -/
def RegionError.message : RegionError → String
  | outside part start length available =>
    part.text ++ " at byte " ++ toString start ++ " spans " ++ toString length ++
      " bytes but the on-chain bytecode has " ++ toString available
  | libraryConflict name recorded found =>
    "Library " ++ name ++ " is linked to both " ++ shown recorded ++ " and " ++ shown found
  | immutableConflict id recorded found =>
    "Immutable " ++ id ++ " holds " ++ shown recorded ++ " and " ++ shown found ++
      " at different occurrences"

/-- The words of a placeholder failure. -/
def PlaceholderError.message (error : PlaceholderError) : String :=
  "Library placeholder mismatch for " ++ error.name ++ " at byte " ++ toString error.start ++
    ": " ++
    shown error.found ++ " vs " ++ shown (Placeholder.hashed error.name) ++ " or " ++
    shown (Placeholder.named error.name)

/-- The words of an arguments failure. -/
def ArgumentsError.message (full : Bool) (error : ArgumentsError) : String :=
  "Failed to match with creation bytecode: constructor " ++
    match error with
    | inputsMissing => "ABI inputs are missing"
    | undecodable reason =>
      (Detail.outside reason.message).after "arguments could not be decoded" full
    | notCanonical reencoded actual =>
      "arguments ABI decoding failed " ++ shown reencoded ++ " vs " ++ shown actual

/-- The report of an auxdata failure. -/
def AuxdataError.report : AuxdataError → Report
  | notFound => .make .auxdata "Auxdata is not in the bytecode" "auxdata_not_found"
  | notMap => .make .auxdata "Solidity auxdata is not a CBOR map" "auxdata_not_decodable"
  | layout => .make .auxdata "Unexpected vyper auxdata layout" "auxdata_not_decodable"

/-- The words of an argument failure. -/
def ArgumentError.message : ArgumentError → String
  | emptyBytecode => "Bytecode cannot be empty"
  | auxdataCount edited unedited =>
    "Edited compilation reported " ++ toString edited ++ " auxdatas instead of " ++
      toString unedited
  | auxdataUnchanged literal =>
    "Auxdata " ++ shown literal ++ " did not change after editing the sources"
  | auxdataElsewhere =>
    "The auxdata at the end of the runtime bytecode differs from the compiler's"
  | unknownReason name => "Unknown transformation reason " ++ name

/-- The report of a compilation failure. -/
def CompilationError.report (full : Bool) (error : CompilationError) : Report :=
  let make (message code : String) := Report.make .compilation message (some code)
  match error with
  | reported message code => .make .compilation message code
  | failed (.own text) => make text "compiler_error"
  | failed (.outside text) => make (if full then text else "") "compiler_error"
  | noAlternateBackend version =>
    make ("No alternate solc backend configured for " ++ version) "compiler_error"
  | notInstalled version text =>
    make ("Failed to install solc version " ++ version ++ ". Error: " ++ text) "compiler_error"
  | notCompiled text => make ("Compilation failed: " ++ text) "compiler_error"
  | noExecutable version =>
    make ("No vyper executable configured for " ++ version) "compiler_error"
  | exited binary code output =>
    make ("Failed to run " ++ binary ++ ", exit code " ++ toString code ++ ": " ++ output)
      "compiler_error"
  | refused binary text => make (binary ++ " had an error:\n" ++ text) "compiler_error"
  | noOutput => make "Compiler output is empty" "no_compiler_output"
  | contractAbsent path name =>
    make ("Contract " ++ path ++ ":" ++ name ++ " not found in compiler output")
      "contract_not_found_in_compiler_output"
  | invalidVersion version =>
    make ("Invalid compiler version " ++ version) "invalid_compiler_version"
  | invalidVyperVersion version =>
    make ("Invalid Vyper compiler version " ++ version) "invalid_compiler_version"
  | noMetadata => make "Metadata is not set, compile first" "metadata_not_set"
  | auxdataNotLocated detail =>
    make (detail.after "Cannot generate cbor auxdata positions" full)
      "cannot_generate_cbor_auxdata_positions"

/-- The report of a chain failure. -/
def ChainError.report (full : Bool) (error : ChainError) : Report :=
  let make (message code : String) := Report.make .chain message (some code)
  match error with
  | noProvider chainId =>
    make ("No RPC provider was given for chain " ++ toString chainId) "no_rpc"
  | noKey name => make ("No API key found for " ++ name) "missing_api_key"
  | invalidAddress address reason =>
    make ((Detail.outside reason).after ("Invalid address " ++ address) full) "invalid_address"
  | refused method provider text =>
    make (method ++ " failed on " ++ provider ++ ": " ++ text) "rpc_error"
  | notFound description provider =>
    make (description ++ " not found on " ++ provider) "not_found"
  | unavailable description chainId =>
    make ("None of the RPCs responded fetching " ++ description ++ " on chain " ++
      toString chainId) "rpc_unavailable"
  | noTraces chainId => make ("No trace support for chain " ++ toString chainId) "no_trace_support"
  | creationNotTraced address transaction chainId =>
    make ("Couldn't get the creation bytecode for factory deployed " ++ address ++ " with tx " ++
      transaction ++ " on chain " ++ toString chainId) "rpc_unavailable"
  | malformedTraces transaction provider =>
    make ("Traces of " ++ transaction ++ " on " ++ provider ++ " are empty or malformed")
      "malformed_traces"
  | noInitCode => make ".action.init not found in traces" "malformed_traces"
  | notCreated transaction address created =>
    make ("Tx " ++ transaction ++ " does not create " ++ address ++ ". Created contracts: " ++
      created) "wrong_creation_tx"
  | noCreateCall address transaction =>
    make ("No CREATE or CREATE2 call for " ++ address ++ " in the traces of " ++ transaction)
      "wrong_creation_tx"
  | otherContract address created transaction =>
    make ("Address of the contract being verified " ++ address ++ " doesn't match the address " ++
      created ++ " created by this transaction " ++ transaction) "wrong_creation_tx"

/-- The report of a verification failure. -/
def VerificationError.report (full : Bool) (error : VerificationError) : Report :=
  let make (message code : String) := Report.make .verification message (some code)
  match error with
  | unavailable chainId =>
    make ("Chain #" ++ toString chainId ++ " is temporarily unavailable") "cannot_fetch_bytecode"
  | noBytecode chainId address =>
    make ("Chain #" ++ toString chainId ++ " returned no bytecode for " ++ address)
      "onchain_runtime_bytecode_not_available"
  | notDeployed chainId address =>
    make ("Chain #" ++ toString chainId ++ " does not have a contract deployed at " ++ address)
      "contract_not_deployed"
  | emptyCompilation =>
    make ("The compiled contract bytecode is \"0x\". " ++
      "Are you trying to verify an abstract contract?") "compiled_bytecode_is_zero"
  | lengthMismatch compiled deployed =>
    make ("The recompiled bytecode length (" ++ toString compiled ++
      ") differs from the on-chain bytecode length (" ++ toString deployed ++ ")")
      "bytecode_length_mismatch"
  | extraFiles =>
    make ("It seems your contract's metadata hashes match but not the bytecodes. You should add " ++
      "all the files input to the compiler during compilation and remove all others. " ++
      "See https://github.com/ethereum/sourcify/issues/618") "extra_file_input_bug"
  | noTransaction transaction cause =>
    make ("Cannot fetch creation tx " ++ transaction ++ ": " ++ (cause.report full).text)
      "cannot_fetch_creation_tx"
  | noCreationCode address cause =>
    make ("Cannot get the creation bytecode of " ++ address ++ ": " ++ (cause.report full).text)
      "onchain_creation_bytecode_not_available"
  | noMatch => make "The deployed and recompiled bytecode don't match." "no_match"

/-- The report of a usage failure. -/
def UsageError.report : UsageError → Report
  | noVyperBinary =>
    .make .general "--vyper-binary is required for vyper contracts" "compiler_error"

namespace Failure

/-- What a failure of this library says, in full or without the words of what lies outside. -/
def report? (full : Bool) : Failure → Option Report
  | usage error => some error.report
  | region error => some (.make .region error.message none)
  | placeholder error => some (.make .placeholder error.message none)
  | arguments error => some (.make .arguments (error.message full) none)
  | auxdata error => some error.report
  | compilation error => some (error.report full)
  | chain error => some (error.report full)
  | verification error => some (error.report full)
  | _ => none

/-- The words of a failure inside the message of another. -/
def detail (failure : Failure) : Detail :=
  match failure with
  | argument error => .own error.message
  | tool _ text => .own text
  | unanswered => .own "no scripted output left"
  | fault (.notJson error) => .outside error.message
  | fault _ => .outside ""
  | failure =>
    match failure.report? false with
    | some report => .own report.text
    | none => .outside ""

end Failure

end Attest
