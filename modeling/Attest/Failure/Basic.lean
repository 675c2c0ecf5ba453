import Attest.Abi.Error
import Attest.Fault
import Attest.Library.Placeholder

/-!
# Failures

Everything that can end an operation early. Each cause is a constructor. Besides its own failures an
operation passes on the faults of values from outside and the failures of the tools it calls.
-/
namespace Attest

/-- The words that a message ends in: those of this library, or those of something outside it. -/
inductive Detail where
  | own (text : String)
  | outside (text : String)
  deriving DecidableEq, Repr

/-- A part of a bytecode that is filled from the deployed one. -/
inductive Part where
  | callProtection
  | library (name : String)
  | immutable (id : String)
  | auxdata (id : String)
  deriving DecidableEq, Repr

/-- The deployed bytecode cannot fill a part of the compiled one. -/
inductive RegionError where
  /-- A part reaches past the end of the deployed bytecode. -/
  | outside (part : Part) (start length : Int) (available : Nat)
  /-- Two slots of one library hold different addresses. -/
  | libraryConflict (name : String) (recorded found : Code)
  /-- Two slots of one immutable hold different values. -/
  | immutableConflict (id : String) (recorded found : Code)
  deriving DecidableEq, Repr

/-- A slot of a library holds none of its placeholders. -/
structure PlaceholderError where
  /-- The full name of the library. -/
  name : String
  /-- The offset of the slot. -/
  start : Int
  /-- What the slot holds. -/
  found : Code
  deriving DecidableEq, Repr

/-- The bytes after the creation code are no encoding of the constructor's arguments. -/
inductive ArgumentsError where
  | inputsMissing
  | undecodable (reason : AbiError)
  | notCanonical (reencoded actual : Code)
  deriving DecidableEq, Repr

/-- An auxdata cannot be read. -/
inductive AuxdataError where
  | notFound
  | notMap
  | layout
  deriving DecidableEq, Repr

/-- An argument of an operation contradicts another or says nothing. -/
inductive ArgumentError where
  | emptyBytecode
  | auxdataCount (edited unedited : Nat)
  | auxdataUnchanged (literal : Code)
  | auxdataElsewhere
  | unknownReason (name : String)
  deriving DecidableEq, Repr

/-- A compilation has no usable result. -/
inductive CompilationError where
  /-- A compiler says in its own words and with its own code what is wrong. -/
  | reported (message : String) (code : Option String)
  /-- A tool failed in a way of its own. -/
  | failed (detail : Detail)
  | noAlternateBackend (version : String)
  | notInstalled (version text : String)
  | notCompiled (text : String)
  | noExecutable (version : String)
  | exited (binary : String) (code : Int) (output : String)
  | refused (binary text : String)
  | noOutput
  | contractAbsent (path name : String)
  | invalidVersion (version : String)
  | invalidVyperVersion (version : String)
  | noMetadata
  | auxdataNotLocated (detail : Detail)
  deriving DecidableEq, Repr

/-- A chain gives no answer that can be used. -/
inductive ChainError where
  | noProvider (chainId : Int)
  | noKey (name : String)
  | invalidAddress (address : String) (reason : String)
  | refused (method provider text : String)
  | notFound (description provider : String)
  | unavailable (description : String) (chainId : Int)
  | noTraces (chainId : Int)
  | creationNotTraced (address transaction : String) (chainId : Int)
  | malformedTraces (transaction provider : String)
  | noInitCode
  | notCreated (transaction address created : String)
  | noCreateCall (address transaction : String)
  | otherContract (address created transaction : String)
  deriving DecidableEq, Repr

/-- A request gets no complete reply. -/
inductive NetworkError where
  | connection
  | late
  | status
  /-- It fails in another way, known by its name. -/
  | other (name : String)
  deriving DecidableEq, Repr

/-- A contract cannot be said to come from its sources. -/
inductive VerificationError where
  | unavailable (chainId : Int)
  | noBytecode (chainId : Int) (address : String)
  | notDeployed (chainId : Int) (address : String)
  | emptyCompilation
  | lengthMismatch (compiled deployed : Nat)
  | extraFiles
  | noTransaction (transaction : String) (cause : ChainError)
  | noCreationCode (address : String) (cause : ChainError)
  | noMatch
  deriving DecidableEq, Repr

/-- The command line lacks an option that its other options ask for. -/
inductive UsageError where
  | noVyperBinary
  deriving DecidableEq, Repr

/-- What ends an operation early. -/
inductive Failure where
  | fault (fault : Fault)
  | argument (error : ArgumentError)
  | usage (error : UsageError)
  | region (error : RegionError)
  | placeholder (error : PlaceholderError)
  | arguments (error : ArgumentsError)
  | auxdata (error : AuxdataError)
  | compilation (error : CompilationError)
  | chain (error : ChainError)
  | verification (error : VerificationError)
  | network (error : NetworkError)
  /-- A tool outside this library failed in a way of its own. -/
  | tool (kind text : String)
  /-- A tool outside this library was asked more often than it has answers. -/
  | unanswered
  deriving DecidableEq, Repr

/-- Raise a fault as a failure. -/
def Failure.ofFault {α : Type} (result : Except Fault α) : Except Failure α :=
  result.mapError Failure.fault

instance : MonadLift (Except Fault) (Except Failure) := ⟨Failure.ofFault⟩

/-- Whether a failure leaves it to another provider to answer: a refusal, a reply that does not
come, or one that cannot be read as what it should say. -/
def Failure.isPassedOn : Failure → Bool
  | chain _ => true
  | network _ => true
  | argument _ => true
  | fault found => found.isUnreadable
  | _ => false

end Attest
