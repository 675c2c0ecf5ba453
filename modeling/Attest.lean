import Attest.CommandLine.Run
import Attest.Main
import Attest.Verification.Basic
import Attest.Proofs.Code.Normal
import Attest.Proofs.Code.Extent
import Attest.Proofs.Extraction.Step
import Attest.Proofs.Table
import Attest.Proofs.Extraction.Record
import Attest.Proofs.Extraction.Linked
import Attest.Proofs.Match.Stage
import Attest.Proofs.Match.Replay
import Attest.Proofs.Extraction.Protection
import Attest.Proofs.Match.RoundTrip
import Attest.Proofs.Extraction.Filled
import Attest.Proofs.Match.Agreement
import Attest.Proofs.Match.Decision
import Attest.Proofs.Match.Runtime
import Attest.Proofs.Match.Creation
import Attest.Proofs.Attempt
import Attest.Proofs.Compilation.Run
import Attest.Proofs.Auxdata.Location
import Attest.Proofs.Verification.Steps
import Attest.Proofs.Verification.Rounds
import Attest.Proofs.Transformation.Exported
import Attest.Proofs.Verification.Exported
import Attest.Proofs.Verification.Coherence
import Attest.Proofs.Cbor.Delimited
import Attest.Proofs.Auxdata.Tail
import Attest.Proofs.Auxdata.Contents
import Attest.Proofs.Match.Perfect
import Attest.Proofs.Verification.Export
import Attest.Proofs.Compilation.Requests
import Attest.Proofs.Verification.Retry
import Attest.Proofs.Auxdata.Assignment
import Attest.Proofs.Auxdata.Difference
import Attest.Proofs.Auxdata.Comparison
import Attest.Proofs.Auxdata.Arrangement
import Attest.Proofs.Compilation.Described
import Attest.Proofs.Auxdata.Appended
import Attest.Proofs.Compilation.Kept
import Attest.Proofs.Chain.Exchange
import Attest.Proofs.Chain.Fallthrough
import Attest.Proofs.Chain.CallTree
import Attest.Proofs.Chain.Provenance
import Attest.Proofs.Compilation.Fresh
import Attest.Proofs.Chain.Creations
import Attest.Proofs.Match.Appended
import Attest.Proofs.Match.Malformed
import Attest.Proofs.Parallel
import Attest.Proofs.Chain.Spelling
import Attest.Proofs.Verification.LastRound
import Attest.Proofs.Verification.Outcome
import Attest.Proofs.Verification.Spelling
import Attest.Proofs.BigEndian
import Attest.Proofs.Extraction.Arguments
import Attest.Proofs.Verification.Surplus
import Attest.Proofs.Auxdata.Claim
import Attest.Proofs.Match.Identical
import Attest.Proofs.Auxdata.Joined
import Attest.Proofs.Compilation.Shortcut
import Attest.Proofs.Extraction.LibraryMap
import Attest.Proofs.Auxdata.Assembly
import Attest.Proofs.Compilation.Failed
import Attest.Proofs.Chain.Tracing
import Attest.Proofs.Match.Order
import Attest.Proofs.Chain.Withheld
