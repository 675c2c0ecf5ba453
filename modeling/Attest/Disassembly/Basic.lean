import Attest.Disassembly.Instruction
import Attest.Disassembly.LineDiff
import Attest.Failure.Basic

/-!
# Comparing bytecodes by their instructions

The instructions of a compiled and of a deployed bytecode, one a line, and the difference of the two
texts. It is for a reader to see where the bytecodes part.
-/
namespace Attest.Disassembly

/-- The lines of a bytecode's instructions. -/
def lines (code : Code) : Except Failure (List String) :=
  match Hex.readBytes? code.body with
  | none => .error (.fault .badNumeral)
  | some bytes => .ok ((Instruction.ofBytes bytes).map Instruction.line)

/-- The difference of the instructions of two bytecodes. -/
def difference (compiled deployed : Code) : Except Failure (List String) := do
  let compiled ← lines compiled
  let deployed ← lines deployed
  return LineDiff.unified compiled deployed "compiled_disassembly" "deployed_disassembly"

end Attest.Disassembly
