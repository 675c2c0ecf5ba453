import Attest.Text.Hex

/-!
# Instructions of a bytecode

A bytecode is read as instructions from its first byte on. An instruction that pushes bytes has them
behind it; where the code ends within them it is no instruction. A line shows the name and, after a
blank, what is pushed.
-/
namespace Attest

/-- An instruction. -/
inductive Instruction where
  /-- An instruction with a name and the bytes that it pushes. -/
  | named (name : String) (operand : List UInt8)
  /-- A byte that is no instruction. -/
  | unknown (code : UInt8)
  /-- An instruction that pushes more bytes than there are. -/
  | cutOff (code : UInt8) (operand : List UInt8)

namespace Instruction

/-- Instructions whose names follow no rule. -/
def names : List (Nat × String) :=
  [(0x00, "STOP"), (0x01, "ADD"), (0x02, "MUL"), (0x03, "SUB"), (0x04, "DIV"), (0x05, "SDIV"),
    (0x06, "MOD"), (0x07, "SMOD"), (0x08, "ADDMOD"), (0x09, "MULMOD"), (0x0a, "EXP"),
    (0x0b, "SIGNEXTEND"), (0x10, "LT"), (0x11, "GT"), (0x12, "SLT"), (0x13, "SGT"), (0x14, "EQ"),
    (0x15, "ISZERO"), (0x16, "AND"), (0x17, "OR"), (0x18, "XOR"), (0x19, "NOT"), (0x1a, "BYTE"),
    (0x1b, "SHL"), (0x1c, "SHR"), (0x1d, "SAR"), (0x20, "SHA3"), (0x30, "ADDRESS"),
    (0x31, "BALANCE"), (0x32, "ORIGIN"), (0x33, "CALLER"), (0x34, "CALLVALUE"),
    (0x35, "CALLDATALOAD"), (0x36, "CALLDATASIZE"), (0x37, "CALLDATACOPY"), (0x38, "CODESIZE"),
    (0x39, "CODECOPY"), (0x3a, "GASPRICE"), (0x3b, "EXTCODESIZE"), (0x3c, "EXTCODECOPY"),
    (0x3d, "RETURNDATASIZE"), (0x3e, "RETURNDATACOPY"), (0x3f, "EXTCODEHASH"),
    (0x40, "BLOCKHASH"), (0x41, "COINBASE"), (0x42, "TIMESTAMP"), (0x43, "NUMBER"),
    (0x44, "DIFFICULTY"), (0x45, "GASLIMIT"), (0x46, "CHAINID"), (0x47, "SELFBALANCE"),
    (0x48, "BASEFEE"), (0x50, "POP"), (0x51, "MLOAD"), (0x52, "MSTORE"), (0x53, "MSTORE8"),
    (0x54, "SLOAD"), (0x55, "SSTORE"), (0x56, "JUMP"), (0x57, "JUMPI"), (0x58, "PC"),
    (0x59, "MSIZE"), (0x5a, "GAS"), (0x5b, "JUMPDEST"), (0xb0, "UNOFFICIAL_PUSH"),
    (0xb1, "UNOFFICIAL_DUP"), (0xb2, "UNOFFICIAL_SWAP"), (0xf0, "CREATE"), (0xf1, "CALL"),
    (0xf2, "CALLCODE"), (0xf3, "RETURN"), (0xf4, "DELEGATECALL"), (0xf5, "CREATE2"),
    (0xfa, "STATICCALL"), (0xfd, "REVERT"), (0xff, "SELFDESTRUCT")]

/-- The name of the instruction of a byte. -/
def name? (code : Nat) : Option String :=
  if 0x60 ≤ code && code ≤ 0x7f then some ("PUSH" ++ toString (code - 0x5f))
  else if 0x80 ≤ code && code ≤ 0x8f then some ("DUP" ++ toString (code - 0x7f))
  else if 0x90 ≤ code && code ≤ 0x9f then some ("SWAP" ++ toString (code - 0x8f))
  else if 0xa0 ≤ code && code ≤ 0xa4 then some ("LOG" ++ toString (code - 0xa0))
  else (names.find? (·.1 == code)).map Prod.snd

/-- The number of bytes that the instruction of a byte pushes. -/
def pushed (code : Nat) : Nat := if 0x60 ≤ code && code ≤ 0x7f then code - 0x5f else 0

/-- The instruction at the front of bytes, given its first byte. -/
def first (code : UInt8) (rest : List UInt8) : Instruction :=
  let size := pushed code.toNat
  let operand := rest.take size
  if operand.length < size then cutOff code operand
  else
    match name? code.toNat with
    | some name => named name operand
    | none => unknown code

/-- The instructions of bytes. -/
def ofBytes : List UInt8 → List Instruction
  | [] => []
  | code :: rest => first code rest :: ofBytes (rest.drop (pushed code.toNat))
  termination_by bytes => bytes.length
  decreasing_by simp only [List.length_cons, List.length_drop]; omega

/-- The digits of a byte without a zero before them. -/
def codeText (code : UInt8) : String := "0x" ++ String.ofList (Hex.writeNat code.toNat)

/-- The line that shows an instruction. -/
def line : Instruction → String
  | named name operand => name ++ " " ++ String.ofList (Hex.writeBytes operand)
  | unknown code => "UNKNOWN_" ++ codeText code ++ " "
  | cutOff code operand =>
    "INVALID_" ++ codeText code ++ " " ++ String.ofList (Hex.writeBytes operand)

end Instruction

end Attest
