/-!
# Styles of auxdata

How a compiler closes the bytecode that it writes: with a CBOR item and two bytes that give its
length, in one of four conventions.
-/
namespace Attest

/-- The convention by which auxdata closes a bytecode. -/
inductive AuxdataStyle where
  /-- The length counts the item alone. -/
  | solidity
  /-- The length counts the item and its own two bytes. -/
  | vyper
  /-- The length counts the item alone; for compilers before version 0.3.10. -/
  | vyperBefore0310
  /-- The item has eleven bytes and no length follows; for compilers before version 0.3.5. -/
  | vyperBefore035
  deriving DecidableEq, Repr

namespace AuxdataStyle

/-- The name of a style. -/
def name : AuxdataStyle → String
  | solidity => "solidity"
  | vyper => "vyper"
  | vyperBefore0310 => "vyper_lt_0_3_10"
  | vyperBefore035 => "vyper_lt_0_3_5"

/-- The style of a name. -/
def ofName? (text : String) : Option AuxdataStyle :=
  [solidity, vyper, vyperBefore0310, vyperBefore035].find? (·.name == text)

/-- The style of a name is found again. -/
theorem ofName?_name (style : AuxdataStyle) : ofName? style.name = some style := by
  cases style <;> decide

end AuxdataStyle

end Attest
