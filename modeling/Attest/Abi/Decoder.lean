import Attest.Abi.Error
import Attest.Abi.Value

/-!
# Decoding arguments

A value is read at a place in the bytes. A pointer in a tuple, array or list counts from the place
where their items begin, and before any item is read all pointers are checked: they must lead past
the pointers, as far as the first part is reckoned to reach, and not past the end of the bytes.
Reading is strict in the padding of short values. It is lenient in what it leaves unread and in the
order and overlap of what is pointed to, so only encoding the values again proves that the bytes are
their encoding.
-/
namespace Attest.AbiType

/-- A word at a place. -/
def wordAt (data : List UInt8) (place : Nat) : Except AbiError (List UInt8) :=
  let found := (data.drop place).take wordBytes
  if found.length = wordBytes then .ok found else .error (.shortWord found.length)

/-- The number in a word at a place. -/
def numberAt (data : List UInt8) (place : Nat) : Except AbiError Nat :=
  (wordAt data place).map BigEndian.value

/-- The low bytes of a word at a place, which must be padded with zeros. -/
def unsignedAt (data : List UInt8) (place size : Nat) : Except AbiError Nat := do
  let value ← wordAt data place
  let padding := value.take (wordBytes - size)
  if padding.all (· == 0) then return BigEndian.value (value.drop (wordBytes - size))
  else .error (.padding padding)

/-- The low bytes of a word at a place in two's complement, which must be padded by their sign. -/
def signedAt (data : List UInt8) (place size : Nat) : Except AbiError Int := do
  let value ← wordAt data place
  let padding := value.take (wordBytes - size)
  let number := BigEndian.value (value.drop (wordBytes - size))
  let negative := Nat.pow 2 (8 * size - 1) ≤ number
  if padding.all (· == if negative then 0xff else 0) then
    return if negative then (number : Int) - Nat.pow 2 (8 * size) else number
  else .error (.padding padding)

/-- The first bytes of a word at a place, which must be padded with zeros. -/
def octetsAt (data : List UInt8) (place size : Nat) : Except AbiError (List UInt8) := do
  let value ← wordAt data place
  let padding := value.drop size
  if padding.all (· == 0) then return value.take size else .error (.padding padding)

/-- The truth value in a word at a place. -/
def boolAt (data : List UInt8) (place : Nat) : Except AbiError Bool := do
  let value ← wordAt data place
  let last := value.drop (wordBytes - 1)
  let padding := value.take (wordBytes - 1)
  if last != [0] && last != [1] then .error (.notBool last)
  else if padding.all (· == 0) then return last == [1]
  else .error (.padding padding)

/-- The largest length that can be stored. -/
def mostBytes : Nat := Nat.pow 2 63 - 1

/-- The bytes counted by the word at a place, which must be padded with zeros to whole words. -/
def countedAt (data : List UInt8) (place : Nat) : Except AbiError (List UInt8) := do
  let size ← numberAt data place
  let wanted := wholeWords size
  if mostBytes < wanted then .error .oversized
  else
    let found := (data.drop (place + wordBytes)).take wanted
    if found.length < wanted then .error (.shortBytes wanted found.length)
    else
      let padding := found.drop size
      if padding.all (· == 0) then return found.take size else .error (.padding padding)

/-- The text counted by the word at a place. -/
def charsAt (data : List UInt8) (place : Nat) : Except AbiError (List Char) := do
  (Utf8.decode (← countedAt data place)).mapError .notUtf8

/-- What a step gives at each of so many places, a stride apart. -/
def atEach {α : Type} (step : Nat → Except AbiError α) (stride : Nat) :
    Nat → Nat → Except AbiError (List α)
  | 0, _ => .ok []
  | count + 1, place => do
    let first ← step place
    let rest ← atEach step stride count (place + stride)
    return first :: rest

/-- Check the pointer at a place of items that begin at `start` and whose first part is reckoned to
end at `limit`. -/
def checkPointer (data : List UInt8) (inTuple : Bool) (start limit place : Nat) :
    Except AbiError Unit := do
  let target := start + (← numberAt data place)
  if target < limit || data.length ≤ target then .error (.pointer inTuple place) else return ()

mutual

/-- The value of a type at a place. -/
def decodeAt (data : List UInt8) : AbiType → Nat → Except AbiError AbiValue
  | uint bits, place => return .number (← unsignedAt data place (bits / 8))
  | int bits, place => return .number (← signedAt data place (bits / 8))
  | ufixed bits _, place => return .number (← unsignedAt data place (bits / 8))
  | fixed bits _, place => return .number (← signedAt data place (bits / 8))
  | word size, place => return .octets (← octetsAt data place size)
  | bool, place => return .flag (← boolAt data place)
  | address, place => return .number (← unsignedAt data place 20)
  | bytes, place => return .octets (← countedAt data place)
  | string, place => return .chars (← charsAt data place)
  | array item size, start => do
    if item.isDynamic then
      let _ ← atEach (checkPointer data false start (start + wordBytes * size)) wordBytes size start
      return .items (← atEach (fun place => do
        decodeAt data item (start + (← numberAt data place))) wordBytes size start)
    else
      return .items (← atEach (fun place => decodeAt data item place) item.stride size start)
  | list item, place => do
    let size ← numberAt data place
    let start := place + wordBytes
    if item.isDynamic then
      let _ ← atEach (checkPointer data false start (start + wordBytes * size)) wordBytes size start
      return .items (← atEach (fun place => do
        decodeAt data item (start + (← numberAt data place))) wordBytes size start)
    else
      return .items (← atEach (fun place => decodeAt data item place) item.stride size start)
  | tuple items, start => do
    checkEach data start (start + wordBytes * (items.map reckoned).sum) items start
    return .items (← decodeEach data start items start)

/-- Check the items of a tuple from a place on: the pointers to dynamic ones, and static ones by
reading them. -/
def checkEach (data : List UInt8) (start limit : Nat) : List AbiType → Nat → Except AbiError Unit
  | [], _ => .ok ()
  | item :: rest, place => do
    if item.isDynamic then checkPointer data true start limit place
    else
      let _ ← decodeAt data item place
    checkEach data start limit rest (place + item.stride)

/-- The items of a tuple from a place on. -/
def decodeEach (data : List UInt8) (start : Nat) :
    List AbiType → Nat → Except AbiError (List AbiValue)
  | [], _ => .ok []
  | item :: rest, place => do
    let first ←
      if item.isDynamic then decodeAt data item (start + (← numberAt data place))
      else decodeAt data item place
    let others ← decodeEach data start rest (place + item.stride)
    return first :: others

end

end Attest.AbiType
