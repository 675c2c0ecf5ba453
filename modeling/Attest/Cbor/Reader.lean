import Attest.BigEndian
import Attest.Cbor.Basic
import Attest.Text.Utf8

/-!
# Reading CBOR

A reader takes one item from the front of bytes and returns the bytes after it, none if they do not
begin with a whole well-formed item. Lengths need not be written in the fewest bytes, strings, lists
and maps may end at a break, and the tags of big numbers are understood; no other tag is.
-/
namespace Attest.Cbor

/-- The first `count` bytes and the bytes after them. -/
def takeBytes? (count : Nat) (source : List UInt8) : Option (List UInt8 × List UInt8) :=
  if count ≤ source.length then some (source.take count, source.drop count) else none

/-- The argument of an item's head. -/
inductive Argument where
  | count (value : Nat)
  | untilBreak

/-- The argument that the low five bits of a head announce. -/
def readArgument? (low : Nat) (rest : List UInt8) : Option (Argument × List UInt8) :=
  if low < 24 then some (.count low, rest)
  else if low < 28 then
    (takeBytes? (Nat.pow 2 (low - 24)) rest).map fun (word, rest) =>
      (.count (BigEndian.value word), rest)
  else if low == 31 then some (.untilBreak, rest)
  else none

/-- The byte that ends what has no length of its own. -/
def breakByte : UInt8 := 0xff

/-- The pieces of a string up to the break, each a whole string of one kind. -/
def readPieces (fuel major : Nat) (rest : List UInt8) : Option (List (List UInt8) × List UInt8) :=
  match fuel with
  | 0 => none
  | fuel + 1 =>
    match rest with
    | [] => none
    | head :: rest =>
      if head == breakByte then some ([], rest)
      else if head.toNat / 32 != major then none
      else
        match readArgument? (head.toNat % 32) rest with
        | some (.count length, rest) => do
          let (piece, rest) ← takeBytes? length rest
          let (pieces, rest) ← readPieces fuel major rest
          return (piece :: pieces, rest)
        | _ => none

/-- The pieces of a string, one if it has a length. -/
def readString (fuel major : Nat) (argument : Argument) (rest : List UInt8) :
    Option (List (List UInt8) × List UInt8) :=
  match argument with
  | .count length => (takeBytes? length rest).map fun (piece, rest) => ([piece], rest)
  | .untilBreak => readPieces fuel major rest

/-- The simple value or floating point number with the given low bits of its head. -/
def readSimple? (low : Nat) (rest : List UInt8) : Option (Cbor × List UInt8) :=
  match low with
  | 20 => some (bool false, rest)
  | 21 => some (bool true, rest)
  | 22 => some (null, rest)
  | 23 => some (undefined, rest)
  | 24 => do
    let (word, rest) ← takeBytes? 1 rest
    if BigEndian.value word < 32 then none else some (simple (BigEndian.value word), rest)
  | 25 => (takeBytes? 2 rest).map fun (word, rest) =>
      (real (Double.widen 5 10 (BigEndian.value word)), rest)
  | 26 => (takeBytes? 4 rest).map fun (word, rest) =>
      (real (Double.widen 8 23 (BigEndian.value word)), rest)
  | 27 => (takeBytes? 8 rest).map fun (word, rest) =>
      (real (Double.ofBits (UInt64.ofNat (BigEndian.value word))), rest)
  | low => if low < 20 then some (simple low, rest) else none

/-- The number that the bytes of a big number stand for. -/
def bigNumber? (tag : Nat) : Cbor → Option Cbor
  | bytes value =>
    if tag == 2 then some (int (BigEndian.value value))
    else if tag == 3 then some (int (-1 - (BigEndian.value value : Int)))
    else none
  | _ => none

mutual

/-- The item at the front of bytes. Every item and every entry takes one of `fuel`, at most two for
a byte. -/
def readItem (fuel : Nat) (source : List UInt8) : Option (Cbor × List UInt8) :=
  match fuel with
  | 0 => none
  | fuel + 1 =>
    match source with
    | [] => none
    | head :: rest =>
      if head.toNat / 32 == 7 then readSimple? (head.toNat % 32) rest
      else
        match readArgument? (head.toNat % 32) rest with
        | none => none
        | some (argument, rest) =>
          match head.toNat / 32, argument with
          | 0, .count value => some (int value, rest)
          | 1, .count value => some (int (-1 - (value : Int)), rest)
          | 2, argument => (readString fuel 2 argument rest).map fun (pieces, rest) =>
              (bytes pieces.flatten, rest)
          | 3, argument => do
            let (pieces, rest) ← readString fuel 3 argument rest
            let parts ← pieces.mapM Utf8.decode?
            return (text parts.flatten, rest)
          | 4, .count length =>
            (readItems fuel length rest).map fun (items, rest) => (list items, rest)
          | 4, .untilBreak =>
            (readItemsToBreak fuel rest).map fun (items, rest) => (list items, rest)
          | 5, .count length =>
            (readEntries fuel length [] rest).map fun (entries, rest) => (map entries, rest)
          | 5, .untilBreak =>
            (readEntriesToBreak fuel [] rest).map fun (entries, rest) => (map entries, rest)
          | 6, .count tag => do
            let (item, rest) ← readItem fuel rest
            return (← bigNumber? tag item, rest)
          | _, _ => none

/-- A number of items. -/
def readItems (fuel count : Nat) (source : List UInt8) : Option (List Cbor × List UInt8) :=
  match fuel, count with
  | _, 0 => some ([], source)
  | 0, _ + 1 => none
  | fuel + 1, count + 1 => do
    let (item, rest) ← readItem fuel source
    let (items, rest) ← readItems fuel count rest
    return (item :: items, rest)

/-- The items up to the break. -/
def readItemsToBreak (fuel : Nat) (source : List UInt8) : Option (List Cbor × List UInt8) :=
  match fuel with
  | 0 => none
  | fuel + 1 =>
    match source with
    | [] => none
    | head :: rest =>
      if head == breakByte then some ([], rest)
      else do
        let (item, rest) ← readItem fuel (head :: rest)
        let (items, rest) ← readItemsToBreak fuel rest
        return (item :: items, rest)

/-- A number of entries, after those read. -/
def readEntries (fuel count : Nat) (read : List (Cbor × Cbor)) (source : List UInt8) :
    Option (List (Cbor × Cbor) × List UInt8) :=
  match fuel, count with
  | _, 0 => some (read, source)
  | 0, _ + 1 => none
  | fuel + 1, count + 1 => do
    let (key, rest) ← readItem fuel source
    let (value, rest) ← readItem fuel rest
    readEntries fuel count (putEntry read key value) rest

/-- The entries up to the break, after those read. -/
def readEntriesToBreak (fuel : Nat) (read : List (Cbor × Cbor)) (source : List UInt8) :
    Option (List (Cbor × Cbor) × List UInt8) :=
  match fuel with
  | 0 => none
  | fuel + 1 =>
    match source with
    | [] => none
    | head :: rest =>
      if head == breakByte then some (read, rest)
      else do
        let (key, rest) ← readItem fuel (head :: rest)
        let (value, rest) ← readItem fuel rest
        readEntriesToBreak fuel (putEntry read key value) rest

end

/-- The item at the front of bytes and the bytes after it. -/
def read? (source : List UInt8) : Option (Cbor × List UInt8) :=
  readItem (2 * source.length + 2) source

/-- The item at the front of bytes, whatever follows it. -/
def decode? (source : List UInt8) : Option Cbor := (read? source).map Prod.fst

end Attest.Cbor
