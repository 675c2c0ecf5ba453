import Attest.Auxdata.Difference
import Attest.Auxdata.Trailer
import Attest.Table

/-!
# Locating auxdatas

An auxdata is located by its place at the end of a bytecode, or, where a bytecode embeds several, by
comparing it with a compilation of edited sources. A search for the text of an auxdata would be
unsafe: a contract may hold a copy of it among its code. Each run of differing characters is given
to the first auxdata not yet located that stands around it.
-/
namespace Attest

/-- The place of an auxdata: the offset of its first byte, and its marked text. -/
structure AuxdataPosition where
  /-- The offset in bytes. -/
  offset : Int
  /-- The text of the auxdata. -/
  value : Code
  deriving DecidableEq, Repr

/-- The places of auxdatas by their ids. -/
abbrev AuxdataPositions := Table String AuxdataPosition

namespace AuxdataPositions

/-- The id of the auxdata that a compiler reports at an index. -/
def idAt (index : Nat) : String := toString (index + 1)

/-- The place of an auxdata whose change begins at an index. -/
def placeOf (change : Change) (index : Int) : AuxdataPosition :=
  ⟨(index - change.first - 2) / 2, Code.marked change.literal⟩

/-- The first auxdata that is not located yet and stands around an index. -/
def owner? (code : Code) (located : AuxdataPositions) (index : Int) (number : Nat) :
    List Change → Option (Nat × Change)
  | [] => none
  | change :: rest =>
    if !located.has (idAt number) && change.occursAt code index then some (number, change)
    else owner? code located index (number + 1) rest

/-- Give each run, by its first index, to an auxdata. -/
def locate (code : Code) (changes : List Change) (located : AuxdataPositions) :
    List (Int × Int) → AuxdataPositions
  | [] => located
  | (start, _) :: rest =>
    match owner? code located start 0 changes with
    | some (index, change) =>
      locate code changes (located.put (idAt index) (placeOf change start)) rest
    | none => locate code changes located rest

/-- The places of the auxdatas of a bytecode, found by an edited compilation. -/
def find (unedited edited : Code) (auxdatas editedAuxdatas : List Code) :
    Except Failure AuxdataPositions := do
  let changes ← Change.ofReports (auxdatas.map Text.lower) (editedAuxdatas.map Text.lower)
  let code := Text.lower unedited
  return locate code changes [] (Difference.textRuns code (Text.lower edited))

end AuxdataPositions

namespace AuxdataPosition

/-- The number of bytes from the start of an auxdata to the end of its bytecode. -/
def span (style : AuxdataStyle) (suffix : Code) : Int :=
  if style = .vyperBefore035 then Trailer.fixedBytes
  else
    let length := (Numeral.readHex? suffix).getD 0
    if style = .vyper then length else length + 2

/-- The place of the auxdata at the end of a bytecode. -/
def atTail (bytecode : Code) (style : AuxdataStyle) : Except Failure (Option AuxdataPosition) := do
  match (← split bytecode style).trailer with
  | none => return none
  | some trailer =>
    return some ⟨bytecode.byteLength - span style trailer.suffix, Code.marked trailer.digits⟩

end AuxdataPosition

end Attest
