import Attest.Failure.Basic

/-!
# Where two texts differ

The indexes at which two texts differ, below the length of the shorter, and the runs of adjacent
indexes among them. Editing sources without changing their meaning changes nothing in a bytecode but
the hashes of its auxdatas, so each run belongs to one auxdata.
-/
namespace Attest.Difference

/-- The indexes from `index` on at which two texts differ. -/
def indexesFrom (index : Nat) : Code → Code → List Nat
  | a :: as, b :: bs =>
    if a = b then indexesFrom (index + 1) as bs else index :: indexesFrom (index + 1) as bs
  | _, _ => []

/-- The indexes at which two texts differ. -/
def indexes (unedited edited : Code) : List Nat := indexesFrom 0 unedited edited

/-- The runs that numbers fall into after a run from `first` to `last`. -/
def runsFrom (first last : Int) : List Int → List (Int × Int)
  | [] => [(first, last)]
  | next :: rest =>
    if next = last + 1 then runsFrom first next rest else (first, last) :: runsFrom next next rest

/-- The runs of adjacent numbers, each by its first and last. -/
def runs : List Int → List (Int × Int)
  | [] => []
  | first :: rest => runsFrom first first rest

/-- The runs of indexes at which two texts differ. -/
def textRuns (unedited edited : Code) : List (Int × Int) :=
  runs ((indexes unedited edited).map Int.ofNat)

end Attest.Difference

namespace Attest

/-- An auxdata as a compiler reports it, and the part of it that an edit of the sources changes. -/
structure Change where
  /-- The text of the auxdata. -/
  literal : Code
  /-- The first index that changes. -/
  first : Int
  /-- The last index that changes. -/
  last : Int
  deriving DecidableEq, Repr

namespace Change

/-- The change of one auxdata. -/
def of (unedited edited : Code) : Except Failure Change :=
  match Difference.indexes unedited edited with
  | [] => .error (.argument (.auxdataUnchanged unedited))
  | first :: rest => .ok ⟨unedited, first, (rest.getLast?.getD first : Nat)⟩

/-- The changes of auxdatas reported before and after an edit, in order. -/
def ofReports (unedited edited : List Code) : Except Failure (List Change) :=
  if unedited.length ≠ edited.length then
    .error (.argument (.auxdataCount edited.length unedited.length))
  else (unedited.zip edited).mapM fun (before, after) => of before after

/-- Whether a text holds the auxdata at the place where its change would begin at an index. -/
def occursAt (change : Change) (code : Code) (index : Int) : Bool :=
  let start := index - change.first
  !(start < 0) && Slice.between code start (start + change.literal.length) == change.literal

end Change

end Attest
