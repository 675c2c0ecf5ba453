import Std.Data.HashMap

/-!
# Differences of two texts line by line

Two texts are aligned by their longest common run of lines, and then before and behind it in the
same way. In a long text, lines that occur often do not begin a run. The difference is shown in
hunks of lines that only the first text has, lines that only the second has, and up to three common
lines around them.
-/
namespace Attest.LineDiff

/-- The places of each line that may begin a run. -/
abbrev Places := Std.HashMap String (List Nat)

/-- The number of lines from which on lines that occur often are set aside. -/
def longText : Nat := 200

/-- The places of each line of a text, in ascending order. -/
def placesFrom (index : Nat) : List String → Places
  | [] => ∅
  | line :: rest =>
    let places := placesFrom (index + 1) rest
    places.insert line (index :: places.getD line [])

/-- The most places that a line of a text may have if it is to begin a run. -/
def mostPlaces (lines : Nat) : Nat := if longText ≤ lines then lines / 100 + 1 else lines

/-- The places at which a line may begin or carry on a run. -/
def placesOf (places : Places) (most : Nat) (line : String) : List Nat :=
  let found := places.getD line []
  if most < found.length then [] else found

/-- A common run of lines: where it begins in each text, and its length. -/
structure Run where
  /-- The first line in the first text. -/
  left : Nat
  /-- The first line in the second text. -/
  right : Nat
  /-- The number of lines. -/
  length : Nat
  deriving DecidableEq, Repr

/-- The lengths of runs that end at places, given those that end at places one line before. -/
def carry : List Nat → List (Nat × Nat) → List (Nat × Nat)
  | [], _ => []
  | place :: rest, before =>
    let earlier := before.dropWhile fun row => row.1 + 1 < place
    match earlier with
    | (end_, length) :: _ =>
      if end_ + 1 = place then (place, length + 1) :: carry rest earlier
      else (place, 1) :: carry rest earlier
    | [] => (place, 1) :: carry rest []

/-- The better of a run and those that end at a line: the longest, and of those the first. -/
def better (left : Nat) (best : Run) : List (Nat × Nat) → Run
  | [] => best
  | (right, length) :: rest =>
    if best.length < length then
      better left ⟨left + 1 - length, right + 1 - length, length⟩ rest
    else better left best rest

/-- The longest run in lines of the first text from `left` on and in a part of the second. -/
def longestFrom (places : Places) (most low high : Nat) (left : Nat) (before : List (Nat × Nat))
    (best : Run) : List String → Run
  | [] => best
  | line :: rest =>
    let here := (placesOf places most line).filter fun place => low ≤ place && place < high
    let ends := carry here before
    longestFrom places most low high (left + 1) ends (better left best ends) rest

/-- A part of two texts: from and up to which lines it reaches in each. -/
structure Window where
  /-- The first line in the first text. -/
  leftLow : Nat
  /-- The line behind the last in the first text. -/
  leftHigh : Nat
  /-- The first line in the second text. -/
  rightLow : Nat
  /-- The line behind the last in the second text. -/
  rightHigh : Nat

/-- A run with the equal lines before it, at most `fuel`. -/
def extendBack (a b : Array String) (window : Window) : Nat → Run → Run
  | 0, run => run
  | fuel + 1, run =>
    if window.leftLow < run.left && window.rightLow < run.right &&
        a[run.left - 1]? == b[run.right - 1]? then
      extendBack a b window fuel ⟨run.left - 1, run.right - 1, run.length + 1⟩
    else run

/-- A run with the equal lines behind it, at most `fuel`. -/
def extendOn (a b : Array String) (window : Window) : Nat → Run → Run
  | 0, run => run
  | fuel + 1, run =>
    if run.left + run.length < window.leftHigh && run.right + run.length < window.rightHigh &&
        a[run.left + run.length]? == b[run.right + run.length]? then
      extendOn a b window fuel { run with length := run.length + 1 }
    else run

/-- The longest run in a part of two texts. -/
def longest (a b : Array String) (places : Places) (window : Window) : Run :=
  let lines := (a.extract window.leftLow window.leftHigh).toList
  let found := longestFrom places (mostPlaces b.size) window.rightLow window.rightHigh
    window.leftLow [] ⟨window.leftLow, window.rightLow, 0⟩ lines
  extendOn a b window a.size (extendBack a b window a.size found)

/-- The runs in a part of two texts, in order. `fuel` bounds how often a part is divided. -/
def runsIn (a b : Array String) (places : Places) : Nat → Window → List Run
  | 0, _ => []
  | fuel + 1, window =>
    let run := longest a b places window
    if run.length = 0 then []
    else
      let before := if window.leftLow < run.left && window.rightLow < run.right then
        runsIn a b places fuel { window with leftHigh := run.left, rightHigh := run.right }
      else []
      let behind := if run.left + run.length < window.leftHigh &&
          run.right + run.length < window.rightHigh then
        runsIn a b places fuel
          { window with leftLow := run.left + run.length, rightLow := run.right + run.length }
      else []
      before ++ run :: behind

/-- Runs with those that adjoin made one, after the run `current`. -/
def join (current : Run) : List Run → List Run
  | [] => if current.length = 0 then [] else [current]
  | next :: rest =>
    if current.left + current.length = next.left ∧ current.right + current.length = next.right then
      join { current with length := current.length + next.length } rest
    else if current.length = 0 then join next rest
    else current :: join next rest

/-- The common runs of two texts, and an empty one at their ends. -/
def runs (a b : Array String) : List Run :=
  let places := placesFrom 0 b.toList
  join ⟨0, 0, 0⟩ (runsIn a b places (a.size + b.size + 1) ⟨0, a.size, 0, b.size⟩) ++
    [⟨a.size, b.size, 0⟩]

/-- A stretch of two texts that is common to them or not. -/
structure Stretch where
  /-- Whether it is common. -/
  common : Bool
  /-- The lines that it covers. -/
  window : Window

/-- The stretches that runs leave from a line of each text on. -/
def stretchesFrom (left right : Nat) : List Run → List Stretch
  | [] => []
  | run :: rest =>
    let gap : List Stretch := if left < run.left || right < run.right then
      [⟨false, ⟨left, run.left, right, run.right⟩⟩] else []
    let left := run.left + run.length
    let right := run.right + run.length
    let shared : List Stretch := if run.length = 0 then []
      else [⟨true, ⟨run.left, left, run.right, right⟩⟩]
    gap ++ shared ++ stretchesFrom left right rest

/-- The number of common lines around a hunk. -/
def context : Nat := 3

/-- A stretch cut to the lines before a hunk if it is common. -/
def Stretch.last (stretch : Stretch) : Stretch :=
  let w := stretch.window
  if stretch.common then
    { stretch with window :=
        ⟨max w.leftLow (w.leftHigh - context), w.leftHigh,
          max w.rightLow (w.rightHigh - context), w.rightHigh⟩ }
  else stretch

/-- A stretch cut to the lines behind a hunk if it is common. -/
def Stretch.first (stretch : Stretch) : Stretch :=
  let w := stretch.window
  if stretch.common then
    { stretch with window :=
        ⟨w.leftLow, min w.leftHigh (w.leftLow + context),
          w.rightLow, min w.rightHigh (w.rightLow + context)⟩ }
  else stretch

/-- Stretches with the common ones at both ends cut. -/
def trimEnds (stretches : List Stretch) : List Stretch :=
  let opened := match stretches with
    | [] => []
    | stretch :: rest => stretch.last :: rest
  match opened.reverse with
  | [] => []
  | stretch :: rest => (stretch.first :: rest).reverse

/-- Whether stretches show a difference. -/
def differ (stretches : List Stretch) : Bool := stretches.any (! ·.common)

/-- The hunks of stretches, after those of the hunk begun, in reverse. -/
def hunksFrom (begun : List Stretch) : List Stretch → List (List Stretch)
  | [] => if differ begun then [begun.reverse] else []
  | stretch :: rest =>
    if stretch.common && 2 * context < stretch.window.leftHigh - stretch.window.leftLow then
      (stretch.first :: begun).reverse :: hunksFrom [stretch.last] rest
    else hunksFrom (stretch :: begun) rest

/-- A range of lines in the head of a hunk. -/
def rangeText (low high : Nat) : String :=
  let length := high - low
  if length = 1 then toString (low + 1)
  else toString (if length = 0 then low else low + 1) ++ "," ++ toString length

/-- Lines with a mark before each. -/
def marked (mark : Char) (lines : Array String) (low high : Nat) : List String :=
  (lines.extract low high).toList.map fun line => String.singleton mark ++ line

/-- The lines of a stretch. -/
def Stretch.lines (a b : Array String) (stretch : Stretch) : List String :=
  let w := stretch.window
  if stretch.common then marked ' ' a w.leftLow w.leftHigh
  else marked '-' a w.leftLow w.leftHigh ++ marked '+' b w.rightLow w.rightHigh

/-- The lines of a hunk. -/
def hunkLines (a b : Array String) (hunk : List Stretch) : List String :=
  match hunk.head?, hunk.getLast? with
  | some first, some last =>
    ("@@ -" ++ rangeText first.window.leftLow last.window.leftHigh ++ " +" ++
      rangeText first.window.rightLow last.window.rightHigh ++ " @@") ::
        hunk.flatMap (Stretch.lines a b)
  | _, _ => []

/-- The difference of two texts with the names under which they are shown. -/
def unified (a b : List String) (nameA nameB : String) : List String :=
  let left := a.toArray
  let right := b.toArray
  match hunksFrom [] (trimEnds (stretchesFrom 0 0 (runs left right))) with
  | [] => []
  | hunks =>
    ("--- " ++ nameA) :: ("+++ " ++ nameB) :: hunks.flatMap (hunkLines left right)

end Attest.LineDiff
