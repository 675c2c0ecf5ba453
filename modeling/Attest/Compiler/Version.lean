import Attest.Auxdata.Style
import Attest.Failure.Basic
import Attest.Text.Numeral

/-!
# Versions of compilers

A version is three numbers with points between them. It may begin with a `v` and may be followed by
the mark of a release in progress and the commit it was built from.
-/
namespace Attest

/-- The three numbers of a version. -/
structure Version where
  /-- The first number. -/
  major : Nat
  /-- The second number. -/
  minor : Nat
  /-- The third number. -/
  patch : Nat
  deriving DecidableEq, Repr

namespace Version

/-- Whether a version comes before another. -/
def before (first second : Version) : Bool :=
  first.major < second.major || (first.major == second.major && (first.minor < second.minor ||
    (first.minor == second.minor && first.patch < second.patch)))

/-- A text without the `v` at its front. -/
def unmarked : List Char → List Char
  | 'v' :: rest => rest
  | text => text

/-- The part of a version that names a release: without its `v`, and up to a commit or a mark set
off by a dash. -/
def release (text : List Char) : List Char :=
  ((unmarked text).takeWhile (· != '+')).takeWhile (· != '-')

/-- The value of digits of any scripts. -/
def value (digits : List Char) : Nat :=
  digits.foldl (fun value c => 10 * value + (Text.decimalValue? c).getD 0) 0

/-- The digits at the front of a text, at least one, and the text after them. -/
def readDigits? (text : List Char) : Option (Nat × List Char) :=
  let digits := text.takeWhile Text.isDecimal
  if digits.isEmpty then none else some (value digits, text.dropWhile Text.isDecimal)

/-- The character at the front of a text taken away. -/
def skip? (c : Char) : List Char → Option (List Char)
  | first :: rest => if first == c then some rest else none
  | [] => none

/-- The version at the front of a text, and the text after it. -/
def read? (text : List Char) : Option (Version × List Char) := do
  let (major, rest) ← readDigits? text
  let (minor, rest) ← readDigits? (← skip? '.' rest)
  let (patch, rest) ← readDigits? (← skip? '.' rest)
  return (⟨major, minor, patch⟩, rest)

/-- The version that a text names by its front, whatever follows. -/
def ofText (text : String) : Except Failure Version :=
  match read? (release text.toList) with
  | some (version, _) => .ok version
  | none => .error (.compilation (.invalidVersion text))

/-- A text without the mark of a release in progress at its front. -/
def afterStage (text : List Char) : List Char :=
  let number (rest : List Char) := ((readDigits? rest).map Prod.snd).getD text
  match text with
  | 'b' :: rest => number rest
  | 'r' :: 'c' :: rest => number rest
  | text => text

/-- A digit of a commit. -/
def isCommitDigit (c : Char) : Bool := ('0' ≤ c && c ≤ '9') || ('a' ≤ c && c ≤ 'f')

/-- How a commit begins. -/
def commitMark : List Char := "+commit.".toList

/-- A text without the commit at its front. -/
def afterCommit (text : List Char) : List Char :=
  if commitMark.isPrefixOf text then
    let digits := text.drop commitMark.length
    let rest := digits.dropWhile isCommitDigit
    if rest.length < digits.length then rest else text
  else text

/-- The version that a Vyper compiler's text names; nothing but one line end may follow it. -/
def ofVyperText (text : String) : Except Failure Version :=
  match read? (unmarked text.toList) with
  | some (version, rest) =>
    let rest := afterCommit (afterStage rest)
    if rest = [] || rest = ['\n'] then .ok version
    else .error (.compilation (.invalidVyperVersion text))
  | none => .error (.compilation (.invalidVyperVersion text))

end Version

namespace AuxdataStyle

/-- The style in which a version of the Vyper compiler writes auxdatas. -/
def ofVyperVersion (text : String) : Except Failure AuxdataStyle := do
  let version ← Version.ofVyperText text
  if version.before ⟨0, 3, 5⟩ then return vyperBefore035
  else if version.before ⟨0, 3, 10⟩ then return vyperBefore0310
  else return vyper

end AuxdataStyle

end Attest
