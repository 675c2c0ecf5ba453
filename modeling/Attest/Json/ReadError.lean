/-!
# Why a text is no JSON

The first place at which a text departs from the grammar, and what the grammar wants there.
-/
namespace Attest.Json

/-- What the grammar wants at a place, or forbids there. -/
inductive ReadProblem where
  | value
  | extra
  | unterminated
  | control
  | escape
  | codePoint
  | memberName
  | colon
  | comma
  deriving DecidableEq, Repr

/-- A problem and its place: the line and column, counted from one, and the number of characters
before it. -/
structure ReadError where
  /-- What is wrong. -/
  problem : ReadProblem
  /-- Its line. -/
  line : Nat
  /-- Its column. -/
  column : Nat
  /-- The characters before it. -/
  offset : Nat
  deriving DecidableEq, Repr

/-- The words for a problem. -/
def ReadProblem.message : ReadProblem → String
  | value => "Expecting value"
  | extra => "Extra data"
  | unterminated => "Unterminated string starting at"
  | control => "Invalid control character at"
  | escape => "Invalid \\escape"
  | codePoint => "Invalid \\uXXXX escape"
  | memberName => "Expecting property name enclosed in double quotes"
  | colon => "Expecting ':' delimiter"
  | comma => "Expecting ',' delimiter"

/-- The words for a problem and its place. -/
def ReadError.message (error : ReadError) : String :=
  error.problem.message ++ ": line " ++ toString error.line ++ " column " ++
    toString error.column ++ " (char " ++ toString error.offset ++ ")"

/-- A problem before which a text has the characters `before`. -/
def ReadError.after (before : List Char) (problem : ReadProblem) : ReadError where
  problem := problem
  line := before.count '\n' + 1
  column := (before.reverse.takeWhile (· != '\n')).length + 1
  offset := before.length

end Attest.Json
