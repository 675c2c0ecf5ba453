import Attest.Text.Case
import Attest.Text.Slice

/-!
# Bytecode text

A bytecode is held as text: two hexadecimal digits a byte after the mark `0x`. The bytecode that a
compiler gives may hold placeholders of libraries in the places of their addresses, so not every
such text is hexadecimal. Offsets and lengths count bytes; they come from outside and may be any
integers, so a region is cut at signed positions.
-/
namespace Attest

/-- The text of a bytecode. -/
abbrev Code := List Char

/-- The code that creates a contract, which its arguments follow, or the code that it runs. -/
inductive CodeKind where
  | creation
  | runtime
  deriving DecidableEq, Repr

namespace Code

/-- A code with the mark `0x` before it. -/
def marked (body : Code) : Code := '0' :: 'x' :: body

/-- The text after the mark, or the whole text if it bears none. -/
def body : Code → Code
  | '0' :: 'x' :: rest => rest
  | '0' :: 'X' :: rest => rest
  | code => code

/-- The one spelling of a code: the mark and small letters. -/
def normalize (code : Code) : Code := marked (Text.lower code.body)

/-- The number of whole bytes. -/
def byteLength (code : Code) : Nat := code.body.length / 2

/-- The place of a byte in a marked code. -/
def position (offset : Int) : Int := 2 + 2 * offset

/-- The text of the bytes of a region of a marked code. -/
def region (code : Code) (start length : Int) : Code :=
  Slice.between code (position start) (position start + 2 * length)

/-- A marked code with a value in the place of a region. -/
def splice (code : Code) (start : Int) (value : Code) (length : Int) : Code :=
  Slice.upTo code (position start) ++ value ++ Slice.since code (position start + 2 * length)

/-- A marked code with a value in the place of as many bytes. -/
def overwrite (code : Code) (start : Int) (value : Code) : Code :=
  splice code start value ((value.length / 2 : Nat) : Int)

/-- A marked code with a value before the byte at an offset. -/
def insert (code : Code) (start : Int) (value : Code) : Code := splice code start value 0

/-- The text after the mark of a marked code. -/
@[simp] theorem body_marked (body : Code) : Code.body (marked body) = body := rfl

/-- The mark is no byte. -/
@[simp] theorem byteLength_marked (body : Code) : byteLength (marked body) = body.length / 2 := rfl

/-- Splitting a code into its mark and body loses only the spelling of the mark. -/
theorem length_body_le (code : Code) : code.body.length ≤ code.length := by
  unfold Code.body
  split <;> simp <;> omega

end Code

end Attest
