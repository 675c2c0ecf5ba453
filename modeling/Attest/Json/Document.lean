import Attest.BigEndian
import Attest.Json.Reader
import Attest.Text.Utf8

/-!
# JSON documents

A document comes as bytes in one of the encodings of Unicode. A mark in front of it names the
encoding. Without a mark the zeros among its first bytes tell the encoding, for the first character
of a document is one of ASCII, and the second mostly too. A half of a pair that stands alone counts
as a character, and is replaced.
-/
namespace Attest.Json

/-- An encoding of Unicode, and which byte of a unit comes first. -/
inductive Encoding where
  | utf8
  | utf16 (highFirst : Bool)
  | utf32 (highFirst : Bool)
  deriving DecidableEq, Repr

namespace Encoding

/-- The encoding that the mark in front of bytes names, and the bytes after the mark. -/
def marked? : List UInt8 → Option (Encoding × List UInt8)
  | 0x00 :: 0x00 :: 0xfe :: 0xff :: rest => some (utf32 true, rest)
  | 0xff :: 0xfe :: 0x00 :: 0x00 :: rest => some (utf32 false, rest)
  | 0xfe :: 0xff :: rest => some (utf16 true, rest)
  | 0xff :: 0xfe :: rest => some (utf16 false, rest)
  | 0xef :: 0xbb :: 0xbf :: rest => some (utf8, rest)
  | _ => none

/-- The encoding that the zeros among the first bytes tell. -/
def unmarked : List UInt8 → Encoding
  | a :: b :: c :: d :: _ =>
    if a == 0 then if b == 0 then utf32 true else utf16 true
    else if b == 0 then if c == 0 && d == 0 then utf32 false else utf16 false
    else utf8
  | [a, b] => if a == 0 then utf16 true else if b == 0 then utf16 false else utf8
  | _ => utf8

/-- Whether bytes after a first one encode half of a pair by itself. -/
def isHalf (lead : UInt8) : List UInt8 → Bool
  | second :: third :: _ =>
    lead == 0xed && 0xa0 ≤ second && second ≤ 0xbf && Utf8.continues third
  | _ => false

/-- The characters of bytes in UTF-8. -/
def chars8? : List UInt8 → Option (List Char)
  | [] => some []
  | lead :: rest =>
    if isHalf lead rest then (chars8? (rest.drop 2)).map (Utf8.replacement :: ·)
    else
      let (c, used) := Utf8.first lead rest
      if used + 1 = Utf8.width lead then (chars8? (rest.drop used)).map (c :: ·) else none
  termination_by bytes => bytes.length
  decreasing_by all_goals simp only [List.length_cons, List.length_drop]; omega

/-- The number that the bytes of a unit stand for. -/
def unit (highFirst : Bool) (bytes : List UInt8) : Nat :=
  BigEndian.value (if highFirst then bytes else bytes.reverse)

/-- The units of two bytes. -/
def units16? (highFirst : Bool) : List UInt8 → Option (List Nat)
  | [] => some []
  | a :: b :: rest => (units16? highFirst rest).map (unit highFirst [a, b] :: ·)
  | _ => none

/-- The characters of units of two bytes. -/
def chars16 : List Nat → List Char
  | [] => []
  | [unit] => [unitChar unit]
  | lead :: trail :: rest =>
    if isLeadUnit lead && isTrailUnit trail then pairChar lead trail :: chars16 rest
    else unitChar lead :: chars16 (trail :: rest)

/-- The characters of bytes in UTF-32. -/
def chars32? (highFirst : Bool) : List UInt8 → Option (List Char)
  | [] => some []
  | a :: b :: c :: d :: rest =>
    let value := unit highFirst [a, b, c, d]
    if value < 0x110000 then (chars32? highFirst rest).map (unitChar value :: ·) else none
  | _ => none

/-- The characters of bytes, none if the bytes are not in the encoding. -/
def chars? : Encoding → List UInt8 → Option (List Char)
  | utf8, bytes => chars8? bytes
  | utf16 highFirst, bytes => (units16? highFirst bytes).map chars16
  | utf32 highFirst, bytes => chars32? highFirst bytes

end Encoding

/-- The text of a document. -/
def documentText? (bytes : List UInt8) : Option (List Char) :=
  match Encoding.marked? bytes with
  | some (encoding, rest) => encoding.chars? rest
  | none => (Encoding.unmarked bytes).chars? bytes

/-- The value of a whole document. -/
def readDocument (bytes : List UInt8) : Except Fault Json :=
  match documentText? bytes with
  | none => .error .unencodable
  | some found => (read found).mapError .notJson

end Attest.Json
