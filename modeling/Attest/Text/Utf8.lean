import Attest.Text.Hex

/-!
# UTF-8

Characters as bytes and back. The strict reader refuses every byte list that is no encoding; the
lenient one puts the replacement character for each part that begins an encoding and does not
complete it.
-/
namespace Attest.Utf8

/-- The bytes of a text. -/
def encode (text : List Char) : List UInt8 := text.flatMap String.utf8EncodeChar

/-- The text of bytes, none if they are no encoding. -/
def decode? (bytes : List UInt8) : Option (List Char) :=
  (String.fromUTF8? ⟨bytes.toArray⟩).map String.toList

/-- What stands for bytes that encode nothing. -/
def replacement : Char := Char.ofNat 0xfffd

/-- The six low bits of a byte that continues an encoding. -/
def tail (byte : UInt8) : Nat := byte.toNat % 0x40

/-- A byte that may continue any encoding. -/
def continues (byte : UInt8) : Bool := 0x80 ≤ byte && byte ≤ 0xbf

/-- Whether a second byte may follow a lead byte of a longer encoding: short forms, surrogates
and code points past the last plane are excluded here. -/
def follows (lead second : UInt8) : Bool :=
  let low : UInt8 := if lead == 0xe0 then 0xa0 else if lead == 0xf0 then 0x90 else 0x80
  let high : UInt8 := if lead == 0xed then 0x9f else if lead == 0xf4 then 0x8f else 0xbf
  low ≤ second && second ≤ high

/-- The first character of bytes, or its replacement, and the number of further bytes used. -/
def first (lead : UInt8) (rest : List UInt8) : Char × Nat :=
  if lead < 0x80 then (Char.ofNat lead.toNat, 0)
  else if 0xc2 ≤ lead && lead ≤ 0xdf then
    match rest with
    | second :: _ =>
      if continues second then (Char.ofNat (lead.toNat % 0x20 * 0x40 + tail second), 1)
      else (replacement, 0)
    | [] => (replacement, 0)
  else if 0xe0 ≤ lead && lead ≤ 0xef then
    match rest with
    | second :: third :: _ =>
      if !follows lead second then (replacement, 0)
      else if !continues third then (replacement, 1)
      else (Char.ofNat (lead.toNat % 0x10 * 0x1000 + tail second * 0x40 + tail third), 2)
    | [second] => (replacement, if follows lead second then 1 else 0)
    | [] => (replacement, 0)
  else if 0xf0 ≤ lead && lead ≤ 0xf4 then
    match rest with
    | second :: third :: fourth :: _ =>
      if !follows lead second then (replacement, 0)
      else if !continues third then (replacement, 1)
      else if !continues fourth then (replacement, 2)
      else
        (Char.ofNat (lead.toNat % 0x08 * 0x40000 + tail second * 0x1000 + tail third * 0x40 +
          tail fourth), 3)
    | [second, third] =>
      (replacement, if !follows lead second then 0 else if continues third then 2 else 1)
    | [second] => (replacement, if follows lead second then 1 else 0)
    | [] => (replacement, 0)
  else (replacement, 0)

/-- The text of bytes, with a replacement for each part that encodes nothing. -/
def decodeLenient : List UInt8 → List Char
  | [] => []
  | lead :: rest =>
    let (c, used) := first lead rest
    c :: decodeLenient (rest.drop used)
  termination_by bytes => bytes.length
  decreasing_by simp only [List.length_cons, List.length_drop]; omega

/-- Why bytes from a place on encode no character. -/
inductive Problem where
  | start
  | continuation
  | ending
  deriving DecidableEq, Repr

/-- The first bytes of a list that encode no character: their place, their number, and the first of
them. -/
structure Error where
  /-- What is wrong. -/
  problem : Problem
  /-- The number of bytes before them. -/
  place : Nat
  /-- Their number. -/
  count : Nat
  /-- The first of them. -/
  lead : UInt8
  deriving DecidableEq, Repr

/-- The words for a problem. -/
def Problem.message : Problem → String
  | start => "invalid start byte"
  | continuation => "invalid continuation byte"
  | ending => "unexpected end of data"

/-- The words for an error. -/
def Error.message (error : Error) : String :=
  (if error.count = 1 then
    "'utf-8' codec can't decode byte 0x" ++
      String.ofList (Hex.writeByte error.lead) ++ " in position " ++ toString error.place
  else
    "'utf-8' codec can't decode bytes in position " ++ toString error.place ++ "-" ++
      toString (error.place + error.count - 1)) ++ ": " ++ error.problem.message

/-- The number of bytes of an encoding by its first byte, zero if no encoding begins with it. -/
def width (lead : UInt8) : Nat :=
  if lead < 0x80 then 1
  else if 0xc2 ≤ lead && lead ≤ 0xdf then 2
  else if 0xe0 ≤ lead && lead ≤ 0xef then 3
  else if 0xf0 ≤ lead && lead ≤ 0xf4 then 4
  else 0

/-- What is wrong with an encoding of which `used` bytes after the first are right. -/
def problemAt (lead : UInt8) (used : Nat) (rest : List UInt8) : Problem :=
  if width lead = 0 then .start
  else if rest.length ≤ used then .ending
  else .continuation

/-- The first error at or after a place. -/
def errorFrom (place : Nat) : List UInt8 → Option Error
  | [] => none
  | lead :: rest =>
    let used := (first lead rest).2
    if used + 1 = width lead then errorFrom (place + used + 1) (rest.drop used)
    else some ⟨problemAt lead used rest, place, used + 1, lead⟩
  termination_by bytes => bytes.length
  decreasing_by simp only [List.length_cons, List.length_drop]; omega

/-- The text of bytes, or the first error in them. -/
def decode (bytes : List UInt8) : Except Error (List Char) :=
  match errorFrom 0 bytes with
  | none => .ok (decodeLenient bytes)
  | some error => .error error

end Attest.Utf8
