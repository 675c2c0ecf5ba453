import Attest.Text.Hex
import Attest.Text.Numeral

/-!
# Numerals of hexadecimal digits alone

A numeral may bear a sign, a mark, blanks and low lines. A text of hexadecimal digits has none of
them and is read as the number that its digits stand for (`Numeral.readHex?_eq`).
-/
namespace Attest

namespace Hex

/-- All hexadecimal digits. -/
def digits : List Char := "0123456789abcdefABCDEF".toList

/-- The number that hexadecimal digits stand for, the highest first. -/
def number (text : List Char) : Nat :=
  text.foldl (fun value c => 16 * value + (digitValue? c).getD 0) 0

/-- A hexadecimal digit is one of the ASCII range. -/
theorem toNat_lt_of_isDigit {c : Char} (digit : isDigit c = true) : c.toNat < 128 := by
  rw [isDigit, digitValue?] at digit
  have le {first last : Char} (within : (first ≤ c && c ≤ last) = true) (low : last.toNat < 128) :
      c.toNat < 128 := by
    rw [Bool.and_eq_true, decide_eq_true_eq, decide_eq_true_eq] at within
    exact Nat.lt_of_le_of_lt within.2 low
  split at digit
  · exact le ‹_› (by decide)
  · split at digit
    · exact le ‹_› (by decide)
    · split at digit
      · exact le ‹_› (by decide)
      · contradiction

/-- A hexadecimal digit is one of twenty-two characters. -/
theorem mem_digits {c : Char} (digit : isDigit c = true) : c ∈ digits := by
  have all : ∀ point ∈ List.range 128, isDigit (Char.ofNat point) = true →
      Char.ofNat point ∈ digits := by
    decide +kernel
  have listed := all c.toNat (List.mem_range.mpr (toNat_lt_of_isDigit digit))
  rw [Char.ofNat_toNat] at listed
  exact listed digit

/-- A hexadecimal digit is no blank. -/
theorem isAsciiBlank_of_isDigit {c : Char} (digit : isDigit c = true) :
    Text.isAsciiBlank c = false := by
  have all : (digits.all fun c => !Text.isAsciiBlank c) = true := by decide
  exact Bool.not_eq_true' _ ▸ List.all_eq_true.mp all c (mem_digits digit)

/-- Pairs of hexadecimal digits are the text of bytes. -/
theorem exists_readBytes? {text : List Char} (each : ∀ c ∈ text, isDigit c = true)
    (even : text.length % 2 = 0) : ∃ bytes, readBytes? text = some bytes := by
  induction text using readBytes?.induct with
  | case1 => exact ⟨[], rfl⟩
  | case2 => contradiction
  | case3 => contradiction
  | case4 first second rest blank _ =>
    rw [isAsciiBlank_of_isDigit (each first List.mem_cons_self)] at blank
    contradiction
  | case5 first second rest other inductive_hypothesis =>
    obtain ⟨bytes, read⟩ := inductive_hypothesis
      (fun c member => each c (.tail _ (.tail _ member))) (by simpa [Nat.add_assoc] using even)
    obtain ⟨high, above⟩ := Option.isSome_iff_exists.mp (each first List.mem_cons_self)
    obtain ⟨low, below⟩ := Option.isSome_iff_exists.mp
      (each second (.tail _ List.mem_cons_self))
    rw [readBytes?, if_neg other, above, below, read]
    exact ⟨_, rfl⟩

end Hex

namespace Numeral

/-- What a hexadecimal digit is in a numeral: a digit and nothing else. -/
structure Plain (c : Char) : Prop where
  /-- It is no blank. -/
  blank : isBlank c = false
  /-- It is no sign, no letter of a mark and no low line. -/
  other : c ∉ ['-', '+', 'x', 'X', '_']
  /-- It counts what it counts among hexadecimal digits. -/
  value : digitOf? 16 c = some ((Hex.digitValue? c).getD 0)

/-- A hexadecimal digit is a digit of a numeral. -/
theorem plain_of_isDigit {c : Char} (digit : Hex.isDigit c = true) : Plain c := by
  have all : (Hex.digits.all fun c => isBlank c = false ∧ c ∉ ['-', '+', 'x', 'X', '_'] ∧
      digitOf? 16 c = some ((Hex.digitValue? c).getD 0)) = true := by
    decide +kernel
  obtain ⟨blank, other, value⟩ :=
    of_decide_eq_true (List.all_eq_true.mp all c (Hex.mem_digits digit))
  exact ⟨blank, other, value⟩

variable {text : List Char}

/-- Digits without blanks are bare as they stand. -/
theorem bare_eq (each : ∀ c ∈ text, Plain c) : bare text = text := by
  have front {text : List Char} (each : ∀ c ∈ text, Plain c) : text.dropWhile isBlank = text := by
    cases text with
    | nil => rfl
    | cons c rest =>
      rw [List.dropWhile_cons_of_neg (by rw [(each c List.mem_cons_self).blank]; decide)]
  rw [bare, front each, front fun c member => each c (List.mem_reverse.mp member),
    List.reverse_reverse]

/-- Digits are read on one after another. -/
theorem readOn_eq (each : ∀ c ∈ text, Plain c) (total : Nat) :
    readOn 16 total text =
      some (text.foldl (fun value c => 16 * value + (Hex.digitValue? c).getD 0) total) := by
  induction text generalizing total with
  | nil => rfl
  | cons c rest inductive_hypothesis =>
    have plain := each c List.mem_cons_self
    rw [readOn, plain.value, Option.bind_some,
      inductive_hypothesis fun c member => each c (.tail _ member), List.foldl_cons,
      Nat.mul_comm total]
    rintro c rest rfl -
    exact plain.other (by simp)

/-- Digits bear no mark. -/
theorem afterMark_eq (each : ∀ c ∈ text, Plain c) : afterMark text = text := by
  have second (c : Char) (rest : List Char) (same : text = '0' :: c :: rest) :
      c ∉ ['-', '+', 'x', 'X', '_'] :=
    (each c (by rw [same]; simp)).other
  unfold afterMark
  split
  all_goals first | rfl | exact absurd (by simp) (second _ _ rfl)

/-- A text of hexadecimal digits is read as the number that they stand for. -/
theorem readHex?_eq (each : ∀ c ∈ text, Hex.isDigit c = true) (filled : text ≠ []) :
    readHex? text = some (Hex.number text : Int) := by
  have plain : ∀ c ∈ text, Plain c := fun c member => plain_of_isDigit (each c member)
  obtain ⟨first, rest, rfl⟩ := List.exists_cons_of_ne_nil filled
  have sign := (plain first List.mem_cons_self).other
  have read : readNat? 16 (first :: rest) = some (Hex.number (first :: rest)) := by
    rw [readNat?, (plain first List.mem_cons_self).value, Option.bind_some,
      readOn_eq fun c member => plain c (.tail _ member), Hex.number, List.foldl_cons]
    simp
  rw [readHex?, readSigned?, bare_eq plain]
  split
  · rename_i same
    simp [(List.cons.inj same).1] at sign
  · rename_i same
    simp [(List.cons.inj same).1] at sign
  · rw [afterMark_eq plain, read]
    rfl

end Numeral

end Attest
