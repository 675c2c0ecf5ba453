import Attest.Extraction.Basic
import Attest.Proofs.Code.Normal

/-!
# Extents of bytecodes

An extent is a number of bytes from an offset on. Cutting out an extent and writing over it are
described character by character: a splice at an extent changes the characters that the extent
covers and no others (`getElem?_splice`). An extent is copied from another code exactly if that code
reaches to its end (`deployed_eq`).
-/
namespace Attest

/-- A number of bytes from an offset on. -/
structure Extent where
  /-- The offset of the first byte. -/
  start : Int
  /-- The number of bytes. -/
  length : Int
  deriving DecidableEq, Repr

namespace Extent

/-- The index of the first character of an extent in a marked code. -/
def first (extent : Extent) : Nat := (Code.position extent.start).toNat

/-- The index of the first character after an extent. -/
def stop (extent : Extent) : Nat := extent.first + (2 * extent.length).toNat

/-- Whether a character of a marked code belongs to an extent. -/
def Covers (extent : Extent) (index : Nat) : Prop := extent.first ≤ index ∧ index < extent.stop

instance (extent : Extent) (index : Nat) : Decidable (extent.Covers index) :=
  inferInstanceAs (Decidable (_ ∧ _))

/-- An extent whose offset and length count upwards. -/
structure Nonneg (extent : Extent) : Prop where
  start : 0 ≤ extent.start
  length : 0 ≤ extent.length

/-- An extent that does not begin before the first character, the mark included. -/
structure Regular (extent : Extent) : Prop where
  start : 0 ≤ Code.position extent.start
  length : 0 ≤ extent.length

/-- An extent that lies inside a code. -/
structure Inside (extent : Extent) (code : Code) : Prop extends Nonneg extent where
  stop : extent.start + extent.length ≤ code.byteLength

/-- An extent whose characters lie inside a code, which need not bear the mark. -/
structure Within (extent : Extent) (code : Code) : Prop extends Nonneg extent where
  stop : extent.stop ≤ code.length

instance (extent : Extent) : Decidable extent.Nonneg :=
  decidable_of_iff (0 ≤ extent.start ∧ 0 ≤ extent.length)
    ⟨fun both => ⟨both.1, both.2⟩, fun nonneg => ⟨nonneg.start, nonneg.length⟩⟩

instance (extent : Extent) : Decidable extent.Regular :=
  decidable_of_iff (0 ≤ Code.position extent.start ∧ 0 ≤ extent.length)
    ⟨fun both => ⟨both.1, both.2⟩, fun regular => ⟨regular.start, regular.length⟩⟩

instance (extent : Extent) (code : Code) : Decidable (extent.Inside code) :=
  decidable_of_iff (extent.Nonneg ∧ extent.start + extent.length ≤ code.byteLength)
    ⟨fun both => ⟨both.1, both.2⟩, fun inside => ⟨inside.toNonneg, inside.stop⟩⟩

instance (extent : Extent) (code : Code) : Decidable (extent.Within code) :=
  decidable_of_iff (extent.Nonneg ∧ extent.stop ≤ code.length)
    ⟨fun both => ⟨both.1, both.2⟩, fun within => ⟨within.toNonneg, within.stop⟩⟩

/-- Two extents without a byte in common: one ends before the other begins. -/
def Apart (one other : Extent) : Prop :=
  one.start + one.length ≤ other.start ∨ other.start + other.length ≤ one.start

instance (one other : Extent) : Decidable (one.Apart other) :=
  inferInstanceAs (Decidable (_ ∨ _))

/-- An extent that counts upwards does not begin before the first character. -/
theorem Nonneg.regular {extent : Extent} (nonneg : extent.Nonneg) : extent.Regular where
  start := by
    have start := nonneg.start
    simp only [Code.position]
    omega
  length := nonneg.length

/-- The first character of a regular extent. -/
theorem Regular.position_start {extent : Extent} (regular : extent.Regular) :
    Code.position extent.start = (extent.first : Int) :=
  (Int.toNat_of_nonneg regular.start).symm

/-- The end of a regular extent. -/
theorem Regular.position_stop {extent : Extent} (regular : extent.Regular) :
    Code.position extent.start + 2 * extent.length = (extent.stop : Int) := by
  have length := regular.length
  rw [regular.position_start, stop]
  omega

/-- The number of characters of a regular extent is even. -/
theorem Regular.stop_eq {extent : Extent} (regular : extent.Regular) :
    extent.stop = extent.first + 2 * extent.length.toNat := by
  have length := regular.length
  rw [stop]
  omega

/-- An extent begins before it ends. -/
theorem first_le_stop (extent : Extent) : extent.first ≤ extent.stop := Nat.le_add_right _ _

/-- The mark is before every extent that counts upwards. -/
theorem Nonneg.two_le_first {extent : Extent} (nonneg : extent.Nonneg) : 2 ≤ extent.first := by
  have start := nonneg.start
  simp only [first, Code.position]
  omega

/-- A marked code holds an extent if and only if it has the bytes up to its end. -/
theorem Regular.stop_le_iff {extent : Extent} (regular : extent.Regular) {code : Code}
    (bears : code.Marked) :
    extent.stop ≤ code.length ↔ extent.start + extent.length ≤ code.byteLength := by
  have ends := regular.position_stop
  have length := bears.length_eq
  rw [Code.position] at ends
  rw [Code.byteLength]
  omega

/-- A code is as long as what lies inside it reaches. -/
theorem Inside.stop_le {extent : Extent} {code : Code} (inside : extent.Inside code)
    (bears : code.Marked) : extent.stop ≤ code.length :=
  (inside.regular.stop_le_iff bears).mpr inside.stop

/-- What lies inside a code that bears the mark does so with all its characters. -/
theorem Inside.within {extent : Extent} {code : Code} (inside : extent.Inside code)
    (bears : code.Marked) : extent.Within code :=
  ⟨inside.toNonneg, inside.stop_le bears⟩

/-- What lies inside a code lies inside every code that has no fewer bytes. -/
theorem Inside.of_byteLength_le {extent : Extent} {code other : Code} (inside : extent.Inside code)
    (longer : code.byteLength ≤ other.byteLength) : extent.Inside other :=
  ⟨inside.toNonneg, Int.le_trans inside.stop (Int.ofNat_le.mpr longer)⟩

/-- No character belongs to two extents that are apart. -/
theorem Apart.not_covers {one other : Extent} (apart : one.Apart other) (regular : one.Regular)
    (regular_other : other.Regular) {index : Nat} (covered : one.Covers index) :
    ¬ other.Covers index := by
  have start := regular.position_start
  have ends := regular.position_stop
  have start_other := regular_other.position_start
  have ends_other := regular_other.position_stop
  simp only [Code.position] at start ends start_other ends_other
  simp only [Covers] at covered ⊢
  rcases apart with before | after <;> omega

end Extent

namespace Code

/-- The text of an extent. -/
theorem region_eq (code : Code) {extent : Extent} (regular : extent.Regular) :
    region code extent.start extent.length = (code.take extent.stop).drop extent.first := by
  rw [region, regular.position_stop, regular.position_start, Slice.between_natCast]

/-- A code with a value in the place of an extent. -/
theorem splice_eq (code value : Code) {extent : Extent} (regular : extent.Regular) :
    splice code extent.start value extent.length =
      code.take extent.first ++ value ++ code.drop extent.stop := by
  rw [splice, regular.position_stop, regular.position_start, Slice.upTo_natCast,
    Slice.since_natCast]

/-- The text of an extent that ends in a code is as long as the extent. -/
theorem length_region {code : Code} {extent : Extent} (regular : extent.Regular)
    (ends : extent.stop ≤ code.length) :
    (region code extent.start extent.length).length = extent.stop - extent.first := by
  rw [region_eq code regular, List.length_drop, List.length_take, Nat.min_eq_left ends]

/-- A character of the text of an extent. -/
theorem getElem?_region (code : Code) {extent : Extent} (regular : extent.Regular) {index : Nat}
    (covered : extent.Covers index) :
    (region code extent.start extent.length)[index - extent.first]? = code[index]? := by
  rw [region_eq code regular, List.getElem?_drop, Nat.add_sub_cancel' covered.1,
    List.getElem?_take_of_lt covered.2]

/-- A splice of a value as long as the extent changes the characters of the extent. -/
theorem getElem?_splice {code value : Code} {extent : Extent} (regular : extent.Regular)
    (fits : value.length = extent.stop - extent.first) (begins : extent.first ≤ code.length)
    (index : Nat) :
    (splice code extent.start value extent.length)[index]? =
      if extent.Covers index then value[index - extent.first]? else code[index]? := by
  have taken : (code.take extent.first).length = extent.first :=
    List.length_take_of_le begins
  have order := extent.first_le_stop
  rw [splice_eq code value regular, List.append_assoc]
  by_cases before : index < extent.first
  · rw [if_neg fun covered => Nat.not_lt.mpr covered.1 before,
      List.getElem?_append_left (by omega), List.getElem?_take_of_lt before]
  · rw [List.getElem?_append_right (by omega), taken]
    by_cases within : index < extent.stop
    · rw [if_pos ⟨Nat.not_lt.mp before, within⟩, List.getElem?_append_left (by omega)]
    · rw [if_neg fun covered => within covered.2, List.getElem?_append_right (by omega), fits,
        List.getElem?_drop]
      congr 1
      omega

/-- A splice of a value as long as the extent keeps the length, or ends with the value. -/
theorem length_splice {code value : Code} {extent : Extent} (regular : extent.Regular)
    (fits : value.length = extent.stop - extent.first) (begins : extent.first ≤ code.length) :
    (splice code extent.start value extent.length).length = max code.length extent.stop := by
  have order := extent.first_le_stop
  rw [splice_eq code value regular]
  simp only [List.length_append, List.length_take, List.length_drop]
  omega

/-- A splice behind the mark keeps the mark. -/
theorem Marked.splice {code : Code} (bears : code.Marked) (value : Code) {extent : Extent}
    (nonneg : extent.Nonneg) : (splice code extent.start value extent.length).Marked := by
  have behind := nonneg.two_le_first
  have length := bears.length_eq
  apply bears.of_take
  rw [splice_eq code value nonneg.regular, List.append_assoc,
    List.take_append_of_le_length (by rw [List.length_take]; omega), List.take_take,
    Nat.min_eq_left behind]

/-- Overwriting with a text as long as an extent is a splice at that extent. -/
theorem overwrite_eq_splice (code : Code) {value : Code} {extent : Extent}
    (regular : extent.Regular) (fits : value.length = extent.stop - extent.first) :
    overwrite code extent.start value = splice code extent.start value extent.length := by
  have ends := regular.stop_eq
  have length := regular.length
  rw [overwrite]
  congr 1
  omega

/-- A value inserted behind whole bytes follows them. -/
theorem insert_end {code : Code} (bears : code.Marked) (even : code.length % 2 = 0)
    (value : Code) : insert code code.byteLength value = code ++ value := by
  have length := bears.length_eq
  have ends : position (code.byteLength : Int) = (code.length : Int) := by
    rw [position, byteLength]
    omega
  have last : position (code.byteLength : Int) + 2 * 0 = (code.length : Int) := by
    rw [ends]
    omega
  rw [insert, splice, last, ends, Slice.upTo_natCast, Slice.since_natCast]
  simp

end Code

namespace Extraction

/-- A region can be taken from a code if and only if the code reaches to its end. -/
theorem deployed_eq {real : Code} (bears : real.Marked) (part : Part) {extent : Extent}
    (regular : extent.Regular) :
    deployed real part extent.start extent.length =
      if extent.stop ≤ real.length then .ok (Code.region real extent.start extent.length)
      else .error (.region (.outside part extent.start extent.length real.byteLength)) := by
  have reaches := regular.stop_le_iff bears
  rw [deployed]
  by_cases long : extent.stop ≤ real.length
  · rw [if_pos long, if_neg (by omega)]
  · rw [if_neg long, if_pos (by omega)]

end Extraction

end Attest
