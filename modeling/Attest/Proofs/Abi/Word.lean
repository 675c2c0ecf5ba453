import Attest.Abi.Decoder
import Attest.Proofs.BigEndian
import Attest.Proofs.Result

/-!
# Words at a place

What the readers of words give, said by what stands in the data at the place: a word that stands for
the number (`numberAt_eq_ok`), within the bounds of the type that is read. A number below zero stands
there as its complement to a power of two.
-/
namespace Attest.AbiType

/-- Bytes that stand in the data from a place on. -/
def StandsAt (data : List UInt8) (place : Nat) (bytes : List UInt8) : Prop :=
  bytes <+: data.drop place

/-- A word that stands for a natural number: thirty-two bytes, the highest first. -/
structure IsWord (number : Nat) (word : List UInt8) : Prop where
  /-- It has the bytes of a word. -/
  length : word.length = wordBytes
  /-- They stand for the number. -/
  value : BigEndian.value word = number

/-- What stands for an integer in a word: the number that it leaves modulo two to the 256. -/
def complement (number : Int) : Nat := (number % 2 ^ 256).toNat

section

variable {data : List UInt8} {place : Nat}

/-- Bytes stand at a place if their parts do, one behind the other. -/
theorem standsAt_append {front back : List UInt8} :
    StandsAt data place (front ++ back) ↔
      StandsAt data place front ∧ StandsAt data (place + front.length) back := by
  simp only [StandsAt, ← List.drop_drop]
  constructor
  · rintro ⟨rest, parts⟩
    rw [← parts, List.append_assoc, List.drop_left]
    exact ⟨List.prefix_append _ _, List.prefix_append _ _⟩
  · rintro ⟨⟨rest, parts⟩, behind⟩
    rw [← parts, List.drop_left] at behind
    rw [← parts]
    exact (List.prefix_append_right_inj front).mpr behind

/-- Bytes that stand at a place end within the data. -/
theorem StandsAt.length_le {bytes : List UInt8} (stands : StandsAt data place bytes)
    (filled : bytes ≠ []) : place + bytes.length ≤ data.length := by
  have length := List.IsPrefix.length_le stands
  have positive := List.length_pos_iff.mpr filled
  rw [List.length_drop] at length
  omega

/-- A number is stood for by one word. -/
theorem IsWord.eq {number : Nat} {left right : List UInt8} (stands : IsWord number left)
    (other : IsWord number right) : left = right :=
  BigEndian.eq_of_value_eq (stands.length.trans other.length.symm)
    (stands.value.trans other.value.symm)

/-- The word that is written for an integer stands for its complement. -/
theorem isWord_wordOf (number : Int) : IsWord (complement number) (wordOf number) where
  length := BigEndian.length_lowBytes _ _
  value := by
    have written := BigEndian.value_lowBytes wordBytes number
    rw [complement, wordOf]
    change _ = (number % 256 ^ 32).toNat
    rw [← Int.toNat_natCast (BigEndian.value _), written]
    rfl

/-- A number that a word can hold is its own complement. -/
theorem complement_natCast {number : Nat} (bound : number < 2 ^ 256) :
    complement number = number := by
  have small : (number : Int) < 2 ^ 256 := by exact_mod_cast bound
  rw [complement, Int.emod_eq_of_lt (Int.natCast_nonneg number) small, Int.toNat_natCast]

/-- The word that is written for a number stands for it. -/
theorem isWord_wordOf_natCast {number : Nat} (bound : number < 2 ^ 256) :
    IsWord number (wordOf number) := by
  have written := isWord_wordOf number
  rwa [complement_natCast bound] at written

/-- A word is read where it stands. -/
theorem wordAt_eq_ok {word : List UInt8} :
    wordAt data place = .ok word ↔ word.length = wordBytes ∧ StandsAt data place word := by
  simp only [wordAt, StandsAt, List.prefix_iff_eq_take]
  constructor
  · intro read
    split at read
    · rename_i length
      obtain rfl := Except.ok.inj read
      exact ⟨length, by rw [length]⟩
    · contradiction
  · rintro ⟨length, stands⟩
    rw [length] at stands
    rw [← stands, if_pos length]

/-- A number is read where its word stands. -/
theorem numberAt_eq_ok {number : Nat} :
    numberAt data place = .ok number ↔ ∃ word, IsWord number word ∧ StandsAt data place word := by
  simp only [numberAt, Result.map_eq_ok, wordAt_eq_ok]
  constructor
  · rintro ⟨word, ⟨length, stands⟩, value⟩
    exact ⟨word, ⟨length, value⟩, stands⟩
  · rintro ⟨word, ⟨length, value⟩, stands⟩
    exact ⟨word, ⟨length, stands⟩, value⟩

/-- The padding of a word and the low bytes behind it. -/
theorem word_parts {size : Nat} {word : List UInt8} (fits : size ≤ wordBytes)
    (length : word.length = wordBytes) :
    word.take (wordBytes - size) ++ word.drop (wordBytes - size) = word ∧
      (word.take (wordBytes - size)).length = wordBytes - size ∧
      (word.drop (wordBytes - size)).length = size := by
  refine ⟨List.take_append_drop _ _, ?_, ?_⟩
  · rw [List.length_take, length]
    omega
  · rw [List.length_drop, length]
    omega

/-- A natural number of so many bytes is read where its word stands. -/
theorem unsignedAt_eq_ok {size number : Nat} (fits : size ≤ wordBytes) :
    unsignedAt data place size = .ok number ↔
      number < 256 ^ size ∧ ∃ word, IsWord number word ∧ StandsAt data place word := by
  simp only [unsignedAt, Result.bind_eq_ok, wordAt_eq_ok]
  constructor
  · rintro ⟨word, ⟨length, stands⟩, read⟩
    obtain ⟨parts, -, low⟩ := word_parts fits length
    split at read
    · rename_i zeros
      rw [Result.pure_eq_ok] at read
      have bound := BigEndian.value_lt (word.drop (wordBytes - size))
      rw [read, low] at bound
      have value := (BigEndian.zero_front_iff (by rwa [low])).mpr ⟨zeros, read⟩
      rw [parts] at value
      exact ⟨bound, word, ⟨length, value⟩, stands⟩
    · contradiction
  · rintro ⟨bound, word, ⟨length, value⟩, stands⟩
    obtain ⟨parts, -, low⟩ := word_parts fits length
    rw [← parts] at value
    obtain ⟨zeros, back⟩ := (BigEndian.zero_front_iff (by rwa [low])).mp value
    refine ⟨word, ⟨length, stands⟩, ?_⟩
    rw [if_pos zeros, back]
    rfl

/-- The complement of an integer below zero is what it lacks of two to the 256. -/
theorem complement_of_neg {number : Int} (low : -2 ^ 256 ≤ number) (negative : number < 0) :
    (complement number : Int) = 2 ^ 256 + number := by
  have moved : number % 2 ^ 256 = 2 ^ 256 + number := by
    rw [← Int.add_emod_left, Int.emod_eq_of_lt (by omega) (by omega)]
  rw [complement, moved, Int.toNat_of_nonneg (by omega)]

/-- The powers of two that bound an integer of so many bytes. -/
theorem signed_bounds {size : Nat} (positive : 0 < size) (fits : size ≤ wordBytes) :
    2 * 2 ^ (8 * size - 1) = 256 ^ size ∧ 256 ^ size ≤ 2 ^ 256 := by
  constructor
  · rw [← Nat.pow_succ', show (8 * size - 1).succ = 8 * size by omega, Nat.pow_mul]
  · exact Nat.pow_le_pow_right (by decide) fits

/-- A word is padded by the sign of its low bytes exactly if it stands for the complement of the
integer that they stand for. -/
theorem padded_iff_complement {size low : Nat} {front back : List UInt8} (number : Int)
    (positive : 0 < size) (fits : size ≤ wordBytes) (high_length : front.length = wordBytes - size)
    (low_length : back.length = size) (value : BigEndian.value back = low) :
    (front.all (· == if 2 ^ (8 * size - 1) ≤ low then 0xff else 0) = true ∧
        (if 2 ^ (8 * size - 1) ≤ low then (low : Int) - 2 ^ (8 * size) else low) = number) ↔
      (-2 ^ (8 * size - 1) ≤ number ∧ number < 2 ^ (8 * size - 1)) ∧
        BigEndian.value (front ++ back) = complement number := by
  obtain ⟨half, room⟩ := signed_bounds positive fits
  have bound := BigEndian.value_lt back
  have zero_front := @BigEndian.zero_front_iff front back
  have full_front := @BigEndian.full_front_iff front back
  have power : (2 : Int) ^ (8 * size) = (256 ^ size : Nat) := by
    rw [Int.pow_mul]
    norm_cast
  have half_cast : (2 : Int) ^ (8 * size - 1) = (2 ^ (8 * size - 1) : Nat) := by norm_cast
  rw [high_length, low_length, Nat.sub_add_cancel fits, value,
    show 256 ^ wordBytes = 2 ^ 256 from rfl] at full_front
  rw [low_length, value] at zero_front bound
  rw [power, half_cast]
  -- What follows is about the numbers alone.
  generalize 256 ^ size = scale at *
  generalize 2 ^ (8 * size - 1) = least at *
  constructor
  · rintro ⟨padding, read⟩
    by_cases negative : least ≤ low
    · rw [if_pos negative] at padding read
      have stands : (complement number : Int) = 2 ^ 256 + number :=
        complement_of_neg (by omega) (by omega)
      have lacks := (full_front (scale - low) (by omega) (by omega)).mpr ⟨padding, by omega⟩
      omega
    · rw [if_neg negative] at padding read
      rw [(zero_front bound).mpr ⟨padding, rfl⟩, ← read, complement_natCast (by omega)]
      omega
  · rintro ⟨bounds, stands⟩
    by_cases below : number < 0
    · have moved := complement_of_neg (by omega) below
      obtain ⟨padding, lacks⟩ := (full_front number.natAbs (by omega) (by omega)).mp (by omega)
      have negative : least ≤ low := by omega
      rw [if_pos negative, if_pos negative]
      exact ⟨padding, by omega⟩
    · obtain ⟨number, rfl⟩ := Int.eq_ofNat_of_zero_le (Int.not_lt.mp below)
      rw [complement_natCast (by omega)] at stands
      obtain ⟨padding, rfl⟩ := (zero_front (by omega)).mp stands
      have natural : ¬ least ≤ low := by omega
      rw [if_neg natural, if_neg natural]
      exact ⟨padding, rfl⟩

/-- An integer of so many bytes is read where the word of its complement stands. -/
theorem signedAt_eq_ok {size : Nat} {number : Int} (positive : 0 < size)
    (fits : size ≤ wordBytes) :
    signedAt data place size = .ok number ↔
      (-2 ^ (8 * size - 1) ≤ number ∧ number < 2 ^ (8 * size - 1)) ∧
        ∃ word, IsWord (complement number) word ∧ StandsAt data place word := by
  have decided : ∀ word : List UInt8, word.length = wordBytes → _ := fun word length =>
    padded_iff_complement number positive fits (word_parts fits length).2.1
      (word_parts fits length).2.2 rfl
  simp only [signedAt, Result.bind_eq_ok, wordAt_eq_ok]
  constructor
  · rintro ⟨word, ⟨length, stands⟩, read⟩
    have padded_iff := decided word length
    rw [(word_parts fits length).1] at padded_iff
    obtain ⟨padding, given⟩ := Result.ite_error_eq_ok.mp read
    obtain ⟨bounds, value⟩ := padded_iff.mp ⟨padding, Result.pure_eq_ok.mp given⟩
    exact ⟨bounds, word, ⟨length, value⟩, stands⟩
  · rintro ⟨bounds, word, ⟨length, value⟩, stands⟩
    have padded_iff := decided word length
    rw [(word_parts fits length).1] at padded_iff
    obtain ⟨padding, read⟩ := padded_iff.mpr ⟨bounds, value⟩
    exact ⟨word, ⟨length, stands⟩,
      Result.ite_error_eq_ok.mpr ⟨padding, Result.pure_eq_ok.mpr read⟩⟩

/-- A truth value is read where the word of zero or one stands. -/
theorem boolAt_eq_ok {value : Bool} :
    boolAt data place = .ok value ↔
      ∃ word, IsWord (if value then 1 else 0) word ∧ StandsAt data place word := by
  simp only [boolAt, Result.bind_eq_ok, wordAt_eq_ok]
  constructor
  · rintro ⟨word, ⟨length, stands⟩, read⟩
    obtain ⟨parts, -, low⟩ := word_parts (show 1 ≤ wordBytes by decide) length
    split at read
    · contradiction
    rename_i zero_or_one
    obtain ⟨padding, given⟩ := Result.ite_error_eq_ok.mp read
    rw [Result.pure_eq_ok] at given
    obtain ⟨last, one⟩ := List.length_eq_one_iff.mp low
    have whole := (BigEndian.zero_front_iff
      (BigEndian.value_lt (word.drop (wordBytes - 1)))).mpr ⟨padding, rfl⟩
    rw [parts, one] at whole
    rw [one] at zero_or_one given
    have cases : last = 0 ∨ last = 1 := by
      simpa [Classical.or_iff_not_imp_left] using zero_or_one
    refine ⟨word, ⟨length, whole.trans ?_⟩, stands⟩
    rw [← given]
    rcases cases with rfl | rfl <;> rfl
  · rintro ⟨word, ⟨length, stood⟩, stands⟩
    obtain ⟨parts, -, low⟩ := word_parts (show 1 ≤ wordBytes by decide) length
    have small : (if value then 1 else 0) < 256 ^ (word.drop (wordBytes - 1)).length := by
      rw [low]
      split <;> decide
    rw [← parts] at stood
    obtain ⟨padding, rest⟩ := (BigEndian.zero_front_iff small).mp stood
    have last : word.drop (wordBytes - 1) = [if value then 1 else 0] := by
      refine BigEndian.eq_of_value_eq (by rw [low]; rfl) (rest.trans ?_)
      cases value <;> rfl
    refine ⟨word, ⟨length, stands⟩, ?_⟩
    rw [last, if_neg (by cases value <;> decide), if_pos padding]
    cases value <;> rfl

end

end Attest.AbiType
