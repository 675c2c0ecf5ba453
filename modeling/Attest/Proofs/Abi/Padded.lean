import Attest.Proofs.Abi.Word
import Attest.Proofs.Text.Utf8

/-!
# Padded bytes at a place

Bytes are encoded with zeros behind them up to whole words, so many as are needed and no more: behind
nothing if their number is given by their type (`octetsAt_eq_ok`), and behind the word of their number
if it is not (`countedAt_eq_ok`).
-/
namespace Attest.AbiType

/-- Bytes with zeros behind them that fill whole words, and no word more than they need. -/
def IsPadded (value bytes : List UInt8) : Prop :=
  ∃ count < wordBytes, bytes = value ++ List.replicate count 0 ∧ wordBytes ∣ bytes.length

/-- Bytes of a word are padded by the zeros that fill it. -/
theorem isPadded_word {value word : List UInt8} (filled : value ≠ [])
    (fits : value.length ≤ wordBytes) :
    IsPadded value word ↔
      word = value ++ List.replicate (wordBytes - value.length) 0 := by
  have positive := List.length_pos_iff.mpr filled
  have size : wordBytes = 32 := rfl
  constructor
  · rintro ⟨count, fewer, rfl, whole⟩
    rw [List.length_append, List.length_replicate, size] at whole
    rw [size] at fewer fits ⊢
    congr 2
    omega
  · rintro rfl
    refine ⟨_, by omega, rfl, 1, ?_⟩
    rw [List.length_append, List.length_replicate, Nat.add_sub_cancel' fits, Nat.mul_one]

/-- Bytes take no more than the words that hold them. -/
theorem le_wholeWords (count : Nat) : count ≤ wholeWords count := by
  have size : wordBytes = 32 := rfl
  rw [wholeWords, size]
  omega

/-- Padded bytes are as long as the words that hold them. -/
theorem length_padded (value : List UInt8) : (padded value).length = wholeWords value.length := by
  rw [padded, List.length_append, List.length_replicate, Nat.add_sub_cancel' (le_wholeWords _)]

/-- What is written for bytes is padded. -/
theorem isPadded_iff {value bytes : List UInt8} : IsPadded value bytes ↔ bytes = padded value := by
  have size : wordBytes = 32 := rfl
  constructor
  · rintro ⟨count, fewer, rfl, whole⟩
    rw [List.length_append, List.length_replicate, size] at whole
    rw [padded, wholeWords, size]
    rw [size] at fewer
    congr 2
    omega
  · rintro rfl
    refine ⟨wholeWords value.length - value.length, ?_, rfl, ?_⟩
    · rw [wholeWords, size]
      omega
    · rw [length_padded]
      exact Nat.dvd_mul_left _ _

section

variable {data : List UInt8} {place : Nat}

/-- So many bytes are read where they stand with the zeros that fill their word. -/
theorem octetsAt_eq_ok {size : Nat} {value : List UInt8} (positive : 0 < size)
    (fits : size ≤ wordBytes) :
    octetsAt data place size = .ok value ↔
      value.length = size ∧ ∃ word, IsPadded value word ∧ StandsAt data place word := by
  simp only [octetsAt, Result.bind_eq_ok, wordAt_eq_ok]
  constructor
  · rintro ⟨word, ⟨length, stands⟩, read⟩
    split at read
    · rename_i zeros
      rw [Result.pure_eq_ok] at read
      have taken : value.length = size := by
        rw [← read]
        exact List.length_take_of_le (length ▸ fits)
      refine ⟨taken, word, (isPadded_word ?_ (taken ▸ fits)).mpr ?_, stands⟩
      · exact List.length_pos_iff.mp (taken ▸ positive)
      · have parts := List.take_append_drop size word
        rw [read, BigEndian.all_eq_iff.mp zeros, List.length_drop, length] at parts
        rw [taken, parts]
    · contradiction
  · rintro ⟨rfl, word, padded, stands⟩
    obtain rfl := (isPadded_word (List.length_pos_iff.mp positive) fits).mp padded
    refine ⟨_, ⟨?_, stands⟩, ?_⟩
    · rw [List.length_append, List.length_replicate]
      omega
    · rw [List.drop_left, List.take_left, if_pos (BigEndian.all_eq_iff.mpr (by simp))]
      rfl

/-- Bytes are read where they stand padded behind the word of their number, if that many can be
stored. -/
theorem countedAt_eq_ok {value : List UInt8} :
    countedAt data place = .ok value ↔
      wholeWords value.length ≤ mostBytes ∧
        ∃ count, IsWord value.length count ∧ StandsAt data place (count ++ padded value) := by
  simp only [countedAt, Result.bind_eq_ok, numberAt_eq_ok]
  constructor
  · rintro ⟨size, ⟨count, counts, stands⟩, read⟩
    split at read
    · contradiction
    rename_i stored
    split at read
    · contradiction
    rename_i there
    obtain ⟨zeros, given⟩ := Result.ite_error_eq_ok.mp read
    rw [Result.pure_eq_ok] at given
    have whole : ((data.drop (place + wordBytes)).take (wholeWords size)).length =
        wholeWords size :=
      Nat.le_antisymm (List.length_take_le _ _) (Nat.not_lt.mp there)
    have length : value.length = size := by
      rw [← given]
      refine List.length_take_of_le ?_
      rw [whole]
      exact le_wholeWords size
    have body : (data.drop (place + wordBytes)).take (wholeWords size) = padded value := by
      have parts := List.take_append_drop size
        ((data.drop (place + wordBytes)).take (wholeWords size))
      rw [given, BigEndian.all_eq_iff.mp zeros, List.length_drop, whole, ← length] at parts
      rw [← length, ← parts, padded]
    rw [length]
    refine ⟨Nat.not_lt.mp stored, count, counts, standsAt_append.mpr ⟨stands, ?_⟩⟩
    rw [counts.length, StandsAt, ← body]
    exact List.take_prefix _ _
  · rintro ⟨stored, count, counts, stands⟩
    obtain ⟨before, behind⟩ := standsAt_append.mp stands
    have body : (data.drop (place + wordBytes)).take (wholeWords value.length) = padded value := by
      have taken := List.prefix_iff_eq_take.mp behind
      rw [counts.length, length_padded] at taken
      exact taken.symm
    have zeros : ((padded value).drop value.length).all (· == 0) = true := by
      rw [padded, List.drop_left]
      exact BigEndian.all_eq_iff.mpr (by simp)
    refine ⟨_, ⟨count, counts, before⟩, ?_⟩
    rw [if_neg (Nat.not_lt.mpr stored), body, if_neg (by rw [length_padded]; omega), if_pos zeros,
      padded, List.take_left]
    rfl

/-- A text is read where its bytes are and are read as one. -/
theorem charsAt_eq_ok {text : List Char} :
    charsAt data place = .ok text ↔
      ∃ bytes, countedAt data place = .ok bytes ∧ Utf8.decode bytes = .ok text := by
  simp only [charsAt, Result.bind_eq_ok, Result.mapError_eq_ok]

end

end Attest.AbiType
