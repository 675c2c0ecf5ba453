import Attest.BigEndian
import Mathlib.Algebra.Group.Int.Defs
import Mathlib.Algebra.GroupWithZero.Nat

/-!
# Numbers in bytes

Bytes of a given number stand for the numbers below a power of 256, each for one
(`eq_of_value_eq`), and writing an integer gives the bytes that stand for it modulo that power
(`value_lowBytes`).
-/
namespace Attest.BigEndian

/-- A byte in front counts for all places behind it. -/
theorem value_cons (byte : UInt8) (rest : List UInt8) :
    value (byte :: rest) = byte.toNat * 256 ^ rest.length + value rest := by
  suffices general : ∀ number, rest.foldl (fun number byte => 256 * number + byte.toNat) number =
      number * 256 ^ rest.length + value rest by
    have front := general (256 * 0 + byte.toNat)
    rw [Nat.mul_zero, Nat.zero_add] at front
    rw [value, List.foldl_cons]
    simpa using front
  intro number
  induction rest generalizing number with
  | nil => simp [value]
  | cons next rest inductive_hypothesis =>
    have behind : value (next :: rest) = next.toNat * 256 ^ rest.length + value rest := by
      have front := inductive_hypothesis next.toNat
      simpa [value] using front
    rw [List.foldl_cons, inductive_hypothesis, behind, List.length_cons, Nat.pow_succ]
    grind

/-- Bytes in front count for all places behind them. -/
theorem value_append (front back : List UInt8) :
    value (front ++ back) = value front * 256 ^ back.length + value back := by
  induction front with
  | nil => simp [value]
  | cons byte rest inductive_hypothesis =>
    rw [List.cons_append, value_cons, value_cons, inductive_hypothesis, List.length_append,
      Nat.pow_add]
    grind

/-- The number that bytes stand for is below the power of 256 of their number. -/
theorem value_lt (bytes : List UInt8) : value bytes < 256 ^ bytes.length := by
  induction bytes with
  | nil => simp [value]
  | cons byte rest inductive_hypothesis =>
    have bound : byte.toNat < 256 := byte.toNat_lt
    rw [value_cons, List.length_cons, Nat.pow_succ']
    calc byte.toNat * 256 ^ rest.length + value rest
      _ < byte.toNat * 256 ^ rest.length + 256 ^ rest.length := by omega
      _ = (byte.toNat + 1) * 256 ^ rest.length := by grind
      _ ≤ 256 * 256 ^ rest.length := Nat.mul_le_mul_right _ bound

/-- As many bytes that stand for the same number are the same. -/
theorem eq_of_value_eq {left right : List UInt8} (length : left.length = right.length)
    (same : value left = value right) : left = right := by
  induction left generalizing right with
  | nil => exact (List.length_eq_zero_iff.mp length.symm).symm
  | cons byte rest inductive_hypothesis =>
    cases right with
    | nil => simp at length
    | cons other behind =>
      rw [List.length_cons, List.length_cons, Nat.add_right_cancel_iff] at length
      have low := value_lt rest
      have other_low := value_lt behind
      rw [value_cons, value_cons, length] at same
      rw [length] at low
      have positive : 0 < 256 ^ behind.length := Nat.pow_pos (by decide)
      -- Dividing by the places behind tells the bytes in front.
      have front : byte.toNat = other.toNat := by
        have quotient := congrArg (· / 256 ^ behind.length) same
        simpa [Nat.mul_add_div positive, Nat.mul_comm _ (256 ^ behind.length),
          Nat.div_eq_of_lt low, Nat.div_eq_of_lt other_low] using quotient
      rw [front, Nat.add_left_cancel_iff] at same
      rw [UInt8.toNat_inj.mp front, inductive_hypothesis length same]

/-- Zeros stand for nothing. -/
theorem value_zeros (count : Nat) : value (List.replicate count 0) = 0 := by
  induction count with
  | zero => rfl
  | succ count inductive_hypothesis =>
    rw [List.replicate_succ, value_cons, inductive_hypothesis]
    simp

/-- Bytes that are all full stand for the greatest number that as many can hold. -/
theorem value_full (count : Nat) : value (List.replicate count 0xff) + 1 = 256 ^ count := by
  induction count with
  | zero => rfl
  | succ count inductive_hypothesis =>
    rw [List.replicate_succ, value_cons, List.length_replicate, Nat.pow_succ', Nat.add_assoc,
      inductive_hypothesis]
    change 255 * 256 ^ count + 256 ^ count = 256 * 256 ^ count
    omega

/-- Bytes stand for a number in two parts. -/
theorem value_split {front back : List UInt8} {high low : Nat} (bound : low < 256 ^ back.length)
    (whole : value (front ++ back) = high * 256 ^ back.length + low) :
    value front = high ∧ value back = low := by
  have small := value_lt back
  have positive : 0 < 256 ^ back.length := Nat.pow_pos (by decide)
  rw [value_append] at whole
  have quotient := congrArg (· / 256 ^ back.length) whole
  have remainder := congrArg (· % 256 ^ back.length) whole
  simp only [Nat.mul_comm _ (256 ^ back.length), Nat.mul_add_div positive, Nat.mul_add_mod,
    Nat.div_eq_of_lt small, Nat.div_eq_of_lt bound, Nat.mod_eq_of_lt small,
    Nat.mod_eq_of_lt bound, Nat.add_zero] at quotient remainder
  exact ⟨quotient, remainder⟩

/-- Bytes are all the same if they repeat one. -/
theorem all_eq_iff {bytes : List UInt8} {byte : UInt8} :
    bytes.all (· == byte) = true ↔ bytes = List.replicate bytes.length byte := by
  rw [List.eq_replicate_iff]
  simp

/-- Bytes are all zero if they stand for nothing. -/
theorem all_zero_iff {bytes : List UInt8} : bytes.all (· == 0) = true ↔ value bytes = 0 := by
  rw [all_eq_iff]
  constructor
  · intro zeros
    rw [zeros, value_zeros]
  · intro nothing
    exact eq_of_value_eq List.length_replicate.symm (nothing.trans (value_zeros _).symm)

/-- Bytes are all full if they stand for the greatest number that as many can hold. -/
theorem all_full_iff {bytes : List UInt8} :
    bytes.all (· == 0xff) = true ↔ value bytes + 1 = 256 ^ bytes.length := by
  rw [all_eq_iff]
  have full := value_full bytes.length
  constructor
  · intro repeats
    rwa [← repeats] at full
  · intro greatest
    exact eq_of_value_eq List.length_replicate.symm (by omega)

/-- Bytes stand for a number that the low ones can hold if the ones in front are zero. -/
theorem zero_front_iff {front back : List UInt8} {number : Nat}
    (bound : number < 256 ^ back.length) :
    value (front ++ back) = number ↔ front.all (· == 0) = true ∧ value back = number := by
  rw [all_zero_iff]
  constructor
  · intro whole
    exact value_split bound (by rw [whole, Nat.zero_mul, Nat.zero_add])
  · rintro ⟨zeros, low⟩
    rw [value_append, zeros, low, Nat.zero_mul, Nat.zero_add]

/-- Bytes lack no more of their power of 256 than the low ones can if the ones in front are full. -/
theorem full_front_iff {front back : List UInt8} (lack : Nat) (positive : 0 < lack)
    (bound : lack ≤ 256 ^ back.length) :
    value (front ++ back) + lack = 256 ^ (front.length + back.length) ↔
      front.all (· == 0xff) = true ∧ value back + lack = 256 ^ back.length := by
  have parts := value_append front back
  have room : 0 < 256 ^ front.length := Nat.pow_pos (by decide)
  have top : (256 ^ front.length - 1) * 256 ^ back.length + 256 ^ back.length =
      256 ^ (front.length + back.length) := by
    rw [Nat.pow_add, Nat.sub_mul, Nat.one_mul]
    exact Nat.sub_add_cancel (Nat.le_mul_of_pos_left _ room)
  rw [all_full_iff]
  constructor
  · intro whole
    obtain ⟨high, low⟩ := @value_split front back _ _ (by omega)
      (show value (front ++ back) =
        (256 ^ front.length - 1) * 256 ^ back.length + (256 ^ back.length - lack) by omega)
    omega
  · rintro ⟨full, low⟩
    rw [Nat.eq_sub_of_add_eq full] at parts
    omega

/-- The last `count` bytes of an integer are those of the number that it leaves modulo the power of
256. -/
theorem value_lowBytes (count : Nat) (number : Int) :
    (value (lowBytes count number) : Int) = number % 256 ^ count := by
  induction count with
  | zero => simp [lowBytes, value]
  | succ count inductive_hypothesis =>
    have front : lowBytes (count + 1) number =
        UInt8.ofNat (number / Nat.pow 2 (8 * count) % 256).toNat :: lowBytes count number := by
      rw [lowBytes, List.range_succ, List.reverse_append]
      rfl
    have digit_nonneg : 0 ≤ number / 256 ^ count % 256 := Int.emod_nonneg _ (by decide)
    have digit_lt : number / 256 ^ count % 256 < 256 := Int.emod_lt_of_pos _ (by decide)
    have power : ((Nat.pow 2 (8 * count) : Nat) : Int) = 256 ^ count := by
      rw [Nat.pow_eq, Nat.pow_mul, Int.natCast_pow]
      rfl
    have byte : ((UInt8.ofNat (number / 256 ^ count % 256).toNat).toNat : Int) =
        number / 256 ^ count % 256 := by
      rw [UInt8.toNat_ofNat', Nat.mod_eq_of_lt (by omega), Int.toNat_of_nonneg digit_nonneg]
    rw [front, value_cons, length_lowBytes, power, Int.natCast_add, Int.natCast_mul, byte,
      Int.natCast_pow, inductive_hypothesis]
    have positive : (0 : Int) ≤ 256 ^ count := Int.pow_nonneg (by decide)
    have whole := Int.mul_ediv_add_emod number (256 ^ count)
    have parts := Int.mul_ediv_add_emod (number / 256 ^ count) 256
    rw [Int.emod_def number (256 ^ (count + 1)), Int.pow_succ, ← Int.ediv_ediv_of_nonneg positive]
    grind

end Attest.BigEndian
