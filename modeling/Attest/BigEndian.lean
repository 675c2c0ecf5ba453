/-!
# Bytes as numbers

Bytes stand for a number, the highest byte first; a further byte at the end multiplies what stands
before it (`value_append_singleton`). An integer below zero is written in two's complement.
-/
namespace Attest.BigEndian

/-- The number that bytes stand for. -/
def value (bytes : List UInt8) : Nat :=
  bytes.foldl (fun number byte => 256 * number + byte.toNat) 0

/-- The low bytes of an integer. -/
def lowBytes (count : Nat) (number : Int) : List UInt8 :=
  (List.range count).reverse.map fun index =>
    UInt8.ofNat (number / Nat.pow 2 (8 * index) % 256).toNat

/-- A byte at the end counts once, and all before it count one place more. -/
theorem value_append_singleton (bytes : List UInt8) (byte : UInt8) :
    value (bytes ++ [byte]) = 256 * value bytes + byte.toNat := by
  rw [value, List.foldl_append]
  rfl

/-- Integers are written in as many bytes as asked for. -/
theorem length_lowBytes (count : Nat) (number : Int) : (lowBytes count number).length = count := by
  rw [lowBytes, List.length_map, List.length_reverse, List.length_range]

end Attest.BigEndian
