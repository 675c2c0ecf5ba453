/-!
# Slices at signed positions

A position in a list may be any integer: a negative one counts from the end, and one outside
the list stands for its nearest end. Cutting a list at a position gives back the list
(`upTo_append_since`), so a splice at equal positions inserts and changes nothing else.
-/
namespace Attest.Slice

variable {α : Type}

/-- The number of items that stand before a position in a list of `size` items. -/
def place (size : Nat) (position : Int) : Nat :=
  if position < 0 then (size + position).toNat else position.toNat

/-- The items before a position. -/
def upTo (items : List α) (position : Int) : List α :=
  items.take (place items.length position)

/-- The items from a position on. -/
def since (items : List α) (position : Int) : List α :=
  items.drop (place items.length position)

/-- The items from `first` on that stand before `last`. -/
def between (items : List α) (first last : Int) : List α :=
  (items.take (place items.length last)).drop (place items.length first)

/-- A list is its two parts at any position. -/
theorem upTo_append_since (items : List α) (position : Int) :
    upTo items position ++ since items position = items :=
  List.take_append_drop _ _

/-- A position that does not count from the end is a number of items. -/
theorem place_natCast (size count : Nat) : place size (count : Int) = count := by
  simp [place, Int.not_lt.mpr (Int.natCast_nonneg count)]

/-- Before a position that does not count from the end stand that many items. -/
theorem upTo_natCast (items : List α) (count : Nat) :
    upTo items (count : Int) = items.take count := by
  rw [upTo, place_natCast]

/-- After a position that does not count from the end stand all items but that many. -/
theorem since_natCast (items : List α) (count : Nat) :
    since items (count : Int) = items.drop count := by
  rw [since, place_natCast]

/-- Between positions that do not count from the end stand the items they enclose. -/
theorem between_natCast (items : List α) (first last : Nat) :
    between items (first : Int) (last : Int) = (items.take last).drop first := by
  rw [between, place_natCast, place_natCast]

end Attest.Slice
