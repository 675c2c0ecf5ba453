/-!
# Tables that keep the order of writing

A table is a list of rows. Writing a key that has a row changes the value in its place; writing
another adds a row at the end. What is read back is what was written last (`get?_put`).
-/
namespace Attest

/-- Rows of keys and values, in the order in which the keys were first written. -/
abbrev Table (κ α : Type) := List (κ × α)

namespace Table

variable {κ α : Type} [DecidableEq κ]

/-- Write a key's value. -/
def put (table : Table κ α) (key : κ) (value : α) : Table κ α :=
  match table with
  | [] => [(key, value)]
  | row :: rest => if row.1 = key then (row.1, value) :: rest else row :: put rest key value

/-- The value of a key. -/
def get? (table : Table κ α) (key : κ) : Option α :=
  match table with
  | [] => none
  | row :: rest => if row.1 = key then some row.2 else get? rest key

/-- Whether a key has a row. -/
def has (table : Table κ α) (key : κ) : Bool := (table.get? key).isSome

/-- Write all rows of another table. -/
def merge (table other : Table κ α) : Table κ α :=
  other.foldl (fun written row => put written row.1 row.2) table

/-- After writing a key, it has the value written and every other key has the value it had. -/
theorem get?_put (table : Table κ α) (key asked : κ) (value : α) :
    (put table key value).get? asked = if key = asked then some value else get? table asked := by
  induction table with
  | nil => simp [put, get?]
  | cons row rest inductive_hypothesis =>
    by_cases same : row.1 = key
    · by_cases key_asked : key = asked <;> simp [put, get?, same, key_asked]
    · by_cases row_asked : row.1 = asked
      · have other : asked ≠ key := fun equal => same (row_asked.trans equal)
        simp [put, get?, row_asked, other, other.symm]
      · simp [put, get?, same, row_asked, inductive_hypothesis]

end Table

end Attest
