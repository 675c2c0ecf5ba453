import Attest.Table

/-!
# Keys of tables

A table written row by row never has two rows of one key. Merging such a table into an empty one
gives it back, so what was recorded apart and is merged afterwards is the same record. What is read
from merged tables does not depend on the order of their rows (`SameMap.merge`).
-/
namespace Attest.Table

variable {κ α : Type} [DecidableEq κ]

/-- A table without two rows of one key. -/
def Distinct (table : Table κ α) : Prop := (table.map Prod.fst).Nodup

/-- The keys of a table and of a key that is written. -/
theorem mem_keys_put (table : Table κ α) (key asked : κ) (value : α) :
    asked ∈ (put table key value).map Prod.fst ↔ asked = key ∨ asked ∈ table.map Prod.fst := by
  induction table with
  | nil => simp [put]
  | cons row rest inductive_hypothesis =>
    by_cases same : row.1 = key
    · simp [put, same]
    · rw [put, if_neg same]
      simp only [List.map_cons, List.mem_cons, inductive_hypothesis]
      constructor
      · rintro (first | written | later)
        · exact .inr (.inl first)
        · exact .inl written
        · exact .inr (.inr later)
      · rintro (written | first | later)
        · exact .inr (.inl written)
        · exact .inl first
        · exact .inr (.inr later)

/-- Writing a key keeps the keys distinct. -/
theorem Distinct.put {table : Table κ α} (distinct : table.Distinct) (key : κ) (value : α) :
    (table.put key value).Distinct := by
  induction table with
  | nil => simp [Distinct, Table.put]
  | cons row rest inductive_hypothesis =>
    obtain ⟨absent, later⟩ := List.nodup_cons.mp distinct
    by_cases same : row.1 = key
    · rw [Table.put, if_pos same]
      exact distinct
    · rw [Table.put, if_neg same]
      refine List.nodup_cons.mpr ⟨?_, inductive_hypothesis later⟩
      rw [mem_keys_put]
      rintro (written | found)
      · exact same written
      · exact absent found

/-- A row of a table in which a key was written is an old one or the one written. -/
theorem mem_put {table : Table κ α} {key : κ} {value : α} {row : κ × α}
    (member : row ∈ table.put key value) : row ∈ table ∨ row = (key, value) := by
  induction table with
  | nil => exact .inr (List.mem_singleton.mp member)
  | cons first rest inductive_hypothesis =>
    rw [put] at member
    split at member
    · rename_i same
      rcases List.mem_cons.mp member with written | later
      · right
        rw [written, same]
      · exact .inl (List.mem_cons_of_mem _ later)
    · rcases List.mem_cons.mp member with early | later
      · left
        rw [early]
        exact List.mem_cons_self
      · exact (inductive_hypothesis later).imp_left (List.mem_cons_of_mem _)

/-- A key that no row has is written behind all rows. -/
theorem put_of_absent {table : Table κ α} {key : κ} (absent : key ∉ table.map Prod.fst)
    (value : α) : table.put key value = table ++ [(key, value)] := by
  induction table with
  | nil => rfl
  | cons row rest inductive_hypothesis =>
    rw [List.map_cons, List.mem_cons, not_or] at absent
    rw [put, if_neg (Ne.symm absent.1), inductive_hypothesis absent.2, List.cons_append]

/-- A key that no row has has no value. -/
theorem get?_eq_none_iff {table : Table κ α} {key : κ} :
    table.get? key = none ↔ key ∉ table.map Prod.fst := by
  induction table with
  | nil => simp [get?]
  | cons row rest inductive_hypothesis =>
    by_cases same : row.1 = key
    · simp [get?, same]
    · rw [get?, if_neg same, inductive_hypothesis, List.map_cons, List.mem_cons, not_or]
      exact ⟨fun later => ⟨Ne.symm same, later⟩, And.right⟩

/-- Writing no row changes nothing. -/
@[simp] theorem merge_nil_right (table : Table κ α) : table.merge [] = table := rfl

/-- Writing rows of other and distinct keys puts them behind all rows. -/
theorem merge_of_disjoint {table other : Table κ α} (distinct : other.Distinct)
    (disjoint : ∀ key ∈ other.map Prod.fst, key ∉ table.map Prod.fst) :
    table.merge other = table ++ other := by
  induction other generalizing table with
  | nil => simp [merge]
  | cons row rest inductive_hypothesis =>
    obtain ⟨absent, later⟩ := List.nodup_cons.mp distinct
    have put := put_of_absent (disjoint row.1 List.mem_cons_self) row.2
    have merged : (table ++ [row]).merge rest = table ++ [row] ++ rest := by
      refine inductive_hypothesis later fun key found present => ?_
      rw [List.map_append, List.mem_append] at present
      rcases present with old | new
      · exact disjoint key (List.mem_cons_of_mem _ found) old
      · rw [List.map_singleton, List.mem_singleton] at new
        exact absent (new ▸ found)
    calc
      table.merge (row :: rest) = (table.put row.1 row.2).merge rest := rfl
      _ = (table ++ [row]).merge rest := by rw [put]
      _ = table ++ row :: rest := by rw [merged, List.append_assoc, List.singleton_append]

/-- A table of distinct keys merged into the empty one is itself. -/
theorem merge_nil_left {table : Table κ α} (distinct : table.Distinct) :
    Table.merge [] table = table :=
  merge_of_disjoint distinct fun _ _ => List.not_mem_nil

/-- Whether two tables have the same value for each key. -/
def SameMap (table other : Table κ α) : Prop := ∀ key, table.get? key = other.get? key

/-- What is read from merged tables is that of the later one if it has the key. -/
theorem get?_merge (table : Table κ α) {later : Table κ α} (distinct : later.Distinct) (key : κ) :
    (table.merge later).get? key = (later.get? key).or (table.get? key) := by
  induction later generalizing table with
  | nil => rfl
  | cons row rest inductive_hypothesis =>
    obtain ⟨absent, rest_distinct⟩ := List.nodup_cons.mp distinct
    have merged : (table.merge (row :: rest)).get? key =
        (get? rest key).or ((table.put row.1 row.2).get? key) :=
      inductive_hypothesis (table.put row.1 row.2) rest_distinct
    rw [merged, get?_put, get?]
    by_cases same : row.1 = key
    · rw [if_pos same, if_pos same, get?_eq_none_iff.mpr (same ▸ absent)]
      rfl
    · rw [if_neg same, if_neg same]

/-- Merging keeps the keys of a table distinct. -/
theorem Distinct.merge {table : Table κ α} (distinct : table.Distinct) (later : Table κ α) :
    (table.merge later).Distinct := by
  induction later generalizing table with
  | nil => exact distinct
  | cons row rest inductive_hypothesis => exact inductive_hypothesis (distinct.put row.1 row.2)

/-- Tables with the same values merged into such tables have the same values. -/
theorem SameMap.merge {table other later later_other : Table κ α} (same : table.SameMap other)
    (same_later : later.SameMap later_other) (distinct : later.Distinct)
    (distinct_other : later_other.Distinct) :
    (table.merge later).SameMap (other.merge later_other) := by
  intro key
  rw [get?_merge table distinct, get?_merge other distinct_other, same key, same_later key]

end Attest.Table
