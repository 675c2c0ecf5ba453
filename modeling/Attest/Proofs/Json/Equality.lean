import Attest.Json.Basic

/-!
# Equal values

Two JSON values are the same exactly if they are of one kind and their parts are the same, in order
(`Json.same_iff`). So it can be decided whether a document is the one that is expected.
-/
namespace Attest.Json

mutual

/-- Whether two values are the same. -/
def same : Json → Json → Bool
  | null, null => true
  | bool first, bool second => first == second
  | int first, int second => first == second
  | real first, real second => first == second
  | text first, text second => first == second
  | list first, list second => sameItems first second
  | record first, record second => sameMembers first second
  | _, _ => false

/-- Whether two lists of items are the same. -/
def sameItems : List Json → List Json → Bool
  | [], [] => true
  | first :: rest, second :: others => same first second && sameItems rest others
  | _, _ => false

/-- Whether two lists of members are the same. -/
def sameMembers : List (String × Json) → List (String × Json) → Bool
  | [], [] => true
  | (name, first) :: rest, (other, second) :: others =>
    name == other && same first second && sameMembers rest others
  | _, _ => false

end

mutual

/-- Values are found to be the same exactly if they are. -/
theorem same_iff : ∀ first second : Json, same first second = true ↔ first = second
  | null, second => by cases second <;> simp [same]
  | bool first, second => by cases second <;> simp [same]
  | int first, second => by cases second <;> simp [same]
  | real first, second => by cases second <;> simp [same]
  | text first, second => by cases second <;> simp [same]
  | list first, second => by cases second <;> simp [same, sameItems_iff]
  | record first, second => by cases second <;> simp [same, sameMembers_iff]

/-- Items are found to be the same exactly if they are. -/
theorem sameItems_iff : ∀ first second : List Json, sameItems first second = true ↔ first = second
  | [], second => by cases second <;> simp [sameItems]
  | first :: rest, second => by
    cases second with
    | nil => simp [sameItems]
    | cons second others => simp [sameItems, same_iff first second, sameItems_iff rest others]

/-- Members are found to be the same exactly if they are. -/
theorem sameMembers_iff : ∀ first second : List (String × Json),
    sameMembers first second = true ↔ first = second
  | [], second => by cases second <;> simp [sameMembers]
  | (name, first) :: rest, second => by
    cases second with
    | nil => simp [sameMembers]
    | cons row others =>
      obtain ⟨other, second⟩ := row
      simp [sameMembers, same_iff first second, sameMembers_iff rest others]

end

instance decidableEq : DecidableEq Json := fun first second =>
  decidable_of_iff (same first second = true) (same_iff first second)

end Attest.Json
