import Attest.Json.Basic
import Attest.Proofs.Result

/-!
# Members of values

A member that may be absent is read as something else where it is. What is read as another thing than
that is a member that is there (`Json.member_of_memberD`).
-/
namespace Attest.Json

/-- A member that is read as something other than what stands for an absent one is there. -/
theorem member_of_memberD {value found other : Json} {key : String}
    (read : value.memberD key other = .ok found) (differs : found ≠ other) :
    value.member key = .ok found := by
  obtain ⟨held, looked, given⟩ := Result.map_eq_ok.mp read
  obtain ⟨members, shape, rfl⟩ := Result.map_eq_ok.mp looked
  cases value with
  | record rows =>
    obtain rfl := Except.ok.inj shape
    rw [member]
    cases there : Table.get? rows key with
    | some present =>
      rw [there] at given
      exact congrArg Except.ok given
    | none =>
      rw [there] at given
      exact absurd given.symm differs
  | _ => cases shape

/-- A member of a member is at the path of both. -/
theorem path_pair {value inner found : Json} {key next : String}
    (outer : value.member key = .ok inner) (read : inner.member next = .ok found) :
    value.path [key, next] = .ok found := by
  rw [path, outer]
  change (do (← inner.member next).path [] : Except Fault Json) = _
  rw [read]
  rfl

/-- A member of a member is at the path of both where a record without members stands for an absent
one. -/
theorem path_of_memberD {value inner found : Json} {key next : String}
    (outer : value.memberD key (.record []) = .ok inner) (read : inner.member next = .ok found) :
    value.path [key, next] = .ok found := by
  refine path_pair (member_of_memberD outer fun empty => ?_) read
  rw [empty] at read
  cases read

/-- A value that is a given text is that text. -/
theorem isText_eq_true_iff {value : Json} {expected : String} :
    value.isText expected = true ↔ value = .text expected := by
  cases value with
  | text found => simp [isText]
  | _ => simp [isText]

/-- A value that tells something is not null. -/
theorem ne_null_of_holds {value : Json} (holds : value.holds = true) : value ≠ .null := by
  intro null
  rw [null] at holds
  cases holds

end Attest.Json
