import Attest.Code
import Attest.Proofs.Text.Case

/-!
# The one spelling of a code

A normalized code bears the mark and is in small letters, and a code of which both are true is its
own normal form. So normalizing twice is normalizing once, and a code that was filled from a
normalized one needs no further normalizing where it was small before.
-/
namespace Attest.Code

/-- A code that bears the mark. -/
def Marked (code : Code) : Prop := ∃ body, code = marked body

/-- A code with the mark before it bears it. -/
theorem marked_marked (body : Code) : Marked (marked body) := ⟨body, rfl⟩

/-- A marked code is its body with the mark before it. -/
theorem Marked.marked_body {code : Code} (bears : code.Marked) : marked code.body = code := by
  obtain ⟨body, rfl⟩ := bears
  rfl

/-- The mark has two characters. -/
theorem Marked.length_eq {code : Code} (bears : code.Marked) :
    code.length = code.body.length + 2 := by
  obtain ⟨body, rfl⟩ := bears
  rfl

/-- A code that keeps the two characters of a marked code bears the mark. -/
theorem Marked.of_take {code other : Code} (bears : code.Marked)
    (same : other.take 2 = code.take 2) : other.Marked := by
  obtain ⟨body, rfl⟩ := bears
  refine ⟨other.drop 2, ?_⟩
  rw [← List.take_append_drop 2 other, same]
  rfl

instance (code : Code) : Decidable code.Marked :=
  decidable_of_iff (code.take 2 = ['0', 'x']) <| by
    constructor
    · exact (marked_marked []).of_take
    · rintro ⟨body, rfl⟩
      rfl

/-- A normalized code bears the mark. -/
theorem marked_normalize (code : Code) : Marked code.normalize := marked_marked _

/-- A code is small with the mark before it if it is small. -/
theorem small_marked {body : Code} (small : Text.Small body) : Text.Small (marked body) := by
  have mark : Text.Small ['0', 'x'] := by decide +kernel
  exact mark.append small

/-- A normalized code is small. -/
theorem small_normalize (code : Code) : Text.Small code.normalize :=
  small_marked (Text.small_lower code.body)

/-- A small code that bears the mark is its own normal form. -/
theorem normalize_of_small {code : Code} (bears : code.Marked) (small : Text.Small code) :
    code.normalize = code := by
  obtain ⟨body, rfl⟩ := bears
  rw [normalize, body_marked, Text.lower_of_small]
  intro c member
  exact small c (List.mem_cons_of_mem _ (List.mem_cons_of_mem _ member))

/-- The normal form of a code that bears the mark is its small form. -/
theorem normalize_eq_lower {code : Code} (bears : code.Marked) :
    code.normalize = Text.lower code := by
  obtain ⟨body, rfl⟩ := bears
  have mark : Text.lower ['0', 'x'] = ['0', 'x'] := by decide +kernel
  calc
    (marked body).normalize = ['0', 'x'] ++ Text.lower body := rfl
    _ = Text.lower ['0', 'x'] ++ Text.lower body := by rw [mark]
    _ = Text.lower (marked body) := (List.flatMap_append).symm

/-- Normalizing a code takes no byte away. -/
theorem byteLength_le_normalize (code : Code) : code.byteLength ≤ code.normalize.byteLength :=
  Nat.div_le_div_right (Text.length_le_lower code.body)

/-- The first two characters of a code are the mark that its body leaves out, or its body is all of
it. -/
theorem length_body (code : Code) : code.body.length =
    if code.take 2 = ['0', 'x'] ∨ code.take 2 = ['0', 'X'] then code.length - 2 else code.length := by
  unfold body
  split
  · simp
  · simp
  · rename_i not_small not_large
    rw [if_neg]
    rintro (small | large)
    · exact not_small (code.drop 2) (by rw [← List.take_append_drop 2 code, small]; rfl)
    · exact not_large (code.drop 2) (by rw [← List.take_append_drop 2 code, large]; rfl)

/-- Codes of one length with the same first two characters have as many bytes. -/
theorem byteLength_of_take {code other : Code} (same : other.take 2 = code.take 2)
    (length : other.length = code.length) : other.byteLength = code.byteLength := by
  rw [byteLength, byteLength, length_body, length_body, same, length]

/-- Normalizing a second time changes nothing. -/
@[simp] theorem normalize_normalize (code : Code) : code.normalize.normalize = code.normalize :=
  normalize_of_small (marked_normalize code) (small_normalize code)

end Attest.Code
