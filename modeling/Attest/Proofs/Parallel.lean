import Attest.Failure.Report
import Attest.Proofs.Attempt

/-!
# Two runs in parallel

Two runs that differ in what does not matter are compared step by step: from states in a relation
they come to results in a relation, or to failures in one, and to states in the relation again
(`Attempt.Related`). Two actions in order are related if the first are and the second are with
results in relation (`Related.bind`). Runs are in parallel (`Attempt.Parallel`) if they are related
and their failures are such that programs cannot tell them apart (`Failure.Alike`).
-/
namespace Attest

/-- Failures that programs cannot tell apart: the same failure, or two of a chain or of a
verification that are reported with one code. -/
inductive Failure.Alike : Failure → Failure → Prop
  | refl (failure : Failure) : Alike failure failure
  | chain {one other : ChainError} : (one.report true).code = (other.report true).code →
    Alike (.chain one) (.chain other)
  | verification {one other : VerificationError} :
    (one.report true).code = (other.report true).code →
    Alike (.verification one) (.verification other)

/-- What passes a question on to another provider does so in either run. -/
theorem Failure.Alike.isPassedOn_eq {one other : Failure} (alike : one.Alike other) :
    one.isPassedOn = other.isPassedOn := by
  cases alike <;> rfl

namespace Result

variable {α β α' β' : Type} {values : α → β → Prop} {later : α' → β' → Prop}

/-- Results in a relation, or failures in another. -/
inductive Related (fails : Failure → Failure → Prop) (values : α → β → Prop) :
    Except Failure α → Except Failure β → Prop
  | ok {one : α} {other : β} : values one other → Related fails values (.ok one) (.ok other)
  | error {one other : Failure} : fails one other → Related fails values (.error one) (.error other)

/-- Two steps are related if the first are, and the second are with results in relation. -/
theorem Related.bind {fails : Failure → Failure → Prop} {one : Except Failure α}
    {other : Except Failure β} {next : α → Except Failure α'} {next' : β → Except Failure β'}
    (related : Related fails values one other)
    (related_next : ∀ value value', values value value' →
      Related fails later (next value) (next' value')) :
    Related fails later (one >>= next) (other >>= next') := by
  cases related with
  | ok same => exact related_next _ _ same
  | error failed => exact .error failed

/-- Results that are related are so by what their failures are also related by. -/
theorem Related.mono {fails more : Failure → Failure → Prop} {one : Except Failure α}
    {other : Except Failure β} (related : Related fails values one other)
    (weaker : ∀ failure failure', fails failure failure' → more failure failure') :
    Related more values one other := by
  cases related with
  | ok same => exact .ok same
  | error failed => exact .error (weaker _ _ failed)

/-- A result is related to itself. -/
theorem Related.refl {fails : Failure → Failure → Prop} (refl : ∀ failure, fails failure failure)
    (result : Except Failure α) : Related fails Eq result result := by
  cases result with
  | error failure => exact .error (refl failure)
  | ok value => exact .ok rfl

/-- Steps that go on from the same result are related if they are with every result. -/
theorem Related.bind_same {fails : Failure → Failure → Prop}
    (refl : ∀ failure, fails failure failure) {result : Except Failure α}
    {next next' : α → Except Failure β}
    (related : ∀ value, Related fails Eq (next value) (next' value)) :
    Related fails Eq (result >>= next) (result >>= next') :=
  (Related.refl refl result).bind fun value _ same => same ▸ related value

/-- Results are related by being the same if they are the same. -/
theorem related_eq_iff {one other : Except Failure α} : Related Eq Eq one other ↔ one = other := by
  constructor
  · rintro (⟨rfl⟩ | ⟨rfl⟩) <;> rfl
  · rintro rfl
    exact .refl (fun _ => rfl) one

/-- Results in a relation, or failures that are alike. -/
inductive Alike (values : α → β → Prop) : Except Failure α → Except Failure β → Prop
  | ok {one : α} {other : β} : values one other → Alike values (.ok one) (.ok other)
  | error {one other : Failure} : one.Alike other → Alike values (.error one) (.error other)

/-- Results are alike if they are related and their failures are alike. -/
theorem alike_iff {one : Except Failure α} {other : Except Failure β} :
    Alike values one other ↔ Related Failure.Alike values one other := by
  constructor
  · rintro (same | alike)
    · exact .ok same
    · exact .error alike
  · rintro (same | alike)
    · exact .ok same
    · exact .error alike

/-- A result is like itself. -/
theorem Alike.refl (result : Except Failure α) : Alike Eq result result :=
  alike_iff.mpr (.refl Failure.Alike.refl result)

/-- Two steps are alike if the first are, and the second are with results in relation. -/
theorem Alike.bind {one : Except Failure α} {other : Except Failure β}
    {next : α → Except Failure α'} {next' : β → Except Failure β'} (alike : Alike values one other)
    (alike_next : ∀ value value', values value value' → Alike later (next value) (next' value')) :
    Alike later (one >>= next) (other >>= next') :=
  alike_iff.mpr ((alike_iff.mp alike).bind fun value value' same =>
    alike_iff.mp (alike_next value value' same))

/-- Steps that go on from the same result are alike if they are with every result. -/
theorem Alike.bind_same {result : Except Failure α} {next next' : α → Except Failure β}
    (alike : ∀ value, Alike Eq (next value) (next' value)) :
    Alike Eq (result >>= next) (result >>= next') :=
  alike_iff.mpr (.bind_same Failure.Alike.refl fun value => alike_iff.mp (alike value))

end Result

namespace Attempt

variable {σ τ υ φ α β α' β' : Type} {states : σ → τ → Prop} {values : α → β → Prop}
  {later : α' → β' → Prop} {fails : Failure → Failure → Prop}

/-- Two actions that from states in relation come to results in relation and states in relation. -/
def Related (states : σ → τ → Prop) (fails : Failure → Failure → Prop) (values : α → β → Prop)
    (one : Attempt σ α) (other : Attempt τ β) : Prop :=
  ∀ before before', states before before' →
    Result.Related fails values (one.ended before).1 (other.ended before').1 ∧
      states (one.ended before).2 (other.ended before').2

/-- Two actions in order are related if the first are, and the second are with results in relation.
-/
theorem Related.bind {one : Attempt σ α} {other : Attempt τ β} {next : α → Attempt σ α'}
    {next' : β → Attempt τ β'} (related : Related states fails values one other)
    (related_next : ∀ value value', values value value' →
      Related states fails later (next value) (next' value')) :
    Related states fails later (one >>= next) (other >>= next') := by
  intro before before' begin_related
  obtain ⟨results, kept⟩ := related before before' begin_related
  rw [ended_bind, ended_bind]
  generalize one.ended before = first at results kept
  generalize other.ended before' = second at results kept
  obtain ⟨result, middle⟩ := first
  obtain ⟨result', middle'⟩ := second
  cases results with
  | ok same => exact related_next _ _ same middle middle' kept
  | error failed => exact ⟨.error failed, kept⟩

/-- Actions that are related are so by what their failures are also related by. -/
theorem Related.mono {one : Attempt σ α} {other : Attempt τ β} {more : Failure → Failure → Prop}
    (related : Related states fails values one other)
    (weaker : ∀ failure failure', fails failure failure' → more failure failure') :
    Related states more values one other := fun before before' begins =>
  (related before before' begins).imp_left (·.mono weaker)

/-- Results given in relation are related. -/
theorem Related.pure {value : α} {value' : β} (same : values value value') :
    Related states fails values (Pure.pure value : Attempt σ α)
      (Pure.pure value' : Attempt τ β) :=
  fun _ _ kept => ⟨.ok same, kept⟩

/-- Failures raised in relation are related. -/
theorem Related.throw {failure failure' : Failure} (failed : fails failure failure') :
    Related states fails values (MonadExcept.throw failure : Attempt σ α)
      (MonadExcept.throw failure' : Attempt τ β) :=
  fun _ _ kept => ⟨.error failed, kept⟩

/-- Two looks at states in relation, with what follows them, are related if that is. -/
theorem Related.get_bind {next : σ → Attempt σ α} {next' : τ → Attempt τ β}
    (related : ∀ state state', states state state' →
      Related states fails values (next state) (next' state')) :
    Related states fails values (MonadState.get >>= next) (MonadState.get >>= next') :=
  fun before before' kept => related before before' kept before before' kept

/-- Results taken over in relation are related. -/
theorem Related.taken {result : Except Failure α} {result' : Except Failure β}
    (related : Result.Related fails values result result') :
    Related states fails values (liftM result : Attempt σ α) (liftM result' : Attempt τ β) :=
  fun _ _ kept => ⟨related, kept⟩

/-- Two actions that go on from the same reading taken over are related if they are with what is
read. -/
theorem Related.reading_bind {result : Except Fault υ} {next : υ → Attempt σ α}
    {next' : υ → Attempt τ β} (refl : ∀ failure, fails failure failure)
    (related : ∀ value, result = .ok value →
      Related states fails values (next value) (next' value)) :
    Related states fails values ((liftM result : Attempt σ υ) >>= next)
      ((liftM result : Attempt τ υ) >>= next') := by
  cases result with
  | error fault => exact fun _ _ kept => ⟨.error (refl _), kept⟩
  | ok value => exact related value rfl

/-- What two actions come to: results that are alike, and states in relation. -/
def Paired (states : σ → τ → Prop) (values : α → β → Prop) (one : Except Failure α × σ)
    (other : Except Failure β × τ) : Prop :=
  Result.Alike values one.1 other.1 ∧ states one.2 other.2

/-- Two actions that from states in relation come to results that are alike and states in relation.
-/
def Parallel (states : σ → τ → Prop) (values : α → β → Prop) (one : Attempt σ α)
    (other : Attempt τ β) : Prop :=
  ∀ before before', states before before' →
    Paired states values (one.ended before) (other.ended before')

/-- Actions are in parallel if they are related and their failures are alike. -/
theorem parallel_iff {one : Attempt σ α} {other : Attempt τ β} :
    Parallel states values one other ↔ Related states Failure.Alike values one other := by
  simp only [Parallel, Paired, Related, Result.alike_iff]

/-- An action is in parallel to itself. -/
theorem Parallel.refl (action : Attempt σ α) : Parallel Eq Eq action action := by
  rintro before _ rfl
  exact ⟨.refl _, rfl⟩

/-- Two actions in order are in parallel if the first are, and the second are with results in
relation. -/
theorem Parallel.bind {one : Attempt σ α} {other : Attempt τ β} {next : α → Attempt σ α'}
    {next' : β → Attempt τ β'} (parallel : Parallel states values one other)
    (parallel_next : ∀ value value', values value value' →
      Parallel states later (next value) (next' value')) :
    Parallel states later (one >>= next) (other >>= next') :=
  parallel_iff.mpr ((parallel_iff.mp parallel).bind fun value value' same =>
    parallel_iff.mp (parallel_next value value' same))

/-- Results given in relation are in parallel. -/
theorem Parallel.pure {value : α} {value' : β} (related : values value value') :
    Parallel states values (Pure.pure value : Attempt σ α) (Pure.pure value' : Attempt τ β) :=
  parallel_iff.mpr (.pure related)

/-- Failures raised that are alike are in parallel. -/
theorem Parallel.throw {failure failure' : Failure} (alike : failure.Alike failure') :
    Parallel states values (MonadExcept.throw failure : Attempt σ α)
      (MonadExcept.throw failure' : Attempt τ β) :=
  parallel_iff.mpr (.throw alike)

/-- What would follow failures that are alike does not matter. -/
theorem Parallel.throw_bind {failure failure' : Failure} {next : α → Attempt σ α'}
    {next' : β → Attempt τ β'} (alike : failure.Alike failure') :
    Parallel states later ((MonadExcept.throw failure : Attempt σ α) >>= next)
      ((MonadExcept.throw failure' : Attempt τ β) >>= next') :=
  fun _ _ kept => ⟨.error alike, kept⟩

/-- Two looks at states in relation, with what follows them, are in parallel if that is. -/
theorem Parallel.get_bind {next : σ → Attempt σ α} {next' : τ → Attempt τ β}
    (parallel : ∀ state state', states state state' →
      Parallel states values (next state) (next' state')) :
    Parallel states values (MonadState.get >>= next) (MonadState.get >>= next') :=
  parallel_iff.mpr (.get_bind fun state state' related =>
    parallel_iff.mp (parallel state state' related))

/-- Two changes that keep states in relation, with what follows them, are in parallel if that is. -/
theorem Parallel.modify_bind {change : σ → σ} {change' : τ → τ} {next : Unit → Attempt σ α}
    {next' : Unit → Attempt τ β}
    (keeps : ∀ state state', states state state' → states (change state) (change' state'))
    (parallel : Parallel states values (next ()) (next' ())) :
    Parallel states values ((modify change : Attempt σ Unit) >>= next)
      ((modify change' : Attempt τ Unit) >>= next') :=
  fun before before' related => parallel _ _ (keeps before before' related)

/-- Results taken over that are alike are in parallel. -/
theorem Parallel.taken {result : Except Failure α} {result' : Except Failure β}
    (alike : Result.Alike values result result') :
    Parallel states values (liftM result : Attempt σ α) (liftM result' : Attempt τ β) :=
  parallel_iff.mpr (.taken (Result.alike_iff.mp alike))

/-- Two actions that go on from the same result taken over are in parallel if they are with every
result. -/
theorem Parallel.taken_bind {result : Except Failure υ} {next : υ → Attempt σ α}
    {next' : υ → Attempt τ β}
    (parallel : ∀ value, Parallel states values (next value) (next' value)) :
    Parallel states values ((liftM result : Attempt σ υ) >>= next)
      ((liftM result : Attempt τ υ) >>= next') :=
  Parallel.bind (Parallel.taken (.refl result)) fun value _ same => same ▸ parallel value

/-- Two actions that go on from the same reading taken over are in parallel if they are with every
result. -/
theorem Parallel.reading_bind {result : Except Fault υ} {next : υ → Attempt σ α}
    {next' : υ → Attempt τ β}
    (parallel : ∀ value, Parallel states values (next value) (next' value)) :
    Parallel states values ((liftM result : Attempt σ υ) >>= next)
      ((liftM result : Attempt τ υ) >>= next') :=
  parallel_iff.mpr (.reading_bind Failure.Alike.refl fun value _ =>
    parallel_iff.mp (parallel value))

/-- Choices between actions in parallel are in parallel. -/
theorem Parallel.ite {choice : Prop} [Decidable choice] {one two : Attempt σ α}
    {other others : Attempt τ β} (holds : choice → Parallel states values one other)
    (fails : ¬ choice → Parallel states values two others) :
    Parallel states values (if choice then one else two) (if choice then other else others) := by
  by_cases chosen : choice
  · rw [if_pos chosen, if_pos chosen]
    exact holds chosen
  · rw [if_neg chosen, if_neg chosen]
    exact fails chosen

/-- What actions in parallel come to is handed on in parallel. -/
theorem Parallel.outcome {one : Attempt σ α} {other : Attempt τ β}
    (parallel : Parallel states values one other) :
    Parallel states (Result.Alike values) (Attempt.outcome one) (Attempt.outcome other) :=
  fun before before' related =>
    ⟨.ok (parallel before before' related).1, (parallel before before' related).2⟩

/-- Actions on parts of states are in parallel if they are on the parts. -/
theorem Parallel.within {parts : υ → φ → Prop} {part : σ → υ} {part' : τ → φ}
    {withPart : σ → υ → σ} {withPart' : τ → φ → τ} {one : Attempt υ α} {other : Attempt φ β}
    (looks : ∀ state state', states state state' → parts (part state) (part' state'))
    (keeps : ∀ state state' inner inner', states state state' → parts inner inner' →
      states (withPart state inner) (withPart' state' inner'))
    (parallel : Parallel parts values one other) :
    Parallel states values (Attempt.within part withPart one)
      (Attempt.within part' withPart' other) := by
  intro before before' related
  obtain ⟨alike, kept⟩ := parallel _ _ (looks before before' related)
  exact ⟨alike, keeps before before' _ _ related kept⟩

end Attempt

end Attest
