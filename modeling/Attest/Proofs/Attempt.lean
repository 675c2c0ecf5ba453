import Attest.Attempt
import Attest.Proofs.Result

/-!
# Runs of actions

A run of actions in order ends well exactly if each does, from the state in which the one before it
ended (`ends_bind`). What every action does to the state, whether it ends well or fails, is said by a
relation of the states before and after it that composes (`Keeps`).
-/
namespace Attest

/-- A reading that is taken over and ends well has ended well. -/
theorem Failure.lift_eq_ok {α : Type} {reading : Except Fault α} {result : α} :
    (liftM reading : Except Failure α) = .ok result ↔ reading = .ok result := by
  change reading.mapError Failure.fault = .ok result ↔ _
  exact Result.mapError_eq_ok

/-- A reading that is taken over and fails has failed with its fault. -/
theorem Failure.lift_eq_error {α : Type} {reading : Except Fault α} {failure : Failure} :
    (liftM reading : Except Failure α) = .error failure ↔
      ∃ fault, reading = .error fault ∧ Failure.fault fault = failure := by
  change reading.mapError Failure.fault = .error failure ↔ _
  exact Result.mapError_eq_error

/-- What follows a reading that is taken over and has ended well goes on with its result. -/
theorem Failure.lift_ok_bind {α β : Type} (value : α) (next : α → Except Failure β) :
    ((liftM (Except.ok value : Except Fault α) : Except Failure α) >>= next) = next value := rfl

namespace Attempt

variable {σ τ α β : Type}

/-- What an action comes to from a state, and the state that it leaves. -/
def ended (action : Attempt σ α) (before : σ) : Except Failure α × σ := action.run before

/-- An action that ends well: the state before it, its result, and the state after it. -/
def Ends (action : Attempt σ α) (before : σ) (result : α) (after : σ) : Prop :=
  action.ended before = (.ok result, after)

/-- An action comes from a state to one result and one state. -/
theorem Ends.unique {action : Attempt σ α} {before after after_again : σ} {result again : α}
    (ends : action.Ends before result after) (ends_again : action.Ends before again after_again) :
    result = again ∧ after = after_again := by
  have same := Eq.trans (Eq.symm ends) ends_again
  rwa [Prod.mk.injEq, Except.ok.injEq] at same

/-- Two actions in order come to what the second comes to, unless the first fails. -/
theorem ended_bind (first : Attempt σ α) (next : α → Attempt σ β) (before : σ) :
    (first >>= next).ended before =
      match first.ended before with
      | (.ok result, middle) => (next result).ended middle
      | (.error failure, middle) => (.error failure, middle) := by
  change (match first.ended before with
    | (result, middle) => ExceptT.bindCont next result middle) = _
  cases first.ended before with
  | mk result middle => cases result <;> rfl

/-- Three actions in order come to the same whichever two are taken together. -/
theorem ended_bind_assoc {γ : Type} (first : Attempt σ α) (next : α → Attempt σ β)
    (last : β → Attempt σ γ) (before : σ) :
    (first >>= next >>= last).ended before =
      (first >>= fun value => next value >>= last).ended before := by
  simp only [ended_bind]
  cases first.ended before with
  | mk outcome middle => cases outcome <;> rfl

/-- Two actions end well if the first does and the second does from where the first ended. -/
theorem ends_bind {first : Attempt σ α} {next : α → Attempt σ β} {before after : σ} {result : β} :
    (first >>= next).Ends before result after ↔
      ∃ value middle, first.Ends before value middle ∧ (next value).Ends middle result after := by
  simp only [Ends, ended_bind]
  cases first.ended before with
  | mk outcome middle => cases outcome <;> simp [and_assoc]

/-- A result given ends at once. -/
theorem ends_pure {value result : α} {before after : σ} :
    (pure value : Attempt σ α).Ends before result after ↔ value = result ∧ before = after := by
  change (Except.ok value, before) = (Except.ok result, after) ↔ _
  simp

/-- A failure raised does not end well. -/
theorem not_ends_throw {failure : Failure} {result : α} {before after : σ} :
    ¬ (throw failure : Attempt σ α).Ends before result after := by
  change ¬ (Except.error failure, before) = (Except.ok result, after)
  simp

/-- Looking at the state gives it. -/
theorem ends_get {result before after : σ} :
    (get : Attempt σ σ).Ends before result after ↔ before = result ∧ before = after := by
  change (Except.ok before, before) = (Except.ok result, after) ↔ _
  simp

/-- A change of the state leaves it changed. -/
theorem ends_modify {change : σ → σ} {result : Unit} {before after : σ} :
    (modify change : Attempt σ Unit).Ends before result after ↔ change before = after := by
  change (Except.ok (), change before) = (Except.ok result, after) ↔ _
  simp

/-- A result that needs no state is the result. -/
theorem ends_ofResult {outcome : Except Failure α} {result : α} {before after : σ} :
    (ofResult outcome : Attempt σ α).Ends before result after ↔
      outcome = .ok result ∧ before = after := by
  change (outcome, before) = (Except.ok result, after) ↔ _
  rw [Prod.mk.injEq]

/-- A reading that needs no state is the result. -/
theorem ends_ofReading {outcome : Except Fault α} {result : α} {before after : σ} :
    (ofReading outcome : Attempt σ α).Ends before result after ↔
      outcome = .ok result ∧ before = after := by
  rw [ofReading, ends_ofResult, Failure.ofFault, Result.mapError_eq_ok]

/-- A result taken over is the result. -/
theorem ends_liftM {outcome : Except Failure α} {result : α} {before after : σ} :
    (liftM outcome : Attempt σ α).Ends before result after ↔
      outcome = .ok result ∧ before = after := ends_ofResult

/-- A reading taken over is the result. -/
theorem ends_liftM_reading {outcome : Except Fault α} {result : α} {before after : σ} :
    (liftM outcome : Attempt σ α).Ends before result after ↔
      outcome = .ok result ∧ before = after := ends_ofReading

/-- An action on a part of a state works on that part and leaves the others. -/
theorem ends_within {part : σ → τ} {withPart : σ → τ → σ} {action : Attempt τ α} {before after : σ}
    {result : α} :
    (within part withPart action).Ends before result after ↔
      ∃ inner, action.Ends (part before) result inner ∧ withPart before inner = after := by
  change ((action.ended (part before)).1, withPart before (action.ended (part before)).2) =
    (Except.ok result, after) ↔ ∃ inner, action.ended (part before) = (Except.ok result, inner) ∧ _
  cases action.ended (part before) with
  | mk outcome inner => cases outcome <;> simp [and_assoc]

/-- What follows an action that leaves the state as it is goes on from the same state. -/
theorem ends_bind_of_still {first : Attempt σ α} {next : α → Attempt σ β} {before after : σ}
    {result : β} {gives : α → Prop}
    (still : ∀ value middle, first.Ends before value middle ↔ gives value ∧ before = middle) :
    (first >>= next).Ends before result after ↔
      ∃ value, gives value ∧ (next value).Ends before result after := by
  rw [ends_bind]
  constructor
  · rintro ⟨value, middle, ends, ends_next⟩
    obtain ⟨given, rfl⟩ := (still value middle).mp ends
    exact ⟨value, given, ends_next⟩
  · rintro ⟨value, given, ends_next⟩
    exact ⟨value, before, (still value before).mpr ⟨given, rfl⟩, ends_next⟩

/-- What follows a look at the state goes on with the state. -/
theorem ends_get_bind {next : σ → Attempt σ β} {before after : σ} {result : β} :
    ((get : Attempt σ σ) >>= next).Ends before result after ↔
      (next before).Ends before result after := by
  rw [ends_bind_of_still fun _ _ => ends_get]
  exact exists_eq_left'

/-- What follows a result given goes on with the result. -/
theorem ends_pure_bind {value : α} {next : α → Attempt σ β} {before after : σ} {result : β} :
    ((pure value : Attempt σ α) >>= next).Ends before result after ↔
      (next value).Ends before result after := by
  rw [ends_bind_of_still fun _ _ => ends_pure]
  exact exists_eq_left'

/-- What follows a result taken over goes on with the result. -/
theorem ends_liftM_bind {outcome : Except Failure α} {next : α → Attempt σ β} {before after : σ}
    {result : β} :
    ((liftM outcome : Attempt σ α) >>= next).Ends before result after ↔
      ∃ value, outcome = .ok value ∧ (next value).Ends before result after :=
  ends_bind_of_still fun _ _ => ends_liftM

/-- What follows a reading taken over goes on with the result. -/
theorem ends_reading_bind {outcome : Except Fault α} {next : α → Attempt σ β} {before after : σ}
    {result : β} :
    ((liftM outcome : Attempt σ α) >>= next).Ends before result after ↔
      ∃ value, outcome = .ok value ∧ (next value).Ends before result after :=
  ends_bind_of_still fun _ _ => ends_liftM_reading

/-- What follows a change of the state goes on with the state changed. -/
theorem ends_modify_bind {change : σ → σ} {next : Unit → Attempt σ β} {before after : σ}
    {result : β} :
    ((modify change : Attempt σ Unit) >>= next).Ends before result after ↔
      (next ()).Ends (change before) result after := by
  simp only [ends_bind, ends_modify]
  constructor
  · rintro ⟨_, _, rfl, ends⟩
    exact ends
  · intro ends
    exact ⟨(), change before, rfl, ends⟩

/-- Nothing follows a failure raised. -/
theorem not_ends_throw_bind {failure : Failure} {next : α → Attempt σ β} {before after : σ}
    {result : β} : ¬ ((throw failure : Attempt σ α) >>= next).Ends before result after := by
  rw [ends_bind]
  rintro ⟨_, _, raised, -⟩
  exact not_ends_throw raised

/-- What an action comes to is handed on as it is. -/
theorem ends_outcome {action : Attempt σ α} {before after : σ} {result : Except Failure α} :
    action.outcome.Ends before result after ↔ action.ended before = (result, after) := by
  change (Except.ok (action.ended before).1, (action.ended before).2) = (Except.ok result, after) ↔ _
  cases action.ended before with
  | mk outcome middle => simp

/-- An action that fails: the state before it, and its failure. -/
def Fails (action : Attempt σ α) (before : σ) (failure : Failure) : Prop :=
  (action.ended before).1 = .error failure

/-- An action ends well or fails. -/
theorem ends_or_fails (action : Attempt σ α) (before : σ) :
    (∃ result after, action.Ends before result after) ∨ ∃ failure, action.Fails before failure := by
  simp only [Ends, Fails]
  cases action.ended before with
  | mk outcome after =>
    cases outcome with
    | ok result => exact .inl ⟨result, after, rfl⟩
    | error failure => exact .inr ⟨failure, rfl⟩

/-- Two actions fail if the first does. -/
theorem Fails.bind {first : Attempt σ α} {before : σ} {failure : Failure}
    (fails : first.Fails before failure) (next : α → Attempt σ β) :
    (first >>= next).Fails before failure := by
  rw [Fails, ended_bind]
  rw [Fails] at fails
  cases ran : first.ended before with
  | mk outcome after =>
    rw [ran] at fails
    obtain rfl : outcome = .error failure := fails
    rfl

/-- Two actions come to what the second comes to from where the first has ended well. -/
theorem Ends.ended_bind {first : Attempt σ α} {before middle : σ} {value : α}
    (ends : first.Ends before value middle) (next : α → Attempt σ β) :
    (first >>= next).ended before = (next value).ended middle := by
  rw [Attempt.ended_bind, ends]

/-- What follows a result that could not be taken over is not done. -/
theorem fails_liftM_bind {failure : Failure} {outcome : Except Failure α}
    (failed : outcome = .error failure) (next : α → Attempt σ β) (before : σ) :
    ((liftM outcome : Attempt σ α) >>= next).ended before = (.error failure, before) := by
  rw [failed]
  rfl

/-- What follows a result that was taken over goes on with it. -/
theorem ended_liftM_bind {value : α} {outcome : Except Failure α} (taken : outcome = .ok value)
    (next : α → Attempt σ β) (before : σ) :
    ((liftM outcome : Attempt σ α) >>= next).ended before = (next value).ended before := by
  rw [taken]
  rfl

/-- An action that leaves every state in a relation to what it was, whether it ends well or fails. -/
def Keeps (relation : σ → σ → Prop) (action : Attempt σ α) : Prop :=
  ∀ before, relation before (action.ended before).2

/-- An action that ends well leaves the state in the relation. -/
theorem Keeps.of_ends {relation : σ → σ → Prop} {action : Attempt σ α} {before after : σ}
    {result : α} (keeps : action.Keeps relation) (ends : action.Ends before result after) :
    relation before after := by
  have kept := keeps before
  rwa [ends] at kept

/-- A relation of states before and after that holds where nothing is done and composes. -/
structure Frame (relation : σ → σ → Prop) : Prop where
  /-- A state is in relation to itself. -/
  refl : ∀ state, relation state state
  /-- The relation of two actions in order is that of both. -/
  trans : ∀ {first second third}, relation first second → relation second third →
    relation first third

variable {relation : σ → σ → Prop}

/-- A result given keeps every state. -/
theorem Frame.pure (frame : Frame relation) (value : α) :
    Keeps relation (Pure.pure value : Attempt σ α) := frame.refl

/-- A failure keeps every state. -/
theorem Frame.throw (frame : Frame relation) (failure : Failure) :
    Keeps relation (MonadExcept.throw failure : Attempt σ α) := frame.refl

/-- Looking at the state keeps it. -/
theorem Frame.get (frame : Frame relation) : Keeps relation (MonadState.get : Attempt σ σ) :=
  frame.refl

/-- A result that needs no state keeps every state. -/
theorem Frame.ofResult (frame : Frame relation) (outcome : Except Failure α) :
    Keeps relation (Attempt.ofResult outcome : Attempt σ α) := frame.refl

/-- A reading that needs no state keeps every state. -/
theorem Frame.ofReading (frame : Frame relation) (outcome : Except Fault α) :
    Keeps relation (Attempt.ofReading outcome : Attempt σ α) := frame.refl

/-- Two actions from a state are in a relation if each is from where it begins. -/
theorem Frame.bind_from (frame : Frame relation) {first : Attempt σ α} {next : α → Attempt σ β}
    {before : σ} (kept : relation before (first.ended before).2)
    (kept_next : ∀ value middle, first.Ends before value middle →
      relation middle ((next value).ended middle).2) :
    relation before ((first >>= next).ended before).2 := by
  rw [ended_bind]
  cases ran : first.ended before with
  | mk outcome middle =>
    rw [ran] at kept
    cases outcome with
    | error failure => exact kept
    | ok value => exact frame.trans kept (kept_next value middle ran)

/-- Two actions keep what both keep. -/
theorem Frame.bind (frame : Frame relation) {first : Attempt σ α} {next : α → Attempt σ β}
    (keeps : first.Keeps relation) (keeps_next : ∀ value, (next value).Keeps relation) :
    (first >>= next).Keeps relation := fun before =>
  frame.bind_from (keeps before) fun value middle _ => keeps_next value middle

/-- Nothing is done behind a failure. -/
theorem Frame.throw_bind (frame : Frame relation) (failure : Failure) (next : α → Attempt σ β) :
    Keeps relation ((MonadExcept.throw failure : Attempt σ α) >>= next) := frame.refl

/-- Handing on what an action comes to keeps what the action keeps. -/
theorem Keeps.outcome {action : Attempt σ α} (keeps : action.Keeps relation) :
    (Attempt.outcome action).Keeps relation := keeps

/-- What holds of the state that the first of two actions leaves, and of the state that the second
leaves from there if the first ends well, holds of the state that both leave. -/
theorem bind_ended {motive : σ → Prop} {first : Attempt σ α} {next : α → Attempt σ β} {before : σ}
    (failed : motive (first.ended before).2)
    (went_on : ∀ value, first.Ends before value (first.ended before).2 →
      motive ((next value).ended (first.ended before).2).2) :
    motive ((first >>= next).ended before).2 := by
  rw [ended_bind]
  cases ran : first.ended before with
  | mk outcome middle =>
    rw [ran] at failed went_on
    cases outcome with
    | error failure => exact failed
    | ok value => exact went_on value ran

/-- What holds of the state that the first of two actions leaves, and is kept by the second from every
state, holds of the state that both leave. -/
theorem bind_ended_of_kept {motive : σ → Prop} {first : Attempt σ α} {next : α → Attempt σ β}
    {before : σ} (holds : motive (first.ended before).2)
    (kept : ∀ value middle, motive middle → motive ((next value).ended middle).2) :
    motive ((first >>= next).ended before).2 :=
  bind_ended holds fun value _ => kept value _ holds

/-- What follows a look at the state comes to what it comes to with the state. -/
theorem ended_get_bind (next : σ → Attempt σ β) (before : σ) :
    ((get : Attempt σ σ) >>= next).ended before = (next before).ended before := rfl

/-- What follows a change of the state comes to what it comes to in the changed state. -/
theorem ended_modify_bind (change : σ → σ) (next : Unit → Attempt σ β) (before : σ) :
    ((modify change : Attempt σ Unit) >>= next).ended before = (next ()).ended (change before) := rfl

/-- An action whose result is not looked at leaves the state that it leaves. -/
theorem ended_ignored (action : Attempt σ α) (before : σ) :
    ((do let _ ← action : Attempt σ Unit).ended before).2 = (action.ended before).2 := by
  rw [ended_bind]
  cases action.ended before with
  | mk result after => cases result <;> rfl

/-- What follows an action whose outcome is handed on goes on with the outcome. -/
theorem ended_outcome_bind (action : Attempt σ α) (next : Except Failure α → Attempt σ β)
    (before : σ) :
    (action.outcome >>= next).ended before =
      (next (action.ended before).1).ended (action.ended before).2 := rfl

/-- An action on a part of a state comes to what it comes to on that part. -/
theorem ended_within (part : σ → τ) (withPart : σ → τ → σ) (action : Attempt τ α) (before : σ) :
    (within part withPart action).ended before =
      ((action.ended (part before)).1, withPart before (action.ended (part before)).2) := rfl

/-- What holds of a state, and of the one that is left with a result taken over, holds of the state in
which taking the result over ends. -/
theorem liftM_bind_ended {motive : σ → Prop} {outcome : Except Failure α} {next : α → Attempt σ β}
    {before : σ} (failed : motive before)
    (went_on : ∀ value, outcome = .ok value → motive ((next value).ended before).2) :
    motive (((liftM outcome : Attempt σ α) >>= next).ended before).2 := by
  cases outcome with
  | error failure => exact failed
  | ok value => exact went_on value rfl

/-- What holds of a state, and of the one that is left with a reading taken over, holds of the state
in which taking the reading over ends. -/
theorem reading_bind_ended {motive : σ → Prop} {outcome : Except Fault α} {next : α → Attempt σ β}
    {before : σ} (failed : motive before)
    (went_on : ∀ value, outcome = .ok value → motive ((next value).ended before).2) :
    motive (((liftM outcome : Attempt σ α) >>= next).ended before).2 := by
  cases outcome with
  | error fault => exact failed
  | ok value => exact went_on value rfl

/-- A state that is left as it was is in relation to itself. -/
theorem frame_eq : Frame (Eq : σ → σ → Prop) where
  refl := fun _ => rfl
  trans := Eq.trans

/-- An action after one that changes nothing keeps what it keeps. -/
theorem bind_of_still {first : Attempt σ α} {next : α → Attempt σ β}
    (refl : ∀ state, relation state state) (still : first.Keeps Eq)
    (keeps : ∀ value, (next value).Keeps relation) : (first >>= next).Keeps relation := by
  intro before
  have same : (first.ended before).2 = before := (still before).symm
  refine bind_ended ?_ fun value _ => ?_
  · rw [same]
    exact refl before
  · rw [same]
    exact keeps value before

/-- An action that changes nothing after one that keeps a relation keeps it. -/
theorem Keeps.bind_still {first : Attempt σ α} {next : α → Attempt σ β}
    (keeps : first.Keeps relation) (still : ∀ value, (next value).Keeps Eq) :
    (first >>= next).Keeps relation := by
  intro before
  refine bind_ended (keeps before) fun value _ => ?_
  rw [← still value]
  exact keeps before

end Attempt

end Attest
