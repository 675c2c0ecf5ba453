import Attest.Failure.Basic

/-!
# Actions that may fail and keep what they have done

An action works on a state and ends in a result or a failure. A failure does not undo the changes to
the state that came before it: what was asked of a tool or a provider stays asked.
-/
namespace Attest

/-- An action on a state that ends in a result or a failure, and in a state in either case. -/
abbrev Attempt (σ α : Type) := ExceptT Failure (StateM σ) α

namespace Attempt

variable {σ τ α : Type}

/-- A result that needs no state. -/
def ofResult (result : Except Failure α) : Attempt σ α := ExceptT.mk (pure result)

/-- A result of reading a value from outside. -/
def ofReading (result : Except Fault α) : Attempt σ α := ofResult (Failure.ofFault result)

/-- An action on a part of a state. -/
def within (part : σ → τ) (withPart : σ → τ → σ) (action : Attempt τ α) : Attempt σ α :=
  ExceptT.mk fun state =>
    let (result, after) := action.run (part state)
    (result, withPart state after)

/-- The result of an action or its failure, for another action to decide. -/
def outcome (action : Attempt σ α) : Attempt σ (Except Failure α) :=
  ExceptT.mk fun state =>
    let (result, after) := action.run state
    (.ok result, after)

instance : MonadLift (Except Failure) (ExceptT Failure (StateM σ)) := ⟨ofResult⟩

instance : MonadLift (Except Fault) (ExceptT Failure (StateM σ)) := ⟨ofReading⟩

end Attempt

end Attest
