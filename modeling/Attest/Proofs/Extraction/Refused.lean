import Attest.Proofs.Abi.Overlong
import Attest.Proofs.Extraction.Arguments

/-!
# What arguments are refused for

The text behind the template may be any. If the names of the types in the interface are within the
grammar, it is taken for arguments or refused as none (`constructorArguments_refuses`), with one
exception: a count in it that is past every length which can be stored ends the reading of it
(`constructorArguments_oversized_iff`).
-/
namespace Attest

/-- An interface whose constructor is not listed with parameters, or with parameters of types whose
names are within the grammar. -/
inductive Interface.Regular (interface : Json) : Prop
  | unlisted {inputs : Option Json} (found : constructorInputs interface = .ok inputs)
      (nothing : (inputs.getD .null).holds = false)
  | listed {names : List (List Char)} (named : Names interface names)
      (grammatical : ∀ name ∈ names, AbiType.Grammatical name)

/-- A hexadecimal text in which reading the arguments of the constructor comes to a count of bytes past
every length that can be stored. -/
def Interface.Overlong (interface : Json) (text : Code) : Prop :=
  ∃ names types data, Names interface names ∧ names.mapM AbiType.ofName = .ok types ∧
    Hex.readBytes? text = some data ∧ AbiType.Overlong data (.tuple types) 0

/-- A failure that refuses a text as no arguments. -/
def Failure.RefusesArguments (failure : Failure) : Prop := ∃ error, failure = .arguments error

namespace Extraction

section

variable {real template text : Code} {interface : Json} {names : List (List Char)}

/-- An error in arguments refuses them, other than one outside the grammar of names and a count past
every length. -/
def Refuses (error : AbiError) : Prop := error.failure = .arguments (.undecodable error)

/-- An error in a name within the grammar refuses arguments. -/
theorem refuses_of_inName {error : AbiError} (found : error.InName) : Refuses error := by
  cases found <;> rfl

/-- An error in the data refuses arguments. -/
theorem refuses_of_inData {error : AbiError} (found : error.InData) : Refuses error := by
  cases found <;> rfl

/-- The bytes of a text are those that it spells. -/
theorem argumentBytes_eq_ok {data : List UInt8} :
    argumentBytes text = .ok data ↔ Hex.readBytes? text = some data := by
  rw [argumentBytes]
  cases Hex.readBytes? text <;> simp

/-- A text that is not hexadecimal is refused. -/
theorem argumentBytes_refuses : Result.FailsOnly Refuses (argumentBytes text) := by
  rw [argumentBytes]
  split
  · exact Result.failsOnly_ok _
  · exact Result.failsOnly_error rfl

/-- Reading by names within the grammar fails because the text or a name is refused, or as reading the
types that the names name does. -/
theorem reencoded_eq_error (grammatical : ∀ name ∈ names, AbiType.Grammatical name)
    {error : AbiError} (failed : reencoded names text = .error error) :
    Refuses error ∨ ∃ types data, names.mapM AbiType.ofName = .ok types ∧
      Hex.readBytes? text = some data ∧
        AbiType.decodeAt data (.tuple types) 0 = .error error := by
  simp only [reencoded, Result.bind_eq_error] at failed
  rcases failed with failed | ⟨data, spelled, failed | ⟨types, typed, failed | ⟨_, -, failed⟩⟩⟩
  · exact .inl (argumentBytes_refuses error failed)
  · exact .inl (refuses_of_inName (Result.FailsOnly.mapM
      (fun name member => AbiType.failsOnly_ofName (grammatical name member)) error failed))
  · exact .inr ⟨types, data, typed, argumentBytes_eq_ok.mp spelled, failed⟩
  · contradiction

/-- What is read by names within the grammar is refused or ends for a count. -/
theorem reencoded_refuses (grammatical : ∀ name ∈ names, AbiType.Grammatical name)
    (filled : names ≠ []) :
    Result.FailsOnly (fun error => Refuses error ∨ error = .oversized) (reencoded names text) := by
  intro error failed
  rcases reencoded_eq_error grammatical failed with refused | ⟨types, data, typed, -, failed⟩
  · exact .inl refused
  · exact ((sound_of_names filled typed).decodeAt_inReading error failed).imp_left refuses_of_inData

/-- Reading by names within the grammar ends for a count exactly if it comes to one past every
length. -/
theorem reencoded_oversized_iff (grammatical : ∀ name ∈ names, AbiType.Grammatical name)
    (filled : names ≠ []) :
    reencoded names text = .error .oversized ↔
      ∃ types data, names.mapM AbiType.ofName = .ok types ∧ Hex.readBytes? text = some data ∧
        AbiType.Overlong data (.tuple types) 0 := by
  constructor
  · intro failed
    rcases reencoded_eq_error grammatical failed with refused | ⟨types, data, typed, spelled, failed⟩
    · contradiction
    · exact ⟨types, data, typed, spelled,
        ((sound_of_names filled typed).decodeAt_oversized_iff 0).mp failed⟩
  · rintro ⟨types, data, typed, spelled, there⟩
    have ended := ((sound_of_names filled typed).decodeAt_oversized_iff 0).mpr there
    exact Result.bind_eq_error.mpr (.inr ⟨data, argumentBytes_eq_ok.mpr spelled,
      Result.bind_eq_error.mpr (.inr ⟨types, typed, Result.bind_eq_error.mpr (.inl ended)⟩)⟩)

/-- The types that names name are determined by the interface. -/
theorem names_unique {others : List (List Char)} (named : Interface.Names interface names)
    (also : Interface.Names interface others) : names = others := by
  obtain ⟨inputs, listed, parameters⟩ := named
  obtain ⟨_, listed_also, parameters_also⟩ := also
  rw [listed] at listed_also
  obtain rfl := Json.list.inj (Option.some.inj (Except.ok.inj listed_also))
  rw [parameters] at parameters_also
  exact Except.ok.inj parameters_also

/-- A constructor without parameters is listed with an empty list. -/
theorem constructorInputs_of_names_nil (named : Interface.Names interface []) :
    Interface.constructorInputs interface = .ok (some (.list [])) := by
  obtain ⟨inputs, listed, named⟩ := named
  obtain rfl := List.length_eq_zero_iff.mp (length_of_parameterTypes named).symm
  exact listed

/-- What follows the template is refused if the constructor takes nothing. -/
theorem constructorArguments_of_nothing (long : template.length < real.length)
    {inputs : Option Json} (found : Interface.constructorInputs interface = .ok inputs)
    (nothing : (inputs.getD .null).holds = false) :
    constructorArguments real template interface = .error (.arguments .inputsMissing) := by
  rw [constructorArguments, if_neg (Nat.not_le.mpr long), found]
  change (if !(inputs.getD .null).holds then _ else _) = _
  rw [nothing]
  rfl

/-- Where the constructor takes nothing, no count is come to. -/
theorem not_overlong_of_nothing {inputs : Option Json}
    (found : Interface.constructorInputs interface = .ok inputs)
    (nothing : (inputs.getD .null).holds = false) : ¬ Interface.Overlong interface text := by
  rintro ⟨names, types, data, ⟨listed, found_also, named⟩, typed, -, there⟩
  rw [found] at found_also
  obtain rfl := Except.ok.inj found_also
  obtain rfl : listed = [] := by simpa [Json.holds] using nothing
  obtain rfl := Except.ok.inj named
  obtain rfl := Except.ok.inj typed
  have held := there.isDynamic
  contradiction

/-- What follows the template is taken for arguments, refused, or ends the reading of it for a count
that is past every length. -/
theorem constructorArguments_refuses (regular : Interface.Regular interface)
    (real template : Code) :
    Result.FailsOnly (fun failure => failure.RefusesArguments ∨ failure = .fault .oversized)
      (constructorArguments real template interface) := by
  rcases Nat.lt_or_ge template.length real.length with long | short
  swap
  · rw [constructorArguments_of_le short]
    exact Result.failsOnly_ok _
  cases regular with
  | unlisted found nothing =>
    rw [constructorArguments_of_nothing long found nothing]
    exact Result.failsOnly_error (.inl ⟨_, rfl⟩)
  | @listed names named grammatical =>
    by_cases empty : names = []
    · subst empty
      rw [constructorArguments_of_nothing long (constructorInputs_of_names_nil named) rfl]
      exact Result.failsOnly_error (.inl ⟨_, rfl⟩)
    rw [constructorArguments_eq long named empty]
    refine Result.FailsOnly.bind ?_ fun again => ?_
    · intro failure failed
      obtain ⟨error, read, rfl⟩ := Result.mapError_eq_error.mp failed
      rcases reencoded_refuses grammatical empty error read with refused | rfl
      · exact .inl ⟨_, refused⟩
      · exact .inr rfl
    · split
      · exact Result.failsOnly_ok _
      · exact Result.failsOnly_error (.inl ⟨_, rfl⟩)

/-- A count ends the reading of what follows the template exactly if reading it comes to one past every
length that can be stored. -/
theorem constructorArguments_oversized_iff (regular : Interface.Regular interface)
    (real template : Code) :
    constructorArguments real template interface = .error (.fault .oversized) ↔
      template.length < real.length ∧ Interface.Overlong interface (surplus real template) := by
  rcases Nat.lt_or_ge template.length real.length with long | short
  swap
  · rw [constructorArguments_of_le short]
    exact ⟨nofun, fun ⟨long, _⟩ => absurd long (Nat.not_lt.mpr short)⟩
  refine Iff.trans ?_ (and_iff_right long).symm
  cases regular with
  | unlisted found nothing =>
    rw [constructorArguments_of_nothing long found nothing]
    exact iff_of_false nofun (not_overlong_of_nothing found nothing)
  | @listed names named grammatical =>
    by_cases empty : names = []
    · subst empty
      have found := constructorInputs_of_names_nil named
      rw [constructorArguments_of_nothing long found rfl]
      exact iff_of_false nofun (not_overlong_of_nothing found rfl)
    rw [constructorArguments_eq long named empty, Result.bind_eq_error]
    constructor
    · rintro (failed | ⟨again, -, failed⟩)
      · obtain ⟨error, read, same⟩ := Result.mapError_eq_error.mp failed
        rcases reencoded_refuses grammatical empty error read with refused | rfl
        · rw [Refuses, same] at refused
          contradiction
        · obtain ⟨types, data, typed, spelled, there⟩ :=
            (reencoded_oversized_iff grammatical empty).mp read
          exact ⟨names, types, data, named, typed, spelled, there⟩
      · split at failed <;> nomatch failed
    · rintro ⟨_, types, data, also, typed, spelled, there⟩
      obtain rfl := names_unique named also
      have ended := (reencoded_oversized_iff grammatical empty).mpr
        ⟨types, data, typed, spelled, there⟩
      exact .inl (Result.mapError_eq_error.mpr ⟨_, ended, rfl⟩)

end

end Extraction

end Attest
