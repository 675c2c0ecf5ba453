import Attest.Proofs.Abi.TypeName

/-!
# The types that names name

A name that names a type names a sound one (`AbiType.sound_of_ofName`): its numbers do not begin with
zero, so they are none, its tuples are not empty, and the rules for suffixes keep the bits and bytes
within a word. A name within the grammar is refused only for an error in it
(`AbiType.failsOnly_ofName`), and never for what its words are expanded to.
-/
namespace Attest

/-- An error in a name within the grammar. -/
inductive AbiError.InName : AbiError → Prop
  | emptyTuple : InName emptyTuple
  | unknownName {name : List Char} : InName (unknownName name)
  | badSuffix {name whole : List Char} {column : Nat} {rule : SuffixRule} :
    InName (badSuffix name whole column rule)

namespace TypeName

/-- A size that is a number is at least one. -/
def SizePositive : TypeSize → Prop
  | .one number => 0 < number
  | _ => True

/-- A name without a zero for a number and without a tuple of nothing. -/
inductive Positive : TypeName → Prop
  | basic {letters core whole : List Char} {size : TypeSize} {column : Nat}
      {arrays : List (Option Nat)} (number : SizePositive size)
      (sizes : ∀ count, some count ∈ arrays → 0 < count) :
    Positive (.basic letters size core whole column arrays)
  | tuple {items : List TypeName} {arrays : List (Option Nat)} (filled : items ≠ [])
      (each : ∀ item ∈ items, Positive item) (sizes : ∀ count, some count ∈ arrays → 0 < count) :
    Positive (.tuple items arrays)

/-- A number that is read is not zero. -/
theorem positive_of_readNumber? {source rest : List Char} {number : Nat}
    (read : readNumber? source = some (number, rest)) : 0 < number := by
  obtain ⟨_, -, numeral, -⟩ := numeral_of_readNumber? read
  exact numeral.2.2.1

/-- A size that is read is not zero. -/
theorem positive_of_readSize {source rest : List Char} {size : TypeSize}
    (read : readSize source = (size, rest)) : SizePositive size := by
  rw [readSize] at read
  split at read
  · obtain ⟨rfl, -⟩ := Prod.mk.inj read
    exact trivial
  · rename_i first
    split at read
    · obtain ⟨rfl, -⟩ := Prod.mk.inj read
      exact positive_of_readNumber? first
    · obtain ⟨rfl, -⟩ := Prod.mk.inj read
      exact trivial
  · rename_i first
    obtain ⟨rfl, -⟩ := Prod.mk.inj read
    exact positive_of_readNumber? first

/-- The sizes of arrays that are read are not zero. -/
theorem positive_of_readArrays {fuel : Nat} {source rest : List Char} {arrays : List (Option Nat)}
    (read : readArrays fuel source = (arrays, rest)) :
    ∀ count, some count ∈ arrays → 0 < count := by
  induction fuel generalizing source arrays with
  | zero =>
    obtain ⟨rfl, -⟩ := Prod.mk.inj read
    nofun
  | succ fuel inductive_hypothesis =>
    rcases readArrays_cases read with
      ⟨-, rfl⟩ | ⟨_, -, more, later, rfl⟩ | ⟨_, size, _, -, numeral, more, later, rfl⟩
    · nofun
    · intro count member
      exact inductive_hypothesis later count (by simpa using member)
    · intro count member
      rcases List.mem_cons.mp member with same | behind
      · rw [Option.some.inj same]
        exact numeral.2.2.1
      · exact inductive_hypothesis later count behind

/-- Names that are read are without a zero. -/
theorem positive_of_read (fuel total : Nat) :
    (∀ {source rest : List Char} {name : TypeName}, read total fuel source = some (name, rest) →
      Positive name) ∧
    ∀ {source rest : List Char} {names : List TypeName},
      readMore total fuel source = some (names, rest) → ∀ name ∈ names, Positive name := by
  induction fuel with
  | zero => exact ⟨nofun, nofun⟩
  | succ fuel inductive_hypothesis =>
    obtain ⟨one, further⟩ := inductive_hypothesis
    constructor
    · intro source rest name read_name
      by_cases bracket : ∃ behind, source = '(' :: behind
      · obtain ⟨source, rfl⟩ := bracket
        obtain ⟨first, behind, head, more, bare, others, arrays, sizes, rfl⟩ :=
          read_bracket_eq_some.mp read_name
        exact .tuple (List.cons_ne_nil _ _)
          (List.forall_mem_cons.mpr ⟨one head, further others⟩) (positive_of_readArrays sizes)
      · obtain ⟨-, size, bare, core, arrays, sizes, rfl⟩ :=
          (read_letters_eq_some fun behind same => bracket ⟨behind, same⟩).mp read_name
        exact .basic (positive_of_readSize core) (positive_of_readArrays sizes)
    · intro source rest names read_names
      cases ends_of_readMore read_names with
      | nil => contradiction
      | comma =>
        obtain ⟨next, behind, head, more, others, rfl⟩ := readMore_comma_eq_some.mp read_names
        exact List.forall_mem_cons.mpr ⟨one head, further others⟩
      | bracket =>
        obtain ⟨rfl, -⟩ := Prod.mk.inj (Option.some.inj read_names)
        nofun

/-- The name that a text is is without a zero. -/
theorem positive_of_ofText? {text : List Char} {name : TypeName}
    (named : ofText? text = some name) :
    Positive name := by
  rw [ofText?] at named
  split at named
  · rename_i read_name
    obtain rfl := Option.some.inj named
    exact (positive_of_read _ _).1 read_name
  · contradiction

open AbiType (Sound IsWidth wordBytes)

/-- Bits that obey the rule for them are whole bytes up to a word. -/
theorem isWidth_of_sizeRule? {bits : Nat} {bounds step : SuffixRule}
    (obeyed : sizeRule? bits bounds step = none) : IsWidth bits := by
  rw [sizeRule?] at obeyed
  simp only [Bool.or_eq_true, decide_eq_true_eq, bne_iff_ne] at obeyed
  split at obeyed
  · contradiction
  · split at obeyed
    · contradiction
    · have least : wordBytes = 32 := rfl
      exact ⟨by omega, by omega, by omega⟩

/-- What letters and a size that obey the rules name is sound. -/
theorem sound_of_element? {letters : List Char} {size : TypeSize} {type : AbiType}
    (obeyed : brokenRule? letters size = none) (positive : SizePositive size)
    (named : element? letters size = some type) : Sound type := by
  unfold element? at named
  split at named <;> rename_i word
  case h_10 => contradiction
  all_goals obtain rfl := Option.some.inj named
  case h_1 =>
    simp only [brokenRule?, word] at obeyed
    exact .uint (isWidth_of_sizeRule? obeyed)
  case h_2 =>
    simp only [brokenRule?, word] at obeyed
    exact .int (isWidth_of_sizeRule? obeyed)
  case h_3 =>
    simp only [brokenRule?, word, brokenRule?.fixedRule?, Option.or_eq_none_iff] at obeyed
    exact .ufixed (isWidth_of_sizeRule? obeyed.1)
  case h_4 =>
    simp only [brokenRule?, word, brokenRule?.fixedRule?, Option.or_eq_none_iff] at obeyed
    exact .fixed (isWidth_of_sizeRule? obeyed.1)
  case h_7 size =>
    simp only [brokenRule?, word, ite_eq_right_iff, reduceCtorEq, imp_false, Nat.not_lt] at obeyed
    exact .word positive obeyed
  all_goals constructor

/-- Arrays and lists of a sound type are sound. -/
theorem sound_withArrays {type : AbiType} {arrays : List (Option Nat)} (sound : Sound type)
    (sizes : ∀ count, some count ∈ arrays → 0 < count) : Sound (withArrays type arrays) := by
  induction arrays generalizing type with
  | nil => exact sound
  | cons size arrays inductive_hypothesis =>
    have behind := fun count member => sizes count (.tail _ member)
    rw [withArrays, List.foldl_cons]
    cases size with
    | none => exact inductive_hypothesis (.list sound) behind
    | some count => exact inductive_hypothesis (.array (sizes count List.mem_cons_self) sound) behind

/-- Each name has a type, and each type is that of a name. -/
theorem types_cons_eq_ok {item : TypeName} {items : List TypeName} {all : List AbiType} :
    types (item :: items) = .ok all ↔
      ∃ first, item.type = .ok first ∧
        ∃ others, types items = .ok others ∧ first :: others = all := by
  simp only [types, Result.bind_eq_ok, Result.pure_eq_ok]

/-- What names whose suffixes obey the rules name is sound, if what each names is. -/
theorem sound_of_types {items : List TypeName} {text : List Char} {all : List AbiType}
    (sounds : ∀ item ∈ items, ∀ {type}, item.badSuffix? text = none → item.type = .ok type →
      Sound type)
    (obeyed : anyBadSuffix? text items = none) (named : types items = .ok all) :
    ∀ type ∈ all, Sound type := by
  induction items generalizing all with
  | nil =>
    obtain rfl := Except.ok.inj named
    nofun
  | cons item rest inductive_hypothesis =>
    rw [anyBadSuffix?, Option.or_eq_none_iff] at obeyed
    obtain ⟨first, head, others, behind, rfl⟩ := types_cons_eq_ok.mp named
    exact List.forall_mem_cons.mpr ⟨sounds item List.mem_cons_self obeyed.1 head,
      inductive_hypothesis (fun item member => sounds item (.tail _ member)) obeyed.2 behind⟩

/-- What a name whose suffixes obey the rules names is sound. -/
theorem Positive.sound {name : TypeName} (positive : Positive name) {text : List Char}
    {type : AbiType} (obeyed : name.badSuffix? text = none) (named : name.type = .ok type) :
    Sound type := by
  induction positive generalizing type with
  | @basic letters _ _ size _ _ number sizes =>
    rw [badSuffix?, Option.map_eq_none_iff] at obeyed
    rw [TypeName.type] at named
    split at named
    · rename_i element core
      obtain rfl := Except.ok.inj named
      exact sound_withArrays (sound_of_element? obeyed number core) sizes
    · contradiction
  | @tuple items arrays filled _ sizes sounds =>
    rw [badSuffix?] at obeyed
    simp only [TypeName.type, Result.bind_eq_ok, Result.pure_eq_ok] at named
    obtain ⟨all, each, rfl⟩ := named
    have each_sound := sound_of_types sounds obeyed each
    refine sound_withArrays (.tuple ?_ each_sound) sizes
    rintro rfl
    obtain ⟨first, rest, rfl⟩ := List.exists_cons_of_ne_nil filled
    obtain ⟨_, -, _, -, same⟩ := types_cons_eq_ok.mp each
    contradiction

mutual

/-- A suffix that breaks a rule is an error in a name. -/
theorem inName_of_badSuffix? {text : List Char} {error : AbiError} :
    ∀ name : TypeName, name.badSuffix? text = some error → error.InName
  | .basic .., broken => by
    rw [badSuffix?, Option.map_eq_some_iff] at broken
    obtain ⟨rule, -, rfl⟩ := broken
    exact .badSuffix
  | .tuple items _, broken => by
    rw [badSuffix?] at broken
    exact inName_of_anyBadSuffix? items broken

/-- A suffix that breaks a rule is an error in a name, among names as well. -/
theorem inName_of_anyBadSuffix? {text : List Char} {error : AbiError} :
    ∀ items : List TypeName, anyBadSuffix? text items = some error → error.InName
  | [], broken => nomatch broken
  | item :: rest, broken => by
    rw [anyBadSuffix?, Option.or_eq_some_iff] at broken
    rcases broken with here | ⟨-, behind⟩
    · exact inName_of_badSuffix? item here
    · exact inName_of_anyBadSuffix? rest behind

end

mutual

/-- A name that names no type does so for an error in it. -/
theorem failsOnly_type : ∀ name : TypeName, Result.FailsOnly AbiError.InName name.type
  | .basic .. => by
    rw [TypeName.type]
    split
    · exact Result.failsOnly_ok _
    · exact Result.failsOnly_error .unknownName
  | .tuple items _ => by
    rw [TypeName.type]
    exact (failsOnly_types items).bind fun _ => Result.failsOnly_ok _

/-- Names that name no types do so for an error in one. -/
theorem failsOnly_types :
    ∀ items : List TypeName, Result.FailsOnly AbiError.InName (types items)
  | [] => Result.failsOnly_ok _
  | item :: rest => by
    rw [types]
    exact (failsOnly_type item).bind fun _ =>
      (failsOnly_types rest).bind fun _ => Result.failsOnly_ok _

end

end TypeName

namespace AbiType

/-- What a text names is a sound type. -/
theorem sound_of_ofName {text : List Char} {type : AbiType} (named : ofName text = .ok type) :
    Sound type := by
  unfold ofName at named
  split at named
  · contradiction
  · split at named
    · contradiction
    · dsimp only at named
      split at named
      · contradiction
      · rename_i name read
        split at named
        · contradiction
        · rename_i obeyed
          exact (TypeName.positive_of_ofText? read).sound obeyed named

/-- A text within the grammar of names, or one that is refused for a tuple of nothing in it. -/
def Grammatical (text : List Char) : Prop :=
  (TypeName.ofText? text).isSome ∨ hasEmptyTuple text = true

instance (text : List Char) : Decidable (Grammatical text) :=
  inferInstanceAs (Decidable (_ ∨ _))

/-- A name within the grammar that names no type is refused for what is wrong in it. -/
theorem failsOnly_ofName {text : List Char} (grammatical : Grammatical text) :
    Result.FailsOnly AbiError.InName (ofName text) := by
  unfold ofName
  cases named : TypeName.ofText? text with
  | none =>
    rcases grammatical with within | hollow
    · rw [named] at within
      contradiction
    · dsimp only
      rw [if_pos hollow]
      exact Result.failsOnly_error .emptyTuple
  | some name =>
    obtain ⟨long, expanded⟩ := TypeName.exists_of_expand named
    dsimp only
    split
    · exact Result.failsOnly_error .unknownName
    · rw [expanded]
      dsimp only
      split
      · rename_i broken
        exact Result.failsOnly_error (TypeName.inName_of_badSuffix? _ broken)
      · exact TypeName.failsOnly_type long

end AbiType

end Attest
