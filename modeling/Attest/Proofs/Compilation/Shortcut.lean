import Attest.Proofs.Auxdata.Assignment
import Attest.Proofs.Compilation.Kept
import Attest.Proofs.Text.Numeral

/-!
# The end of a bytecode and the comparison agree

A contract with one auxdata is not compiled again where its bytecode ends in what is reported: the
end gives the place. Comparing it with an edited compilation would give the same place
(`AuxdataPositions.find_eq_atTail`). The texts differ in the auxdata alone, so the first run of
differences begins with its first change, and once it has that run no other run is given to it,
however often its text stands in the code before.
-/
namespace Attest

namespace Difference

variable {unedited edited : Code}

/-- Behind a front that they share two texts differ where their rests do. -/
theorem indexesFrom_append (front unedited edited : Code) (start : Nat) :
    indexesFrom start (front ++ unedited) (front ++ edited) =
      indexesFrom (start + front.length) unedited edited := by
  induction front generalizing start with
  | nil => rfl
  | cons c rest inductive_hypothesis =>
    rw [List.cons_append, List.cons_append, indexesFrom, if_pos rfl, inductive_hypothesis,
      List.length_cons, Nat.add_right_comm, Nat.add_assoc start]

/-- Indexes are counted from any number on alike. -/
theorem indexesFrom_add (unedited edited : Code) (start offset : Nat) :
    indexesFrom (start + offset) unedited edited =
      (indexesFrom start unedited edited).map (· + offset) := by
  induction unedited generalizing edited start with
  | nil => simp [indexesFrom]
  | cons a as inductive_hypothesis =>
    cases edited with
    | nil => simp [indexesFrom]
    | cons b bs =>
      rw [indexesFrom, indexesFrom, Nat.add_right_comm, inductive_hypothesis]
      by_cases same : a = b <;> simp [same]

/-- The first run begins with the first number. -/
theorem exists_runsFrom_eq_cons (first last : Int) (rest : List Int) :
    ∃ ends later, runsFrom first last rest = (first, ends) :: later := by
  fun_induction runsFrom first last rest with
  | case1 first last => exact ⟨last, [], rfl⟩
  | case2 first last rest inductive_hypothesis => exact inductive_hypothesis
  | case3 first last next rest gap inductive_hypothesis => exact ⟨last, _, rfl⟩

/-- The first run of two texts with one front begins where their rests first differ. -/
theorem exists_textRuns_append {first : Nat} {rest : List Nat} (front : Code)
    (differ : indexes unedited edited = first :: rest) :
    ∃ last later, textRuns (front ++ unedited) (front ++ edited) =
      (((front.length + first : Nat) : Int), last) :: later := by
  rw [textRuns, indexes, indexesFrom_append, indexesFrom_add, ← indexes, differ, List.map_cons,
    List.map_cons, Nat.add_comm first, runs]
  exact exists_runsFrom_eq_cons _ _ _

end Difference

/-- One auxdata that changes makes one change, which begins where its texts first differ. -/
theorem Change.ofReports_alone {unedited edited : Code} {first : Nat} {rest : List Nat}
    (differ : Difference.indexes unedited edited = first :: rest) :
    ∃ change, ofReports [unedited] [edited] = .ok [change] ∧ change.literal = unedited ∧
      change.first = first := by
  refine ⟨⟨unedited, first, (rest.getLast?.getD first : Nat)⟩, ?_, rfl, rfl⟩
  simp [ofReports, of, differ, pure, Except.pure, bind, Except.bind]

namespace AuxdataPositions

variable {code : Code} {changes : List Change} {located : AuxdataPositions}

/-- Once all auxdatas are located, no run is given to any. -/
theorem locate_of_located
    (all : ∀ number < changes.length, located.has (idAt number) = true) (runs : List (Int × Int)) :
    locate code changes located runs = located := by
  induction runs with
  | nil => rfl
  | cons run rest inductive_hypothesis =>
    rw [locate]
    split
    · rename_i number change found
      obtain ⟨offset, rfl, listed, absent, -⟩ := owner?_eq_some found
      have inside := (List.getElem?_eq_some_iff.mp listed).1
      rw [Nat.zero_add, all offset inside] at absent
      contradiction
    · exact inductive_hypothesis

/-- An auxdata reported alone has the place that the first run gives it, if it stands around the
first index of that run. -/
theorem locate_alone {change : Change} {first last : Int} {rest : List (Int × Int)}
    (occurs : change.occursAt code first = true) :
    locate code [change] [] ((first, last) :: rest) = [(idAt 0, placeOf change first)] := by
  have owned : owner? code [] first 0 [change] = some (0, change) := by
    simp [owner?, Table.has, Table.get?, occurs]
  rw [locate, owned]
  refine locate_of_located (fun number inside => ?_) rest
  obtain rfl : number = 0 := by simpa using inside
  simp [Table.has, Table.get?, Table.put]

/-- An auxdata behind code that an edit does not change is located behind that code, by comparison
as well. -/
theorem find_append {front literal edited : Code} (small : Text.Small front)
    (small_literal : Text.Small literal) (small_edited : Text.Small edited)
    (length : edited.length = literal.length) (differs : edited ≠ literal) :
    find (Code.marked (front ++ literal)) (Code.marked (front ++ edited)) [literal] [edited] =
      .ok [(idAt 0, ⟨(front.length / 2 : Nat), Code.marked literal⟩)] := by
  obtain ⟨index, differ⟩ := Difference.exists_differsAt length differs
  obtain ⟨first, rest, indexes⟩ := List.exists_cons_of_ne_nil
    (List.ne_nil_of_mem ((Difference.mem_indexes_iff ..).mpr differ))
  obtain ⟨change, made, same, begins⟩ := Change.ofReports_alone indexes
  obtain ⟨last, later, runs⟩ := Difference.exists_textRuns_append (Code.marked front) indexes
  have lower_marked {text : Code} (small_text : Text.Small text) :
      Text.lower (Code.marked (front ++ text)) = Code.marked front ++ text :=
    Text.lower_of_small (Code.small_marked (small.append small_text))
  have occurs : change.occursAt (Code.marked front ++ literal)
      (((Code.marked front).length + first : Nat) : Int) = true := by
    refine (Change.occursAt_iff begins).mpr ⟨Nat.le_add_left _ _, ?_⟩
    rw [Nat.add_sub_cancel, List.drop_left]
    exact same ▸ List.prefix_rfl
  have place : placeOf change (((Code.marked front).length + first : Nat) : Int) =
      ⟨(front.length / 2 : Nat), Code.marked literal⟩ := by
    have marks : (Code.marked front).length = front.length + 2 := rfl
    have offset : (((front.length + 2 + first : Nat) : Int) - first - 2) / 2 =
        (front.length / 2 : Nat) := by
      omega
    rw [placeOf, begins, same, marks, offset]
  have located : locate (Code.marked front ++ literal) [change] []
      (Difference.textRuns (Code.marked front ++ literal) (Code.marked front ++ edited)) =
        [(idAt 0, ⟨(front.length / 2 : Nat), Code.marked literal⟩)] := by
    rw [runs, locate_alone occurs, place]
  rw [find, List.map_singleton, List.map_singleton, Text.lower_of_small small_literal,
    Text.lower_of_small small_edited, made, lower_marked small_literal, lower_marked small_edited]
  exact congrArg Except.ok located

end AuxdataPositions

/-- A text of hexadecimal digits bears no mark. -/
theorem Code.body_of_isDigit {code : Code} (hex : ∀ c ∈ code, Hex.isDigit c = true) :
    code.body = code := by
  unfold Code.body
  split
  · exact absurd (hex 'x' (by simp)) (by decide)
  · exact absurd (hex 'X' (by simp)) (by decide)
  · rfl

/-- A bytecode in which no auxdata is found comes back as a whole. -/
theorem execution_of_split {bytecode execution : Code} {style : AuxdataStyle}
    (parts : split bytecode style = .ok ⟨execution, none⟩) :
    execution = Code.marked bytecode.body := by
  simp only [split] at parts
  split at parts
  · contradiction
  split at parts
  · simpa using parts.symm
  split at parts
  · contradiction
  · simpa using parts.symm
  · simp at parts

/-- A hexadecimal text that splitting leaves nothing of but an auxdata is an auxdata. -/
theorem isAuxdata_of_split {text : Code} {style : AuxdataStyle} (filled : text ≠ [])
    (hex : ∀ c ∈ text, Hex.isDigit c = true)
    (own : ∃ trailer, split text style = .ok ⟨Code.marked [], trailer⟩) :
    IsAuxdata style text := by
  obtain ⟨trailer, own⟩ := own
  cases trailer with
  | none =>
    have nothing := congrArg Code.body (execution_of_split own)
    rw [Code.body_marked, Code.body_marked, Code.body_of_isDigit hex] at nothing
    exact absurd nothing.symm filled
  | some trailer =>
    rw [split_eq_some_iff filled, Code.body_of_isDigit hex] at own
    exact ⟨trailer, (split_eq_some_iff (Code.marked_ne_nil _)).mpr own⟩

/-- **The shortcut agrees with the comparison.** A small bytecode ends in an auxdata that is reported
alone, and an edit of the sources changes the auxdata and nothing else. Then comparing the two
bytecodes gives the auxdata the place that it has at the end, and so does looking at the end without
an edit, whatever copies of the auxdata the code before it holds. -/
theorem AuxdataPositions.find_eq_atTail {front literal edited : Code} (small : Text.Small front)
    (small_literal : Text.Small literal) (small_edited : Text.Small edited)
    (hex : ∀ c ∈ literal, Hex.isDigit c = true)
    (own : ∃ trailer, split literal .solidity = .ok ⟨Code.marked [], trailer⟩)
    (length : edited.length = literal.length) (differs : edited ≠ literal) :
    ∃ position,
      AuxdataPosition.atTail (Code.marked (front ++ literal)) .solidity = .ok (some position) ∧
      find (Code.marked (front ++ literal)) (Code.marked (front ++ edited)) [literal] [edited] =
        .ok [("1", position)] ∧
      Compilation.tailPosition (Code.marked (front ++ literal)) (.text (String.ofList literal)) =
        .ok (some [("1", position)]) := by
  have filled : literal ≠ [] := by
    rintro rfl
    exact differs (List.length_eq_zero_iff.mp length)
  have auxdata := isAuxdata_of_split filled hex own
  have same : Text.lower literal = Text.lower (String.ofList literal).toList := by
    rw [String.toList_ofList]
  exact ⟨_, AuxdataPosition.atTail_append front auxdata,
    find_append small small_literal small_edited length differs,
    Compilation.tailPosition_append front auxdata same⟩

/-- Code that holds a copy of the auxdata behind it. -/
def sampleCopied : Code := "60a164697066734101000860".toList

/-- The auxdata behind a copy of itself is located behind it in either way. -/
theorem AuxdataPositions.find_eq_atTail_sample :
    ∃ position,
      AuxdataPosition.atTail (Code.marked (sampleCopied ++ "a1646970667341010008".toList))
          .solidity = .ok (some position) ∧
        find (Code.marked (sampleCopied ++ "a1646970667341010008".toList))
            (Code.marked (sampleCopied ++ "a1646970667341020008".toList))
            ["a1646970667341010008".toList] ["a1646970667341020008".toList] =
          .ok [("1", position)] ∧
        Compilation.tailPosition (Code.marked (sampleCopied ++ "a1646970667341010008".toList))
            (.text (String.ofList "a1646970667341010008".toList)) =
          .ok (some [("1", position)]) :=
  find_eq_atTail (by decide +kernel) (by decide +kernel) (by decide +kernel)
    (List.all_eq_true.mp (by decide)) ⟨some ⟨_, _, _⟩, rfl⟩ (by decide) (by decide)

end Attest
