import Attest.Proofs.Auxdata.Comparison
import Attest.Proofs.Auxdata.Tail
import Attest.Proofs.Compilation.Run

/-!
# The places that a compilation keeps

The places of auxdatas that a compilation keeps are places in its own bytecodes, whatever its
compiler answers about edited sources (`Compilation.locate_described`): the bytes there are the text
of the auxdata, capital letters aside. What is located by comparison can be an auxdata whose text
does not begin at a byte, since the comparison is one of characters. Its place is then that of the
byte in which the text begins, and the bytes there are others (`Compilation.locate_displaced`).
-/
namespace Attest

namespace AuxdataPosition

variable {position : AuxdataPosition}

/-- A place that is not one of whole bytes: the text of the auxdata stands in the small form of a
code but begins or ends within a byte, and the place begins with the byte in which the text
begins. -/
def Displaced (position : AuxdataPosition) (code : Code) : Prop :=
  ∃ start : Nat, position.value.body <+: (Text.lower code).drop start ∧
    position.offset = ((start : Int) - 2) / 2 ∧
    ¬ Code.WholeBytes start position.value.body.length

/-- The auxdata at the end of a bytecode of whole bytes is the text of the bytes at its place. -/
theorem describes_of_atTail {bytecode : Code} {style : AuxdataStyle} (bears : bytecode.Marked)
    (even : bytecode.body.length % 2 = 0) (found : atTail bytecode style = .ok (some position)) :
    position.Describes bytecode := by
  obtain ⟨front, trailer, -, -, body, size, placed⟩ := parts_of_atTail found
  have length := congrArg List.length body
  rw [List.length_append] at length
  have value : position.value = Code.marked trailer.digits := by rw [placed]
  have offset : position.offset = (((front.length + 2 : Nat) : Int) - 2) / 2 := by
    rw [placed]
    dsimp only
    omega
  have whole : Code.WholeBytes (front.length + 2) trailer.digits.length := by
    constructor <;> omega
  have stands : bytecode.drop (front.length + 2) = trailer.digits := by
    rw [← bears.marked_body, body]
    exact List.drop_left' rfl
  obtain ⟨nonneg, -, -⟩ := extent_of_wholeBytes value offset whole
  have text := textIn_of_wholeBytes bytecode value offset whole
  rw [stands, List.take_length] at text
  refine ⟨nonneg, ?_⟩
  rw [text, value, Code.body_marked]

/-- A place describes the small form of a code exactly if it describes the code. -/
theorem describes_lower {code : Code} (bears : code.Marked) (plain : code.PlainOutside []) :
    position.Describes (Text.lower code) ↔ position.Describes code := by
  have text : ∀ nonneg : position.extent.Nonneg,
      Text.lower (Code.textIn (Text.lower code) position.extent) =
        Text.lower (code.textIn position.extent) := by
    intro nonneg
    rw [← Code.normalize_eq_lower bears, Code.textIn_normalize bears plain nonneg.regular,
      Text.lower_lower]
  constructor
  · exact fun describes => ⟨describes.nonneg, (text describes.nonneg).symm.trans describes.text⟩
  · exact fun describes => ⟨describes.nonneg, (text describes.nonneg).trans describes.text⟩

/-- A place by comparison is that of the auxdata, or not one of whole bytes. -/
theorem describes_or_displaced {unedited edited literal editedLiteral : Code} {begins first : Nat}
    (bears : unedited.Marked) (plain : unedited.PlainOutside [])
    (around : AuxdataPositions.Around unedited edited literal editedLiteral begins first position) :
    position.Describes unedited ∨ position.Displaced unedited := by
  have body : position.value.body = Text.lower literal := by
    rw [around.value, Code.body_marked]
  by_cases whole : Code.WholeBytes (begins - first) (Text.lower literal).length
  · exact .inl ((describes_lower bears plain).mp (around.region whole).1)
  · refine .inr ⟨begins - first, ?_, ?_, ?_⟩
    · rw [body]
      exact around.stands
    · rw [around.offset, Int.natCast_sub around.fits]
    · rw [body]
      exact whole

end AuxdataPosition

/-- The places in a bytecode. -/
def LocatedAuxdatas.of (located : LocatedAuxdatas) : CodeKind → Option AuxdataPositions
  | .runtime => located.runtime
  | .creation => located.creation

namespace Compilation

open Attempt

/-- Places in a bytecode of a compilation. If the bytecode has whole bytes and no capital dotted I,
its bytes at each of them are the auxdata, or the auxdata was located by comparison and is not of
whole bytes. -/
def Places (compilation : Compilation) (kind : CodeKind) (positions : AuxdataPositions) : Prop :=
  ∀ code, compilation.code kind = .ok code → code.body.length % 2 = 0 → code.PlainOutside [] →
    ∀ row ∈ positions, row.2.Describes code ∨
      (compilation.language = .solidity ∧ row.2.Displaced code)

/-- Places in the two bytecodes of a compilation. -/
def PlacesBoth (compilation : Compilation) (located : LocatedAuxdatas) : Prop :=
  ∀ kind positions, located.of kind = some positions → compilation.Places kind positions

/-- The places that a compilation keeps are places in its bytecodes. -/
def Described (compilation : Compilation) : Prop :=
  ∀ located, compilation.located = some located → compilation.PlacesBoth located

variable {compilation : Compilation} {kind : CodeKind} {code : Code} {positions : AuxdataPositions}

/-- Asking leaves the language as it is. -/
theorem Asked.language_eq {before after : Compilation} (asked : Asked before after) :
    after.language = before.language := by
  obtain ⟨_, _, _, rfl, -⟩ := asked
  rfl

/-- Places in a bytecode after asking were places in it before. -/
theorem Places.of_asked {before after : Compilation} (asked : Asked before after)
    (places : after.Places kind positions) : before.Places kind positions := by
  obtain ⟨_, _, _, rfl, -⟩ := asked
  exact places

/-- Places in a bytecode before asking are places in it after. -/
theorem Places.asked {before after : Compilation} (places : before.Places kind positions)
    (asked : Asked before after) : after.Places kind positions := by
  obtain ⟨_, _, _, rfl, -⟩ := asked
  exact places

/-- Places that the bytecode describes are places in it. -/
theorem places_of_describes (read : compilation.code kind = .ok code)
    (describes : code.body.length % 2 = 0 → ∀ row ∈ positions, row.2.Describes code) :
    compilation.Places kind positions := by
  intro other read_again even _ row member
  obtain rfl := Except.ok.inj (read.symm.trans read_again)
  exact .inl (describes even row member)

/-- No places are places in every bytecode. -/
theorem places_nil (compilation : Compilation) (kind : CodeKind) : compilation.Places kind [] :=
  fun _ _ _ _ _ member => absurd member List.not_mem_nil

/-- The auxdata at the end of a bytecode is in its place. -/
theorem places_of_atTail {style : AuxdataStyle} {position : AuxdataPosition} (id : String)
    (read : compilation.code kind = .ok code)
    (tail : AuxdataPosition.atTail code style = .ok (some position)) :
    compilation.Places kind [(id, position)] := by
  refine places_of_describes read fun even row member => ?_
  rw [List.mem_singleton.mp member]
  exact AuxdataPosition.describes_of_atTail (code_marked read) even tail

/-- The reported auxdata at the end of a bytecode is in its place. -/
theorem places_of_tailPosition {reported : Json} (read : compilation.code kind = .ok code)
    (found : tailPosition code reported = .ok (some positions)) :
    compilation.Places kind positions := by
  obtain ⟨position, tail, found⟩ := Result.bind_eq_ok.mp found
  cases position with
  | none => simp [pure, Except.pure] at found
  | some position =>
    obtain ⟨_, -, found⟩ := Result.bind_eq_ok.mp found
    split at found
    · rw [Result.pure_eq_ok, Option.some.injEq] at found
      rw [← found]
      exact places_of_atTail _ read tail
    · simp [pure, Except.pure] at found

/-- The auxdata that a bytecode may have at its end is in its place. -/
theorem places_of_anyTailPosition {style : AuxdataStyle} (read : compilation.code kind = .ok code)
    (found : anyTailPosition code style = .ok positions) : compilation.Places kind positions := by
  obtain ⟨position, tail, found⟩ := Result.bind_eq_ok.mp found
  cases position with
  | none =>
    rw [← Result.pure_eq_ok.mp found]
    exact places_nil compilation kind
  | some position =>
    rw [← Result.pure_eq_ok.mp found]
    exact places_of_atTail _ read tail

/-- Places that are found by comparison are places in the bytecode. -/
theorem places_of_differentialPositions {edited : Json} {reported editedReported : List Json}
    (solidity : compilation.language = .solidity)
    (found : compilation.differentialPositions edited kind reported editedReported =
      .ok positions) : compilation.Places kind positions := by
  obtain ⟨unedited, read, found⟩ := Result.bind_eq_ok.mp found
  obtain ⟨changed, -, found⟩ := Result.bind_eq_ok.mp found
  obtain ⟨auxdatas, -, found⟩ := Result.bind_eq_ok.mp found
  obtain ⟨editedAuxdatas, -, found⟩ := Result.bind_eq_ok.mp found
  intro code read_again _ plain row member
  obtain rfl := Except.ok.inj (read.symm.trans read_again)
  obtain ⟨_, _, _, _, around⟩ := AuxdataPositions.exists_around_of_mem found member
  rcases AuxdataPosition.describes_or_displaced (code_marked read) plain around with
    describes | displaced
  · exact .inl describes
  · exact .inr ⟨solidity, displaced⟩

/-- Places in the two bytecodes are those in each of them. -/
theorem placesBoth_iff {runtime creation : Option AuxdataPositions} :
    compilation.PlacesBoth ⟨runtime, creation⟩ ↔
      (∀ positions, runtime = some positions → compilation.Places .runtime positions) ∧
      ∀ positions, creation = some positions → compilation.Places .creation positions := by
  constructor
  · exact fun both => ⟨both .runtime, both .creation⟩
  · rintro ⟨runtime, creation⟩ kind
    cases kind with
    | runtime => exact runtime
    | creation => exact creation

/-- The auxdatas of a Vyper contract are in their places. -/
theorem locateVyper_places {located : LocatedAuxdatas}
    (found : compilation.locateVyper = .ok located) : compilation.PlacesBoth located := by
  obtain ⟨_, read, found⟩ := Result.bind_eq_ok.mp found
  obtain ⟨runtime, tail, found⟩ := Result.bind_eq_ok.mp found
  obtain ⟨_, read_creation, found⟩ := Result.bind_eq_ok.mp found
  obtain ⟨creation, tail_creation, found⟩ := Result.bind_eq_ok.mp found
  rw [← Result.pure_eq_ok.mp found, placesBoth_iff]
  constructor
  · rintro positions ⟨⟩
    exact places_of_anyTailPosition read tail
  · rintro positions ⟨⟩
    exact places_of_anyTailPosition read_creation tail_creation

/-- Auxdatas in the creation code that are found by comparison are in their places. -/
theorem locateCreationByEditing_places {alternate : Bool} {reported : List Json}
    {before after : Compilation} (solidity : before.language = .solidity)
    (ends : (locateCreationByEditing alternate reported).Ends before positions after) :
    before.Places .creation positions := by
  obtain ⟨⟨edited, editedReported⟩, middle, ran, ends⟩ := ends_bind.mp ends
  have asked := (compileEdited_keeps alternate).of_ends ran
  replace ends := ends_get_bind.mp ends
  have language := asked.language_eq.trans solidity
  exact (places_of_differentialPositions language (ends_liftM.mp ends).1).of_asked asked

/-- Auxdatas that are found by comparison are in their places. -/
theorem locateByEditing_places {alternate : Bool} {reported : List Json}
    {before after : Compilation} {located : LocatedAuxdatas}
    (solidity : before.language = .solidity)
    (ends : (locateByEditing alternate reported).Ends before located after) :
    before.PlacesBoth located := by
  obtain ⟨⟨edited, editedReported⟩, middle, ran, ends⟩ := ends_bind.mp ends
  have asked := (compileEdited_keeps alternate).of_ends ran
  have language := asked.language_eq.trans solidity
  replace ends := ends_get_bind.mp ends
  obtain ⟨runtime, found, ends⟩ := ends_liftM_bind.mp ends
  obtain ⟨rfl, -⟩ := ends_pure.mp ends
  rw [placesBoth_iff]
  constructor
  · rintro positions ⟨⟩
    exact (places_of_differentialPositions language found).of_asked asked
  · intro positions there
    have found_creation := Result.eq_ok_of_toOption there
    exact (places_of_differentialPositions language found_creation).of_asked asked

/-- The auxdatas of a Solidity contract are in their places. -/
theorem locateSolidity_places {alternate : Bool} {before after : Compilation}
    {located : LocatedAuxdatas} (solidity : before.language = .solidity)
    (ends : (locateSolidity alternate).Ends before located after) :
    before.PlacesBoth located := by
  replace ends := ends_get_bind.mp ends
  obtain ⟨contract, -, ends⟩ := ends_liftM_bind.mp ends
  obtain ⟨reported, -, ends⟩ := ends_reading_bind.mp ends
  split at ends
  · obtain ⟨rfl, -⟩ := ends_pure.mp ends
    rw [placesBoth_iff]
    constructor
    · rintro positions ⟨⟩
      exact places_nil before .runtime
    · rintro positions ⟨⟩
      exact places_nil before .creation
  · obtain ⟨code, read, ends⟩ := ends_liftM_bind.mp ends
    obtain ⟨runtime, tail, ends⟩ := ends_liftM_bind.mp ends
    cases runtime with
    | none => exact absurd ends not_ends_throw
    | some runtime =>
      have places := places_of_tailPosition read tail
      obtain ⟨code_creation, read_creation, ends⟩ := ends_liftM_bind.mp ends
      obtain ⟨creation, tail_creation, ends⟩ := ends_liftM_bind.mp ends
      cases creation with
      | some creation =>
        obtain ⟨rfl, -⟩ := ends_pure.mp ends
        rw [placesBoth_iff]
        constructor
        · rintro positions ⟨⟩
          exact places
        · rintro positions ⟨⟩
          exact places_of_tailPosition read_creation tail_creation
      | none =>
        obtain ⟨creation, middle, ran, ends⟩ := ends_bind.mp ends
        obtain ⟨rfl, -⟩ := ends_pure.mp ends
        rw [placesBoth_iff]
        constructor
        · rintro positions ⟨⟩
          exact places
        · -- The creation code may have been compared, with the runtime place known already.
          intro positions there
          rw [Result.eq_ok_of_toOption there] at ran
          exact locateCreationByEditing_places solidity (ends_outcome.mp ran)
  · exact locateByEditing_places solidity ends

/-- A compilation that keeps no places keeps none but places in its bytecodes. -/
theorem described_of_none (unknown : compilation.located = none) : compilation.Described := by
  intro located known
  rw [unknown] at known
  contradiction

/-- A compilation that has just been run keeps none but places in its bytecodes. -/
theorem compile_described {alternate : Bool} {before after : Compilation} {artifact : Artifact}
    (ends : (compile alternate).Ends before artifact after) : after.Described :=
  described_of_none (compile_fresh ends).2.1

/-- A compilation whose places are places in its bytecodes keeps such places when its auxdatas are
located, and gives those that it keeps. -/
theorem locate_described {alternate : Bool} {before after : Compilation}
    {located : LocatedAuxdatas} (described : before.Described)
    (ends : (locate alternate).Ends before located after) :
    after.located = some located ∧ after.Described := by
  replace ends := ends_get_bind.mp ends
  cases known : before.located with
  | some kept =>
    rw [known] at ends
    obtain ⟨rfl, rfl⟩ := ends_pure.mp ends
    exact ⟨known, described⟩
  | none =>
    obtain ⟨_, compilation, middle, -, rfl, found⟩ := locate_anew known ends
    refine ⟨rfl, fun again same => ?_⟩
    obtain rfl := Option.some.inj same
    intro kind positions there
    change middle.Places kind positions
    rcases found with ⟨solidity, run⟩ | ⟨-, vyper, rfl⟩
    · have asked := (locateSolidity_keeps alternate).of_ends run
      exact (locateSolidity_places solidity run kind positions there).asked asked
    · exact locateVyper_places vyper kind positions there

/-- The listing of the assembly of a contract that embeds another, with the auxdatas of both. -/
def nestedListing (outer inner : String) : Json :=
  .record [(".auxdata", .text outer),
    (".data", .record [("0", .record [(".auxdata", .text inner)])])]

/-- A contract whose runtime code holds another's auxdata and ends in its own. -/
def sampleNested : Compilation :=
  answered [.ok (listedOutput (nestedListing "aa11" "bb22") "60AA11" "60bb2200AA11"),
    .ok (listedOutput (nestedListing "aa12" "bb23") "60aa12" "60bb2300aa12")]

/-- Both auxdatas of the sample are in the runtime code, and one is in the creation code. -/
def sampleLocated : LocatedAuxdatas where
  runtime := some [("2", ⟨1, "0xbb22".toList⟩), ("1", ⟨4, "0xaa11".toList⟩)]
  creation := some [("1", ⟨1, "0xaa11".toList⟩)]

/-- The sample keeps the places of its auxdatas. -/
theorem locate_described_sample :
    ∃ before after : Compilation, before.Described ∧
      (locate false).Ends before sampleLocated after ∧
      after.located = some sampleLocated ∧ after.Described := by
  let before := ((compile false).ended sampleNested).2
  have described : before.Described := described_of_none (by decide +kernel)
  have given : ((locate false).ended before).1.toOption = some sampleLocated := by decide +kernel
  have ends : (locate false).Ends before sampleLocated ((locate false).ended before).2 :=
    Prod.ext (Result.eq_ok_of_toOption given) rfl
  exact ⟨before, _, described, ends, locate_described described ends⟩

/-- A contract whose runtime code holds the text of an auxdata from within its first byte on. -/
def sampleDisplaced : Compilation :=
  answered [
    .ok (listedOutput (nestedListing "a1646970667341010008" "a1646970667341030008") "60aa"
      "6a16469706673410100080"),
    .ok (listedOutput (nestedListing "a1646970667341020008" "a1646970667341040008") "60aa"
      "6a16469706673410200080")]

/-- The place of an auxdata whose text begins within a byte is one of other bytes. -/
theorem locate_displaced :
    let before := ((compile false).ended sampleDisplaced).2
    let position : AuxdataPosition := ⟨0, "0xa1646970667341010008".toList⟩
    let code := "0x6a16469706673410100080".toList
    before.artifact.isSome = true ∧
      ((locate false).ended before).1.toOption = some ⟨some [("1", position)], some []⟩ ∧
      (before.code .runtime).toOption = some code ∧
      (Code.body code).length % 2 = 0 ∧ (Hex.readBytes? (Code.body code)).isSome = true ∧
      position.Displaced code ∧ ¬ position.Describes code := by
  have begins : AuxdataPosition.Displaced ⟨0, "0xa1646970667341010008".toList⟩
      "0x6a16469706673410100080".toList := ⟨3, by decide +kernel, by decide, by decide⟩
  refine ⟨by decide +kernel, by decide +kernel, by decide +kernel, by decide +kernel,
    by decide +kernel, begins, by decide +kernel⟩

end Compilation

end Attest
