import Attest.Proofs.Abi.Decoding
import Attest.Proofs.Abi.Named
import Attest.Proofs.Match.Stage

/-!
# Arguments are their standard encoding

What follows the template is taken for the arguments of the constructor exactly if it is the standard
encoding of values of the types that the interface names (`arguments_taken_iff_encodes`). Reading is
lenient, so this rests on both directions of it: an encoding is read as the values it encodes, and
what is written for values that were read is an encoding of them, so that bytes which are written
again as they are were one from the start.
-/
namespace Attest

/-- The names of the types of what the constructor in an interface takes. -/
def Interface.Names (interface : Json) (names : List (List Char)) : Prop :=
  ∃ inputs, constructorInputs interface = .ok (some (.list inputs)) ∧
    parameterTypes inputs = .ok names

namespace Extraction

section

variable {real template : Code} {interface : Json} {names : List (List Char)} {types : List AbiType}

/-- Each parameter has a name. -/
theorem length_of_parameterTypes {inputs : List Json}
    (named : Interface.parameterTypes inputs = .ok names) : names.length = inputs.length := by
  induction inputs generalizing names with
  | nil =>
    obtain rfl := Except.ok.inj named
    rfl
  | cons first rest inductive_hypothesis =>
    simp only [Interface.parameterTypes, Result.bind_eq_ok, Result.pure_eq_ok] at named
    obtain ⟨_, -, others, behind, rfl⟩ := named
    rw [List.length_cons, List.length_cons, inductive_hypothesis behind]

/-- What follows the template is written again from what is read of it by the names of the types, if
there are any. -/
theorem constructorArguments_eq (long : template.length < real.length)
    (named : Interface.Names interface names) (filled : names ≠ []) :
    constructorArguments real template interface = (do
      let again ← (reencoded names (surplus real template)).mapError AbiError.failure
      if Hex.writeBytes again = surplus real template then .ok (withArguments real template)
      else .error (.arguments (.notCanonical (Code.marked (Hex.writeBytes again))
        (Code.marked (surplus real template))))) := by
  obtain ⟨inputs, listed, named⟩ := named
  have held : Json.holds (.list inputs) = true := by
    cases inputs with
    | nil =>
      obtain rfl := Except.ok.inj named
      contradiction
    | cons first rest => rfl
  rw [constructorArguments, if_neg (Nat.not_le.mpr long), listed]
  change (if !Json.holds (.list inputs) then _ else
    ((liftM (Interface.parameterTypes inputs) : Except Failure _) >>= _)) = _
  rw [held, named]
  change (do
    let again ← (reencoded names (surplus real template)).mapError AbiError.failure
    if Hex.writeBytes again ≠ surplus real template then _ else _) = _
  cases reencoded names (surplus real template) with
  | error error => rfl
  | ok again =>
    by_cases same : Hex.writeBytes again = surplus real template
    · exact (if_neg (not_not_intro same)).trans (if_pos same).symm
    · exact (if_pos same).trans (if_neg same).symm

/-- Hexadecimal text is read as the bytes it spells. -/
theorem argumentBytes_writeBytes (data : List UInt8) :
    argumentBytes (Hex.writeBytes data) = .ok data := by
  rw [argumentBytes, Hex.readBytes?_writeBytes]

/-- The digits of bytes are those of no others. -/
theorem writeBytes_inj {data other : List UInt8} :
    Hex.writeBytes data = Hex.writeBytes other ↔ data = other := by
  refine ⟨fun same => ?_, congrArg _⟩
  have read := Hex.readBytes?_writeBytes data
  rw [same, Hex.readBytes?_writeBytes] at read
  exact (Option.some.inj read).symm

/-- What is written again is the encoding of what is read. -/
theorem reencoded_eq_ok (named : names.mapM AbiType.ofName = .ok types) {data again : List UInt8} :
    reencoded names (Hex.writeBytes data) = .ok again ↔
      ∃ value, AbiType.decodeAt data (.tuple types) 0 = .ok value ∧
        AbiType.encode (.tuple types) value = again := by
  simp only [reencoded, argumentBytes_writeBytes, named, Result.bind_eq_ok, Result.pure_eq_ok,
    Except.ok.injEq, exists_eq_left']

/-- The types that names name are the parts of a sound tuple. -/
theorem sound_of_names (filled : names ≠ []) (named : names.mapM AbiType.ofName = .ok types) :
    AbiType.Sound (.tuple types) := by
  obtain ⟨length, places⟩ := Result.mapM_eq_ok named
  refine .tuple ?_ fun type member => ?_
  · rintro rfl
    exact filled (List.length_eq_zero_iff.mp length.symm)
  · obtain ⟨index, inside, rfl⟩ := List.mem_iff_getElem.mp member
    obtain ⟨name, -, there⟩ := places index _ (List.getElem?_eq_getElem inside)
    exact AbiType.sound_of_ofName there

/-- Bytes are written again as they are exactly if they are the standard encoding of values. -/
theorem reencoded_self_iff (filled : names ≠ []) (named : names.mapM AbiType.ofName = .ok types)
    {data : List UInt8} (stored : data.length ≤ AbiType.mostBytes) :
    reencoded names (Hex.writeBytes data) = .ok data ↔
      ∃ values, AbiType.Encodes (.tuple types) (.items values) data := by
  have sound := sound_of_names filled named
  rw [reencoded_eq_ok named]
  constructor
  · rintro ⟨value, read, written⟩
    have encodes := sound.encodes_of_decodeAt read (by rwa [written])
    rw [written] at encodes
    obtain ⟨-, values, -, rfl⟩ := AbiType.decodeAt_tuple_eq_ok.mp read
    exact ⟨values, encodes⟩
  · rintro ⟨values, encodes⟩
    exact ⟨_, sound.decodeAt_eq stored encodes (List.prefix_refl data), sound.encode_eq encodes⟩

/-- The transformations are not empty exactly if what follows the template is written again as it is:
it is taken as it is or not at all. -/
theorem constructorArguments_taken_iff (named : Interface.Names interface names)
    (filled : names ≠ []) {after : Extraction} :
    constructorArguments real template interface = .ok after ∧ after.transformations ≠ [] ↔
      template.length < real.length ∧ after = withArguments real template ∧
        ∃ again, reencoded names (surplus real template) = .ok again ∧
          Hex.writeBytes again = surplus real template := by
  rcases Nat.lt_or_ge template.length real.length with long | short
  · rw [constructorArguments_eq long named filled]
    simp only [Result.bind_eq_ok, Result.mapError_eq_ok]
    constructor
    · rintro ⟨⟨again, written, taken⟩, -⟩
      split at taken
      · rename_i same
        exact ⟨long, (Except.ok.inj taken).symm, again, written, same⟩
      · contradiction
    · rintro ⟨-, rfl, again, written, same⟩
      exact ⟨⟨again, written, if_pos same⟩, List.cons_ne_nil _ _⟩
  · rw [constructorArguments_of_le short]
    constructor
    · rintro ⟨taken, filled⟩
      obtain rfl := Except.ok.inj taken
      contradiction
    · rintro ⟨long, -⟩
      omega

/-- What follows the template is taken for arguments exactly if it is the standard encoding of values
of the types of the constructor. It is recorded then as it is, to be inserted behind the template, and
it encodes no other values. -/
theorem arguments_taken_iff_encodes (named : Interface.Names interface names) (filled : names ≠ [])
    (typed : names.mapM AbiType.ofName = .ok types) {data : List UInt8}
    (stored : data.length < 2 ^ 63) {digits : Code}
    (spelled : Text.lower digits = Hex.writeBytes data) :
    ((∃ after, constructorArguments (template ++ digits) template interface = .ok after ∧
        after.transformations ≠ []) ↔
      ∃ values, AbiType.Encodes (.tuple types) (.items values) data) ∧
    (∀ after, constructorArguments (template ++ digits) template interface = .ok after →
      after.transformations ≠ [] → after = {
        code := template ++ digits
        transformations := [⟨.insert, .constructorArguments, template.byteLength, none⟩]
        values := { constructorArguments := some (Code.marked (Hex.writeBytes data)) } }) ∧
    ∀ values others, AbiType.Encodes (.tuple types) (.items values) data →
      AbiType.Encodes (.tuple types) (.items others) data → values = others := by
  have sound := sound_of_names filled typed
  have stored : data.length ≤ AbiType.mostBytes := Nat.le_pred_of_lt stored
  have behind : surplus (template ++ digits) template = Hex.writeBytes data := by
    rw [surplus, List.drop_left, spelled]
  refine ⟨?_, fun after taken some => ?_, fun values others encodes also => ?_⟩
  · simp only [constructorArguments_taken_iff named filled, behind, writeBytes_inj,
      exists_eq_right, exists_and_left, exists_eq_left, reencoded_self_iff filled typed stored]
    refine and_iff_right_of_imp fun ⟨values, encodes⟩ => ?_
    have held := sound.le_length encodes
    have goes_on : digits ≠ [] := by
      rintro rfl
      obtain rfl : data = [] := writeBytes_inj.mp spelled.symm
      contradiction
    rw [List.length_append]
    exact Nat.lt_add_of_pos_right (List.length_pos_iff.mpr goes_on)
  · obtain ⟨-, rfl, -⟩ := (constructorArguments_taken_iff named filled).mp ⟨taken, some⟩
    rw [withArguments, behind]
    rfl
  · have whole : AbiType.StandsAt data 0 data := List.prefix_refl data
    have read := sound.decodeAt_eq stored encodes whole
    rw [sound.decodeAt_eq stored also whole] at read
    exact (AbiValue.items.inj (Except.ok.inj read)).symm

end

/-- An interface whose constructor takes bytes and a small number. -/
def sampleInterface : Json :=
  .list [.record [("type", .text "constructor"), ("inputs", .list [
    .record [("type", .text "bytes")], .record [("type", .text "uint8")]])]]

/-- A word that ends with a byte. -/
def sampleWord (byte : UInt8) : List UInt8 := List.replicate 31 0 ++ [byte]

/-- The encoding of one byte, behind a pointer, and of the number seven. -/
def sampleArguments : List UInt8 :=
  (sampleWord 64 ++ sampleWord 7) ++ (sampleWord 1 ++ (0xff :: List.replicate 31 0))

/-- The sample is taken for arguments. -/
theorem arguments_taken_iff_encodes_sample :
    ∃ after, constructorArguments ("0x60".toList ++ Hex.writeBytes sampleArguments) "0x60".toList
        sampleInterface = .ok after ∧ after.transformations ≠ [] := by
  have named : Interface.Names sampleInterface ["bytes".toList, "uint8".toList] := ⟨_, rfl, rfl⟩
  have typed : ["bytes".toList, "uint8".toList].mapM AbiType.ofName = .ok [.bytes, .uint 8] := rfl
  have octets : AbiType.Encodes .bytes (.octets [0xff])
      (sampleWord 1 ++ (0xff :: List.replicate 31 0)) :=
    .bytes ⟨by decide, by decide +kernel⟩ (AbiType.isPadded_iff.mpr (by decide +kernel))
  have number : AbiType.Encodes (.uint 8) (.number 7) (sampleWord 7) :=
    .uint (by decide) ⟨by decide, by decide +kernel⟩
  have encodes : AbiType.Encodes (.tuple [.bytes, .uint 8]) (.items [.octets [0xff], .number 7])
      sampleArguments := by
    have points : AbiType.IsWord 64 (sampleWord 64) := ⟨by decide, by decide +kernel⟩
    have each := AbiType.EncodesEach.dynamic rfl octets points (.static rfl number .nil)
    exact .tuple each
  exact (arguments_taken_iff_encodes named (by decide) typed (by decide +kernel)
    (by decide +kernel)).1.mpr ⟨_, encodes⟩

end Extraction

end Attest
