import Attest.Proofs.Auxdata.Claim
import Attest.Proofs.Auxdata.Decoded

/-!
# Joining what splitting takes apart

A compiler puts a payload behind its code and closes it with the length that its style asks for.
Splitting takes these parts apart again, whatever the code is, and what it takes apart is always all
of the bytecode (`split_undoes_append`). An auxdata that is cut off says all that the bytecode says
of it: it splits alone as it did in the bytecode, with no code before it, and is decoded alike
(`AuxdataPosition.atTail_alone`).
-/
namespace Attest

namespace Hex

/-- A small digit is a hexadecimal digit. -/
theorem isDigit_digit {value : Nat} (bound : value < 16) : isDigit (digit value) = true := by
  rw [isDigit, digitValue?_digit bound]
  rfl

/-- Bytes without blanks between them are read from two digits each. -/
theorem length_of_readBytes? {text : List Char} {bytes : List UInt8}
    (each : ∀ c ∈ text, isDigit c = true) (read : readBytes? text = some bytes) :
    text.length = 2 * bytes.length := by
  induction text using readBytes?.induct generalizing bytes with
  | case1 =>
    obtain rfl := Option.some.inj read
    rfl
  | case2 c blank =>
    rw [isAsciiBlank_of_isDigit (each c List.mem_cons_self)] at blank
    contradiction
  | case3 c other =>
    rw [readBytes?, if_neg other] at read
    contradiction
  | case4 first second rest blank _ =>
    rw [isAsciiBlank_of_isDigit (each first List.mem_cons_self)] at blank
    contradiction
  | case5 first second rest other inductive_hypothesis =>
    rw [readBytes?, if_neg other] at read
    obtain ⟨high, -, read⟩ := Option.bind_eq_some_iff.mp read
    obtain ⟨low, -, read⟩ := Option.bind_eq_some_iff.mp read
    obtain ⟨later, found, read⟩ := Option.bind_eq_some_iff.mp read
    obtain rfl := Option.some.inj read
    have behind := inductive_hypothesis
      (fun c member => each c (.tail _ (.tail _ member))) found
    simp only [List.length_cons, behind]
    omega

end Hex

namespace Trailer

/-- The four digits of a length. -/
def lengthDigits (length : Nat) : Code :=
  [Hex.digit (length / 4096), Hex.digit (length / 256 % 16), Hex.digit (length / 16 % 16),
    Hex.digit (length % 16)]

/-- Four digits of either case that stand for a length. -/
structure Spells (length : Nat) (suffix : Code) : Prop where
  /-- There are four of them. -/
  width : suffix.length = suffixDigits
  /-- They are hexadecimal. -/
  hex : ∀ c ∈ suffix, Hex.isDigit c = true
  /-- They stand for the length. -/
  number : Hex.number suffix = length

/-- A length of two bytes is spelled by its digits. -/
theorem spells_lengthDigits {length : Nat} (fits : length < 0x10000) :
    Spells length (lengthDigits length) := by
  have first : length / 4096 < 16 := by omega
  have second : length / 256 % 16 < 16 := Nat.mod_lt _ (by decide)
  have third : length / 16 % 16 < 16 := Nat.mod_lt _ (by decide)
  have fourth : length % 16 < 16 := Nat.mod_lt _ (by decide)
  refine ⟨rfl, ?_, ?_⟩
  · simp [lengthDigits, Hex.isDigit_digit, first, second, third, fourth]
  · simp only [Hex.number, lengthDigits, List.foldl_cons, List.foldl_nil,
      Hex.digitValue?_digit first, Hex.digitValue?_digit second, Hex.digitValue?_digit third,
      Hex.digitValue?_digit fourth, Option.getD_some]
    omega

/-- Whether a style can close a payload of as many bytes. -/
def Closable : AuxdataStyle → Nat → Prop
  | .solidity, count => count < 0x10000
  | .vyperBefore0310, count => count < 0x10000
  | .vyper, count => count + 2 < 0x10000
  | .vyperBefore035, count => count = fixedBytes

/-- What a style puts behind a payload of as many bytes. -/
def closing : AuxdataStyle → Nat → Code
  | .solidity, count => lengthDigits count
  | .vyperBefore0310, count => lengthDigits count
  | .vyper, count => lengthDigits (count + 2)
  | .vyperBefore035, _ => []

/-- A suffix that closes a payload of as many bytes in a style: it spells the length that the style
asks for, or there is none where the style has none. -/
def Closes : AuxdataStyle → Nat → Code → Prop
  | .solidity, count, suffix => Spells count suffix
  | .vyperBefore0310, count, suffix => Spells count suffix
  | .vyper, count, suffix => Spells (count + 2) suffix
  | .vyperBefore035, count, suffix => count = fixedBytes ∧ suffix = []

/-- A style closes a payload if it can. -/
theorem closes_closing {style : AuxdataStyle} {count : Nat} (fits : Closable style count) :
    Closes style count (closing style count) := by
  cases style with
  | solidity => exact spells_lengthDigits fits
  | vyperBefore0310 => exact spells_lengthDigits fits
  | vyper => exact spells_lengthDigits fits
  | vyperBefore035 => exact ⟨fits, rfl⟩

variable {style : AuxdataStyle} {count : Nat} {payload suffix : Code}

/-- What closes a payload is hexadecimal. -/
theorem Closes.hex (closes : Closes style count suffix) : ∀ c ∈ suffix, Hex.isDigit c = true := by
  cases style with
  | solidity => exact Spells.hex closes
  | vyperBefore0310 => exact Spells.hex closes
  | vyper => exact Spells.hex closes
  | vyperBefore035 =>
    obtain ⟨-, rfl⟩ := closes
    simp

/-- What closes a payload claims it. -/
theorem Closes.claims (closes : Closes style count suffix) (length : payload.length = 2 * count) :
    Claims style payload suffix := by
  have width : suffixDigits = 4 := rfl
  cases style with
  | solidity =>
    have spells : Spells count suffix := closes
    exact .alone (.inl rfl) spells.width (by rw [length, spells.number])
  | vyperBefore0310 =>
    have spells : Spells count suffix := closes
    exact .alone (.inr rfl) spells.width (by rw [length, spells.number])
  | vyper =>
    have spells : Spells (count + 2) suffix := closes
    exact .whole spells.width (by rw [length, spells.number]; omega)
  | vyperBefore035 =>
    obtain ⟨rfl, rfl⟩ := closes
    exact .fixed length

end Trailer

section

variable {style : AuxdataStyle}

/-- A payload that holds an item and claims its own length splits alone. -/
theorem split_alone {payload suffix : Code} {item : Cbor}
    (hex : ∀ c ∈ payload ++ suffix, Hex.isDigit c = true)
    (claims : Trailer.Claims style payload suffix)
    (holds : Trailer.item? payload = .ok (some item)) :
    split (Code.marked (payload ++ suffix)) style =
      .ok ⟨Code.marked [], some ⟨payload, suffix, item⟩⟩ :=
  (split_eq_some_iff (Code.marked_ne_nil _)).mpr
    ⟨[], (Trailer.cut?_eq_some_iff hex).mpr ⟨rfl, claims⟩, holds, rfl⟩

/-- A payload of bytes that begin with an item holds it. -/
theorem Trailer.item?_of_decode? {payload : Code} {bytes : List UInt8} {item : Cbor}
    (read : Hex.readBytes? payload = some bytes) (decoded : Cbor.decode? bytes = some item) :
    Trailer.item? payload = .ok (some item) := by
  have filled : payload.isEmpty = false := by
    cases payload with
    | nil =>
      obtain rfl := Option.some.inj read
      contradiction
    | cons => rfl
  rw [Trailer.item?, filled, read]
  simp only [Bool.false_eq_true, ↓reduceIte, decoded]

/-- **Splitting undoes appending.** A payload that holds an item is put behind any code and closed as
its style asks, and splitting takes the three apart. What splitting takes apart is all of the bytecode
but its mark. -/
theorem split_undoes_append (style : AuxdataStyle) :
    (∀ count, Trailer.Closable style count →
      Trailer.Closes style count (Trailer.closing style count)) ∧
    (∀ (execution payload suffix : Code) (bytes : List UInt8) (item : Cbor),
      (∀ c ∈ payload, Hex.isDigit c = true) → Hex.readBytes? payload = some bytes →
      Cbor.decode? bytes = some item → Trailer.Closes style bytes.length suffix →
      split (Code.marked (execution ++ payload ++ suffix)) style =
        .ok ⟨Code.marked execution, some ⟨payload, suffix, item⟩⟩) ∧
    ∀ (bytecode execution : Code) (trailer : Trailer),
      split bytecode style = .ok ⟨execution, some trailer⟩ →
      execution.Marked ∧ bytecode.body = execution.body ++ trailer.payload ++ trailer.suffix := by
  refine ⟨fun count => Trailer.closes_closing, ?_, ?_⟩
  · intro execution payload suffix bytes item hex read decoded closes
    have length := Hex.length_of_readBytes? hex read
    have digits : ∀ c ∈ payload ++ suffix, Hex.isDigit c = true := fun c member =>
      (List.mem_append.mp member).elim (hex c) (closes.hex c)
    have alone := split_alone digits (closes.claims length) (Trailer.item?_of_decode? read decoded)
    have behind := split_append execution alone
    rwa [List.append_nil, ← List.append_assoc] at behind
  · intro bytecode execution trailer parts
    obtain ⟨front, rfl, -, whole, -⟩ := parts_of_split parts
    refine ⟨Code.marked_marked front, ?_⟩
    rw [whole, Code.body_marked, List.append_assoc, Trailer.digits]

/-- A payload with the sizes that newer Vyper compilers list, in capital letters. -/
def samplePayload : Code := "84008000A165767970657283000401".toList

/-- A code that ends within a byte. -/
def sampleExecution : Code := "6000f".toList

/-- The payload of fifteen bytes is closed by seventeen and split off behind the code. -/
theorem split_undoes_append_sample :
    Trailer.Closable .vyper 15 ∧ Trailer.closing .vyper 15 = "0011".toList ∧
      Trailer.Closes .vyper 15 "0011".toList ∧
      ∃ item, split (Code.marked (sampleExecution ++ samplePayload ++ "0011".toList)) .vyper =
          .ok ⟨Code.marked sampleExecution, some ⟨samplePayload, "0011".toList, item⟩⟩ ∧
        sampleExecution ++ samplePayload ++ "0011".toList =
          (Code.marked sampleExecution).body ++ samplePayload ++ "0011".toList := by
  obtain ⟨closable, undone, covers⟩ := split_undoes_append .vyper
  have fits : Trailer.Closable .vyper 15 := by
    rw [Trailer.Closable]
    decide
  have written : Trailer.closing .vyper 15 = "0011".toList := by decide
  have closes : Trailer.Closes .vyper 15 "0011".toList := written ▸ closable 15 fits
  have hex : ∀ c ∈ samplePayload, Hex.isDigit c = true := List.all_eq_true.mp (by decide)
  have read : Hex.readBytes? samplePayload = some [0x84, 0x00, 0x80, 0x00, 0xa1, 0x65, 0x76, 0x79,
      0x70, 0x65, 0x72, 0x83, 0x00, 0x04, 0x01] := by decide +kernel
  have parts := undone sampleExecution samplePayload _ _ _ hex read rfl closes
  exact ⟨fits, written, closes, _, parts, (covers _ _ _ parts).2⟩

end

namespace AuxdataPosition

variable {bytecode : Code} {style : AuxdataStyle} {position : AuxdataPosition}

/-- The auxdata at the end of a hexadecimal bytecode of whole bytes is all of the bytecode from its
offset on. It splits alone as it does in the bytecode, with no code before it, so what is read from
it alone is what is read from the bytecode, failures included. -/
theorem atTail_alone (hex : ∀ c ∈ bytecode.body, Hex.isDigit c = true)
    (even : bytecode.body.length % 2 = 0) (found : atTail bytecode style = .ok (some position)) :
    position.AtEnd bytecode ∧ position.offset + position.value.byteLength = bytecode.byteLength ∧
      ∃ execution trailer, split bytecode style = .ok ⟨execution, some trailer⟩ ∧
        split position.value style = .ok ⟨Code.marked [], some trailer⟩ ∧
        Contents.decode position.value style = Contents.decode bytecode style := by
  obtain ⟨front, trailer, parts, cut, whole, size, rfl⟩ := parts_of_atTail found
  have length := congrArg List.length whole
  rw [List.length_append] at length
  have start : (2 * ((front.length / 2 : Nat) : Int)).toNat = front.length := by omega
  have ends : bytecode.body.drop front.length = trailer.digits := by
    rw [whole]
    exact List.drop_left' rfl
  have inside : ∀ c ∈ trailer.payload ++ trailer.suffix, Hex.isDigit c = true := fun c member =>
    hex c (by rw [whole]; exact List.mem_append_right _ member)
  have alone : split (Code.marked trailer.digits) style = .ok ⟨Code.marked [], some trailer⟩ :=
    split_alone inside ((Trailer.cut?_eq_some_iff hex).mp cut).2 (item?_of_split parts)
  refine ⟨⟨Code.marked_marked _, Int.natCast_nonneg _, ?_⟩, ?_, _, trailer, parts, alone, ?_⟩
  · rw [start, ends, Code.body_marked]
  · rw [Code.byteLength_marked, Code.byteLength]
    dsimp only
    omega
  · rw [Contents.decode_of_split alone, Contents.decode_of_split parts]

/-- A bytecode that ends in the sizes that newer Vyper compilers list. -/
def sampleSized : Code := Code.marked ("6000".toList ++ samplePayload ++ "0011".toList)

/-- The auxdata of that bytecode. -/
def sampleSizedPosition : AuxdataPosition := ⟨2, Code.marked (samplePayload ++ "0011".toList)⟩

/-- The sizes are read from the auxdata alone as they are from the bytecode. -/
theorem atTail_alone_sample :
    atTail sampleSized .vyper = .ok (some sampleSizedPosition) ∧
      sampleSizedPosition.AtEnd sampleSized ∧
      sampleSizedPosition.offset + sampleSizedPosition.value.byteLength =
        sampleSized.byteLength ∧
      Contents.decode sampleSizedPosition.value .vyper = Contents.decode sampleSized .vyper := by
  have found : atTail sampleSized .vyper = .ok (some sampleSizedPosition) := by rfl
  obtain ⟨ends, size, _, _, -, -, decoded⟩ :=
    atTail_alone (List.all_eq_true.mp (by decide +kernel)) (by decide +kernel) found
  exact ⟨found, ends, size, decoded⟩

end AuxdataPosition

end Attest
