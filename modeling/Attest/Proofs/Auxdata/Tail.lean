import Attest.Proofs.Auxdata.Location
import Attest.Proofs.Cbor.Delimited

/-!
# What the auxdata at the end of a bytecode covers

An auxdata found at the end of a bytecode covers a payload and the length that follows it. The
payload begins with a whole item (`AuxdataPosition.atTail_whole_iff`), but only its beginning is
read: the auxdata holds an item and nothing else exactly if that item ends where the payload does.
Otherwise the bytes behind the item are covered as well.
-/
namespace Attest

/-- Bytes that are one whole item and nothing more. -/
def Cbor.Whole (bytes : List UInt8) : Prop := ∃ item, Cbor.read? bytes = some (item, [])

/-- Bytes that begin with a whole item are one exactly if the item ends with them. -/
theorem Cbor.whole_append_iff {used : List UInt8} (whole : Cbor.Whole used) (rest : List UInt8) :
    Cbor.Whole (used ++ rest) ↔ rest = [] := by
  obtain ⟨item, read⟩ := whole
  obtain ⟨front, parts, takes⟩ := Cbor.read?_delimits used item [] read
  rw [List.append_nil] at parts
  subst parts
  constructor
  · rintro ⟨other, read_all⟩
    rw [takes rest] at read_all
    exact (Prod.mk.inj (Option.some.inj read_all)).2
  · rintro rfl
    exact ⟨item, takes []⟩

/-- Bytes that hold an item at their front begin with a whole one. -/
theorem Cbor.exists_whole_of_decode? {bytes : List UInt8} {item : Cbor}
    (decoded : Cbor.decode? bytes = some item) :
    ∃ used rest, bytes = used ++ rest ∧ Cbor.Whole used := by
  obtain ⟨⟨found, rest⟩, read, -⟩ := Option.map_eq_some_iff.mp decoded
  obtain ⟨used, parts, takes⟩ := Cbor.read?_delimits bytes found rest read
  have alone := takes []
  rw [List.append_nil] at alone
  exact ⟨used, rest, parts, found, alone⟩

namespace Trailer

/-- The digits of the length that follows a payload of a style. -/
def suffixLength (style : AuxdataStyle) : Nat :=
  if style = .vyperBefore035 then 0 else suffixDigits

/-- A payload that holds anything is what a body has between its execution part and its suffix. -/
theorem parts_of_cutAt {body execution payload suffix : Code} {digits : Int}
    (measured : suffixDigits ≤ body.length)
    (cut : cutAt body digits = some (execution, payload, suffix)) (held : payload ≠ []) :
    body = execution ++ (payload ++ suffix) ∧ (payload.length : Int) = digits ∧
      suffix.length = suffixDigits := by
  simp only [cutAt] at cut
  split at cut
  · contradiction
  rename_i inside
  -- A claimed length below zero would make the payload end before it begins.
  have start_nonneg := Int.not_lt.mp inside
  obtain ⟨start, starts⟩ := Int.eq_ofNat_of_zero_le start_nonneg
  have stops : (body.length : Int) - suffixDigits = (body.length - suffixDigits : Nat) := by omega
  rw [starts, stops, Slice.upTo_natCast, Slice.between_natCast] at cut
  simp only [Option.some.injEq, Prod.mk.injEq] at cut
  obtain ⟨rfl, rfl, rfl⟩ := cut
  rw [ne_eq, List.drop_eq_nil_iff, List.length_take] at held
  have order : start ≤ body.length - suffixDigits := by omega
  refine ⟨?_, ?_, ?_⟩
  · have front : body.take start ++ (body.take (body.length - suffixDigits)).drop start =
        body.take (body.length - suffixDigits) := by
      have whole := List.take_append_drop start (body.take (body.length - suffixDigits))
      rwa [List.take_take, Nat.min_eq_left order] at whole
    rw [← List.append_assoc, front, List.take_append_drop]
  · rw [List.length_drop, List.length_take]
    omega
  · rw [List.length_drop]
    omega

/-- The parts that a body claims make it up, and the payload and suffix are what an auxdata spans. -/
theorem parts_of_cut? {style : AuxdataStyle} {body execution payload suffix : Code}
    (cut : cut? style body = some (execution, payload, suffix)) (held : payload ≠ []) :
    body = execution ++ (payload ++ suffix) ∧ suffix.length = suffixLength style ∧
      2 * AuxdataPosition.span style suffix = (payload ++ suffix).length := by
  simp only [cut?] at cut
  rw [AuxdataPosition.span, suffixLength, List.length_append]
  split at cut
  · rename_i fixed
    rw [if_pos fixed, if_pos fixed]
    split at cut
    · contradiction
    rename_i long
    simp only [Option.some.injEq, Prod.mk.injEq] at cut
    obtain ⟨rfl, rfl, rfl⟩ := cut
    rw [List.append_nil, List.take_append_drop, List.length_drop]
    refine ⟨rfl, rfl, ?_⟩
    simp only [fixedBytes, List.length_nil] at long ⊢
    omega
  rename_i measured
  rw [if_neg measured, if_neg measured]
  split at cut
  · contradiction
  rename_i long
  split at cut
  · contradiction
  rename_i length read
  split at cut
  · rename_i newer
    split at cut
    · contradiction
    obtain ⟨parts, size, ends⟩ := parts_of_cutAt (Nat.not_lt.mp long) cut held
    obtain ⟨-, rfl⟩ := cutAt_eq_some cut
    refine ⟨parts, ends, ?_⟩
    simp only [read, newer, ↓reduceIte, Option.getD_some]
    omega
  · rename_i older
    obtain ⟨parts, size, ends⟩ := parts_of_cutAt (Nat.not_lt.mp long) cut held
    obtain ⟨-, rfl⟩ := cutAt_eq_some cut
    refine ⟨parts, ends, ?_⟩
    simp only [read, older, ↓reduceIte, Option.getD_some]
    simp only [suffixDigits] at ends ⊢
    omega

/-- A payload that holds an item is the text of bytes that begin with it. -/
theorem item?_eq_some {payload : Code} {item : Cbor} (holds : item? payload = .ok (some item)) :
    payload ≠ [] ∧ ∃ bytes, Hex.readBytes? payload = some bytes ∧
      Cbor.decode? bytes = some item := by
  rw [item?] at holds
  split at holds
  · simp at holds
  rename_i filled
  refine ⟨fun nothing => filled (by rw [nothing]; rfl), ?_⟩
  split at holds
  · simp at holds
  · rename_i bytes read
    split at holds
    · contradiction
    · rename_i found decoded
      obtain rfl := Option.some.inj (Except.ok.inj holds)
      exact ⟨bytes, read, decoded⟩

end Trailer

section

variable {bytecode execution : Code} {style : AuxdataStyle}

/-- What splitting takes apart is all of the bytecode but its mark, and the auxdata claims itself. -/
theorem parts_of_split {trailer : Trailer}
    (parts : split bytecode style = .ok ⟨execution, some trailer⟩) :
    ∃ front, execution = Code.marked front ∧
      Trailer.cut? style bytecode.body = some (front, trailer.payload, trailer.suffix) ∧
      bytecode.body = front ++ trailer.digits ∧
      2 * AuxdataPosition.span style trailer.suffix = trailer.digits.length := by
  have filled : bytecode ≠ [] := by
    rintro rfl
    contradiction
  obtain ⟨front, cut, holds, marks⟩ := (split_eq_some_iff filled).mp parts
  obtain ⟨whole, -, spans⟩ := Trailer.parts_of_cut? cut (Trailer.item?_eq_some holds).1
  exact ⟨front, marks, cut, whole, spans⟩

end

namespace AuxdataPosition

/-- The text of an auxdata before the length that follows it. -/
def payload (position : AuxdataPosition) (style : AuxdataStyle) : Code :=
  position.value.body.take (position.value.body.length - Trailer.suffixLength style)

/-- A split that finds a trailer was asked for its item. -/
theorem item?_of_split {bytecode execution : Code} {style : AuxdataStyle} {trailer : Trailer}
    (parts : split bytecode style = .ok ⟨execution, some trailer⟩) :
    Trailer.item? trailer.payload = .ok (some trailer.item) := by
  have filled : bytecode ≠ [] := by
    rintro rfl
    contradiction
  obtain ⟨_, -, holds, -⟩ := (split_eq_some_iff filled).mp parts
  exact holds

/-- The auxdata at the end of a bytecode is what splitting cuts off, and begins where the execution
part ends. -/
theorem parts_of_atTail {bytecode : Code} {style : AuxdataStyle} {position : AuxdataPosition}
    (found : atTail bytecode style = .ok (some position)) :
    ∃ front trailer, split bytecode style = .ok ⟨Code.marked front, some trailer⟩ ∧
      Trailer.cut? style bytecode.body = some (front, trailer.payload, trailer.suffix) ∧
      bytecode.body = front ++ trailer.digits ∧ trailer.digits.length % 2 = 0 ∧
      position = ⟨(front.length / 2 : Nat), Code.marked trailer.digits⟩ := by
  obtain ⟨⟨execution, trailer⟩, parts, placed⟩ := Result.bind_eq_ok.mp found
  cases trailer with
  | none => simp [pure, Except.pure] at placed
  | some trailer =>
    obtain ⟨front, rfl, cut, whole, spans⟩ := parts_of_split parts
    rw [Result.pure_eq_ok, Option.some.injEq] at placed
    have length := congrArg List.length whole
    rw [List.length_append] at length
    have offset : (bytecode.byteLength : Int) - span style trailer.suffix =
        (front.length / 2 : Nat) := by
      rw [Code.byteLength]
      omega
    refine ⟨front, trailer, parts, cut, whole, by omega, ?_⟩
    rw [← placed, offset]

/-- An auxdata that is all of a bytecode from its offset on. -/
structure AtEnd (position : AuxdataPosition) (bytecode : Code) : Prop where
  /-- The auxdata bears the mark. -/
  marked : position.value.Marked
  /-- The auxdata does not begin before the bytecode. -/
  nonneg : 0 ≤ position.offset
  /-- The bytecode ends in it. -/
  ends : bytecode.body.drop (2 * position.offset).toNat = position.value.body

/-- The auxdata at the end of a bytecode of whole bytes is all of the bytecode from its offset on. Its
payload is the text of bytes that begin with one whole item; the payload is one whole item exactly if
no byte is left over behind that. -/
theorem atTail_whole_iff {bytecode : Code} {style : AuxdataStyle} {position : AuxdataPosition}
    (even : bytecode.body.length % 2 = 0) (found : atTail bytecode style = .ok (some position)) :
    position.AtEnd bytecode ∧
      ∃ used rest, Hex.readBytes? (position.payload style) = some (used ++ rest) ∧
        Cbor.Whole used ∧ (Cbor.Whole (used ++ rest) ↔ rest = []) := by
  obtain ⟨⟨execution, trailer⟩, parts, placed⟩ := Result.bind_eq_ok.mp found
  cases trailer with
  | none => simp [pure, Except.pure] at placed
  | some trailer =>
    obtain ⟨front, cut⟩ := cut?_of_split parts
    obtain ⟨held, bytes, read, decoded⟩ := Trailer.item?_eq_some (item?_of_split parts)
    obtain ⟨body, ends, spans⟩ := Trailer.parts_of_cut? cut held
    simp only [pure, Except.pure, Except.ok.injEq, Option.some.injEq] at placed
    subst placed
    have length := congrArg List.length body
    rw [List.length_append] at length
    have start : 2 * ((bytecode.byteLength : Int) - span style trailer.suffix) = front.length := by
      rw [Code.byteLength]
      omega
    have nonneg : 0 ≤ (bytecode.byteLength : Int) - span style trailer.suffix := by omega
    have stands : bytecode.body.drop
        (2 * ((bytecode.byteLength : Int) - span style trailer.suffix)).toNat = trailer.digits := by
      rw [start, body, Int.toNat_natCast]
      exact List.drop_left' rfl
    have payload : trailer.digits.take (trailer.digits.length - Trailer.suffixLength style) =
        trailer.payload := by
      rw [Trailer.digits, ← ends, List.length_append, Nat.add_sub_cancel]
      exact List.take_left' rfl
    obtain ⟨used, rest, rfl, whole⟩ := Cbor.exists_whole_of_decode? decoded
    refine ⟨⟨Code.marked_marked _, nonneg, stands⟩, used, rest, ?_, whole, ?_⟩
    · rw [AuxdataPosition.payload, Code.body_marked, payload, read]
    · exact Cbor.whole_append_iff whole rest

/-- A bytecode that ends in a map of one entry and its length. -/
def sampleBytecode : Code := "0x6001a1646970667341010008".toList

/-- The auxdata of the sample. -/
def samplePosition : AuxdataPosition := ⟨2, "0xa1646970667341010008".toList⟩

/-- The auxdata of the sample holds one whole item and nothing more. -/
theorem atTail_whole_iff_sample :
    atTail sampleBytecode .solidity = .ok (some samplePosition) ∧
      samplePosition.AtEnd sampleBytecode ∧
      ∃ bytes, Hex.readBytes? (samplePosition.payload .solidity) = some bytes ∧
        Cbor.Whole bytes := by
  have found : atTail sampleBytecode .solidity = .ok (some samplePosition) := by rfl
  have even : sampleBytecode.body.length % 2 = 0 := by decide +kernel
  have read : Hex.readBytes? (samplePosition.payload .solidity) =
      some [0xa1, 0x64, 0x69, 0x70, 0x66, 0x73, 0x41, 0x01] := by decide +kernel
  have whole : Cbor.Whole [0xa1, 0x64, 0x69, 0x70, 0x66, 0x73, 0x41, 0x01] := ⟨_, rfl⟩
  obtain ⟨ends, used, rest, holds, begins, complete⟩ := atTail_whole_iff even found
  rw [read, Option.some.injEq] at holds
  have nothing := complete.mp (holds ▸ whole)
  rw [nothing, List.append_nil] at holds
  exact ⟨found, ends, used, holds ▸ read, begins⟩

/-- Code that ends in two bytes that fit as a length is taken for an auxdata if an empty text stands at
the front of it, whatever instructions stand behind the text. -/
theorem atTail_of_leftover :
    ∃ position, atTail "0x600180550006".toList .vyper = .ok (some position) ∧
      Hex.readBytes? (position.payload .vyper) = some [0x60, 0x01, 0x80, 0x55] ∧
      ¬ Cbor.Whole [0x60, 0x01, 0x80, 0x55] := by
  refine ⟨⟨0, "0x600180550006".toList⟩, by rfl, by decide +kernel, ?_⟩
  rintro ⟨item, read⟩
  have front : Cbor.read? [0x60, 0x01, 0x80, 0x55] = some (.text [], [0x01, 0x80, 0x55]) := by rfl
  rw [front] at read
  simp at read

end AuxdataPosition

end Attest
