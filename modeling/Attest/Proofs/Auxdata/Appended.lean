import Attest.Proofs.Auxdata.Contents
import Attest.Proofs.Auxdata.Tail

/-!
# Auxdatas behind code

A split reads a bytecode from its end, so code that is put before a bytecode changes nothing in its
auxdata (`split_append`). Whether a bytecode can be split depends on what its end claims: the bytes
of a payload must begin with an item (`exists_split_iff`).
-/
namespace Attest

namespace Trailer

/-- Code before a body is part of what a cut leaves. -/
theorem cutAt_append {body execution payload suffix : Code} {digits : Int} (front : Code)
    (measured : suffixDigits ≤ body.length)
    (cut : cutAt body digits = some (execution, payload, suffix)) :
    cutAt (front ++ body) digits = some (front ++ execution, payload, suffix) := by
  simp only [cutAt] at cut ⊢
  split at cut
  · contradiction
  rename_i inside
  obtain ⟨start, starts⟩ := Int.eq_ofNat_of_zero_le (Int.not_lt.mp inside)
  have stops : (body.length : Int) - suffixDigits = (body.length - suffixDigits : Nat) := by omega
  have length : (front ++ body).length = front.length + body.length := List.length_append
  have starts_longer : ((front ++ body).length : Int) - suffixDigits - digits =
      (front.length + start : Nat) := by omega
  have stops_longer : ((front ++ body).length : Int) - suffixDigits =
      (front.length + (body.length - suffixDigits) : Nat) := by omega
  have ends_longer : (front ++ body).length - suffixDigits =
      front.length + (body.length - suffixDigits) := by omega
  rw [starts, stops, Slice.upTo_natCast, Slice.between_natCast] at cut
  rw [if_neg (by omega), starts_longer, stops_longer, ends_longer, Slice.upTo_natCast,
    Slice.between_natCast, List.take_length_add_append, List.take_length_add_append,
    List.drop_length_add_append, List.drop_length_add_append]
  obtain ⟨rfl, rfl, rfl⟩ := Option.some.inj cut
  rfl

/-- The end of a body claims the same when code is put before the body. -/
theorem cut?_append {style : AuxdataStyle} {body execution payload suffix : Code} (front : Code)
    (cut : cut? style body = some (execution, payload, suffix)) :
    cut? style (front ++ body) = some (front ++ execution, payload, suffix) := by
  have length : (front ++ body).length = front.length + body.length := List.length_append
  simp only [cut?] at cut ⊢
  split at cut
  · rename_i fixed
    rw [if_pos fixed]
    split at cut
    · contradiction
    rename_i long
    obtain ⟨rfl, rfl, rfl⟩ := Option.some.inj cut
    have kept : (front ++ body).length - 2 * fixedBytes =
        front.length + (body.length - 2 * fixedBytes) := by omega
    rw [if_neg (by omega), kept, List.take_length_add_append, List.drop_length_add_append]
  rename_i measured
  rw [if_neg measured]
  split at cut
  · contradiction
  rename_i long
  have kept : (front ++ body).length - suffixDigits =
      front.length + (body.length - suffixDigits) := by omega
  rw [if_neg (by omega), kept, List.drop_length_add_append]
  split at cut
  · contradiction
  split at cut
  · rename_i newer
    rw [if_pos newer]
    split at cut
    · contradiction
    rename_i claims
    rw [if_neg claims]
    exact cutAt_append front (Nat.not_lt.mp long) cut
  · rename_i older
    rw [if_neg older]
    exact cutAt_append front (Nat.not_lt.mp long) cut

end Trailer

variable {bytecode execution : Code} {style : AuxdataStyle}

/-- Code before a bytecode is left before its auxdata. -/
theorem split_append {body rest : Code} {trailer : Trailer} (front : Code)
    (parts : split (Code.marked body) style = .ok ⟨Code.marked rest, some trailer⟩) :
    split (Code.marked (front ++ body)) style =
      .ok ⟨Code.marked (front ++ rest), some trailer⟩ := by
  obtain ⟨again, cut, holds, same⟩ := (split_eq_some_iff (Code.marked_ne_nil _)).mp parts
  obtain rfl : rest = again := congrArg Code.body same
  exact (split_eq_some_iff (Code.marked_ne_nil _)).mpr
    ⟨front ++ rest, Trailer.cut?_append front cut, holds, rfl⟩

/-- A text that is an auxdata of a style: it is split off and nothing is left before it. -/
def IsAuxdata (style : AuxdataStyle) (text : Code) : Prop :=
  ∃ trailer, split (Code.marked text) style = .ok ⟨Code.marked [], some trailer⟩

instance (style : AuxdataStyle) (text : Code) : Decidable (IsAuxdata style text) :=
  decidable_of_iff ((split (Code.marked text) style).toOption.any fun parts =>
      parts.trailer.isSome && decide (parts.execution = Code.marked [])) <| by
    rw [IsAuxdata]
    rcases split (Code.marked text) style with failure | ⟨execution, _ | trailer⟩ <;>
      simp [Except.toOption]

/-- An auxdata behind code is located behind that code. -/
theorem AuxdataPosition.atTail_append {text : Code} (front : Code)
    (auxdata : IsAuxdata style text) :
    atTail (Code.marked (front ++ text)) style =
      .ok (some ⟨(front.length / 2 : Nat), Code.marked text⟩) := by
  obtain ⟨trailer, parts⟩ := auxdata
  obtain ⟨rest, cut, holds, nothing⟩ := (split_eq_some_iff (Code.marked_ne_nil _)).mp parts
  obtain rfl : [] = rest := congrArg Code.body nothing
  obtain ⟨whole, -, spans⟩ := Trailer.parts_of_cut? cut (Trailer.item?_eq_some holds).1
  rw [List.nil_append, Code.body_marked] at whole
  rw [← whole] at spans
  have digits : trailer.digits = text := whole.symm
  have offset : ((front ++ text).length / 2 : Nat) - span style trailer.suffix =
      (front.length / 2 : Nat) := by
    rw [List.length_append]
    omega
  rw [atTail, split_append front parts]
  change Except.ok (some (AuxdataPosition.mk _ (Code.marked trailer.digits))) = _
  rw [Code.byteLength_marked, offset, digits]

/-- A bytecode whose end claims no bytes that begin with no item. -/
def Splittable (style : AuxdataStyle) (bytecode : Code) : Prop :=
  ∀ bytes, Trailer.claimed? style bytecode.body = some bytes →
    ∃ item, Cbor.decode? bytes = some item

instance (style : AuxdataStyle) (bytecode : Code) : Decidable (Splittable style bytecode) :=
  decidable_of_iff ((Trailer.claimed? style bytecode.body).all fun bytes =>
      (Cbor.decode? bytes).isSome) <| by
    simp only [Option.all_eq_true, Option.isSome_iff_exists, Splittable]

/-- A bytecode can be split exactly if its end claims no bytes that begin with no item. -/
theorem exists_split_iff (filled : bytecode ≠ []) :
    (∃ parts, split bytecode style = .ok parts) ↔ Splittable style bytecode := by
  have said : bytecode.isEmpty = false := by simpa using filled
  simp only [split, said, Bool.false_eq_true, ↓reduceIte, Splittable, Trailer.claimed?,
    Trailer.item?]
  cases Trailer.cut? style bytecode.body with
  | none => simp
  | some parts =>
    dsimp only [Option.bind_some]
    cases parts.2.1.isEmpty with
    | true => simp
    | false =>
      simp only [Bool.false_eq_true, ↓reduceIte]
      cases Hex.readBytes? parts.2.1 with
      | none => simp
      | some bytes =>
        dsimp only
        cases decoded : Cbor.decode? bytes <;> simp [decoded]

/-- The end of a bytecode is looked up exactly if the bytecode can be split. -/
theorem AuxdataPosition.exists_atTail_iff (filled : bytecode ≠ []) :
    (∃ position, atTail bytecode style = .ok position) ↔ Splittable style bytecode := by
  rw [← exists_split_iff filled]
  constructor
  · rintro ⟨position, found⟩
    obtain ⟨parts, cut, -⟩ := Result.bind_eq_ok.mp found
    exact ⟨parts, cut⟩
  · rintro ⟨⟨execution, trailer⟩, cut⟩
    rw [atTail, cut]
    cases trailer <;> exact ⟨_, rfl⟩

end Attest
