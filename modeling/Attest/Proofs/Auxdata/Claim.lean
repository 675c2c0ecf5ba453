import Attest.Proofs.Auxdata.Appended
import Attest.Proofs.Text.Numeral

/-!
# What the end of a bytecode claims

The end of a hexadecimal bytecode claims a payload before its last two bytes, as many bytes as these
count, or in one style its last eleven bytes (`Trailer.cut?_eq_some_iff`). A claim that does not fit
into the bytecode, or of nothing, is none; every other one is the text of bytes, and is an auxdata if
they begin with an item. If they begin with none, the bytecode is not split at all
(`split_decides`).
-/
namespace Attest

namespace Trailer

/-- A payload and the suffix that claims it. -/
inductive Claims : AuxdataStyle → Code → Code → Prop
  /-- The length counts the payload alone. -/
  | alone {style : AuxdataStyle} {payload suffix : Code}
    (older : style = .solidity ∨ style = .vyperBefore0310) (width : suffix.length = suffixDigits)
    (length : payload.length = 2 * Hex.number suffix) : Claims style payload suffix
  /-- The length counts its own two bytes as well. -/
  | whole {payload suffix : Code} (width : suffix.length = suffixDigits)
    (length : payload.length + suffixDigits = 2 * Hex.number suffix) :
    Claims .vyper payload suffix
  /-- The payload has eleven bytes and no length follows. -/
  | fixed {payload : Code} (length : payload.length = 2 * fixedBytes) :
    Claims .vyperBefore035 payload []

section

variable {body front payload suffix : Code} {style : AuxdataStyle}

/-- A text is cut before its end exactly into what it is put together from, if the end is as long. -/
theorem cut_iff {text back : Code} {count : Nat} (fits : count ≤ text.length) :
    text.take (text.length - count) = front ∧ text.drop (text.length - count) = back ↔
      text = front ++ back ∧ back.length = count := by
  constructor
  · rintro ⟨rfl, rfl⟩
    refine ⟨(List.take_append_drop _ _).symm, ?_⟩
    rw [List.length_drop]
    omega
  · rintro ⟨rfl, rfl⟩
    have stop : (front ++ back).length - back.length = front.length := by
      rw [List.length_append, Nat.add_sub_cancel]
    rw [stop]
    exact ⟨List.take_left' rfl, List.drop_left' rfl⟩

/-- A body is cut before its suffix exactly into the parts of these lengths. -/
theorem cutAt_natCast_iff {digits : Nat} (measured : suffixDigits ≤ body.length) :
    cutAt body digits = some (front, payload, suffix) ↔
      body = front ++ (payload ++ suffix) ∧ payload.length = digits ∧
        suffix.length = suffixDigits := by
  have stops : (body.length : Int) - suffixDigits = (body.length - suffixDigits : Nat) := by omega
  rw [cutAt, stops]
  by_cases inside : digits ≤ body.length - suffixDigits
  · have starts : ((body.length - suffixDigits : Nat) : Int) - digits =
        (body.length - suffixDigits - digits : Nat) := by omega
    -- The front and the payload are the two parts of what stands before the suffix.
    let begun := body.take (body.length - suffixDigits)
    have length : begun.length = body.length - suffixDigits :=
      List.length_take_of_le (Nat.sub_le _ _)
    have first : begun.take (begun.length - digits) =
        body.take (body.length - suffixDigits - digits) := by
      rw [length, List.take_take, Nat.min_eq_left (Nat.sub_le _ _)]
    have begun_iff := @cut_iff front begun payload digits (by rwa [length])
    rw [first, length] at begun_iff
    have whole_iff := @cut_iff begun body suffix suffixDigits measured
    simp only [starts, Slice.upTo_natCast, Slice.between_natCast]
    rw [if_neg (by omega), Option.some.injEq, Prod.mk.injEq, Prod.mk.injEq, ← and_assoc, begun_iff]
    constructor
    · rintro ⟨⟨parts, size⟩, last⟩
      obtain ⟨whole, width⟩ := whole_iff.mp ⟨rfl, last⟩
      rw [parts, List.append_assoc] at whole
      exact ⟨whole, size, width⟩
    · rintro ⟨whole, size, width⟩
      rw [← List.append_assoc] at whole
      obtain ⟨parts, last⟩ := (cut_iff measured).mpr ⟨whole, width⟩
      exact ⟨⟨parts, size⟩, last⟩
  · rw [if_pos (by omega)]
    refine ⟨fun cut => by contradiction, ?_⟩
    rintro ⟨rfl, rfl, width⟩
    simp only [List.length_append] at inside
    omega

/-- The digits of a length that it counts itself. -/
def ownDigits (style : AuxdataStyle) : Nat := if style = .vyper then suffixDigits else 0

/-- In a style with a length, a payload is claimed by a suffix that counts it. -/
theorem claims_iff_of_counted (counted : style ≠ .vyperBefore035) :
    Claims style payload suffix ↔ suffix.length = suffixDigits ∧
      payload.length + ownDigits style = 2 * Hex.number suffix := by
  constructor
  · rintro (⟨rfl | rfl, width, length⟩ | ⟨width, length⟩ | length)
    · exact ⟨width, length⟩
    · exact ⟨width, length⟩
    · exact ⟨width, length⟩
    · contradiction
  · rintro ⟨width, length⟩
    cases style with
    | solidity => exact .alone (.inl rfl) width length
    | vyper => exact .whole width length
    | vyperBefore0310 => exact .alone (.inr rfl) width length
    | vyperBefore035 => contradiction

/-- In the style without a length, every payload of so many bytes is claimed. -/
theorem claims_fixed_iff :
    Claims .vyperBefore035 payload suffix ↔ payload.length = 2 * fixedBytes ∧ suffix = [] := by
  constructor
  · rintro (⟨other | other, -, -⟩ | - | length)
    · contradiction
    · contradiction
    · exact ⟨length, rfl⟩
  · rintro ⟨length, rfl⟩
    exact .fixed length

/-- In a style with a length, the end of a hexadecimal body is cut before the suffix by what it
counts. -/
theorem cut?_counted (hex : ∀ c ∈ body, Hex.isDigit c = true) (counted : style ≠ .vyperBefore035)
    (measured : suffixDigits ≤ body.length) {number : Nat}
    (counts : Hex.number (body.drop (body.length - suffixDigits)) = number) :
    cut? style body =
      if 2 * number < ownDigits style then none
      else cutAt body (2 * number - ownDigits style : Nat) := by
  have width : suffixDigits = 4 := rfl
  have filled : body.drop (body.length - suffixDigits) ≠ [] := by
    rw [← List.length_pos_iff, List.length_drop]
    omega
  have read := Numeral.readHex?_eq (fun c member => hex c (List.mem_of_mem_drop member)) filled
  rw [cut?, if_neg counted, if_neg (Nat.not_lt.mpr measured), read, counts, ownDigits]
  dsimp only
  by_cases newer : style = .vyper
  · rw [if_pos newer, if_pos newer]
    by_cases short : 2 * number < suffixDigits
    · rw [if_pos short, if_pos (by omega)]
    · rw [if_neg short, if_neg (by omega), Int.ofNat_sub (Nat.not_lt.mp short)]
      rfl
  · rw [if_neg newer, if_neg newer, if_neg (Nat.not_lt_zero _)]
    rfl

/-- In a style with a length, the end of a hexadecimal body is cut off exactly as it claims. -/
theorem cut?_counted_eq_some_iff (hex : ∀ c ∈ body, Hex.isDigit c = true)
    (counted : style ≠ .vyperBefore035) :
    cut? style body = some (front, payload, suffix) ↔
      body = front ++ (payload ++ suffix) ∧ Claims style payload suffix := by
  rw [claims_iff_of_counted counted]
  by_cases measured : suffixDigits ≤ body.length
  · have last : body = front ++ (payload ++ suffix) → suffix.length = suffixDigits →
        body.drop (body.length - suffixDigits) = suffix := fun parts width =>
      ((cut_iff measured).mpr ⟨parts.trans (List.append_assoc ..).symm, width⟩).2
    rw [cut?_counted hex counted measured rfl]
    constructor
    · intro cut
      split at cut
      · contradiction
      · obtain ⟨parts, length, width⟩ := (cutAt_natCast_iff measured).mp cut
        rw [last parts width] at *
        exact ⟨parts, width, by omega⟩
    · rintro ⟨parts, width, length⟩
      rw [last parts width, if_neg (by omega)]
      exact (cutAt_natCast_iff measured).mpr ⟨parts, by omega, width⟩
  · rw [cut?, if_neg counted, if_pos (Nat.not_le.mp measured)]
    refine ⟨fun cut => by contradiction, ?_⟩
    rintro ⟨rfl, width, -⟩
    simp only [List.length_append] at measured
    omega

/-- In the style without a length, the end of a body is cut off exactly as it claims. -/
theorem cut?_fixed_eq_some_iff :
    cut? .vyperBefore035 body = some (front, payload, suffix) ↔
      body = front ++ (payload ++ suffix) ∧ Claims .vyperBefore035 payload suffix := by
  rw [cut?, if_pos rfl, claims_fixed_iff]
  dsimp only
  by_cases long : 2 * fixedBytes ≤ body.length
  · rw [if_neg (Nat.not_lt.mpr long), Option.some.injEq, Prod.mk.injEq, Prod.mk.injEq, ← and_assoc,
      cut_iff long]
    constructor
    · rintro ⟨⟨parts, length⟩, rfl⟩
      exact ⟨by rwa [List.append_nil], length, rfl⟩
    · rintro ⟨parts, length, rfl⟩
      exact ⟨⟨by rwa [List.append_nil] at parts, length⟩, rfl⟩
  · rw [if_pos (Nat.not_le.mp long)]
    refine ⟨fun cut => by contradiction, ?_⟩
    rintro ⟨rfl, length, -⟩
    simp only [List.length_append] at long
    omega

/-- The end of a hexadecimal body is cut off exactly as it claims. -/
theorem cut?_eq_some_iff (hex : ∀ c ∈ body, Hex.isDigit c = true) :
    cut? style body = some (front, payload, suffix) ↔
      body = front ++ (payload ++ suffix) ∧ Claims style payload suffix := by
  by_cases fixed : style = .vyperBefore035
  · subst fixed
    exact cut?_fixed_eq_some_iff
  · exact cut?_counted_eq_some_iff hex fixed

/-- A payload that is claimed has two digits for each byte. -/
theorem Claims.even (claims : Claims style payload suffix) : payload.length % 2 = 0 := by
  have width : suffixDigits = 4 := rfl
  cases claims <;> omega

/-- A claim of nothing is none, and the text that is claimed is that of bytes, which hold an item or
are a fault. -/
theorem Claims.item?_eq (claims : Claims style payload suffix)
    (hex : ∀ c ∈ payload, Hex.isDigit c = true) (held : payload ≠ []) :
    ∃ bytes, Hex.readBytes? payload = some bytes ∧
      item? payload = match Cbor.decode? bytes with
        | none => .error (.fault .notCbor)
        | some item => .ok (some item) := by
  obtain ⟨bytes, read⟩ := Hex.exists_readBytes? hex claims.even
  have filled : payload.isEmpty = false := by simpa using held
  refine ⟨bytes, read, ?_⟩
  rw [item?, filled, read]
  rfl

end

end Trailer

section

variable {bytecode front payload suffix : Code} {style : AuxdataStyle}

/-- A bytecode whose end claims nothing comes back as a whole. -/
theorem split_of_unclaimed (filled : bytecode ≠ [])
    (hex : ∀ c ∈ bytecode.body, Hex.isDigit c = true)
    (unclaimed : ∀ front payload suffix, bytecode.body = front ++ (payload ++ suffix) →
      Trailer.Claims style payload suffix → payload = []) :
    split bytecode style = .ok ⟨Code.marked bytecode.body, none⟩ := by
  have said : bytecode.isEmpty = false := by simpa using filled
  rw [split, said]
  cases cut : Trailer.cut? style bytecode.body with
  | none => rfl
  | some parts =>
    obtain ⟨front, payload, suffix⟩ := parts
    obtain ⟨parts, claims⟩ := (Trailer.cut?_eq_some_iff hex).mp cut
    obtain rfl := unclaimed front payload suffix parts claims
    rfl

/-- A bytecode whose end claims a payload is split before it if its bytes begin with an item. -/
theorem split_of_claimed (filled : bytecode ≠ []) (hex : ∀ c ∈ bytecode.body, Hex.isDigit c = true)
    (parts : bytecode.body = front ++ (payload ++ suffix))
    (claims : Trailer.Claims style payload suffix) (held : payload ≠ []) :
    ∃ bytes, Hex.readBytes? payload = some bytes ∧
      split bytecode style = match Cbor.decode? bytes with
        | none => .error (.fault .notCbor)
        | some item => .ok ⟨Code.marked front, some ⟨payload, suffix, item⟩⟩ := by
  have said : bytecode.isEmpty = false := by simpa using filled
  have inside : ∀ c ∈ payload, Hex.isDigit c = true := fun c member => hex c (by
    rw [parts]
    exact List.mem_append_right _ (List.mem_append_left _ member))
  obtain ⟨bytes, read, holds⟩ := claims.item?_eq inside held
  have cut := (Trailer.cut?_eq_some_iff hex).mpr ⟨parts, claims⟩
  refine ⟨bytes, read, ?_⟩
  rw [split, said, cut]
  simp only [Bool.false_eq_true, ↓reduceIte, holds]
  cases Cbor.decode? bytes <;> rfl

/-- **Splitting a hexadecimal bytecode.** If its end claims no payload that fits, or an empty one, the
bytecode comes back as a whole. Otherwise what is claimed is the text of bytes: the payload is split
off if they begin with an item, and it is a fault, the only one, if they do not. -/
theorem split_decides (filled : bytecode ≠ [])
    (hex : ∀ c ∈ bytecode.body, Hex.isDigit c = true) :
    (split bytecode style = .ok ⟨Code.marked bytecode.body, none⟩ ↔
      ∀ front payload suffix, bytecode.body = front ++ (payload ++ suffix) →
        Trailer.Claims style payload suffix → payload = []) ∧
    (∀ front payload suffix, bytecode.body = front ++ (payload ++ suffix) →
      Trailer.Claims style payload suffix → payload ≠ [] →
      ∃ bytes, Hex.readBytes? payload = some bytes ∧
        ∀ item, Cbor.decode? bytes = some item →
          split bytecode style = .ok ⟨Code.marked front, some ⟨payload, suffix, item⟩⟩) ∧
    ∀ failure, split bytecode style = .error failure ↔
      failure = .fault .notCbor ∧ ∃ front payload suffix bytes,
        bytecode.body = front ++ (payload ++ suffix) ∧ Trailer.Claims style payload suffix ∧
        payload ≠ [] ∧ Hex.readBytes? payload = some bytes ∧ Cbor.decode? bytes = none := by
  refine ⟨⟨fun whole front payload suffix parts claims => ?_, split_of_unclaimed filled hex⟩,
    fun front payload suffix parts claims held => ?_, fun failure => ⟨fun failed => ?_, ?_⟩⟩
  · refine Decidable.byContradiction fun held => ?_
    obtain ⟨bytes, -, decided⟩ := split_of_claimed filled hex parts claims held
    rw [whole] at decided
    split at decided
    · contradiction
    · simp at decided
  · obtain ⟨bytes, read, decided⟩ := split_of_claimed filled hex parts claims held
    exact ⟨bytes, read, fun item decoded => by rw [decided, decoded]⟩
  · by_cases unclaimed : ∀ front payload suffix, bytecode.body = front ++ (payload ++ suffix) →
        Trailer.Claims style payload suffix → payload = []
    · rw [split_of_unclaimed filled hex unclaimed] at failed
      contradiction
    · simp only [Classical.not_forall] at unclaimed
      obtain ⟨front, payload, suffix, parts, claims, held⟩ := unclaimed
      obtain ⟨bytes, read, decided⟩ := split_of_claimed filled hex parts claims held
      rw [failed] at decided
      split at decided
      · rename_i undecoded
        exact ⟨Except.error.inj decided, front, payload, suffix, bytes, parts, claims, held, read,
          undecoded⟩
      · contradiction
  · rintro ⟨rfl, front, payload, suffix, bytes, parts, claims, held, read, undecoded⟩
    obtain ⟨_, also, decided⟩ := split_of_claimed filled hex parts claims held
    obtain rfl := Option.some.inj (read.symm.trans also)
    rw [decided, undecoded]

end

/-- A break where an item should begin, and the length of it. -/
def sampleBreak : Code := "0xff0001".toList

/-- The sample that ends in an auxdata is split before it, and one whose end claims a break is not
split. -/
theorem split_decides_sample :
    (∃ item, split AuxdataPosition.sampleBytecode .solidity =
      .ok ⟨"0x6001".toList, some ⟨"a164697066734101".toList, "0008".toList, item⟩⟩) ∧
      split sampleBreak .solidity = .error (.fault .notCbor) := by
  have claims : Trailer.Claims .solidity "a164697066734101".toList "0008".toList :=
    .alone (.inl rfl) (by decide) (by decide)
  have breaks : Trailer.Claims .solidity "ff".toList "0001".toList :=
    .alone (.inl rfl) (by decide) (by decide)
  constructor
  · have decides := @split_decides AuxdataPosition.sampleBytecode .solidity (by decide)
      (List.all_eq_true.mp (by decide))
    obtain ⟨bytes, read, splits⟩ := decides.2.1 "6001".toList _ _ (by decide) claims (by decide)
    have spelled : Hex.readBytes? "a164697066734101".toList =
        some [0xa1, 0x64, 0x69, 0x70, 0x66, 0x73, 0x41, 0x01] := by decide
    obtain rfl := Option.some.inj (spelled.symm.trans read)
    exact ⟨_, splits _ rfl⟩
  · have decides := @split_decides sampleBreak .solidity (by decide)
      (List.all_eq_true.mp (by decide))
    exact (decides.2.2 _).mpr ⟨rfl, [], _, _, [0xff], by decide, breaks, by decide, by decide, rfl⟩

/-- The break is claimed for an auxdata and begins with no item, and the bytecode does not come back as
a whole. -/
theorem undecoded_claim_escapes :
    (∀ c ∈ sampleBreak.body, Hex.isDigit c = true) ∧
      sampleBreak.body = "ff".toList ++ "0001".toList ∧
      Trailer.Claims .solidity "ff".toList "0001".toList ∧
      Hex.readBytes? "ff".toList = some [0xff] ∧ Cbor.decode? [0xff] = none ∧
      split sampleBreak .solidity ≠ .ok ⟨Code.marked sampleBreak.body, none⟩ := by
  have failed : split sampleBreak .solidity = .error (.fault .notCbor) := by rfl
  have claims : Trailer.Claims .solidity "ff".toList "0001".toList :=
    .alone (.inl rfl) (by decide) (by decide)
  refine ⟨List.all_eq_true.mp (by decide), by decide, claims, by decide, rfl, ?_⟩
  rw [failed]
  nofun

end Attest
