import Attest.Proofs.Auxdata.Contents

/-!
# What becomes of an auxdata that was cut off

An auxdata that was cut off holds an item of any kind. Most layouts that nobody writes are told as
such, yet three questions are put to an item without asking first whether its kind answers them: the
content address and the version in a Solidity map, and the integrity hash in a Vyper list of five.
So the contents are told, or it is told why there are none, exactly if these three have a kind that
answers (`Contents.decode_of_split`); otherwise the reading is a fault.
-/
namespace Attest.Contents

/-- Whether an integrity hash can be written in hexadecimal. -/
def hexable : Cbor → Bool
  | .bytes _ => true
  | .real _ => true
  | _ => false

/-- Whether all that is asked of an item in a style has a kind that answers: the entries of a Solidity
map, and the first of five parts of a Vyper list. -/
def legibleIn (style : AuxdataStyle) (item : Cbor) : Bool :=
  match style with
  | .solidity => legibleItem item
  | .vyper =>
    match listed? item with
    | some [hash, _, _, _, _] => hexable hash
    | _ => true
  | .vyperBefore0310 => true
  | .vyperBefore035 => true

/-- Whether a reading gives contents, or tells why there are none. -/
def Explained (result : Except Failure Contents) : Prop :=
  (∃ contents, result = .ok contents) ∨ ∃ error, result = .error (.auxdata error)

/-- A reading is explained exactly if what fails in it is told. -/
theorem explained_iff {result : Except Failure Contents} :
    Explained result ↔
      Result.FailsOnly (fun failure => ∃ error, failure = .auxdata error) result := by
  cases result with
  | ok contents => exact ⟨fun _ => Result.failsOnly_ok _, fun _ => .inl ⟨contents, rfl⟩⟩
  | error failure =>
    constructor
    · rintro (⟨contents, read⟩ | ⟨error, failed⟩)
      · contradiction
      · exact Result.failsOnly_error ⟨error, Except.error.inj failed⟩
    · intro fails
      obtain ⟨error, rfl⟩ := fails failure rfl
      exact .inr ⟨error, rfl⟩

/-- The sizes that newer Vyper compilers list are read, or the layout is told to be another. -/
theorem vyperSizes_explained (parts : List Cbor) : Explained (vyperSizes parts) := by
  unfold vyperSizes
  split
  · split
    · exact .inl ⟨_, rfl⟩
    · exact .inr ⟨_, rfl⟩
  · exact .inr ⟨_, rfl⟩

/-- An integrity hash is written, or it is of a kind that has no hexadecimal text. -/
theorem integrity_decides (hash : Cbor) :
    (hexable hash = true ∧ ∃ text, integrity hash = .ok text) ∨
      (hexable hash = false ∧ integrity hash = .error (.fault .wrongKind)) := by
  cases hash with
  | bytes value => exact .inl ⟨rfl, _, rfl⟩
  | real value => exact .inl ⟨rfl, _, rfl⟩
  | _ => exact .inr ⟨rfl, rfl⟩

/-- What a newer Vyper compiler wrote is explained exactly if an integrity hash that is asked for can be
written. -/
theorem ofVyper_newer_decides (item : Cbor) :
    (legibleIn .vyper item = true ∧ Explained (ofVyper .vyper item)) ∨
      (legibleIn .vyper item = false ∧ ∃ fault, ofVyper .vyper item = .error (.fault fault)) := by
  rw [ofVyper, if_pos rfl, legibleIn]
  cases listed? item with
  | none => exact .inl ⟨rfl, .inr ⟨_, rfl⟩⟩
  | some parts =>
    rcases parts with
      _ | ⟨hash, _ | ⟨runtime, _ | ⟨data, _ | ⟨immutable, _ | ⟨version, _ | ⟨sixth, more⟩⟩⟩⟩⟩⟩
    case cons.cons.cons.cons.cons.nil =>
      dsimp only
      rcases integrity_decides hash with ⟨written, text, read⟩ | ⟨other, failed⟩
      · have sizes := explained_iff.mp (vyperSizes_explained [runtime, data, immutable, version])
        rw [read]
        exact .inl ⟨written, explained_iff.mpr (sizes.bind fun _ => Result.failsOnly_ok _)⟩
      · rw [failed]
        exact .inr ⟨other, _, rfl⟩
    -- Any other number of parts is no case of its own.
    all_goals exact .inl ⟨rfl, vyperSizes_explained _⟩

/-- What an older Vyper compiler wrote is always explained. -/
theorem ofVyper_older_explained (style : AuxdataStyle) (older : style ≠ .vyper) (item : Cbor) :
    Explained (ofVyper style item) := by
  rw [ofVyper, if_neg older]
  split
  · exact .inl ⟨_, rfl⟩
  · exact .inr ⟨_, rfl⟩

/-- The contents of an item are explained exactly if all that is asked of it has a kind that answers;
otherwise reading them is a fault. -/
theorem ofItem_decides (style : AuxdataStyle) (item : Cbor) :
    (legibleIn style item = true ∧ Explained (ofItem style item)) ∨
      (legibleIn style item = false ∧ ∃ fault, ofItem style item = .error (.fault fault)) := by
  cases style with
  | solidity =>
    cases item with
    | map entries =>
      change (entries.all legibleEntry = true ∧ Explained (ofEntries [] entries)) ∨
        (entries.all legibleEntry = false ∧ ∃ fault, ofEntries [] entries = .error (.fault fault))
      rw [← Bool.not_eq_true, List.all_eq_true]
      rcases ofEntries_decides entries [] with ⟨legible, read⟩ | ⟨other, failed⟩
      · exact .inl ⟨legible, .inl read⟩
      · exact .inr ⟨other, failed⟩
    | _ => exact .inl ⟨rfl, .inr ⟨_, rfl⟩⟩
  | vyper => exact ofVyper_newer_decides item
  | vyperBefore0310 => exact .inl ⟨rfl, ofVyper_older_explained .vyperBefore0310 (by decide) item⟩
  | vyperBefore035 => exact .inl ⟨rfl, ofVyper_older_explained .vyperBefore035 (by decide) item⟩

/-- The contents of a bytecode are those of the auxdata that splitting cuts off. -/
theorem decode_of_split {bytecode execution : Code} {style : AuxdataStyle} {trailer : Trailer}
    (parts : split bytecode style = .ok ⟨execution, some trailer⟩) :
    decode bytecode style = ofItem style trailer.item := by
  rw [decode, parts]
  rfl

end Attest.Contents
