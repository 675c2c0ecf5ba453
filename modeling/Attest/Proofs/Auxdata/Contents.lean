import Attest.Auxdata.Contents
import Attest.Proofs.Result

/-!
# Reading what an auxdata says

The entries of an auxdata come under the names that they have in its item, save for the version of
the compiler. So a content hash that is stated stands in the item itself
(`Contents.hashed_of_hasContentHash`), and what Vyper writes states none. Reading the entries of a
map fails exactly if its content address or its version is of a kind that has no text, and the end
of a bytecode exactly if it claims an item and holds none, or such a map (`Contents.decode_decides`).
-/
namespace Attest

namespace Cbor

/-- A row after writing an entry was there before but for its value, or is the entry. -/
theorem name_of_mem_putEntry {entries : List (Cbor × Cbor)} {key value : Cbor}
    {row : Cbor × Cbor} (member : row ∈ putEntry entries key value) :
    row.1 ∈ entries.map Prod.fst ∨ row.1 = key := by
  induction entries with
  | nil =>
    rw [putEntry, List.mem_singleton] at member
    exact .inr (congrArg Prod.fst member)
  | cons first rest inductive_hypothesis =>
    rw [List.map_cons, List.mem_cons]
    rw [putEntry] at member
    split at member
    · rcases List.mem_cons.mp member with rfl | later
      · exact .inl (.inl rfl)
      · exact .inl (.inr (List.mem_map_of_mem later))
    · rcases List.mem_cons.mp member with rfl | later
      · exact .inl (.inl rfl)
      · exact (inductive_hypothesis later).imp_left .inr

/-- An entry of a name is found exactly if a key is that text. -/
theorem exists_entry_iff {entries : List (Cbor × Cbor)} {name : String} :
    (∃ value, entry? entries name = some value) ↔
      ∃ item ∈ entries.map Prod.fst, item.isText name = true := by
  unfold entry?
  rw [← Option.isSome_iff_exists, Option.isSome_map, List.find?_isSome]
  simp

end Cbor

/-- The bytes that the end of a body claims for an auxdata: those of a payload in hexadecimal that
holds anything. -/
def Trailer.claimed? (style : AuxdataStyle) (body : Code) : Option (List UInt8) :=
  (cut? style body).bind fun (_, payload, _) =>
    if payload.isEmpty then none else Hex.readBytes? payload

namespace Contents

variable {contents known : Contents} {entries : List (Cbor × Cbor)} {name value : Cbor}

/-- What is stated has an entry. -/
theorem exists_of_states {label : String} (stated : contents.states label = true) :
    ∃ value, Cbor.entry? contents label = some value := by
  rw [states] at stated
  cases found : Cbor.entry? contents label with
  | none => simp [found] at stated
  | some value => exact ⟨value, rfl⟩

/-- An item that is a map with a content hash among its keys. -/
def Hashed (item : Cbor) : Prop :=
  ∃ entries, item = .map entries ∧
    ∃ label ∈ ["ipfs", "bzzr0", "bzzr1"], ∃ value, Cbor.entry? entries label = some value

/-- A content hash that is stated is one of three entries. -/
theorem exists_of_hasContentHash (stated : contents.hasContentHash = true) :
    ∃ label ∈ ["ipfs", "bzzr0", "bzzr1"],
      ∃ value, Cbor.entry? contents label = some value := by
  rw [hasContentHash, Bool.or_eq_true, Bool.or_eq_true] at stated
  rcases stated with (ipfs | older) | newer
  · exact ⟨"ipfs", by simp, exists_of_states ipfs⟩
  · exact ⟨"bzzr0", by simp, exists_of_states older⟩
  · exact ⟨"bzzr1", by simp, exists_of_states newer⟩

/-- An entry keeps its name, or names the compiler's version. -/
theorem name_of_solidityEntry {row : Cbor × Cbor} (read : solidityEntry name value = .ok row) :
    row.1 = name ∨ row.1 = key "solcVersion" := by
  unfold solidityEntry at read
  split at read
  · obtain ⟨address, -, written⟩ := Result.bind_eq_ok.mp read
    rw [← Result.pure_eq_ok.mp written]
    exact .inl rfl
  split at read
  · obtain ⟨version, -, written⟩ := Result.bind_eq_ok.mp read
    rw [← Result.pure_eq_ok.mp written]
    exact .inr rfl
  split at read
  · rw [← Except.ok.inj read]
    exact .inl rfl
  · split at read
    · rw [← Except.ok.inj read]
      exact .inl rfl
    · rw [← Except.ok.inj read]
      exact .inl rfl

/-- Contents have the names that were known, those of the entries read, and that of the compiler's
version. -/
theorem name_of_mem_ofEntries (read : ofEntries known entries = .ok contents) {item : Cbor}
    (member : item ∈ contents.map Prod.fst) :
    item ∈ known.map Prod.fst ∨ item ∈ entries.map Prod.fst ∨ item = key "solcVersion" := by
  induction entries generalizing known with
  | nil =>
    rw [ofEntries] at read
    rw [Except.ok.inj read]
    exact .inl member
  | cons row rest inductive_hypothesis =>
    obtain ⟨⟨name, value⟩, written, read⟩ := Result.bind_eq_ok.mp read
    rw [List.map_cons, List.mem_cons]
    rcases inductive_hypothesis read with old | later | version
    · obtain ⟨put, present, rfl⟩ := List.mem_map.mp old
      rcases Cbor.name_of_mem_putEntry present with before | same
      · exact .inl before
      · rcases name_of_solidityEntry written with kept | version
        · exact .inr (.inl (.inl (same.trans kept)))
        · exact .inr (.inr (same.trans version))
    · exact .inr (.inl (.inr later))
    · exact .inr (.inr version)

/-- A content hash that the contents of a Solidity auxdata state is an entry of its map. -/
theorem hashed_of_hasContentHash {item : Cbor} (read : ofItem .solidity item = .ok contents)
    (stated : contents.hasContentHash = true) : Hashed item := by
  obtain ⟨label, listed, found⟩ := exists_of_hasContentHash stated
  cases item with
  | map entries =>
    obtain ⟨text, member, same⟩ := Cbor.exists_entry_iff.mp found
    refine ⟨entries, rfl, label, listed, Cbor.exists_entry_iff.mpr ?_⟩
    rcases name_of_mem_ofEntries read member with known | entry | version
    · exact absurd known List.not_mem_nil
    · exact ⟨text, entry, same⟩
    · -- The name that stands for the version is none of the three.
      have other : ∀ label ∈ ["ipfs", "bzzr0", "bzzr1"],
          (key "solcVersion").isText label = false := by decide
      rw [version, other label listed] at same
      contradiction
  | _ => simp [ofItem] at read

/-- The names under which the contents of Vyper auxdatas come. -/
def vyperNames : List String :=
  ["integrity", "runtimeSize", "dataSizes", "immutableSize", "vyperVersion"]

/-- The sizes that Vyper writes come under its names. -/
theorem name_of_vyperSizes {parts : List Cbor} (read : vyperSizes parts = .ok contents)
    {item : Cbor} (member : item ∈ contents.map Prod.fst) : item ∈ vyperNames.map key := by
  unfold vyperSizes at read
  split at read
  · split at read
    · rw [← Except.ok.inj read] at member
      simp only [List.map_cons, List.map_nil, List.mem_cons, List.not_mem_nil, or_false] at member
      rcases member with rfl | rfl | rfl | rfl <;> simp [vyperNames]
    · contradiction
  · contradiction

/-- What Vyper writes comes under its names. -/
theorem name_of_ofVyper {style : AuxdataStyle} {auxdata : Cbor}
    (read : ofVyper style auxdata = .ok contents) {item : Cbor}
    (member : item ∈ contents.map Prod.fst) : item ∈ vyperNames.map key := by
  rw [ofVyper] at read
  split at read
  · split at read
    · contradiction
    · obtain ⟨hash, -, read⟩ := Result.bind_eq_ok.mp read
      obtain ⟨sizes, listed, read⟩ := Result.bind_eq_ok.mp read
      rw [← Result.pure_eq_ok.mp read, List.map_cons, List.mem_cons] at member
      rcases member with rfl | later
      · simp [vyperNames]
      · exact name_of_vyperSizes listed later
    · exact name_of_vyperSizes read member
  · split at read
    · rw [← Except.ok.inj read] at member
      rw [List.mem_singleton.mp member]
      simp [vyperNames]
    · contradiction

/-- What Vyper writes states no content hash. -/
theorem hasContentHash_ofVyper {style : AuxdataStyle} {auxdata : Cbor}
    (read : ofVyper style auxdata = .ok contents) : contents.hasContentHash = false := by
  refine Bool.eq_false_iff.mpr fun stated => ?_
  obtain ⟨label, listed, found⟩ := exists_of_hasContentHash stated
  obtain ⟨text, member, same⟩ := Cbor.exists_entry_iff.mp found
  have other : ∀ item ∈ vyperNames.map key, ∀ label ∈ ["ipfs", "bzzr0", "bzzr1"],
      item.isText label = false := by
    simp only [vyperNames, List.map_cons, List.map_nil, List.forall_mem_cons]
    decide
  rw [other text (name_of_ofVyper read member) label listed] at same
  contradiction

/-- Whether a content address can be written of an item. -/
def addressable : Cbor → Bool
  | .bytes _ => true
  | .text value => value.all (·.toNat < 0x80)
  | _ => false

/-- Whether an entry has the kind of value that its name asks for. -/
def legibleEntry (row : Cbor × Cbor) : Bool :=
  if row.1.isText "ipfs" then addressable row.2
  else if row.1.isText "solc" then (listed? row.2).isSome
  else true

/-- A content address is written or the item is of another kind. -/
theorem contentAddress_decides (item : Cbor) :
    (addressable item = true ∧ ∃ address, contentAddress item = .ok address) ∨
      (addressable item = false ∧ ∃ fault, contentAddress item = .error (.fault fault)) := by
  cases item with
  | bytes value => exact .inl ⟨rfl, _, rfl⟩
  | text value =>
    by_cases plain : value.all (·.toNat < 0x80) = true
    · exact .inl ⟨plain, _, if_pos plain⟩
    · exact .inr ⟨Bool.eq_false_iff.mpr plain, _, if_neg plain⟩
  | _ => exact .inr ⟨rfl, _, rfl⟩

/-- The compiler's version is written or the item lists no parts. -/
theorem compilerVersion_decides (item : Cbor) :
    ((listed? item).isSome = true ∧ ∃ version, compilerVersion item = .ok version) ∨
      ((listed? item).isSome = false ∧ ∃ fault, compilerVersion item = .error (.fault fault)) := by
  cases item with
  | text value => exact .inl ⟨rfl, _, rfl⟩
  | list items => exact .inl ⟨rfl, _, rfl⟩
  | bytes value => exact .inl ⟨rfl, _, rfl⟩
  | map entries => exact .inl ⟨rfl, _, rfl⟩
  | _ => exact .inr ⟨rfl, _, rfl⟩

/-- An entry is read exactly if it has the kind of value that its name asks for. -/
theorem solidityEntry_decides (name value : Cbor) :
    (legibleEntry (name, value) = true ∧ ∃ row, solidityEntry name value = .ok row) ∨
      (legibleEntry (name, value) = false ∧
        ∃ fault, solidityEntry name value = .error (.fault fault)) := by
  unfold solidityEntry legibleEntry
  by_cases hash : name.isText "ipfs" = true
  · simp only [hash, ↓reduceIte]
    rcases contentAddress_decides value with ⟨plain, address, written⟩ | ⟨other, fault, failed⟩
    · exact .inl ⟨plain, (name, address), by rw [written]; rfl⟩
    · exact .inr ⟨other, fault, by rw [failed]; rfl⟩
  by_cases release : name.isText "solc" = true
  · simp only [hash, release, ↓reduceIte, Bool.false_eq_true]
    rcases compilerVersion_decides value with ⟨parts, version, written⟩ | ⟨other, fault, failed⟩
    · exact .inl ⟨parts, (key "solcVersion", version), by rw [written]; rfl⟩
    · exact .inr ⟨other, fault, by rw [failed]; rfl⟩
  simp only [hash, release, ↓reduceIte, Bool.false_eq_true]
  refine .inl ⟨trivial, ?_⟩
  split
  · exact ⟨_, rfl⟩
  · cases value <;> exact ⟨_, rfl⟩

/-- Entries are read exactly if each is. -/
theorem ofEntries_decides (entries : List (Cbor × Cbor)) (known : Contents) :
    ((∀ row ∈ entries, legibleEntry row = true) ∧
        ∃ contents, ofEntries known entries = .ok contents) ∨
      (¬ (∀ row ∈ entries, legibleEntry row = true) ∧
        ∃ fault, ofEntries known entries = .error (.fault fault)) := by
  induction entries generalizing known with
  | nil => exact .inl ⟨by simp, known, rfl⟩
  | cons row rest inductive_hypothesis =>
    simp only [ofEntries, bind, Except.bind, List.forall_mem_cons]
    rcases solidityEntry_decides row.1 row.2 with ⟨legible, read, written⟩ | ⟨other, fault, failed⟩
    · rw [written]
      rcases inductive_hypothesis (Cbor.putEntry known read.1 read.2) with
        ⟨later, result⟩ | ⟨later, result⟩
      · exact .inl ⟨⟨legible, later⟩, result⟩
      · exact .inr ⟨fun both => later both.2, result⟩
    · rw [failed]
      refine .inr ⟨fun both => ?_, fault, rfl⟩
      have kind := both.1
      rw [other] at kind
      contradiction

/-- The contents of a bytecode are those of the item at the front of the bytes that its end claims. -/
theorem decode_eq {bytecode : Code} (style : AuxdataStyle) (filled : bytecode ≠ []) :
    decode bytecode style =
      match Trailer.claimed? style bytecode.body with
      | none => .error (.auxdata .notFound)
      | some bytes =>
        match Cbor.decode? bytes with
        | none => .error (.fault .notCbor)
        | some item => ofItem style item := by
  have said : bytecode.isEmpty = false := by simpa using filled
  simp only [decode, split, said, Bool.false_eq_true, ↓reduceIte, Trailer.claimed?, Trailer.item?]
  cases Trailer.cut? style bytecode.body with
  | none => rfl
  | some parts =>
    dsimp only [Option.bind_some]
    cases parts.2.1.isEmpty with
    | true => rfl
    | false =>
      simp only [Bool.false_eq_true, ↓reduceIte]
      cases Hex.readBytes? parts.2.1 with
      | none => rfl
      | some bytes =>
        dsimp only
        cases Cbor.decode? bytes <;> rfl

/-- Whether all entries of an item have the kinds of values that their names ask for. -/
def legibleItem : Cbor → Bool
  | .map entries => entries.all legibleEntry
  | _ => true

/-- A bytecode whose end can be read: bytes that are claimed for an auxdata begin with an item, and
its entries have the kinds of values that their names ask for. -/
def Legible (bytecode : Code) : Prop :=
  ∀ bytes, Trailer.claimed? .solidity bytecode.body = some bytes →
    ∃ item, Cbor.decode? bytes = some item ∧ legibleItem item = true

instance (bytecode : Code) : Decidable (Legible bytecode) :=
  decidable_of_iff ((Trailer.claimed? .solidity bytecode.body).all fun bytes =>
      (Cbor.decode? bytes).any legibleItem) <| by
    simp only [Option.all_eq_true, Option.any_eq_true, Legible]

/-- The end of a bytecode is read, or it is told why it holds no contents, exactly if it is legible;
otherwise its reading is a fault. -/
theorem decode_decides {bytecode : Code} (filled : bytecode ≠ []) :
    (Legible bytecode ∧ ((∃ contents, decode bytecode .solidity = .ok contents) ∨
        ∃ error, decode bytecode .solidity = .error (.auxdata error))) ∨
      (¬ Legible bytecode ∧ ∃ fault, decode bytecode .solidity = .error (.fault fault)) := by
  rw [decode_eq .solidity filled]
  cases claimed : Trailer.claimed? .solidity bytecode.body with
  | none => exact .inl ⟨fun bytes there => by simp [claimed] at there, .inr ⟨_, rfl⟩⟩
  | some bytes =>
    have legible_iff : Legible bytecode ↔
        ∃ item, Cbor.decode? bytes = some item ∧ legibleItem item = true := by
      constructor
      · exact fun legible => legible bytes claimed
      · intro legible other there
        rw [claimed, Option.some.injEq] at there
        rwa [← there]
    rw [legible_iff]
    dsimp only
    cases Cbor.decode? bytes with
    | none => exact .inr ⟨by simp, _, rfl⟩
    | some item =>
      simp only [Option.some.injEq, exists_eq_left']
      cases item with
      | map entries =>
        simp only [legibleItem, List.all_eq_true]
        rcases ofEntries_decides entries [] with ⟨legible, result⟩ | ⟨other, result⟩
        · exact .inl ⟨legible, .inl result⟩
        · exact .inr ⟨other, result⟩
      | _ => exact .inl ⟨rfl, .inr ⟨_, rfl⟩⟩

end Contents

end Attest
