import Attest.Cbor.Reader

/-!
# Items delimit themselves

Where an item ends is told by its own bytes: a reader that takes an item from the front takes the
same bytes for the same item whatever follows them (`read?_delimits`). The readers pass fuel down, so
the induction is on the fuel of the reading at hand, and speaks of every other amount that has two
for each byte read. An item spares one of these, for its head begins no list.
-/
namespace Attest.Cbor

variable {α β : Type}

/-- A reader takes bytes from the front for a value, whatever follows them. -/
def Takes (reader : List UInt8 → Option (α × List UInt8)) (used : List UInt8) (value : α) : Prop :=
  ∀ rest, reader (used ++ rest) = some (value, rest)

/-- A reader takes from the front bytes that it would take whatever followed them. -/
def Delimits (reader : List UInt8 → Option (α × List UInt8)) : Prop :=
  ∀ source value rest, reader source = some (value, rest) →
    ∃ used, source = used ++ rest ∧ Takes reader used value

/-- Bytes are taken exactly if there are as many. -/
theorem takeBytes?_eq_some {count : Nat} {source word rest : List UInt8} :
    takeBytes? count source = some (word, rest) ↔ word.length = count ∧ source = word ++ rest := by
  rw [takeBytes?]
  constructor
  · intro taken
    split at taken
    · rename_i enough
      simp only [Option.some.injEq, Prod.mk.injEq] at taken
      obtain ⟨rfl, rfl⟩ := taken
      have length : (source.take count).length = count := List.length_take_of_le enough
      exact ⟨length, (List.take_append_drop count source).symm⟩
    · contradiction
  · rintro ⟨rfl, rfl⟩
    simp

/-- Bytes taken are taken again, whatever follows them. -/
theorem takes_takeBytes? {count : Nat} {word : List UInt8} (length : word.length = count) :
    Takes (takeBytes? count) word word :=
  fun _ => takeBytes?_eq_some.mpr ⟨length, rfl⟩

/-- What is made of bytes taken delimits itself. -/
theorem delimits_takeBytes?_map (count : Nat) (make : List UInt8 → α) :
    Delimits fun source => (takeBytes? count source).map fun (word, rest) => (make word, rest) := by
  intro source value rest found
  obtain ⟨⟨word, following⟩, taken, made⟩ := Option.map_eq_some_iff.mp found
  obtain ⟨rfl, rfl⟩ := Prod.mk.inj made
  obtain ⟨length, rfl⟩ := takeBytes?_eq_some.mp taken
  refine ⟨word, rfl, fun rest => ?_⟩
  change (takeBytes? count (word ++ rest)).map _ = _
  rw [takes_takeBytes? length rest]
  rfl

/-- The argument of a head delimits itself. -/
theorem readArgument?_delimits (low : Nat) : Delimits (readArgument? low) := by
  by_cases short : low < 24
  · intro source argument rest found
    simp only [readArgument?, short, ↓reduceIte, Option.some.injEq, Prod.mk.injEq] at found
    obtain ⟨rfl, rfl⟩ := found
    exact ⟨[], rfl, fun rest => by simp [readArgument?, short]⟩
  by_cases counted : low < 28
  · have word : readArgument? low = fun source =>
        (takeBytes? (Nat.pow 2 (low - 24)) source).map fun (word, rest) =>
          (.count (BigEndian.value word), rest) := by
      funext source
      rw [readArgument?, if_neg short, if_pos counted]
    rw [word]
    exact delimits_takeBytes?_map _ fun word => Argument.count (BigEndian.value word)
  intro source argument rest found
  by_cases open_ended : low = 31
  · subst open_ended
    simp only [readArgument?, Nat.reduceLT, ↓reduceIte, BEq.rfl, Option.some.injEq,
      Prod.mk.injEq] at found
    obtain ⟨rfl, rfl⟩ := found
    exact ⟨[], rfl, fun rest => rfl⟩
  · simp [readArgument?, short, counted, open_ended] at found

/-- A simple value or a floating point number delimits itself. -/
theorem readSimple?_delimits (low : Nat) : Delimits (readSimple? low) := by
  intro source item rest found
  unfold readSimple? at found
  split at found
  · obtain ⟨rfl, rfl⟩ := Prod.mk.inj (Option.some.inj found)
    exact ⟨[], rfl, fun rest => rfl⟩
  · obtain ⟨rfl, rfl⟩ := Prod.mk.inj (Option.some.inj found)
    exact ⟨[], rfl, fun rest => rfl⟩
  · obtain ⟨rfl, rfl⟩ := Prod.mk.inj (Option.some.inj found)
    exact ⟨[], rfl, fun rest => rfl⟩
  · obtain ⟨rfl, rfl⟩ := Prod.mk.inj (Option.some.inj found)
    exact ⟨[], rfl, fun rest => rfl⟩
  · obtain ⟨⟨word, following⟩, taken, made⟩ := Option.bind_eq_some_iff.mp found
    obtain ⟨length, rfl⟩ := takeBytes?_eq_some.mp taken
    by_cases low : BigEndian.value word < 32
    · simp [low] at made
    · simp only [low, ↓reduceIte, Option.some.injEq, Prod.mk.injEq] at made
      obtain ⟨rfl, rfl⟩ := made
      refine ⟨word, rfl, fun rest => ?_⟩
      simp [readSimple?, takes_takeBytes? length rest, low]
  · exact delimits_takeBytes?_map 2 (fun word => real (Double.widen 5 10 (BigEndian.value word)))
      _ _ _ found
  · exact delimits_takeBytes?_map 4 (fun word => real (Double.widen 8 23 (BigEndian.value word)))
      _ _ _ found
  · exact delimits_takeBytes?_map 8
      (fun word => real (Double.ofBits (UInt64.ofNat (BigEndian.value word)))) _ _ _ found
  · split at found
    · rename_i small
      obtain ⟨rfl, rfl⟩ := Prod.mk.inj (Option.some.inj found)
      exact ⟨[], rfl, fun rest => by simp [readSimple?, small]⟩
    · contradiction

/-- A reader that takes fuel. -/
abbrev Reader (α : Type) := Nat → List UInt8 → Option (α × List UInt8)

namespace Reader

/-- A reader takes bytes for a value with every amount of fuel that has two for each byte, save for
those spared. -/
def TakesWith (reader : Reader α) (spared : Nat) (used : List UInt8) (value : α) : Prop :=
  ∀ fuel, 2 * used.length ≤ fuel + spared → Takes (reader fuel) used value

/-- A reader takes, with some fuel, bytes that it takes with every amount that is enough for them. -/
def DelimitsAt (reader : Reader α) (spared fuel : Nat) : Prop :=
  ∀ source value rest, reader fuel source = some (value, rest) →
    ∃ used, source = used ++ rest ∧ reader.TakesWith spared used value

/-- A reader takes nothing where there is nothing. -/
def Progresses (reader : Reader α) : Prop := ∀ fuel, reader fuel [] = none

/-- The reader of what a reader reads, changed. -/
def map (reader : Reader α) (change : α → β) : Reader β :=
  fun fuel source => (reader fuel source).map fun (value, rest) => (change value, rest)

/-- The reader of what a reader reads, where it can be changed. -/
def filterMap (reader : Reader α) (change : α → Option β) : Reader β :=
  fun fuel source => (reader fuel source).bind fun (value, rest) => (change value).map (·, rest)

/-- The reader that reads on behind a reader. -/
def andThen (first : Reader α) (next : α → Reader β) : Reader β :=
  fun fuel source => (first fuel source).bind fun (value, rest) => next value fuel rest

/-- The reader that ends at a break. -/
def untilBreak (done : α) (reader : Reader α) : Reader α :=
  fun fuel source =>
    match source with
    | [] => none
    | head :: rest =>
      if head == breakByte then some (done, rest) else reader fuel (head :: rest)

variable {reader first : Reader α} {used : List UInt8} {value : α} {spared fuel : Nat}

/-- A reader that progresses takes at least a byte. -/
theorem TakesWith.length_pos (takes : reader.TakesWith spared used value)
    (progresses : reader.Progresses) : 0 < used.length := by
  rw [List.length_pos_iff]
  rintro rfl
  have nothing := takes 0 (by simp) []
  rw [List.append_nil, progresses] at nothing
  contradiction

/-- A reader without fuel delimits as it does with any. -/
theorem delimitsAt_of_delimits {reader : List UInt8 → Option (α × List UInt8)}
    (delimits : Delimits reader) : DelimitsAt (fun _ => reader) spared fuel := by
  intro source value rest found
  obtain ⟨used, parts, takes⟩ := delimits source value rest found
  exact ⟨used, parts, fun _ _ => takes⟩

/-- A reader that leaves all for the rest delimits itself. -/
theorem delimitsAt_done (done : α)
    (unfolds : ∀ fuel source, reader fuel source = some (done, source)) :
    reader.DelimitsAt spared fuel := by
  intro source value rest found
  rw [unfolds] at found
  obtain ⟨rfl, rfl⟩ := Prod.mk.inj (Option.some.inj found)
  exact ⟨[], rfl, fun fuel _ rest => unfolds fuel rest⟩

/-- What delimits itself with fuel to spare does so without. -/
theorem DelimitsAt.unspared (delimits : reader.DelimitsAt 1 fuel) : reader.DelimitsAt 0 fuel := by
  intro source value rest found
  obtain ⟨used, parts, takes⟩ := delimits source value rest found
  exact ⟨used, parts, fun fuel enough => takes fuel (by omega)⟩

/-- What is read and changed delimits itself as before. -/
theorem DelimitsAt.map (delimits : reader.DelimitsAt spared fuel) (change : α → β) :
    (reader.map change).DelimitsAt spared fuel := by
  intro source changed rest found
  obtain ⟨⟨value, following⟩, read, made⟩ := Option.map_eq_some_iff.mp found
  obtain ⟨rfl, rfl⟩ := Prod.mk.inj made
  obtain ⟨used, parts, takes⟩ := delimits source value following read
  refine ⟨used, parts, fun fuel enough rest => ?_⟩
  rw [Reader.map, takes fuel enough rest]
  rfl

/-- What is read and can be changed delimits itself as before. -/
theorem DelimitsAt.filterMap (delimits : reader.DelimitsAt spared fuel) (change : α → Option β) :
    (reader.filterMap change).DelimitsAt spared fuel := by
  intro source changed rest found
  obtain ⟨⟨value, following⟩, read, made⟩ := Option.bind_eq_some_iff.mp found
  obtain ⟨result, can_change, paired⟩ := Option.map_eq_some_iff.mp made
  obtain ⟨rfl, rfl⟩ := Prod.mk.inj paired
  obtain ⟨used, parts, takes⟩ := delimits source value following read
  refine ⟨used, parts, fun fuel enough rest => ?_⟩
  rw [Reader.filterMap, takes fuel enough rest]
  exact congrArg (Option.map (·, rest)) can_change

/-- What is read in order delimits itself. The first part pays for the fuel that the second does not
spare. -/
theorem DelimitsAt.andThen {next : α → Reader β} (delimits : first.DelimitsAt 1 fuel)
    (progresses : first.Progresses) (delimits_next : ∀ value, (next value).DelimitsAt 0 fuel) :
    (first.andThen next).DelimitsAt 1 fuel := by
  intro source result rest found
  obtain ⟨⟨value, middle⟩, read, read_next⟩ := Option.bind_eq_some_iff.mp found
  obtain ⟨used, rfl, takes⟩ := delimits source value middle read
  obtain ⟨later, rfl, takes_later⟩ := delimits_next value middle result rest read_next
  have positive := takes.length_pos progresses
  refine ⟨used ++ later, (List.append_assoc used later rest).symm, fun fuel enough rest => ?_⟩
  rw [List.length_append] at enough
  have read_again := takes fuel (by omega) (later ++ rest)
  have went_on := takes_later fuel (by omega) rest
  rw [Reader.andThen, List.append_assoc, read_again]
  exact went_on

/-- What ends at a break delimits itself. -/
theorem DelimitsAt.untilBreak (delimits : reader.DelimitsAt 1 fuel)
    (progresses : reader.Progresses) (done : α) :
    (reader.untilBreak done).DelimitsAt 1 fuel := by
  intro source value rest found
  cases source with
  | nil => contradiction
  | cons head following =>
    by_cases last : head == breakByte
    · simp only [Reader.untilBreak, last, ↓reduceIte, Option.some.injEq, Prod.mk.injEq] at found
      obtain ⟨rfl, rfl⟩ := found
      exact ⟨[head], rfl, fun fuel _ rest => by simp [Reader.untilBreak, last]⟩
    · simp only [Reader.untilBreak, last, Bool.false_eq_true, ↓reduceIte] at found
      obtain ⟨used, parts, takes⟩ := delimits (head :: following) value rest found
      refine ⟨used, parts, fun fuel enough rest => ?_⟩
      have positive := takes.length_pos progresses
      have taken := takes fuel enough rest
      obtain ⟨byte, more, rfl⟩ := List.exists_cons_of_length_pos positive
      obtain ⟨rfl, -⟩ := List.cons.inj parts
      simp only [List.cons_append, Reader.untilBreak, last, Bool.false_eq_true, ↓reduceIte]
      exact taken

/-- One more of fuel pays for a step that spares one. -/
theorem DelimitsAt.step {body : Reader α} (unfolds : ∀ fuel, reader (fuel + 1) = body fuel)
    (delimits : body.DelimitsAt 1 fuel) (progresses : body.Progresses) :
    reader.DelimitsAt 0 (fuel + 1) := by
  intro source value rest found
  rw [unfolds] at found
  obtain ⟨used, parts, takes⟩ := delimits source value rest found
  refine ⟨used, parts, fun fuel enough => ?_⟩
  have positive := takes.length_pos progresses
  obtain ⟨less, rfl⟩ : ∃ less, fuel = less + 1 := ⟨fuel - 1, by omega⟩
  rw [unfolds]
  exact takes less (by omega)

end Reader

/-- One piece of a string. -/
def readPiece (major : Nat) : List UInt8 → Option (List UInt8 × List UInt8)
  | [] => none
  | head :: rest =>
    if head.toNat / 32 != major then none
    else
      match readArgument? (head.toNat % 32) rest with
      | some (.count length, rest) => takeBytes? length rest
      | _ => none

/-- A piece of a string delimits itself. -/
theorem readPiece_delimits (major : Nat) : Delimits (readPiece major) := by
  intro source piece rest found
  cases source with
  | nil => contradiction
  | cons head following =>
    simp only [readPiece] at found
    by_cases other : head.toNat / 32 != major
    · simp [other] at found
    simp only [other, Bool.false_eq_true, ↓reduceIte] at found
    split at found
    · rename_i length middle announced
      obtain ⟨argument, rfl, argument_takes⟩ := readArgument?_delimits _ _ _ _ announced
      obtain ⟨whole, rfl⟩ := takeBytes?_eq_some.mp found
      refine ⟨head :: (argument ++ piece), by simp, fun rest => ?_⟩
      simp only [List.cons_append, List.append_assoc, readPiece, other, Bool.false_eq_true,
        ↓reduceIte, argument_takes _]
      exact takes_takeBytes? whole rest
    · contradiction

/-- The pieces of a string are read one after another up to the break. -/
theorem readPieces_succ (major fuel : Nat) :
    readPieces (fuel + 1) major =
      Reader.untilBreak [] (Reader.andThen (fun _ => readPiece major) fun piece =>
        Reader.map (fun fuel => readPieces fuel major) (piece :: ·)) fuel := by
  funext source
  cases source with
  | nil => rfl
  | cons head rest =>
    simp only [readPieces, Reader.untilBreak, Reader.andThen, Reader.map, readPiece]
    by_cases last : head == breakByte
    · simp only [last, ↓reduceIte]
    by_cases other : head.toNat / 32 != major
    · simp only [last, other, ↓reduceIte, Bool.false_eq_true, Option.bind_none]
    simp only [last, other, ↓reduceIte, Bool.false_eq_true]
    cases readArgument? (head.toNat % 32) rest with
    | none => rfl
    | some announced =>
      obtain ⟨argument, rest⟩ := announced
      cases argument with
      | untilBreak => rfl
      | count length =>
        dsimp only
        cases takeBytes? length rest with
        | none => rfl
        | some taken =>
          cases remaining : readPieces fuel major taken.2 with
          | none => simp [remaining]
          | some _ => simp [remaining]

/-- The pieces of a string delimit themselves. -/
theorem readPieces_delimits (major fuel : Nat) :
    Reader.DelimitsAt (fun fuel => readPieces fuel major) 0 fuel := by
  induction fuel with
  | zero =>
    intro source pieces rest found
    contradiction
  | succ fuel inductive_hypothesis =>
    have piece : Reader.DelimitsAt (fun _ => readPiece major) 1 fuel :=
      Reader.delimitsAt_of_delimits (readPiece_delimits major)
    have pieces := piece.andThen (fun _ => rfl) fun piece => inductive_hypothesis.map (piece :: ·)
    exact (pieces.untilBreak (fun _ => rfl) []).step (readPieces_succ major) fun _ => rfl

/-- A string delimits itself. -/
theorem readString_delimits (major : Nat) (argument : Argument) (fuel : Nat) :
    Reader.DelimitsAt (fun fuel => readString fuel major argument) 0 fuel := by
  cases argument with
  | count length => exact Reader.delimitsAt_of_delimits (delimits_takeBytes?_map length ([·]))
  | untilBreak => exact readPieces_delimits major fuel

/-- What an item holds behind the argument of its head. -/
def readContent (major : Nat) (argument : Argument) : Reader Cbor :=
  fun fuel rest =>
    match major, argument with
    | 0, .count value => some (int value, rest)
    | 1, .count value => some (int (-1 - (value : Int)), rest)
    | 2, argument => (readString fuel 2 argument rest).map fun (pieces, rest) =>
        (bytes pieces.flatten, rest)
    | 3, argument => do
      let (pieces, rest) ← readString fuel 3 argument rest
      let parts ← pieces.mapM Utf8.decode?
      return (text parts.flatten, rest)
    | 4, .count length =>
      (readItems fuel length rest).map fun (items, rest) => (list items, rest)
    | 4, .untilBreak =>
      (readItemsToBreak fuel rest).map fun (items, rest) => (list items, rest)
    | 5, .count length =>
      (readEntries fuel length [] rest).map fun (entries, rest) => (map entries, rest)
    | 5, .untilBreak =>
      (readEntriesToBreak fuel [] rest).map fun (entries, rest) => (map entries, rest)
    | 6, .count tag => do
      let (item, rest) ← readItem fuel rest
      return (← bigNumber? tag item, rest)
    | _, _ => none

/-- An item is its head, the argument of the head and what the item holds. -/
theorem readItem_cons (fuel : Nat) (head : UInt8) (rest : List UInt8) :
    readItem (fuel + 1) (head :: rest) =
      if head.toNat / 32 == 7 then readSimple? (head.toNat % 32) rest
      else
        match readArgument? (head.toNat % 32) rest with
        | none => none
        | some (argument, rest) => readContent (head.toNat / 32) argument fuel rest := by
  rw [readItem]
  rfl

/-- There is no item where there is nothing. -/
theorem readItem_progresses : Reader.Progresses readItem := by
  intro fuel
  cases fuel <;> simp [readItem]

/-- With some fuel, all that makes up an item delimits itself. -/
structure Delimited (fuel : Nat) : Prop where
  item : Reader.DelimitsAt readItem 1 fuel
  items : ∀ count, Reader.DelimitsAt (fun fuel => readItems fuel count) 0 fuel
  items_to_break : Reader.DelimitsAt readItemsToBreak 0 fuel
  entries : ∀ count read, Reader.DelimitsAt (fun fuel => readEntries fuel count read) 0 fuel
  entries_to_break : ∀ read, Reader.DelimitsAt (fun fuel => readEntriesToBreak fuel read) 0 fuel

/-- A text is the string whose pieces are all well formed. -/
theorem readContent_text (argument : Argument) :
    readContent 3 argument =
      Reader.filterMap (fun fuel => readString fuel 3 argument) fun pieces =>
        (pieces.mapM Utf8.decode?).map fun parts => text parts.flatten := by
  funext fuel rest
  simp only [readContent, Reader.filterMap]
  cases readString fuel 3 argument rest with
  | none => rfl
  | some read => cases decoded : read.1.mapM Utf8.decode? <;> simp [decoded]

/-- A tagged item is a big number. -/
theorem readContent_tag (tag : Nat) :
    readContent 6 (.count tag) = Reader.filterMap readItem (bigNumber? tag) := by
  funext fuel rest
  simp only [readContent, Reader.filterMap]
  cases readItem fuel rest with
  | none => rfl
  | some read => cases number : bigNumber? tag read.1 <;> simp [number]

/-- What an item holds delimits itself if the readings within do. -/
theorem Delimited.content {fuel : Nat} (delimited : Delimited fuel) (major : Nat)
    (argument : Argument) : (readContent major argument).DelimitsAt 0 fuel := by
  match major, argument with
  | 0, .count value => exact Reader.delimitsAt_done (int value) fun _ _ => rfl
  | 1, .count value => exact Reader.delimitsAt_done (int (-1 - (value : Int))) fun _ _ => rfl
  | 2, argument => exact (readString_delimits 2 argument fuel).map fun pieces => bytes pieces.flatten
  | 3, argument =>
    rw [readContent_text]
    exact (readString_delimits 3 argument fuel).filterMap _
  | 4, .count length => exact (delimited.items length).map list
  | 4, .untilBreak => exact delimited.items_to_break.map list
  | 5, .count length => exact (delimited.entries length []).map map
  | 5, .untilBreak => exact (delimited.entries_to_break []).map map
  | 6, .count tag =>
    rw [readContent_tag]
    exact (delimited.item.filterMap (bigNumber? tag)).unspared
  | 0, .untilBreak => intro _ _ _ found; contradiction
  | 1, .untilBreak => intro _ _ _ found; contradiction
  | 6, .untilBreak => intro _ _ _ found; contradiction
  | major + 7, argument => intro _ _ _ found; contradiction

/-- An item delimits itself with one more of fuel than what it holds. -/
theorem Delimited.item_succ {fuel : Nat} (delimited : Delimited fuel) :
    Reader.DelimitsAt readItem 1 (fuel + 1) := by
  intro source item rest found
  cases source with
  | nil => rw [readItem_progresses] at found; contradiction
  | cons head following =>
    rw [readItem_cons] at found
    by_cases special : head.toNat / 32 == 7
    · rw [if_pos special] at found
      obtain ⟨used, rfl, takes⟩ := readSimple?_delimits _ _ _ _ found
      refine ⟨head :: used, rfl, fun fuel enough rest => ?_⟩
      rw [List.length_cons] at enough
      obtain ⟨less, rfl⟩ : ∃ less, fuel = less + 1 := ⟨fuel - 1, by omega⟩
      rw [List.cons_append, readItem_cons, if_pos special]
      exact takes rest
    rw [if_neg special] at found
    split at found
    · contradiction
    · rename_i argument middle announced
      obtain ⟨announcing, rfl, announces⟩ := readArgument?_delimits _ _ _ _ announced
      obtain ⟨content, rfl, takes⟩ := delimited.content _ argument _ _ _ found
      refine ⟨head :: (announcing ++ content), by simp, fun fuel enough rest => ?_⟩
      rw [List.length_cons, List.length_append] at enough
      obtain ⟨less, rfl⟩ : ∃ less, fuel = less + 1 := ⟨fuel - 1, by omega⟩
      rw [List.cons_append, readItem_cons, if_neg special, List.append_assoc, announces]
      exact takes less (by omega) rest

/-- No items are read without a byte. -/
theorem readItems_zero (fuel : Nat) (source : List UInt8) :
    readItems fuel 0 source = some ([], source) := by
  cases fuel <;> rw [readItems]

/-- Items are an item and the items behind it. -/
theorem readItems_succ (count fuel : Nat) :
    readItems (fuel + 1) (count + 1) =
      Reader.andThen readItem (fun item =>
        Reader.map (fun fuel => readItems fuel count) (item :: ·)) fuel := by
  funext source
  simp only [readItems, Reader.andThen, Reader.map]
  cases readItem fuel source with
  | none => rfl
  | some read => cases remaining : readItems fuel count read.2 <;> simp [remaining]

/-- Items up to a break are none or an item and the items behind it. -/
theorem readItemsToBreak_succ (fuel : Nat) :
    readItemsToBreak (fuel + 1) =
      Reader.untilBreak [] (Reader.andThen readItem fun item =>
        Reader.map readItemsToBreak (item :: ·)) fuel := by
  funext source
  cases source with
  | nil => rfl
  | cons head rest =>
    simp only [readItemsToBreak, Reader.untilBreak, Reader.andThen, Reader.map]
    by_cases last : head == breakByte
    · simp only [last, ↓reduceIte]
    simp only [last, ↓reduceIte, Bool.false_eq_true]
    cases readItem fuel (head :: rest) with
    | none => rfl
    | some read => cases remaining : readItemsToBreak fuel read.2 <;> simp [remaining]

/-- No entries are read without a byte. -/
theorem readEntries_zero (read : List (Cbor × Cbor)) (fuel : Nat) (source : List UInt8) :
    readEntries fuel 0 read source = some (read, source) := by
  cases fuel <;> rw [readEntries]

/-- Entries are a key, a value and the entries behind them. -/
theorem readEntries_succ (count : Nat) (read : List (Cbor × Cbor)) (fuel : Nat) :
    readEntries (fuel + 1) (count + 1) read =
      Reader.andThen readItem (fun key => Reader.andThen readItem fun value => fun fuel =>
        readEntries fuel count (putEntry read key value)) fuel := by
  funext source
  rw [readEntries]
  rfl

/-- Entries up to a break are none or a key, a value and the entries behind them. -/
theorem readEntriesToBreak_succ (read : List (Cbor × Cbor)) (fuel : Nat) :
    readEntriesToBreak (fuel + 1) read =
      Reader.untilBreak read (Reader.andThen readItem fun key => Reader.andThen readItem fun value =>
        fun fuel => readEntriesToBreak fuel (putEntry read key value)) fuel := by
  funext source
  cases source with
  | nil => rfl
  | cons head rest =>
    rw [readEntriesToBreak]
    rfl

/-- All that makes up an item delimits itself with every amount of fuel. -/
theorem delimited (fuel : Nat) : Delimited fuel := by
  induction fuel with
  | zero =>
    constructor
    · intro source item rest found
      contradiction
    · intro count
      cases count with
      | zero => exact Reader.delimitsAt_done [] readItems_zero
      | succ count => intro source items rest found; contradiction
    · intro source items rest found
      contradiction
    · intro count read
      cases count with
      | zero => exact Reader.delimitsAt_done read (readEntries_zero read)
      | succ count => intro source entries rest found; contradiction
    · intro read source entries rest found
      contradiction
  | succ fuel inductive_hypothesis =>
    have item := inductive_hypothesis.item
    have nothing {β : Type} (next : Cbor → Reader β) : (Reader.andThen readItem next).Progresses :=
      fun fuel => by rw [Reader.andThen, readItem_progresses, Option.bind_none]
    constructor
    · exact inductive_hypothesis.item_succ
    · intro count
      cases count with
      | zero => exact Reader.delimitsAt_done [] readItems_zero
      | succ count =>
        have items := item.andThen readItem_progresses fun item =>
          (inductive_hypothesis.items count).map (item :: ·)
        exact items.step (readItems_succ count) (nothing _)
    · have items := item.andThen readItem_progresses fun item =>
        inductive_hypothesis.items_to_break.map (item :: ·)
      exact (items.untilBreak (nothing _) []).step readItemsToBreak_succ fun _ => rfl
    · intro count read
      cases count with
      | zero => exact Reader.delimitsAt_done read (readEntries_zero read)
      | succ count =>
        have entries := item.andThen readItem_progresses fun key =>
          (item.andThen readItem_progresses fun value =>
            inductive_hypothesis.entries count (putEntry read key value)).unspared
        exact entries.step (readEntries_succ count read) (nothing _)
    · intro read
      have entries := item.andThen readItem_progresses fun key =>
        (item.andThen readItem_progresses fun value =>
          inductive_hypothesis.entries_to_break (putEntry read key value)).unspared
      exact (entries.untilBreak (nothing _) read).step (readEntriesToBreak_succ read) fun _ => rfl

/-- An item delimits itself: the bytes it is read from are read as it whatever follows them. -/
theorem read?_delimits : Delimits read? := by
  intro source item rest found
  obtain ⟨used, parts, takes⟩ := (delimited _).item source item rest found
  refine ⟨used, parts, fun rest => ?_⟩
  have enough : 2 * used.length ≤ 2 * (used ++ rest).length + 2 + 1 := by
    rw [List.length_append]
    omega
  exact takes _ enough rest

end Attest.Cbor
