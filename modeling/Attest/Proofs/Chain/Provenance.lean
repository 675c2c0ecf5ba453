import Mathlib.Logic.Relation
import Attest.Proofs.Chain.Creations
import Attest.Proofs.Chain.Told
import Attest.Proofs.Json.Member
import Attest.Proofs.Text.Case

/-!
# Where a creation code comes from

Whatever fails on the way, the creation code that a chain gives for an address was told by one of its
providers for that address: it is the input of a transaction whose receipt names the address, or the
receipt names no contract and the code stands in the entry or the frame of the address's own creation
(`Chain.creation_of_own`).
-/
namespace Attest

open Attempt CallTree

/-- Whether a frame lists a call. -/
def Json.Calls (frame call : Json) : Prop :=
  ∃ calls, frame.member "calls" = .ok (.list calls) ∧ call ∈ calls

/-- Whether the member at a path is the text of an address, whatever the case of its letters. An
address without letters is that of nothing. -/
def Json.Names (value : Json) (keys : List String) (address : String) : Prop :=
  address ≠ "" → ∃ found, value.path keys = .ok (.text found) ∧
    Text.lower found.toList = Text.lower address.toList

namespace Trace

/-- Whether an entry tells of the creation of an address by a code. -/
structure EntryOf (address : String) (code entry : Json) : Prop where
  /-- It tells of a creation. -/
  creates : entry.member "type" = .ok (.text "create")
  /-- What was created has the address. -/
  names : entry.Names ["result", "address"] address
  /-- The code is what the creation began with. -/
  code : entry.path ["action", "init"] = .ok code

/-- Whether a frame tells of the creation of an address by a code. -/
structure FrameOf (address : String) (code frame : Json) : Prop where
  /-- It tells of a creation. -/
  creates : isCreation frame = true
  /-- What was created has the address. -/
  names : frame.Names ["to"] address
  /-- The code is the input of the call. -/
  code : frame.member "input" = .ok code

mutual

/-- What is found from a frame on are creations, that frame or ones beneath it. -/
theorem creationsOf_sound : ∀ {call : Json} {found : List Json}, creationsOf call = .ok found →
    ∀ frame ∈ found, isCreation frame = true ∧ Relation.ReflTransGen Json.Calls call frame
  | .record members, found, searched, frame, present => by
    rw [creationsOf_record] at searched
    split at searched
    · rename_i creates
      obtain rfl := Except.ok.inj searched
      obtain rfl := List.mem_singleton.mp present
      exact ⟨creates, .refl⟩
    · obtain ⟨creates, calls, listed, call, among, beneath⟩ :=
        creationsBeneath_sound searched frame present
      refine ⟨creates, .head ⟨calls, ?_, among⟩ beneath⟩
      rw [Json.member, listed]

/-- What is found beneath members are creations in the calls that they list. -/
theorem creationsBeneath_sound : ∀ {members : List (String × Json)} {found : List Json},
    creationsBeneath members = .ok found → ∀ frame ∈ found, isCreation frame = true ∧
      ∃ calls, Table.get? members "calls" = some (.list calls) ∧
        ∃ call ∈ calls, Relation.ReflTransGen Json.Calls call frame
  | [], found, searched, frame, present => by
    obtain rfl := Except.ok.inj searched
    exact absurd present List.not_mem_nil
  | (name, value) :: rest, found, searched, frame, present => by
    rw [creationsBeneath] at searched
    rw [Table.get?]
    by_cases calls : name = "calls"
    · rw [if_pos calls] at searched ⊢
      split at searched
      · obtain ⟨creates, calls, rfl, beneath⟩ := creations_sound searched frame present
        exact ⟨creates, calls, rfl, beneath⟩
      · obtain rfl := Except.ok.inj searched
        exact absurd present List.not_mem_nil
    · rw [if_neg calls] at searched ⊢
      exact creationsBeneath_sound searched frame present

/-- What is found in calls are creations in a list of them. -/
theorem creations_sound : ∀ {value : Json} {found : List Json}, creations value = .ok found →
    ∀ frame ∈ found, isCreation frame = true ∧ ∃ calls, value = .list calls ∧
      ∃ call ∈ calls, Relation.ReflTransGen Json.Calls call frame
  | .list calls, found, searched, frame, present => by
    obtain ⟨creates, beneath⟩ := creationsAmong_sound searched frame present
    exact ⟨creates, calls, rfl, beneath⟩
  | .text value, found, searched, frame, present => by
    rw [creations] at searched
    split at searched
    · obtain rfl := Except.ok.inj searched
      exact absurd present List.not_mem_nil
    · cases searched
  | .record members, found, searched, frame, present => by
    rw [creations] at searched
    split at searched
    · obtain rfl := Except.ok.inj searched
      exact absurd present List.not_mem_nil
    · cases searched

/-- What is found in a list of calls are creations in it. -/
theorem creationsAmong_sound : ∀ {calls : List Json} {found : List Json},
    creationsAmong calls = .ok found → ∀ frame ∈ found, isCreation frame = true ∧
      ∃ call ∈ calls, Relation.ReflTransGen Json.Calls call frame
  | [], found, searched, frame, present => by
    obtain rfl := Except.ok.inj searched
    exact absurd present List.not_mem_nil
  | call :: rest, found, searched, frame, present => by
    rw [creationsAmong] at searched
    obtain ⟨first, first_searched, searched⟩ := Result.bind_eq_ok.mp searched
    obtain ⟨others, others_searched, searched⟩ := Result.bind_eq_ok.mp searched
    obtain rfl := Except.ok.inj searched
    rcases List.mem_append.mp present with early | later
    · obtain ⟨creates, beneath⟩ := creationsOf_sound first_searched frame early
      exact ⟨creates, call, List.mem_cons_self, beneath⟩
    · obtain ⟨creates, other, among, beneath⟩ :=
        creationsAmong_sound others_searched frame later
      exact ⟨creates, other, List.mem_cons_of_mem _ among, beneath⟩

end

/-- What is an address is a text, the same but for the case of its letters. -/
theorem isAddress_sound {found : Json} {address : String} (same : isAddress found address = .ok true) :
    ∃ text, found = .text text ∧ Text.lower text.toList = Text.lower address.toList := by
  obtain ⟨small, read, equal⟩ := Result.bind_eq_ok.mp same
  cases found with
  | text value =>
    obtain rfl := Except.ok.inj read
    exact ⟨value, rfl, eq_of_beq (Except.ok.inj equal)⟩
  | _ => cases read

/-- An address that is found in a member is there, unless it has no letters. -/
theorem member_of_isAddress {value found : Json} {key address : String}
    (read : value.memberD key (.text "") = .ok found) (same : isAddress found address = .ok true)
    (letters : address ≠ "") :
    ∃ text, value.member key = .ok (.text text) ∧
      Text.lower text.toList = Text.lower address.toList := by
  obtain ⟨text, rfl, equal⟩ := isAddress_sound same
  -- A missing member reads as the empty text, and only the empty address is the same as that.
  refine ⟨text, Json.member_of_memberD read fun empty => ?_, equal⟩
  obtain rfl := Json.text.inj empty
  have small : Text.lower address.toList = [] := equal.symm
  rw [Text.lower_eq_nil_iff, String.toList_eq_nil_iff] at small
  exact letters small

/-- The input that is found for an address is that of a frame of the address. -/
theorem inputIn_sound {hash address : String} {frames : List Json} {code : Json}
    (found : inputIn hash address frames = .ok code) :
    ∃ frame ∈ frames, frame.Names ["to"] address ∧ frame.member "input" = .ok code := by
  induction frames with
  | nil => cases found
  | cons frame rest inductive_hypothesis =>
    rw [inputIn] at found
    obtain ⟨name, read, found⟩ := Result.bind_eq_ok.mp found
    obtain ⟨same, compared, found⟩ := Result.bind_eq_ok.mp found
    rw [Failure.lift_eq_ok] at read compared
    cases same with
    | true =>
      refine ⟨frame, List.mem_cons_self, fun letters => ?_, Failure.lift_eq_ok.mp found⟩
      obtain ⟨text, there, equal⟩ := member_of_isAddress read compared letters
      refine ⟨text, ?_, equal⟩
      rw [Json.path, there]
      rfl
    | false =>
      obtain ⟨other, present, names, told⟩ := inductive_hypothesis found
      exact ⟨other, List.mem_cons_of_mem _ present, names, told⟩

/-- What is taken from a list of entries are the creations in it. -/
theorem createEntries_sound {traces entries : List Json}
    (taken : createEntries traces = .ok entries) :
    ∀ entry ∈ entries, entry ∈ traces ∧ entry.member "type" = .ok (.text "create") := by
  induction traces generalizing entries with
  | nil =>
    obtain rfl := Except.ok.inj taken
    exact fun entry present => absurd present List.not_mem_nil
  | cons first rest inductive_hypothesis =>
    rw [createEntries] at taken
    obtain ⟨kind, read, taken⟩ := Result.bind_eq_ok.mp taken
    obtain ⟨others, taken_others, taken⟩ := Result.bind_eq_ok.mp taken
    have later : ∀ entry ∈ others,
        entry ∈ first :: rest ∧ entry.member "type" = .ok (.text "create") := fun entry present =>
      have behind := inductive_hypothesis taken_others entry present
      ⟨List.mem_cons_of_mem _ behind.1, behind.2⟩
    obtain rfl := Except.ok.inj taken
    cases creates : kind.isText "create" with
    | false =>
      exact later
    | true =>
      obtain rfl := Json.isText_eq_true_iff.mp creates
      intro entry present
      rcases List.mem_cons.mp present with here | behind
      · rw [here]
        exact ⟨List.mem_cons_self, Json.member_of_memberD read Json.noConfusion⟩
      · exact later entry behind

/-- What an entry tells of the created contract is in its result. -/
theorem path_of_created {entry result found : Json} {key : String}
    (told : created entry = .ok result) (read : result.member key = .ok found) :
    entry.path ["result", key] = .ok found := by
  obtain ⟨value, looked, given⟩ := Result.bind_eq_ok.mp told
  obtain rfl := Except.ok.inj given
  rw [Json.orElse] at read
  split at read
  · rename_i holds
    exact Json.path_pair (Json.member_of_memberD looked (Json.ne_null_of_holds holds)) read
  · cases read

/-- A code that is found for an address is that of an entry of the address. -/
theorem codeIn_sound {address : String} {entries : List Json} {code : Json}
    (found : codeIn address entries = .ok (some code)) :
    ∃ entry ∈ entries, entry.Names ["result", "address"] address ∧
      entry.path ["action", "init"] = .ok code := by
  induction entries with
  | nil => cases found
  | cons entry rest inductive_hypothesis =>
    rw [codeIn] at found
    obtain ⟨result, created, found⟩ := Result.bind_eq_ok.mp found
    obtain ⟨name, read, found⟩ := Result.bind_eq_ok.mp found
    obtain ⟨same, compared, found⟩ := Result.bind_eq_ok.mp found
    rw [Failure.lift_eq_ok] at created read compared
    cases same with
    | true =>
      obtain ⟨action, action_read, found⟩ := Result.bind_eq_ok.mp found
      obtain ⟨init, init_read, found⟩ := Result.bind_eq_ok.mp found
      rw [Failure.lift_eq_ok] at action_read init_read
      have holds : init.holds = true ∧ init = code := by
        split at found
        · rename_i holds
          exact ⟨holds, Option.some.inj (Except.ok.inj found)⟩
        · cases found
      obtain ⟨holds, rfl⟩ := holds
      refine ⟨entry, List.mem_cons_self, fun letters => ?_, ?_⟩
      · obtain ⟨text, there, equal⟩ := member_of_isAddress read compared letters
        exact ⟨text, path_of_created created there, equal⟩
      · exact Json.path_of_memberD action_read
          (Json.member_of_memberD init_read (Json.ne_null_of_holds holds))
    | false =>
      obtain ⟨other, present, names, told⟩ := inductive_hypothesis found
      exact ⟨other, List.mem_cons_of_mem _ present, names, told⟩

/-- A code that a list of entries gives for an address is that of an entry of the address. -/
theorem codeInList_sound {provider : Provider} {hash address : String} {traces code : Json}
    (found : codeInList provider hash address traces = .ok code) :
    ∃ entries, traces = .list entries ∧ ∃ entry ∈ entries, EntryOf address code entry := by
  cases traces with
  | list entries =>
    cases entries with
    | nil => cases found
    | cons first rest =>
      refine ⟨first :: rest, rfl, ?_⟩
      rw [codeInList] at found
      obtain ⟨creations, taken, found⟩ := Result.bind_eq_ok.mp found
      obtain ⟨given, looked, found⟩ := Result.bind_eq_ok.mp found
      cases given with
      | none =>
        obtain ⟨_, -, failed⟩ := Result.bind_eq_ok.mp found
        cases failed
      | some init =>
        obtain rfl := Except.ok.inj found
        obtain ⟨entry, present, names, told⟩ := codeIn_sound looked
        obtain ⟨listed, creates⟩ :=
          createEntries_sound (Failure.lift_eq_ok.mp taken) entry present
        exact ⟨entry, listed, creates, names, told⟩
  | _ => cases found

/-- A code that a tree of calls gives for an address is that of a frame of the address. -/
theorem codeInTree_sound {provider : Provider} {hash address : String} {trace code : Json}
    (found : codeInTree provider hash address trace = .ok code) :
    ∃ frame, Relation.TransGen Json.Calls trace frame ∧ FrameOf address code frame := by
  cases trace with
  | record members =>
    rw [codeInTree] at found
    split at found
    · rename_i calls listed
      split at found
      · -- Only the calls beneath the root are searched, so at least one step leads to the frame.
        obtain ⟨frames, searched, found⟩ := Result.bind_eq_ok.mp found
        obtain ⟨frame, present, names, told⟩ := inputIn_sound found
        obtain ⟨creates, items, rfl, call, among, beneath⟩ :=
          creations_sound (Failure.lift_eq_ok.mp searched) frame present
        have root : (Json.record members).Calls call := by
          refine ⟨items, ?_, among⟩
          rw [Json.member, listed]
        exact ⟨frame, .head' root beneath, creates, names, told⟩
      · cases found
    · cases found
  | _ => cases found

end Trace

namespace Chain

/-- Whether a code was told for an address while a chain became another, by the entry or the frame of
the address's own creation in a trace of a transaction. -/
def Traced (start stop : Chain) (hash address : String) (code : Json) : Prop :=
  (∃ entries, Told start stop "trace_transaction" [.text hash] (.list entries) ∧
      ∃ entry ∈ entries, Trace.EntryOf address code entry) ∨
    ∃ trace, Told start stop "debug_traceTransaction"
        [.text hash, .record [("tracer", .text "callTracer")]] trace ∧
      ∃ frame, Relation.TransGen Json.Calls trace frame ∧ Trace.FrameOf address code frame

/-- What was told while one chain asked is told for all of its asking. -/
theorem Traced.earlier {start middle stop : Chain} {hash address : String} {code : Json}
    (traced : Traced middle stop hash address code) (went : Went start middle) :
    Traced start stop hash address code := by
  rcases traced with ⟨entries, told, entry⟩ | ⟨trace, told, frame⟩
  · exact .inl ⟨entries, told.earlier went, entry⟩
  · exact .inr ⟨trace, told.earlier went, frame⟩

/-- Asking for a trace is asking. -/
theorem tracedCode_went (form : TraceForm) (provider : Provider) (hash address : String) :
    (tracedCode form provider hash address).Keeps Went := by
  cases form with
  | listed => exact went_frame.bind (send_went provider _ _) fun _ => went_frame.ofResult _
  | nested => exact went_frame.bind (send_went provider _ _) fun _ => went_frame.ofResult _

/-- A code that is found in a trace was told. -/
theorem tracedCode_traced {form : TraceForm} {provider : Provider} {hash address : String}
    {start stop : Chain} {code : Json} (known : provider ∈ start.providers)
    (ends : (tracedCode form provider hash address).Ends start code stop) :
    Traced start stop hash address code := by
  cases form with
  | listed =>
    obtain ⟨traces, middle, sent, ends⟩ := ends_bind.mp ends
    obtain ⟨found, rfl⟩ := ends_liftM.mp ends
    obtain ⟨entries, rfl, entry⟩ := Trace.codeInList_sound found
    exact .inl ⟨entries, send_told known sent, entry⟩
  | nested =>
    obtain ⟨trace, middle, sent, ends⟩ := ends_bind.mp ends
    obtain ⟨found, rfl⟩ := ends_liftM.mp ends
    exact .inr ⟨trace, send_told known sent, Trace.codeInTree_sound found⟩

/-- Ask one provider for the code of an address, if it gives traces in a known form. -/
def askTraced (hash address : String) (provider : Provider) : Attempt Chain (Option Json) :=
  match TraceForm.ofMethod? provider.traces with
  | some form => do return some (← tracedCode form provider hash address)
  | none => return none

/-- Asking one provider for a code is asking. -/
theorem askTraced_went (hash address : String) (provider : Provider) :
    (askTraced hash address provider).Keeps Went := by
  rw [askTraced]
  split
  · exact went_frame.bind (tracedCode_went _ provider hash address) fun code =>
      went_frame.pure (some code)
  · exact went_frame.pure none

/-- A code that one provider gives was told. -/
theorem askTraced_traced {hash address : String} {provider : Provider} {start stop : Chain}
    {code : Json} (known : provider ∈ start.providers)
    (ends : (askTraced hash address provider).Ends start (some code) stop) :
    Traced start stop hash address code := by
  rw [askTraced] at ends
  split at ends
  · obtain ⟨found, middle, traced, ends⟩ := ends_bind.mp ends
    obtain ⟨same, rfl⟩ := ends_pure.mp ends
    obtain rfl := Option.some.inj same
    exact tracedCode_traced known traced
  · cases (ends_pure.mp ends).1

/-- Looking for a code in the traces of providers is asking. -/
theorem factoryCode_went (hash address : String) : (factoryCode hash address).Keeps Went := by
  refine went_frame.bind went_frame.get fun chain => ?_
  dsimp only
  split
  · exact went_frame.throw_bind _ _
  · exact went_frame.bind (firstAnswer_went (askTraced_went hash address) _) fun found => by
      cases found with
      | none => exact went_frame.throw _
      | some code => exact went_frame.pure code

/-- A code that is found in the traces of providers was told by one of them. -/
theorem factoryCode_traced {hash address : String} {start stop : Chain} {code : Json}
    (ends : (factoryCode hash address).Ends start code stop) :
    Traced start stop hash address code := by
  rw [factoryCode, ends_get_bind] at ends
  dsimp only at ends
  split at ends
  · exact absurd ends not_ends_throw_bind
  · obtain ⟨found, middle, asked, ends⟩ := ends_bind.mp ends
    cases found with
    | none => exact absurd ends not_ends_throw
    | some given =>
      obtain ⟨rfl, rfl⟩ := ends_pure.mp ends
      obtain ⟨provider, tracing, before, went, gave⟩ :=
        firstAnswer_ends_some (askTraced_went hash address) asked
      have known : provider ∈ before.providers := by
        rw [went.providers]
        exact (List.mem_filter.mp tracing).1
      exact (askTraced_traced known gave).earlier went

/-- Whether a receipt names an address as that of the contract created by the transaction itself,
whatever the case of its letters. -/
def ReceiptNames (receipt : Json) (address : String) : Prop :=
  ∃ contract, receipt.member "contractAddress" = .ok (.text contract) ∧ contract ≠ "" ∧
    Text.lower contract.toList = Text.lower address.toList

/-- Whether a receipt names no contract. -/
def ReceiptSilent (receipt : Json) : Prop :=
  ∃ absent, receipt.memberD "contractAddress" .null = .ok absent ∧ absent.holds = false

/-- The code of a contract, given the receipt and the transaction. -/
def codeBy (address hash : String) (receipt transaction : Json) : Attempt Chain (Json × Json) := do
  let created ← receipt.memberD "contractAddress" .null
  if created.holds then
    if ← Trace.isAddress created address then return (← transaction.member "input", receipt)
    else throw (.chain (.otherContract address created.plain hash))
  else return (← factoryCode hash address, receipt)

/-- The code that is given by a receipt and a transaction is the transaction's input, if the receipt
names the contract, or was told in a trace, if it names none. -/
theorem codeBy_of_own {address hash : String} {receipt transaction : Json} {start stop : Chain}
    {code handed : Json}
    (ends : (codeBy address hash receipt transaction).Ends start (code, handed) stop) :
    handed = receipt ∧ Went start stop ∧
      (ReceiptNames receipt address ∧ transaction.member "input" = .ok code ∨
        ReceiptSilent receipt ∧ Traced start stop hash address code) := by
  obtain ⟨created, read, ends⟩ := ends_reading_bind.mp ends
  split at ends
  · rename_i holds
    obtain ⟨same, compared, ends⟩ := ends_reading_bind.mp ends
    cases same with
    | false => exact absurd ends not_ends_throw
    | true =>
      obtain ⟨input, taken, ends⟩ := ends_reading_bind.mp ends
      obtain ⟨given, rfl⟩ := ends_pure.mp ends
      obtain ⟨rfl, rfl⟩ := Prod.mk.inj given
      obtain ⟨contract, rfl, equal⟩ := Trace.isAddress_sound compared
      have there := Json.member_of_memberD read Json.noConfusion
      have letters : contract ≠ "" := by
        rintro rfl
        cases holds
      exact ⟨rfl, went_frame.refl start, .inl ⟨⟨contract, there, letters, equal⟩, taken⟩⟩
  · rename_i silent
    obtain ⟨found, middle, traced, ends⟩ := ends_bind.mp ends
    obtain ⟨given, rfl⟩ := ends_pure.mp ends
    obtain ⟨rfl, rfl⟩ := Prod.mk.inj given
    exact ⟨rfl, (factoryCode_went hash address).of_ends traced,
      .inr ⟨⟨created, read, Bool.eq_false_iff.mpr silent⟩, factoryCode_traced traced⟩⟩

/-- The creation code that a chain gives for an address was told for that address: it is the input of
the transaction, and the receipt names the address, or the receipt names no contract and the code
stands in the entry or the frame of the address's own creation in a trace of the transaction. -/
theorem creation_of_own {address hash : String} {transaction : Option Json} {start stop : Chain}
    {code receipt : Json}
    (ends : (creation address hash transaction).Ends start (code, receipt) stop) :
    Told start stop "eth_getTransactionReceipt" [.text hash] receipt ∧
      ((ReceiptNames receipt address ∧
          ∃ own, (transaction = some own ∨ transaction = none ∧
              Told start stop "eth_getTransactionByHash" [.text hash] own) ∧
            own.member "input" = .ok code) ∨
        ReceiptSilent receipt ∧ Traced start stop hash address code) := by
  obtain ⟨told, first, asked, ends⟩ := ends_bind.mp ends
  have went_first : Went start first := (request_went _ _ _ _).of_ends asked
  have receipt_told := request_told asked
  cases transaction with
  | some own =>
    have ends : (codeBy address hash told own).Ends first (code, receipt) stop := ends
    obtain ⟨rfl, went, found⟩ := codeBy_of_own ends
    refine ⟨receipt_told.later went, ?_⟩
    rcases found with ⟨named, input⟩ | ⟨silent, traced⟩
    · exact .inl ⟨named, own, .inl rfl, input⟩
    · exact .inr ⟨silent, traced.earlier went_first⟩
  | none =>
    -- One more question comes between, for the transaction itself.
    obtain ⟨own, second, looked, ends⟩ := ends_bind.mp ends
    have went_second : Went first second := (request_went _ _ _ _).of_ends looked
    have ends : (codeBy address hash told own).Ends second (code, receipt) stop := ends
    obtain ⟨rfl, went, found⟩ := codeBy_of_own ends
    refine ⟨(receipt_told.later went_second).later went, ?_⟩
    rcases found with ⟨named, input⟩ | ⟨silent, traced⟩
    · have own_told := ((request_told looked).later went).earlier went_first
      exact .inl ⟨named, own, .inr ⟨rfl, own_told⟩, input⟩
    · exact .inr ⟨silent, traced.earlier (went_frame.trans went_first went_second)⟩

/-- A chain of which the first provider tells of a transaction but not of its trace, and the second
tells of a trace in which two contracts are created. -/
def sampleFactory : Chain where
  id := 1
  name := "1"
  settings := {}
  providers := [⟨"http://first", .record [], .text TraceForm.nested.method⟩,
    ⟨"http://second", .record [], .text TraceForm.listed.method⟩]
  network := {
    replies := [.pieces 200 [(0, "\x7b\"result\":\x7b\"status\":\"0x1\"\x7d\x7d")],
      .pieces 200 [(0, "\x7b\"result\":\x7b\"input\":\"0x60\"\x7d\x7d")],
      .broken .late] ++ sampleListed.network.replies }

/-- The code of the second contract of the sample is that which was told for it, neither that of the
first nor the input of the transaction. -/
theorem creation_of_own_sample :
    ∃ stop, (creation "0xCc" "0x01" none).Ends sampleFactory
        (.text "0x62", .record [("status", .text "0x1")]) stop ∧
      Traced sampleFactory stop "0x01" "0xCc" (.text "0x62") := by
  have ends : (creation "0xCc" "0x01" none).Ends sampleFactory
      (.text "0x62", .record [("status", .text "0x1")]) _ := Prod.ext (by decide +kernel) rfl
  refine ⟨_, ends, ?_⟩
  rcases (creation_of_own ends).2 with ⟨⟨contract, named, -⟩, -⟩ | ⟨-, traced⟩
  · cases named
  · exact traced

end Chain

end Attest
