import Attest.Proofs.Chain.CallTree
import Attest.Proofs.Chain.Fallthrough

/-!
# What traces tell of creations

A list of entries and a tree of calls may tell of the same creations. Both then give the same code for
an address, if none of its creations lies beneath another creation (`Chain.creations_found`). For a
contract that was created beneath another creation the tree gives none
(`Chain.creation_beneath_creation`).
-/
namespace Attest

open Attempt CallTree

/-- What is told of the creation of a contract. -/
structure Creation where
  /-- The address of the contract in small letters, empty if it came to nothing. -/
  address : List Char
  /-- Its creation code. -/
  code : Json
  deriving DecidableEq

namespace Creation

/-- What an address and a code tell, if the one is a text and the other says something. -/
def of? : Except Fault Json → Except Fault Json → Option Creation
  | .ok (.text address), .ok code =>
    if code.holds then some ⟨Text.lower address.toList, code⟩ else none
  | _, _ => none

/-- What the frame of a creation tells. -/
def ofFrame? (frame : Json) : Option Creation :=
  of? (frame.memberD "to" (.text "")) (frame.member "input")

/-- What the entry of a creation tells. -/
def ofListed? (entry : Json) : Option Creation :=
  of? (do (← Trace.created entry).memberD "address" (.text ""))
    (do (← entry.memberD "action" (.record [])).memberD "init" .null)

/-- Whether a creation is that of an address, whatever the case of its letters. -/
def isAt (address : String) (creation : Creation) : Bool :=
  creation.address == Text.lower address.toList

/-- The code of the first creation of an address. -/
def codeAt (address : String) (creations : List Creation) : Option Json :=
  (creations.find? (isAt address)).map code

/-- The code of the first creation of an address is that of the first creation or of one behind it. -/
theorem codeAt_cons (address : String) (creation : Creation) (rest : List Creation) :
    codeAt address (creation :: rest) =
      if creation.isAt address then some creation.code else codeAt address rest := by
  rw [codeAt, List.find?_cons]
  split
  · rename_i same
    rw [if_pos same]
    rfl
  · rename_i other
    rw [if_neg (Bool.eq_false_iff.mp other)]
    rfl

/-- Lists that tell alike tell of the same creations. -/
theorem filterMap_eq_of_map_eq {first second : List Json} {read read' : Json → Option Creation}
    (same : first.map read = second.map read') :
    first.filterMap read = second.filterMap read' :=
  calc first.filterMap read
    _ = (first.map read).filterMap id := by rw [List.filterMap_map, Function.id_comp]
    _ = (second.map read').filterMap id := by rw [same]
    _ = second.filterMap read' := by rw [List.filterMap_map, Function.id_comp]

/-- Something is told by a readable address and a code that says something. -/
theorem of?_eq_some_iff {address code : Except Fault Json} {creation : Creation} :
    of? address code = some creation ↔
      (∃ found, address = .ok (.text found) ∧ Text.lower found.toList = creation.address) ∧
        code = .ok creation.code ∧ creation.code.holds = true := by
  obtain ⟨small, told⟩ := creation
  constructor
  · intro tells
    unfold of? at tells
    split at tells
    · split at tells
      · rename_i holds
        cases tells
        exact ⟨⟨_, rfl, rfl⟩, rfl, holds⟩
      · cases tells
    · cases tells
  · rintro ⟨⟨found, rfl, rfl⟩, rfl, holds⟩
    exact if_pos holds

end Creation

open Creation

/-- Whether no creation of an address among these lies beneath another creation. -/
def CallTree.UnshelteredAt (address : String) (places : List Place) : Prop :=
  ∀ place ∈ places, isCreation place.frame = true → place.sheltered = true →
    ∀ creation, ofFrame? place.frame = some creation → creation.isAt address = false

namespace Trace

/-- A text is an address if the two are the same but for the case of their letters. -/
theorem isAddress_text (found address : String) :
    isAddress (.text found) address =
      .ok (Text.lower found.toList == Text.lower address.toList) := rfl

/-- Looking for an address among frames gives the code of the first that tells of it. -/
theorem inputIn_eq (hash address : String) {frames : List Json}
    (readable : ∀ frame ∈ frames, (ofFrame? frame).isSome = true) :
    inputIn hash address frames =
      match codeAt address (frames.filterMap ofFrame?) with
      | some code => .ok code
      | none => .error (.chain (.noCreateCall address hash)) := by
  induction frames with
  | nil => rfl
  | cons frame rest inductive_hypothesis =>
    obtain ⟨creation, tells⟩ := Option.isSome_iff_exists.mp (readable frame List.mem_cons_self)
    have others := inductive_hypothesis fun other found =>
      readable other (List.mem_cons_of_mem _ found)
    rw [List.filterMap_cons_some tells, codeAt_cons]
    obtain ⟨⟨found, at_address, small⟩, told, -⟩ := of?_eq_some_iff.mp tells
    rw [inputIn, at_address, Failure.lift_ok_bind, isAddress_text, Failure.lift_ok_bind, told, others,
      isAt, ← small]
    split <;> rfl

/-- Looking for an address among entries gives the code of the first that tells of it. -/
theorem codeIn_eq (address : String) {entries : List Json}
    (readable : ∀ entry ∈ entries, (ofListed? entry).isSome = true) :
    codeIn address entries = .ok (codeAt address (entries.filterMap ofListed?)) := by
  induction entries with
  | nil => rfl
  | cons entry rest inductive_hypothesis =>
    obtain ⟨creation, tells⟩ := Option.isSome_iff_exists.mp (readable entry List.mem_cons_self)
    have others := inductive_hypothesis fun other found =>
      readable other (List.mem_cons_of_mem _ found)
    rw [List.filterMap_cons_some tells, codeAt_cons]
    obtain ⟨⟨found, at_address, small⟩, told, holds⟩ := of?_eq_some_iff.mp tells
    obtain ⟨result, result_read, at_address⟩ := Result.bind_eq_ok.mp at_address
    obtain ⟨action, action_read, told⟩ := Result.bind_eq_ok.mp told
    rw [codeIn, result_read, Failure.lift_ok_bind, at_address, Failure.lift_ok_bind, isAddress_text,
      Failure.lift_ok_bind, action_read, Failure.lift_ok_bind, told, Failure.lift_ok_bind,
      if_pos holds, others, isAt, ← small]
    split <;> rfl

/-- Members that list trees give the code of the first creation of an address that lies beneath no
other. -/
theorem codeInTree_eq {members : List (String × Json)} {calls : List CallTree}
    (lists : HasCalls members (calls.map CallTree.frame)) (shaped : ∀ call ∈ calls, call.Shaped)
    (readable : ∀ frame ∈ outermost calls, (ofFrame? frame).isSome = true) (provider : Provider)
    (hash address : String) :
    (codeInTree provider hash address (.record members)).toOption =
      codeAt address ((outermost calls).filterMap ofFrame?) := by
  have searched : creations (.list (calls.map CallTree.frame)) = .ok (outermost calls) :=
    creationsAmong_outermost shaped
  have found := inputIn_eq hash address readable
  rw [codeInTree]
  unfold HasCalls at lists
  cases listed : Table.get? members "calls" with
  | none =>
    rw [listed] at lists
    rcases lists with impossible | ⟨-, none⟩
    · cases impossible
    · rw [List.map_eq_nil_iff.mp none]
      rfl
  | some value =>
    rw [listed] at lists
    change value = _ ∨ value.holds = false ∧ _ at lists
    change (if value.holds = true then _ else _ : Except Failure Json).toOption = _
    by_cases holds : value.holds = true
    · rw [if_pos holds]
      rcases lists with whole | ⟨nothing, -⟩
      · rw [whole, searched]
        change (inputIn hash address (outermost calls)).toOption = _
        rw [found]
        cases codeAt address ((outermost calls).filterMap ofFrame?) <;> rfl
      · rw [nothing] at holds
        cases holds
    · rw [if_neg holds]
      have none : calls = [] := by
        rcases lists with whole | ⟨-, none⟩
        · rw [whole] at holds
          cases calls with
          | nil => rfl
          | cons call rest => exact absurd rfl holds
        · exact List.map_eq_nil_iff.mp none
      rw [none]
      rfl

/-- Entries give the code of the first creation of an address. -/
theorem codeInList_eq {traces entries : List Json} (taken : createEntries traces = .ok entries)
    (readable : ∀ entry ∈ entries, (ofListed? entry).isSome = true) (provider : Provider)
    (hash address : String) :
    (codeInList provider hash address (.list traces)).toOption =
      codeAt address (entries.filterMap ofListed?) := by
  cases traces with
  | nil =>
    obtain rfl : [] = entries := Except.ok.inj taken
    rfl
  | cons first rest =>
    rw [codeInList, taken, Failure.lift_ok_bind, codeIn_eq address readable]
    cases codeAt address (entries.filterMap ofListed?) with
    | some code => rfl
    | none =>
      -- The addresses go into the words of the failure, which may fail to be put together.
      change (do
        let addresses ← (liftM (addressesIn entries) : Except Failure (List String))
        _ : Except Failure Json).toOption = _
      cases addressesIn entries <;> rfl

/-- If no creation of an address lies beneath another, those that lie beneath no other give its
code. -/
theorem codeAt_outermostIn {address : String} {places : List Place}
    (bare : UnshelteredAt address places) :
    codeAt address ((outermostIn places).filterMap ofFrame?) =
      codeAt address ((createdIn places).filterMap ofFrame?) := by
  induction places with
  | nil => rfl
  | cons place rest inductive_hypothesis =>
    have others := inductive_hypothesis fun other found =>
      bare other (List.mem_cons_of_mem _ found)
    rw [outermostIn_cons, createdIn_cons]
    cases creates : isCreation place.frame with
    | false => exact others
    | true =>
      cases sheltered : place.sheltered with
      | false =>
        change codeAt address ((place.frame :: outermostIn rest).filterMap ofFrame?) =
          codeAt address ((place.frame :: createdIn rest).filterMap ofFrame?)
        cases tells : ofFrame? place.frame with
        | none =>
          rw [List.filterMap_cons_none tells, List.filterMap_cons_none tells]
          exact others
        | some creation =>
          rw [List.filterMap_cons_some tells, List.filterMap_cons_some tells, codeAt_cons,
            codeAt_cons, others]
      | true =>
        -- This creation is in the second list only, and it is of another address.
        change codeAt address ((outermostIn rest).filterMap ofFrame?) =
          codeAt address ((place.frame :: createdIn rest).filterMap ofFrame?)
        cases tells : ofFrame? place.frame with
        | none =>
          rw [List.filterMap_cons_none tells]
          exact others
        | some creation =>
          have elsewhere := bare place List.mem_cons_self creates sheltered creation tells
          rw [List.filterMap_cons_some tells, codeAt_cons, elsewhere]
          exact others

end Trace

/-- Members of the outermost frame and a list of entries that tell of the same creations, which are
those in the trees that the members list. -/
structure CallTree.ToldAlike (calls : List CallTree) (members : List (String × Json))
    (traces : List Json) : Prop where
  /-- The members list the trees. -/
  lists : HasCalls members (calls.map frame)
  /-- Each frame of a creation tells of one. -/
  readable : ∀ frame ∈ created calls, (ofFrame? frame).isSome = true
  /-- The entries of creations tell what the frames tell, in the same order. -/
  entries : ∃ entries, Trace.createEntries traces = .ok entries ∧
    entries.map ofListed? = (created calls).map ofFrame?

/-- What a list of entries and a tree that tell of the same creations give for an address. -/
structure CallTree.GiveAlike (calls : List CallTree) (address : String)
    (fromList fromTree : Except Failure Json) : Prop where
  /-- The list gives the code of the first creation of the address. -/
  listed : fromList.toOption = codeAt address ((created calls).filterMap ofFrame?)
  /-- The tree gives the code of the first one that lies beneath no other. -/
  nested : fromTree.toOption = codeAt address ((outermost calls).filterMap ofFrame?)
  /-- Both give the same, unless the address was created beneath another creation. -/
  alike : UnshelteredAt address (placesAmong [] calls) → fromTree.toOption = fromList.toOption

namespace Chain

/-- The code in the trace of a provider is that in what it sends. -/
theorem tracedCode_nested {provider : Provider} {hash : String} {before after : Chain}
    {members : List (String × Json)}
    (sent : (send provider TraceForm.nested.method
      [.text hash, .record [("tracer", .text "callTracer")]]).Ends before (.record members) after)
    (address : String) :
    ((tracedCode .nested provider hash address).ended before).1 =
      Trace.codeInTree provider hash address (.record members) := by
  rw [tracedCode, ended_bind, sent]
  rfl

/-- The code in the entries of a provider is that in what it sends. -/
theorem tracedCode_listed {provider : Provider} {hash : String} {before after : Chain}
    {traces : List Json}
    (sent : (send provider TraceForm.listed.method [.text hash]).Ends before (.list traces) after)
    (address : String) :
    ((tracedCode .listed provider hash address).ended before).1 =
      Trace.codeInList provider hash address (.list traces) := by
  rw [tracedCode, ended_bind, sent]
  rfl

/-- The search through the calls of a transaction finds the creations that lie beneath no other, each
once and in order; these are all creations exactly if none lies beneath another. A list of entries
that tell of the same creations gives for each address the code of its first creation, and the calls
give that of its first creation beneath no other. So both give the same code for an address of which
no creation lies beneath another. -/
theorem creations_found {calls : List CallTree} (shaped : ∀ call ∈ calls, call.Shaped) :
    Trace.creations (.list (calls.map frame)) = .ok (outermost calls) ∧
      (Trace.creations (.list (calls.map frame)) = .ok (created calls) ↔
        Unsheltered (placesAmong [] calls)) ∧
      ∀ {members : List (String × Json)} {traces : List Json} {nested listed : Provider}
        {hash : String} {before after before' after' : Chain}, ToldAlike calls members traces →
        (send nested TraceForm.nested.method
          [.text hash, .record [("tracer", .text "callTracer")]]).Ends before (.record members)
            after →
        (send listed TraceForm.listed.method [.text hash]).Ends before' (.list traces) after' →
        ∀ address : String, GiveAlike calls address
          ((tracedCode .listed listed hash address).ended before').1
          ((tracedCode .nested nested hash address).ended before).1 := by
  have searched : Trace.creations (.list (calls.map frame)) = .ok (outermost calls) :=
    Trace.creationsAmong_outermost shaped
  refine ⟨searched, ?_, ?_⟩
  · rw [searched, Except.ok.injEq]
    exact outermostIn_eq_createdIn_iff
  · intro members traces nested listed hash before after before' after' told sent sent' address
    obtain ⟨entries, taken, same⟩ := told.entries
    have outer_readable : ∀ frame ∈ outermost calls, (ofFrame? frame).isSome = true :=
      fun frame found => told.readable frame (mem_createdIn_of_mem_outermostIn found)
    have entries_readable : ∀ entry ∈ entries, (ofListed? entry).isSome = true := by
      intro entry found
      have told_of : ofListed? entry ∈ (created calls).map ofFrame? :=
        same ▸ List.mem_map_of_mem found
      obtain ⟨frame, present, equal⟩ := List.mem_map.mp told_of
      rw [← equal]
      exact told.readable frame present
    have same_creations : entries.filterMap ofListed? = (created calls).filterMap ofFrame? :=
      Creation.filterMap_eq_of_map_eq same
    have from_list : ((tracedCode .listed listed hash address).ended before').1.toOption =
        codeAt address ((created calls).filterMap ofFrame?) := by
      rw [tracedCode_listed sent', Trace.codeInList_eq taken entries_readable, same_creations]
    have from_tree : ((tracedCode .nested nested hash address).ended before).1.toOption =
        codeAt address ((outermost calls).filterMap ofFrame?) := by
      rw [tracedCode_nested sent, Trace.codeInTree_eq told.lists shaped outer_readable]
    refine ⟨from_list, from_tree, fun bare => ?_⟩
    rw [from_list, from_tree]
    exact Trace.codeAt_outermostIn bare

/-- The frame of a contract that is created while another one is. -/
def sampleInner : Json :=
  .record [("type", .text "CREATE2"), ("to", .text "0xCC"), ("input", .text "0x62")]

/-- The frame of the other one. -/
def sampleOuter : Json :=
  .record [("type", .text "CREATE"), ("to", .text "0xBB"), ("input", .text "0x61"),
    ("calls", .list [sampleInner])]

/-- The members of the frame of the call that creates it. -/
def sampleCall : List (String × Json) := [("type", .text "CALL"), ("calls", .list [sampleOuter])]

/-- A transaction in which a call creates a contract that creates another. -/
def sampleCalls : List CallTree :=
  [.node (.record sampleCall) [.node sampleOuter [.node sampleInner []]]]

/-- The entries that tell of the same creations. -/
def sampleEntries : List Json :=
  [.record [("type", .text "create"), ("action", .record [("init", .text "0x61")]),
      ("result", .record [("address", .text "0xbb")])],
    .record [("type", .text "create"), ("action", .record [("init", .text "0x62")]),
      ("result", .record [("address", .text "0xcc")])]]

/-- A provider. -/
def sampleProvider : Provider := ⟨"http://first", .record [], .null⟩

/-- A chain on which a provider sends a result next. -/
def sampleSending (result : String) : Chain :=
  sampleOf [.pieces 200 [(0, "\x7b\"result\":" ++ result ++ "\x7d")]]

/-- A chain on which a provider sends the calls of the sample next. -/
def sampleNested : Chain := sampleSending ("\x7b\"calls\":[\x7b\"type\":\"CALL\",\"calls\":[" ++
  "\x7b\"type\":\"CREATE\",\"to\":\"0xBB\",\"input\":\"0x61\",\"calls\":[" ++
  "\x7b\"type\":\"CREATE2\",\"to\":\"0xCC\",\"input\":\"0x62\"\x7d]\x7d]\x7d]\x7d")

/-- A chain on which a provider sends the entries of the sample next. -/
def sampleListed : Chain := sampleSending (
  "[\x7b\"type\":\"create\",\"action\":\x7b\"init\":\"0x61\"\x7d," ++
  "\"result\":\x7b\"address\":\"0xbb\"\x7d\x7d," ++
  "\x7b\"type\":\"create\",\"action\":\x7b\"init\":\"0x62\"\x7d," ++
  "\"result\":\x7b\"address\":\"0xcc\"\x7d\x7d]")

/-- The calls of the sample are a tree. -/
theorem sampleCalls_shaped : ∀ call ∈ sampleCalls, call.Shaped := by
  have inner : (CallTree.node sampleInner []).Shaped :=
    .node (.inr ⟨rfl, rfl⟩) (fun _ none => absurd none List.not_mem_nil)
  have outer : (CallTree.node sampleOuter [.node sampleInner []]).Shaped :=
    .node (.inl rfl) (fun call found => List.mem_singleton.mp found ▸ inner)
  intro call found
  obtain rfl := List.mem_singleton.mp found
  exact .node (.inl rfl) (fun call found => List.mem_singleton.mp found ▸ outer)

/-- The members of the frame of the transaction. -/
def sampleMembers : List (String × Json) := [("calls", .list [.record sampleCall])]

/-- The provider sends the calls of the sample. -/
theorem sampleNested_sends :
    ((send sampleProvider TraceForm.nested.method
      [.text "0x01", .record [("tracer", .text "callTracer")]]).ended sampleNested).1 =
        .ok (.record sampleMembers) := by
  decide +kernel

/-- The provider sends the entries of the sample. -/
theorem sampleListed_sends :
    ((send sampleProvider TraceForm.listed.method [.text "0x01"]).ended sampleListed).1 =
      .ok (.list sampleEntries) := by
  decide +kernel

/-- The calls and the entries of the sample tell of the same creations. -/
theorem sampleCalls_toldAlike : ToldAlike sampleCalls sampleMembers sampleEntries where
  lists := .inl rfl
  readable := by
    have outer : (ofFrame? sampleOuter).isSome = true := rfl
    have inner : (ofFrame? sampleInner).isSome = true := rfl
    intro frame found
    rcases List.mem_cons.mp (show frame ∈ [sampleOuter, sampleInner] from found) with first | second
    · exact first ▸ outer
    · exact List.mem_singleton.mp second ▸ inner
  entries := ⟨sampleEntries, rfl, by decide +kernel⟩

/-- The calls and the entries of the sample give the same code for the contract that no other creates.
-/
theorem creations_found_sample :
    (∀ call ∈ sampleCalls, call.Shaped) ∧
      Trace.creations (.list (sampleCalls.map frame)) = .ok [sampleOuter] ∧
      ((tracedCode .nested sampleProvider "0x01" "0xBb").ended sampleNested).1.toOption =
        some (.text "0x61") ∧
      ((tracedCode .listed sampleProvider "0x01" "0xBb").ended sampleListed).1.toOption =
        some (.text "0x61") := by
  obtain ⟨searched, -, traced⟩ := creations_found sampleCalls_shaped
  obtain ⟨from_list, from_tree, -⟩ := traced sampleCalls_toldAlike
    (Prod.ext sampleNested_sends rfl) (Prod.ext sampleListed_sends rfl) "0xBb"
  refine ⟨sampleCalls_shaped, searched, ?_, ?_⟩
  · rw [from_tree]
    decide +kernel
  · rw [from_list]
    decide +kernel

/-- The search through the calls of the sample misses the contract that another creates. So the calls
have no code for its address, and the entries have. -/
theorem creation_beneath_creation :
    created sampleCalls = [sampleOuter, sampleInner] ∧
      Trace.creations (.list (sampleCalls.map frame)) = .ok [sampleOuter] ∧
      ((tracedCode .nested sampleProvider "0x01" "0xcc").ended sampleNested).1 =
        .error (.chain (.noCreateCall "0xcc" "0x01")) ∧
      ((tracedCode .listed sampleProvider "0x01" "0xcc").ended sampleListed).1 =
        .ok (.text "0x62") := by
  refine ⟨rfl, rfl, ?_, ?_⟩
  · rw [tracedCode_nested (Prod.ext sampleNested_sends rfl)]
    decide +kernel
  · rw [tracedCode_listed (Prod.ext sampleListed_sends rfl)]
    decide +kernel

end Chain

end Attest
