import Mathlib.Data.List.Forall2
import Attest.Proofs.Chain.Provenance

/-!
# Creation codes from traces, provider by provider

The creation code of a contract that another contract created is looked for in the traces of
providers in turn, one request to each, up to the first whose reply settles the matter
(`Chain.factoryCode_in_turn`). A reply that does not come or cannot be read, an error, an empty trace
and one without the creation pass the question on. A trace that is no trace in its inner parts does
not: the first part that would have to be read for the address and cannot be settles the matter with
a fault, and no provider behind it is asked (`Chain.created_at_nothing_settles`).
-/
namespace Attest

open Attempt CallTree

namespace TraceForm

/-- What a trace of a form has for creations, none if it is not of that form as a whole. -/
def creationsIn (form : TraceForm) (trace : Json) : Except Fault (List Json) :=
  match form, trace with
  | listed, .list entries => Trace.createEntries entries
  | nested, .record members =>
    match Table.get? members "calls" with
    | some calls => if calls.holds then Trace.creations calls else .ok []
    | none => .ok []
  | _, _ => .ok []

/-- The address in a creation. -/
def addressOf (form : TraceForm) (creation : Json) : Except Fault Json :=
  match form with
  | listed => do (← Trace.created creation).memberD "address" (.text "")
  | nested => creation.memberD "to" (.text "")

/-- The code in a creation. -/
def codeOf (form : TraceForm) (creation : Json) : Except Fault Json :=
  match form with
  | listed => do (← creation.memberD "action" (.record [])).memberD "init" .null
  | nested => creation.member "input"

/-- Whether a code is taken for one. An entry has to say something; a frame has what it has. -/
def takes (form : TraceForm) (code : Json) : Bool :=
  match form with
  | listed => code.holds
  | nested => true

/-- The parameters of the method that asks for a form. -/
def parameters (form : TraceForm) (hash : String) : List Json :=
  match form with
  | listed => [.text hash]
  | nested => [.text hash, .record [("tracer", .text "callTracer")]]

/-- The code of an address in a trace of a form. -/
def search (form : TraceForm) (provider : Provider) (hash address : String) (trace : Json) :
    Except Failure Json :=
  match form with
  | listed => Trace.codeInList provider hash address trace
  | nested => Trace.codeInTree provider hash address trace

end TraceForm

namespace Trace

/-- What an address and a code decide when the code of an address is looked for: the code if the
address is that one, nothing if it is another, and a fault if there is none to read. -/
def decides (address : String) (found code : Except Fault Json) : Option (Except Fault Json) :=
  match found with
  | .ok (.text name) =>
    if Text.lower name.toList = Text.lower address.toList then some code else none
  | .ok _ => some (.error .wrongKind)
  | .error fault => some (.error fault)

/-- What a creation in a trace of a form decides. -/
def decided (form : TraceForm) (address : String) (creation : Json) :
    Option (Except Fault Json) :=
  decides address (form.addressOf creation) (form.codeOf creation)

/-- What creations settle: the first of them that decides anything, unless its code is not taken. -/
def settledAmong (form : TraceForm) (address : String) (creations : List Json) :
    Option (Except Fault Json) :=
  match creations.findSome? (decided form address) with
  | some (.ok code) => if form.takes code then some (.ok code) else none
  | other => other

/-- What a trace settles: the code of an address or a fault, or nothing. -/
def settledIn (form : TraceForm) (address : String) (trace : Json) : Option (Except Fault Json) :=
  match form.creationsIn trace with
  | .ok creations => settledAmong form address creations
  | .error fault => some (.error fault)

/-- Whether a fault is of a kind that is not passed on. -/
def Ends (fault : Fault) : Prop := fault.isUnreadable = false

/-- A member that cannot be looked for ends the search. -/
theorem memberD_ends (value : Json) (key : String) (other : Json) :
    Result.FailsOnly Ends (value.memberD key other) := by
  cases value with
  | record members => exact Result.failsOnly_ok _
  | _ => exact Result.failsOnly_error rfl

/-- A member that is not there ends the search. -/
theorem member_ends (value : Json) (key : String) : Result.FailsOnly Ends (value.member key) := by
  cases value with
  | record members =>
    rw [Json.member]
    split
    · exact Result.failsOnly_ok _
    · exact Result.failsOnly_error rfl
  | _ => exact Result.failsOnly_error rfl

/-- An entry that cannot be read ends the search. -/
theorem created_ends (entry : Json) : Result.FailsOnly Ends (created entry) :=
  (memberD_ends entry _ _).bind fun _ => Result.failsOnly_ok _

/-- What cannot be decided ends the search. -/
theorem decides_ends {address : String} {found code : Except Fault Json}
    (address_ends : Result.FailsOnly Ends found) (code_ends : Result.FailsOnly Ends code)
    {fault : Fault} (decided : decides address found code = some (.error fault)) : Ends fault := by
  unfold decides at decided
  split at decided
  · split at decided
    · exact code_ends fault (Option.some.inj decided)
    · cases decided
  · cases decided
    rfl
  · cases decided
    exact address_ends fault rfl

/-- An address that cannot be read ends the search. -/
theorem addressOf_ends (form : TraceForm) (creation : Json) :
    Result.FailsOnly Ends (form.addressOf creation) := by
  cases form with
  | listed => exact (created_ends creation).bind fun _ => memberD_ends _ _ _
  | nested => exact memberD_ends creation _ _

/-- A code that cannot be read ends the search. -/
theorem codeOf_ends (form : TraceForm) (creation : Json) :
    Result.FailsOnly Ends (form.codeOf creation) := by
  cases form with
  | listed => exact (memberD_ends creation _ _).bind fun _ => memberD_ends _ _ _
  | nested => exact member_ends creation _

/-- Entries that cannot be looked through end the search. -/
theorem createEntries_ends (entries : List Json) :
    Result.FailsOnly Ends (createEntries entries) := by
  induction entries with
  | nil => exact Result.failsOnly_ok _
  | cons entry rest inductive_hypothesis =>
    rw [createEntries]
    exact (memberD_ends entry _ _).bind fun _ =>
      inductive_hypothesis.bind fun _ => Result.failsOnly_ok _

mutual

/-- A frame that cannot be searched ends the search. -/
theorem creationsOf_ends : ∀ frame : Json, Result.FailsOnly Ends (creationsOf frame)
  | .record members => by
    rw [creationsOf_record]
    split
    · exact Result.failsOnly_ok _
    · exact creationsBeneath_ends members
  | .null | .bool _ | .int _ | .real _ | .text _ | .list _ => Result.failsOnly_error rfl

/-- Members that cannot be searched end the search. -/
theorem creationsBeneath_ends :
    ∀ members : List (String × Json), Result.FailsOnly Ends (creationsBeneath members)
  | [] => Result.failsOnly_ok _
  | (name, value) :: rest => by
    rw [creationsBeneath]
    split
    · split
      · exact creations_ends value
      · exact Result.failsOnly_ok _
    · exact creationsBeneath_ends rest

/-- Calls that cannot be searched end the search. -/
theorem creations_ends : ∀ calls : Json, Result.FailsOnly Ends (creations calls)
  | .list calls => creationsAmong_ends calls
  | .text value => by
    rw [creations]
    split
    · exact Result.failsOnly_ok _
    · exact Result.failsOnly_error rfl
  | .record members => by
    rw [creations]
    split
    · exact Result.failsOnly_ok _
    · exact Result.failsOnly_error rfl
  | .null | .bool _ | .int _ | .real _ => Result.failsOnly_error rfl

/-- A list of calls that cannot be searched ends the search. -/
theorem creationsAmong_ends :
    ∀ calls : List Json, Result.FailsOnly Ends (creationsAmong calls)
  | [] => Result.failsOnly_ok _
  | call :: rest => by
    rw [creationsAmong]
    exact (creationsOf_ends call).bind fun _ =>
      (creationsAmong_ends rest).bind fun _ => Result.failsOnly_ok _

end

/-- What the first creation that decides anything cannot decide ends the search. -/
theorem findSome_ends {form : TraceForm} {address : String} {creations : List Json} {fault : Fault}
    (first : creations.findSome? (decided form address) = some (.error fault)) : Ends fault := by
  obtain ⟨creation, -, here⟩ := List.exists_of_findSome?_eq_some first
  exact decides_ends (addressOf_ends form creation) (codeOf_ends form creation) here

/-- A fault that ends the search is settled on. -/
theorem settledBy_fault {α : Type} {fault : Fault} (ends : Ends fault) :
    Chain.settledBy (.error (.fault fault) : Except Failure (Option α)) =
      some (.error (.fault fault)) := by
  rw [Chain.settledBy, Failure.isPassedOn, ends]
  rfl

/-- Whether a value is an address decides which way the search goes on. -/
theorem isAddress_bind {α : Type} (found : Json) (address : String) (code : Except Fault Json)
    (own : Except Fault Json → Except Failure α) (other : Except Failure α)
    (failing : ∀ fault, own (.error fault) = .error (.fault fault)) :
    (do if ← (liftM (isAddress found address) : Except Failure Bool) then own code else other) =
      match decides address (.ok found) code with
      | some code => own code
      | none => other := by
  cases found with
  | text name =>
    rw [isAddress_text, decides]
    change (if (Text.lower name.toList == Text.lower address.toList) = true then own code
      else other) = _
    by_cases same : Text.lower name.toList = Text.lower address.toList
    · rw [if_pos same, if_pos (beq_iff_eq.mpr same)]
    · rw [if_neg same, if_neg (by simpa using same)]
  | _ => exact (failing .wrongKind).symm

/-- What an entry has to tell for its address: the code, or a failure if it says nothing. -/
def toldBy (code : Except Fault Json) : Except Failure (Option Json) := do
  let code ← (liftM code : Except Failure Json)
  if code.holds then return some code else .error (.chain .noInitCode)

/-- A code is told if it says something. -/
theorem toldBy_ok (code : Json) :
    toldBy (.ok code) =
      if code.holds then .ok (some code) else .error (.chain .noInitCode) := rfl

/-- The code of an entry is read in two steps. -/
theorem toldBy_codeOf (entry : Json) :
    (do
      let action ← (liftM (entry.memberD "action" (.record [])) : Except Failure Json)
      let code ← (liftM (action.memberD "init" .null) : Except Failure Json)
      if code.holds then return some code else .error (.chain .noInitCode)) =
      toldBy (TraceForm.listed.codeOf entry) := by
  rw [TraceForm.codeOf]
  cases entry.memberD "action" (.record []) <;> rfl

/-- An entry that decides nothing leaves it to those behind. -/
theorem codeIn_cons (address : String) (entry : Json) (rest : List Json) :
    codeIn address (entry :: rest) =
      match decided .listed address entry with
      | some code => toldBy code
      | none => codeIn address rest := by
  rw [codeIn, decided, TraceForm.addressOf]
  cases created entry with
  | error fault => rfl
  | ok result =>
    rw [Failure.lift_ok_bind]
    change _ = match decides address (result.memberD "address" (.text "")) _ with
      | some code => toldBy code
      | none => _
    cases result.memberD "address" (.text "") with
    | error fault => rfl
    | ok found =>
      rw [Failure.lift_ok_bind, toldBy_codeOf,
        isAddress_bind found address (TraceForm.codeOf .listed entry) toldBy _ fun fault => rfl]

/-- The code of an address in entries is what the first entry that decides has to tell. -/
theorem codeIn_decided (address : String) (entries : List Json) :
    codeIn address entries =
      match entries.findSome? (decided .listed address) with
      | some code => toldBy code
      | none => .ok none := by
  induction entries with
  | nil => rfl
  | cons entry rest inductive_hypothesis =>
    rw [codeIn_cons, List.findSome?_cons, inductive_hypothesis]
    cases decided .listed address entry <;> rfl

/-- A frame that decides nothing leaves it to those behind. -/
theorem inputIn_cons (hash address : String) (frame : Json) (rest : List Json) :
    inputIn hash address (frame :: rest) =
      match decided .nested address frame with
      | some code => liftM code
      | none => inputIn hash address rest := by
  rw [inputIn, decided, TraceForm.addressOf, TraceForm.codeOf]
  cases frame.memberD "to" (.text "") with
  | error fault => rfl
  | ok found =>
    rw [Failure.lift_ok_bind, isAddress_bind found address (frame.member "input") liftM _
      fun fault => rfl]

/-- The input for an address in frames is what the first frame that decides has to tell. -/
theorem inputIn_decided (hash address : String) (frames : List Json) :
    inputIn hash address frames =
      match frames.findSome? (decided .nested address) with
      | some code => liftM code
      | none => .error (.chain (.noCreateCall address hash)) := by
  induction frames with
  | nil => rfl
  | cons frame rest inductive_hypothesis =>
    rw [inputIn_cons, List.findSome?_cons, inductive_hypothesis]
    cases decided .nested address frame <;> rfl

/-- An address that decides nothing is a text, or it is absent: then any other text may stand for
it. -/
theorem memberD_of_undecided {address key other : String} {result : Json}
    {code : Except Fault Json}
    (undecided : decides address (result.memberD key (.text "")) code = none) :
    ∃ name, result.memberD key (.text other) = .ok (.text name) := by
  cases result with
  | record members =>
    change decides address (.ok ((Table.get? members key).getD (.text ""))) code = none at undecided
    change ∃ name, Except.ok ((Table.get? members key).getD (.text other)) = _
    cases there : Table.get? members key with
    | none => exact ⟨other, rfl⟩
    | some value =>
      rw [there] at undecided
      cases value with
      | text name => exact ⟨name, rfl⟩
      | _ => cases undecided
  | _ => cases undecided

/-- The addresses of entries that decide nothing can be put into words. -/
theorem addressesIn_of_undecided {address : String} {entries : List Json}
    (undecided : entries.findSome? (decided .listed address) = none) :
    ∃ addresses, addressesIn entries = .ok addresses := by
  induction entries with
  | nil => exact ⟨[], rfl⟩
  | cons entry rest inductive_hypothesis =>
    rw [List.findSome?_cons] at undecided
    split at undecided
    · cases undecided
    · rename_i here
      obtain ⟨others, told⟩ := inductive_hypothesis undecided
      rw [decided, TraceForm.addressOf] at here
      rw [addressesIn, told]
      cases read : created entry with
      | error fault =>
        rw [read] at here
        cases here
      | ok result =>
        rw [read] at here
        obtain ⟨name, named⟩ := memberD_of_undecided here
        refine ⟨name :: others, ?_⟩
        simp only [bind, Except.bind]
        rw [named]
        rfl

/-- What is settled by looking through a list of entries is what the list settles. -/
theorem settledBy_codeInList (provider : Provider) (hash address : String) (trace : Json) :
    Chain.settledBy ((codeInList provider hash address trace).map some) =
      (settledIn .listed address trace).map (Except.mapError Failure.fault) := by
  cases trace with
  | list entries =>
    cases entries with
    | nil => rfl
    | cons first rest =>
      rw [codeInList, settledIn, TraceForm.creationsIn]
      cases taken : createEntries (first :: rest) with
      | error fault => exact settledBy_fault (createEntries_ends _ fault taken)
      | ok creations =>
        rw [Failure.lift_ok_bind, codeIn_decided]
        change _ = (settledAmong .listed address creations).map _
        rw [settledAmong]
        cases decisive : creations.findSome? (decided .listed address) with
        | none =>
          obtain ⟨addresses, told⟩ := addressesIn_of_undecided decisive
          change Chain.settledBy (Except.map some (do
            let addresses ← (liftM (addressesIn creations) : Except Failure (List String))
            _)) = _
          rw [told]
          rfl
        | some code =>
          cases code with
          | error fault => exact settledBy_fault (findSome_ends decisive)
          | ok code =>
            change Chain.settledBy (Except.map some (toldBy (.ok code) >>= _)) =
              (if code.holds = true then _ else _ : Option (Except Fault Json)).map _
            rw [toldBy_ok]
            by_cases holds : code.holds = true
            · rw [if_pos holds, if_pos holds]
              rfl
            · rw [if_neg holds, if_neg holds]
              rfl
  | _ => rfl

/-- What is settled by looking through a tree of calls is what the tree settles. -/
theorem settledBy_codeInTree (provider : Provider) (hash address : String) (trace : Json) :
    Chain.settledBy ((codeInTree provider hash address trace).map some) =
      (settledIn .nested address trace).map (Except.mapError Failure.fault) := by
  cases trace with
  | record members =>
    rw [codeInTree, settledIn, TraceForm.creationsIn]
    cases Table.get? members "calls" with
    | none => rfl
    | some calls =>
      change Chain.settledBy (Except.map some (if calls.holds = true then _ else _)) =
        Option.map _ (match (if calls.holds = true then _ else _ : Except Fault (List Json)) with
          | .ok creations => _
          | .error fault => _)
      by_cases holds : calls.holds = true
      · rw [if_pos holds, if_pos holds]
        cases searched : creations calls with
        | error fault => exact settledBy_fault (creations_ends calls fault searched)
        | ok frames =>
          rw [Failure.lift_ok_bind, inputIn_decided]
          change _ = (settledAmong .nested address frames).map _
          rw [settledAmong]
          cases decisive : frames.findSome? (decided .nested address) with
          | none => rfl
          | some code =>
            cases code with
            | error fault => exact settledBy_fault (findSome_ends decisive)
            | ok code => rfl
      · rw [if_neg holds, if_neg holds]
        rfl
  | _ => rfl

/-- What is settled by looking through a trace is what the trace settles. -/
theorem settledBy_search (form : TraceForm) (provider : Provider) (hash address : String)
    (trace : Json) :
    Chain.settledBy ((form.search provider hash address trace).map some) =
      (settledIn form address trace).map (Except.mapError Failure.fault) := by
  cases form with
  | listed => exact settledBy_codeInList provider hash address trace
  | nested => exact settledBy_codeInTree provider hash address trace

/-- Whether a trace tells of the creation of an address by a code. -/
def Tells (form : TraceForm) (address : String) (code trace : Json) : Prop :=
  match form with
  | .listed => ∃ entries, trace = .list entries ∧ ∃ entry ∈ entries, EntryOf address code entry
  | .nested => ∃ frame, Relation.TransGen Json.Calls trace frame ∧ FrameOf address code frame

/-- A code that a trace settles is one that it tells. -/
theorem tells_of_settledIn {form : TraceForm} {address : String} {code trace : Json}
    (settled : settledIn form address trace = some (.ok code)) : Tells form address code trace := by
  -- Any provider and transaction do: they go into the words of failures only.
  let provider : Provider := { url := "" }
  have told := settledBy_search form provider "" address trace
  rw [settled] at told
  cases found : form.search provider "" address trace with
  | error failure =>
    rw [found] at told
    change (if failure.isPassedOn = true then none else _) = _ at told
    split at told <;> cases told
  | ok given =>
    rw [found] at told
    obtain rfl : given = code := Except.ok.inj (Option.some.inj told)
    cases form with
    | listed => exact codeInList_sound found
    | nested => exact codeInTree_sound found

/-- Whether what a trace of a form has for a creation reads as that. -/
def Reads (form : TraceForm) (creation : Creation) (told : Json) : Prop :=
  (∃ name, form.addressOf told = .ok (.text name) ∧
    Text.lower name.toList = creation.address) ∧ form.codeOf told = .ok creation.code

/-- Whether everything that a trace has for a creation can be read. -/
def Legible (form : TraceForm) (trace : Json) (creations : List Creation) : Prop :=
  ∃ found, form.creationsIn trace = .ok found ∧ List.Forall₂ (Reads form) creations found

/-- The first of creations that can be read decides whose address is the one looked for. -/
theorem findSome_of_reads {form : TraceForm} {creations : List Creation} {found : List Json}
    (reads : List.Forall₂ (Reads form) creations found) (address : String) :
    found.findSome? (decided form address) = (Creation.codeAt address creations).map .ok := by
  induction reads with
  | nil => rfl
  | @cons creation _ _ _ first _ inductive_hypothesis =>
    obtain ⟨⟨name, named, small⟩, told⟩ := first
    rw [List.findSome?_cons, inductive_hypothesis, Creation.codeAt_cons, Creation.isAt, decided,
      named, told, decides, small]
    by_cases same : creation.address = Text.lower address.toList
    · rw [if_pos same, if_pos (beq_iff_eq.mpr same)]
      rfl
    · rw [if_neg same, if_neg (by simpa using same)]

/-- A trace of which everything can be read settles the code of the first creation of the address, if
there is one whose code is taken. -/
theorem settledIn_of_legible {form : TraceForm} {trace : Json} {creations : List Creation}
    (legible : Legible form trace creations) (address : String) :
    settledIn form address trace =
      ((Creation.codeAt address creations).filter form.takes).map .ok := by
  obtain ⟨found, searched, reads⟩ := legible
  rw [settledIn, searched]
  change settledAmong form address found = _
  rw [settledAmong, findSome_of_reads reads]
  cases Creation.codeAt address creations with
  | none => rfl
  | some code =>
    change (if form.takes code = true then _ else _) = _
    rw [Option.filter_some]
    split <;> rfl

end Trace

/-- The form in which a provider gives traces, if it gives any. -/
def Provider.form (provider : Provider) : TraceForm :=
  (TraceForm.ofMethod? provider.traces).getD .listed

namespace Chain

/-- What the reply of a provider settles, none if it is passed on. -/
def tracedBy (limit : Option Rat) (address : String) (provider : Provider)
    (reply : Option NetworkReply) : Option (Except Failure Json) :=
  match Verdict.ofReply (fun _ => true) limit reply with
  | .accepted trace =>
    (Trace.settledIn provider.form address trace).map (Except.mapError Failure.fault)
  | .passed => none
  | .foreign => some (.error (.fault .wrongKind))

/-- The question for a trace that is put to a provider. -/
def traceQuestion (hash : String) (provider : Provider) : Question :=
  ⟨provider, provider.form.method, provider.form.parameters hash⟩

/-- The code in a trace is looked for in what the provider answers. -/
theorem tracedCode_eq (form : TraceForm) (provider : Provider) (hash address : String) :
    tracedCode form provider hash address = (do
      let trace ← send provider form.method (form.parameters hash)
      (liftM (form.search provider hash address trace) : Attempt Chain Json)) := by
  cases form <;> rfl

/-- A provider that gives traces in a known form is asked once, and the next reply says what is
settled. -/
theorem askTraced_asksOnce (limit : Option Rat) (hash address : String) {provider : Provider}
    (known : (TraceForm.ofMethod? provider.traces).isSome = true) :
    AsksOnce limit (askTraced hash address) (traceQuestion hash) (tracedBy limit address)
      provider := by
  intro chain timed
  obtain ⟨form, traces⟩ := Option.isSome_iff_exists.mp known
  have form_eq : provider.form = form := by
    rw [Provider.form, traces]
    rfl
  obtain ⟨clock, sent⟩ := send_ended timed provider form.method (form.parameters hash)
  have governs := governs_ofReply (fun _ => true) limit chain.network.replies.head? provider
    form.method ""
  have all (answer : Except Failure Json) :
      answer >>= judged (fun _ => true) provider "" = answer := by
    cases answer <;> rfl
  rw [all] at governs
  rw [askTraced, traces, traceQuestion, tracedBy, form_eq]
  change ∃ outcome clock, (do return some (← tracedCode form provider hash address) :
    Attempt Chain (Option Json)).ended chain = _ ∧ _
  rw [tracedCode_eq, ended_bind, ended_bind, sent]
  generalize answer limit chain.network.replies.head? provider form.method = answered at governs
  cases said : Verdict.ofReply (fun _ => true) limit chain.network.replies.head? with
  | accepted trace =>
    rw [said] at governs
    obtain rfl := governs
    refine ⟨(form.search provider hash address trace).map some, clock, ?_,
      Trace.settledBy_search form provider hash address trace⟩
    have looked (middle : Chain) :
        (liftM (form.search provider hash address trace) : Attempt Chain Json).ended middle =
          (form.search provider hash address trace, middle) := rfl
    dsimp only
    rw [looked]
    cases form.search provider hash address trace <;> rfl
  | passed =>
    rw [said] at governs
    obtain ⟨failure, rfl, passes⟩ := governs
    exact ⟨.error failure, clock, rfl, if_pos passes⟩
  | foreign =>
    rw [said] at governs
    obtain rfl := governs
    exact ⟨.error (.fault .wrongKind), clock, rfl, rfl⟩

/-- The providers that give traces in a known form. -/
def tracers (chain : Chain) : List Provider :=
  chain.providers.filter fun provider => (TraceForm.ofMethod? provider.traces).isSome

/-- What comes of looking for a creation code, given what each provider settles. -/
def tracedOutcome (chain : Chain) (hash address : String)
    (settled : List (Option (Except Failure Json))) : Except Failure Json :=
  if chain.providers.any (·.traces.holds) then
    match firstSettled settled with
    | .ok (some code) => .ok code
    | .ok none => .error (.chain (.creationNotTraced address hash chain.id))
    | .error failure => .error failure
  else .error (.chain (.noTraces chain.id))

/-- An action that looks for a creation code in the traces of providers in turn: one request to each,
up to the first whose reply settles the matter. -/
structure TracesInTurn (chain : Chain) (limit : Option Rat) (hash address : String)
    (action : Attempt Chain Json) : Prop where
  /-- The first reply that settles the matter says what comes of it. If none does, the code is not
  there. -/
  outcome : (action.ended chain).1 = chain.tracedOutcome hash address
    (settlements (tracedBy limit address) chain.tracers chain.network.replies)
  /-- Each provider up to that reply is asked once, in order, and nothing else is done. -/
  asked : ∃ clock, (action.ended chain).2 = chain.questioned ((chain.tracers.take
    (settledCount (settlements (tracedBy limit address) chain.tracers chain.network.replies))).map
      (traceQuestion hash)) clock

/-- A method that asks for a form is a text that says something. -/
theorem holds_of_form {traces : Json} (known : (TraceForm.ofMethod? traces).isSome = true) :
    traces.holds = true := by
  obtain ⟨form, found⟩ := Option.isSome_iff_exists.mp known
  rw [TraceForm.ofMethod?] at found
  have text := List.find?_some found
  obtain rfl := Json.isText_eq_true_iff.mp text
  cases form <;> rfl

/-- Those of which traces are asked are among those that say that they give some. -/
theorem tracers_eq (chain : Chain) :
    chain.tracers = (chain.providers.filter (·.traces.holds)).filter
      fun provider => (TraceForm.ofMethod? provider.traces).isSome := by
  rw [tracers, List.filter_filter]
  refine List.filter_congr fun provider _ => ?_
  cases known : (TraceForm.ofMethod? provider.traces).isSome with
  | true => rw [holds_of_form known, Bool.and_true]
  | false => rw [Bool.false_and]

/-- The creation code of a contract is looked for in the traces of providers in turn. -/
theorem factoryCode_inTurn {chain : Chain} {limit : Option Rat}
    (timed : chain.settings.timeout.seconds = .ok limit) (hash address : String) :
    chain.TracesInTurn limit hash address (factoryCode hash address) := by
  let settled := settlements (tracedBy limit address) chain.tracers chain.network.replies
  have whole : ∃ clock, (factoryCode hash address).ended chain =
      (chain.tracedOutcome hash address settled,
        chain.questioned ((chain.tracers.take (settledCount settled)).map (traceQuestion hash))
          clock) := by
    rw [factoryCode, ended_get_bind]
    dsimp only
    cases some : chain.providers.any (·.traces.holds) with
    | false =>
      have none : chain.providers.filter (·.traces.holds) = [] := by
        rw [List.filter_eq_nil_iff]
        exact List.any_eq_false.mp some
      refine ⟨chain.network.clock, ?_⟩
      rw [tracedOutcome, some, tracers_eq, none, List.filter_nil, List.take_nil, List.map_nil,
        questioned_nil]
      rfl
    | true =>
      have listed : (chain.providers.filter (·.traces.holds)).isEmpty = false := by
        obtain ⟨provider, known, holds⟩ := List.any_eq_true.mp some
        exact List.isEmpty_eq_false_iff_exists_mem.mpr
          ⟨provider, List.mem_filter.mpr ⟨known, holds⟩⟩
      have idle (provider : Provider)
          (unknown : (TraceForm.ofMethod? provider.traces).isSome = false) :
          askTraced hash address provider = pure none := by
        rw [askTraced, Option.isNone_iff_eq_none.mp (Option.isSome_eq_false_iff.mp unknown)]
      have each : ∀ provider ∈ chain.tracers, AsksOnce limit (askTraced hash address)
          (traceQuestion hash) (tracedBy limit address) provider := fun provider among =>
        askTraced_asksOnce limit hash address (List.mem_filter.mp among).2
      obtain ⟨clock, ended⟩ := firstAnswer_settled each timed
      refine ⟨clock, ?_⟩
      rw [listed]
      change (firstAnswer (askTraced hash address) _ >>= _ : Attempt Chain Json).ended chain = _
      rw [ended_bind, firstAnswer_filter idle, ← tracers_eq, ended, tracedOutcome, some]
      cases firstSettled settled with
      | error failure => rfl
      | ok found => cases found <;> rfl
  obtain ⟨clock, ended⟩ := whole
  exact ⟨congrArg Prod.fst ended, clock, congrArg Prod.snd ended⟩

/-- The creation code of a contract is looked for in the traces of providers in turn: each is asked
once, up to the first whose reply settles the matter. A code that a trace settles is one that it tells
for the address. A trace of which everything can be read settles the code of the first creation of the
address, if there is one whose code is taken, and nothing otherwise. -/
theorem factoryCode_in_turn {chain : Chain} {limit : Option Rat}
    (timed : chain.settings.timeout.seconds = .ok limit) (hash address : String) :
    chain.TracesInTurn limit hash address (factoryCode hash address) ∧
      ∀ (form : TraceForm) (trace : Json),
        (∀ code, Trace.settledIn form address trace = some (.ok code) →
          Trace.Tells form address code trace) ∧
        ∀ creations, Trace.Legible form trace creations →
          Trace.settledIn form address trace =
            ((Creation.codeAt address creations).filter form.takes).map .ok :=
  ⟨factoryCode_inTurn timed hash address, fun _ _ =>
    ⟨fun _ => Trace.tells_of_settledIn, fun _ legible =>
      Trace.settledIn_of_legible legible address⟩⟩

/-- A provider with an address that gives traces in a form. -/
def tracer (url : String) (form : TraceForm) : Provider := ⟨url, .record [], .text form.method⟩

/-- A chain with a provider that sends traces too late, one whose trace is empty, one whose trace has
another contract, and one that sends the entries of the sample. -/
def sampleTracers : Chain where
  id := 1
  name := "1"
  settings := {}
  providers := [tracer "http://first" .nested, tracer "http://second" .listed,
    tracer "http://third" .nested, tracer "http://fourth" .listed]
  network := {
    replies := [.broken .late, .pieces 200 [(0, "\x7b\"result\":[]\x7d")]] ++
      sampleNested.network.replies ++ sampleListed.network.replies }

/-- The code of the second contract of the sample is found by the fourth provider, all before it being
asked. -/
theorem factoryCode_in_turn_sample :
    sampleTracers.settings.timeout.seconds = .ok (some 10) ∧
      ((factoryCode "0x01" "0xcC").ended sampleTracers).1 = .ok (.text "0x62") ∧
      ((factoryCode "0x01" "0xcC").ended sampleTracers).2.network.requests.map NetworkRequest.url =
        ["http://first", "http://second", "http://third", "http://fourth"] := by
  have timed : sampleTracers.settings.timeout.seconds = .ok (some 10) := rfl
  obtain ⟨⟨outcome, clock, asked⟩, -⟩ := factoryCode_in_turn timed "0x01" "0xcC"
  have all : settledCount (settlements (tracedBy (some 10) "0xcC") sampleTracers.tracers
      sampleTracers.network.replies) = 4 := by decide +kernel
  refine ⟨timed, ?_, ?_⟩
  · rw [outcome]
    decide +kernel
  · rw [asked, all]
    rfl

/-- A chain with a provider that tells of a creation that came to nothing, and one that sends the
entries of the sample. -/
def sampleFailed : Chain where
  id := 1
  name := "1"
  settings := {}
  providers := [tracer "http://first" .listed, tracer "http://second" .listed]
  network := {
    replies := .pieces 200 [(0, "\x7b\"result\":[\x7b\"type\":\"create\"," ++
      "\"result\":\x7b\"address\":null\x7d\x7d]\x7d")] :: sampleListed.network.replies }

/-- A creation at no address settles the matter with a fault, and the second provider of the sample,
which tells of the contract, is not asked. -/
theorem created_at_nothing_settles :
    ((factoryCode "0x01" "0xcc").ended sampleFailed).1 = .error (.fault .wrongKind) ∧
      ((factoryCode "0x01" "0xcc").ended sampleFailed).2.network.requests.length = 1 ∧
      tracedBy (some 10) "0xcc" (tracer "http://second" .listed)
        sampleFailed.network.replies[1]? = some (.ok (.text "0x62")) := by
  decide +kernel

end Chain

end Attest
