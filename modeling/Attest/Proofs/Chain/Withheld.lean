import Attest.Proofs.Chain.Keyed
import Attest.Proofs.Chain.Provenance

/-!
# Keys and what a chain says of itself

Two chains that are the same but for the keys in the addresses of their providers get the same
replies to what they ask. What they ask of their providers in turn comes to the same, failures
included, for those that name a provider are passed over. What one provider alone is asked for comes
to the same but for the words for the provider in a failure (`Failure.Renamed`), and these hold the
key if the address has its place in front of the query (`Chain.keys_withheld`).
-/
namespace Attest

open Attempt

/-- Failures that are the same but for the words for a provider in them. -/
inductive Failure.Renamed (words words' : String) : Failure → Failure → Prop
  | refl (failure : Failure) : Renamed words words' failure failure
  | refused (method text : String) : Renamed words words' (.chain (.refused method words text))
    (.chain (.refused method words' text))
  | notFound (description : String) : Renamed words words' (.chain (.notFound description words))
    (.chain (.notFound description words'))
  | malformedTraces (hash : String) : Renamed words words' (.chain (.malformedTraces hash words))
    (.chain (.malformedTraces hash words'))

namespace Failure.Renamed

variable {words words' : String} {one other : Failure}

/-- The words for a provider make no difference to programs. -/
theorem alike (renamed : Renamed words words' one other) : one.Alike other := by
  cases renamed with
  | refl => exact .refl _
  | refused | notFound | malformedTraces => exact .chain rfl

/-- Failures with the same words for a provider are the same. -/
theorem eq (renamed : Renamed words words one other) : one = other := by
  cases renamed <;> rfl

/-- A failure with words for a provider in it is passed on. -/
theorem passesAs_eq : Chain.PassesAs (Renamed words words') Eq := by
  rintro one other renamed
  cases renamed with
  | refl => exact ⟨rfl, fun _ => rfl⟩
  | refused | notFound | malformedTraces => exact ⟨rfl, nofun⟩

end Failure.Renamed

open Failure (Renamed)

section OneProvider

variable (provider provider' : Provider)

namespace Trace

/-- The code in a list of entries is the same for all providers. -/
theorem codeInList_renamed (hash address : String) (traces : Json) :
    Result.Related (Renamed provider.describe provider'.describe) Eq
      (codeInList provider hash address traces) (codeInList provider' hash address traces) := by
  unfold codeInList
  split
  · exact .refl .refl _
  · exact .error (.malformedTraces hash)

/-- The code in a tree of calls is the same for all providers. -/
theorem codeInTree_renamed (hash address : String) (trace : Json) :
    Result.Related (Renamed provider.describe provider'.describe) Eq
      (codeInTree provider hash address trace) (codeInTree provider' hash address trace) := by
  unfold codeInTree
  split
  · split
    · split
      · exact .refl .refl _
      · exact .error (.malformedTraces hash)
    · exact .error (.malformedTraces hash)
  · exact .error (.malformedTraces hash)

end Trace

namespace Chain

/-- The result in a body is the same for all providers. -/
theorem resultOf_renamed (method : String) (body : List UInt8) :
    Result.Related (Renamed provider.describe provider'.describe) Eq
      (resultOf provider method body) (resultOf provider' method body) := by
  refine .bind_same .refl fun data => .bind_same .refl fun error => ?_
  split
  · exact .error (.refused method error.plain)
  · exact .refl .refl _

/-- What a reply answers is the same for all providers. -/
theorem answer_renamed (limit : Option Rat) (reply : Option NetworkReply) (method : String) :
    Result.Related (Renamed provider.describe provider'.describe) Eq
      (answer limit reply provider method) (answer limit reply provider' method) :=
  .bind_same .refl fun body => resultOf_renamed provider provider' method body

end Chain

end OneProvider

namespace Chain

/-- Two chains with given providers that are the same otherwise and get the same replies. -/
structure Abreast (providers providers' : List Provider) (chain twin : Chain) : Prop where
  /-- The providers of one. -/
  providers : chain.providers = providers
  /-- The providers of the other. -/
  providers' : twin.providers = providers'
  /-- They have the same number. -/
  id : twin.id = chain.id
  /-- They have the same settings. -/
  settings : twin.settings = chain.settings
  /-- The same replies are still to come. -/
  replies : twin.network.replies = chain.network.replies

variable {values : List Json} {known known' : List Provider}

/-- Asking one provider comes to the same for all providers. -/
theorem send_renamed (provider provider' : Provider) (method : String) (parameters : List Json) :
    Related (Abreast known known') (Renamed provider.describe provider'.describe) Eq
      (send provider method parameters) (send provider' method parameters) := by
  intro chain twin abreast
  cases timed : chain.settings.timeout.seconds with
  | error fault =>
    have untimed : twin.settings.timeout.seconds = .error fault := by rw [abreast.settings, timed]
    rw [send_untimed timed, send_untimed untimed]
    exact ⟨.error (.refl _), { abreast with }⟩
  | ok limit =>
    have timed' : twin.settings.timeout.seconds = .ok limit := by rw [abreast.settings, timed]
    obtain ⟨clock, ended⟩ := send_ended timed provider method parameters
    obtain ⟨clock', ended'⟩ := send_ended timed' provider' method parameters
    rw [ended, ended', abreast.replies]
    exact ⟨answer_renamed provider provider' limit _ method,
      { abreast with replies := congrArg List.tail abreast.replies }⟩

/-- Asking one provider for an acceptable answer comes to the same for all providers. -/
theorem sendFor_renamed (accept : Json → Bool) (provider provider' : Provider) (method : String)
    (parameters : List Json) (description : String) :
    Related (Abreast known known') (Renamed provider.describe provider'.describe) Eq
      (sendFor accept provider method parameters description)
      (sendFor accept provider' method parameters description) := by
  refine (send_renamed provider provider' method parameters).bind ?_
  rintro result _ rfl
  split
  · exact .pure rfl
  · exact .throw (.notFound description)

/-- Asking one provider for the trace of a transaction comes to the same for all providers. -/
theorem tracedCode_renamed (form : TraceForm) (provider provider' : Provider)
    (hash address : String) :
    Related (Abreast known known') (Renamed provider.describe provider'.describe) Eq
      (tracedCode form provider hash address) (tracedCode form provider' hash address) := by
  cases form with
  | listed =>
    refine (send_renamed provider provider' _ _).bind ?_
    rintro traces _ rfl
    exact .taken (Trace.codeInList_renamed provider provider' hash address traces)
  | nested =>
    refine (send_renamed provider provider' _ _).bind ?_
    rintro trace _ rfl
    exact .taken (Trace.codeInTree_renamed provider provider' hash address trace)

/-- Twins that are asked for traces, each in its own form, settle the same. -/
theorem traced_settle {tracing tracing' : List Provider}
    (twins : List.Forall₂ (Provider.Twins values) tracing tracing') (hash address : String) :
    List.Forall₂ (fun provider provider' => ∃ inner, PassesAs inner Eq ∧
      Related (Abreast known known') inner Eq
        (match TraceForm.ofMethod? provider.traces with
        | some form => do return some (← tracedCode form provider hash address)
        | none => return none)
        (match TraceForm.ofMethod? provider'.traces with
        | some form => do return some (← tracedCode form provider' hash address)
        | none => return none)) tracing tracing' := by
  refine twins.imp fun provider provider' twin =>
    ⟨Renamed provider.describe provider'.describe, Renamed.passesAs_eq, ?_⟩
  rw [twin.traces]
  split
  · refine (tracedCode_renamed _ provider provider' hash address).bind ?_
    rintro code _ rfl
    exact .pure rfl
  · exact .pure rfl

section Twins

variable (twins : List.Forall₂ (Provider.Twins values) known known')
include twins

/-- A question put to twins in turn comes to the same. -/
theorem request_related (accept : Json → Bool) (method : String) (parameters : List Json)
    (description : String) :
    Related (Abreast known known') Eq Eq (request accept method parameters description)
      (request accept method parameters description) := by
  have each (provider provider' : Provider) :
      Related (Abreast known known') (Renamed provider.describe provider'.describe) Eq
        (do return some (← sendFor accept provider method parameters description))
        (do return some (← sendFor accept provider' method parameters description)) := by
    refine (sendFor_renamed accept provider provider' method parameters description).bind ?_
    rintro answer _ rfl
    exact .pure rfl
  refine .get_bind fun chain twin abreast => ?_
  rw [abreast.providers, abreast.providers', abreast.id]
  refine (firstAnswer_related (twins.imp fun provider provider' _ =>
    ⟨_, Renamed.passesAs_eq, each provider provider'⟩)).bind ?_
  rintro found _ rfl
  cases found with
  | some answer => exact .pure rfl
  | none => exact .throw rfl

/-- The code at an address that twins tell is the same. -/
theorem bytecode_related (address : String) (block : Option Int) :
    Related (Abreast known known') Eq Eq (bytecode address block) (bytecode address block) := by
  refine (Related.taken (.refl (fun _ => rfl) (Address.ofText address))).bind ?_
  rintro checked _ rfl
  exact request_related twins _ _ _ _

/-- The code that the traces of twins tell is the same. -/
theorem factoryCode_related (hash address : String) :
    Related (Abreast known known') Eq Eq (factoryCode hash address) (factoryCode hash address) := by
  have tracing : List.Forall₂ (Provider.Twins values) (known.filter (·.traces.holds))
      (known'.filter (·.traces.holds)) :=
    List.rel_filter (fun {provider provider'} twin => by dsimp only; rw [twin.traces]) twins
  have none_tracing : (known'.filter (·.traces.holds)).isEmpty =
      (known.filter (·.traces.holds)).isEmpty := by
    rw [Bool.eq_iff_iff, List.isEmpty_iff_length_eq_zero, List.isEmpty_iff_length_eq_zero,
      tracing.length_eq]
  refine .get_bind fun chain twin abreast => ?_
  rw [abreast.providers, abreast.providers', abreast.id]
  dsimp only
  rw [none_tracing]
  split
  · exact fun _ _ kept => ⟨.error rfl, kept⟩
  · refine (firstAnswer_related (traced_settle tracing hash address)).bind ?_
    rintro found _ rfl
    cases found with
    | some code => exact .pure rfl
    | none => exact .throw rfl

/-- The code that a receipt and a transaction give is the same for twins. -/
theorem codeBy_related (address hash : String) (receipt transaction : Json) :
    Related (Abreast known known') Eq Eq (codeBy address hash receipt transaction)
      (codeBy address hash receipt transaction) := by
  refine .reading_bind (fun _ => rfl) fun created _ => ?_
  split
  · refine .reading_bind (fun _ => rfl) fun own _ => ?_
    split
    · exact .reading_bind (fun _ => rfl) fun code _ => .pure rfl
    · exact .throw rfl
  · refine (factoryCode_related twins hash address).bind ?_
    rintro code _ rfl
    exact .pure rfl

/-- The creation of a contract that twins tell is the same. -/
theorem creation_related (address hash : String) (transaction : Option Json) :
    Related (Abreast known known') Eq Eq (creation address hash transaction)
      (creation address hash transaction) := by
  refine (request_related twins _ _ _ _).bind ?_
  rintro receipt _ rfl
  cases transaction with
  | some transaction => exact codeBy_related twins address hash receipt transaction
  | none =>
    refine (request_related twins _ _ _ _).bind ?_
    rintro transaction _ rfl
    exact codeBy_related twins address hash receipt transaction

end Twins

/-- What a chain can be asked for. -/
inductive Operation where
  /-- The code at an address. -/
  | bytecode (address : String) (block : Option Int)
  /-- A transaction. -/
  | transaction (hash : String)
  /-- The receipt of a transaction. -/
  | receipt (hash : String)
  /-- The creation code of a contract that another contract created. -/
  | factoryCode (hash address : String)
  /-- The creation code of a contract and the receipt of the transaction that created it. -/
  | creation (address hash : String) (transaction : Option Json)
  /-- The creation code in the trace that the provider at a place gives. -/
  | tracedCode (form : TraceForm) (place : Nat) (hash address : String)

namespace Operation

/-- What is done for what is asked. Of a provider that is not there nothing is asked. -/
def act : Operation → Attempt Chain (List Json)
  | bytecode address block => do return [← Chain.bytecode address block]
  | transaction hash => do return [← Chain.transaction hash]
  | receipt hash => do return [← Chain.receipt hash]
  | factoryCode hash address => do return [← Chain.factoryCode hash address]
  | creation address hash given => do
    let found ← Chain.creation address hash given
    return [found.1, found.2]
  | tracedCode form place hash address => do
    match (← get).providers[place]? with
    | some provider => return [← Chain.tracedCode form provider hash address]
    | none => return []

/-- Whether the providers are asked in turn, and not one of them alone. -/
def inTurn : Operation → Bool
  | tracedCode .. => false
  | _ => true

/-- The words for the provider that is asked alone, where one is. -/
def words (providers : List Provider) : Operation → String
  | tracedCode _ place _ _ => (providers[place]?.map Provider.describe).getD ""
  | _ => ""

/-- What providers are asked in turn is asked of none alone. -/
theorem words_of_inTurn {operation : Operation} (in_turn : operation.inTurn = true)
    (providers : List Provider) : operation.words providers = "" := by
  cases operation with
  | tracedCode => contradiction
  | _ => rfl

end Operation

/-- A chain after it was asked for one thing after another. -/
def run (operations : List Operation) (chain : Chain) : Chain :=
  operations.foldl (fun chain operation => (operation.act.ended chain).2) chain

/-- What a chain comes to when it is asked for one thing after others. -/
def outcome (earlier : List Operation) (operation : Operation) (chain : Chain) :
    Except Failure (List Json) :=
  (operation.act.ended (run earlier chain)).1

section Twins

variable (twins : List.Forall₂ (Provider.Twins values) known known')
include twins

/-- At a place both have a provider or neither has. -/
theorem twins_at (place : Nat) :
    known[place]? = none ∧ known'[place]? = none ∨ ∃ provider provider',
      known[place]? = some provider ∧ known'[place]? = some provider' := by
  have length := twins.length_eq
  by_cases inside : place < known.length
  · exact .inr ⟨_, _, List.getElem?_eq_getElem inside, List.getElem?_eq_getElem (length ▸ inside)⟩
  · exact .inl ⟨List.getElem?_eq_none (by omega), List.getElem?_eq_none (by omega)⟩

/-- Whatever twins are asked for comes to the same, but for the words for a provider that is asked
alone. -/
theorem act_renamed (operation : Operation) :
    Related (Abreast known known') (Renamed (operation.words known) (operation.words known')) Eq
      operation.act operation.act := by
  have answered {answer : Attempt Chain Json}
      (related : Related (Abreast known known') Eq Eq answer answer) :
      Related (Abreast known known') (Renamed "" "") Eq (do return [← answer])
        (do return [← answer]) := by
    refine (related.mono fun failure _ same => same ▸ .refl failure).bind ?_
    rintro answer _ rfl
    exact .pure rfl
  cases operation with
  | bytecode address block => exact answered (bytecode_related twins address block)
  | transaction hash => exact answered (request_related twins _ _ _ _)
  | receipt hash => exact answered (request_related twins _ _ _ _)
  | factoryCode hash address => exact answered (factoryCode_related twins hash address)
  | creation address hash given =>
    refine ((creation_related twins address hash given).mono
      fun failure _ same => same ▸ .refl failure).bind ?_
    rintro found _ rfl
    exact .pure rfl
  | tracedCode form place hash address =>
    refine .get_bind fun chain twin abreast => ?_
    rw [abreast.providers, abreast.providers', Operation.words, Operation.words]
    rcases twins_at twins place with ⟨absent, absent'⟩ | ⟨provider, provider', here, here'⟩
    · rw [absent, absent']
      exact .pure rfl
    · rw [here, here']
      refine (tracedCode_renamed form provider provider' hash address).bind ?_
      rintro code _ rfl
      exact .pure rfl

/-- Twins stay abreast whatever they are asked for. -/
theorem run_abreast (operations : List Operation) {chain twin : Chain}
    (abreast : Abreast known known' chain twin) :
    Abreast known known' (run operations chain) (run operations twin) := by
  induction operations generalizing chain twin with
  | nil => exact abreast
  | cons operation rest inductive_hypothesis =>
    exact inductive_hypothesis (act_renamed twins operation chain twin abreast).2

end Twins

/-- Whether no address in which a key is filled has a place for it in front of the query. -/
def Guarded (rpcs : Json) : Prop :=
  ∀ values, rpcs.listed = .ok values → ∀ value ∈ values, ∀ template,
    Provider.Gives value template → ¬ Provider.keyPlace <:+: Provider.front template

/-- What two chains that are the same but for the keys of their providers give away of these. -/
structure Withholds (rpcs : Json) (chain twin : Chain) : Prop where
  /-- Whatever is asked, after whatever else, comes to the same but for the words for a provider. -/
  renamed : ∀ earlier operation, Result.Related
    (Renamed (operation.words chain.providers) (operation.words twin.providers)) Eq
    (outcome earlier operation chain) (outcome earlier operation twin)
  /-- So programs cannot tell the two apart. -/
  alike : ∀ earlier operation,
    Result.Alike Eq (outcome earlier operation chain) (outcome earlier operation twin)
  /-- What providers are asked in turn comes to the same. -/
  in_turn : ∀ earlier operation, operation.inTurn = true →
    outcome earlier operation chain = outcome earlier operation twin
  /-- Where keys have their places in queries alone, nothing differs. -/
  guarded : Guarded rpcs →
    chain.providers.map Provider.describe = twin.providers.map Provider.describe ∧
      ∀ earlier operation, outcome earlier operation chain = outcome earlier operation twin

/-- Chains that are the same but for the keys withhold these. -/
theorem OpenedAlike.withholds {rpcs : Json} {chain twin : Chain}
    (alike : OpenedAlike rpcs chain twin) : Withholds rpcs chain twin := by
  obtain ⟨values, listed, twins⟩ := alike.providers
  have abreast : Abreast chain.providers twin.providers chain twin :=
    ⟨rfl, rfl, alike.id, alike.settings, congrArg Network.replies alike.network⟩
  have renamed (earlier : List Operation) (operation : Operation) : Result.Related
      (Renamed (operation.words chain.providers) (operation.words twin.providers)) Eq
      (outcome earlier operation chain) (outcome earlier operation twin) :=
    (act_renamed twins operation _ _ (run_abreast twins earlier abreast)).1
  have same {earlier : List Operation} {operation : Operation}
      (words : operation.words chain.providers = operation.words twin.providers) :
      outcome earlier operation chain = outcome earlier operation twin := by
    have related := renamed earlier operation
    rw [words] at related
    exact Result.related_eq_iff.mp (related.mono fun _ _ => Renamed.eq)
  refine ⟨renamed, fun earlier operation => ?_, fun earlier operation in_turn => ?_,
    fun guarded => ?_⟩
  · exact Result.alike_iff.mpr ((renamed earlier operation).mono fun _ _ => Renamed.alike)
  · exact same (by rw [operation.words_of_inTurn in_turn, operation.words_of_inTurn in_turn])
  · have described :
        chain.providers.map Provider.describe = twin.providers.map Provider.describe := by
      rw [← List.forall₂_eq_eq_eq, List.forall₂_map_left_iff, List.forall₂_map_right_iff]
      exact twins.imp fun provider provider' twin => twin.describe_eq (guarded values listed)
    refine ⟨described, fun earlier operation => same ?_⟩
    cases operation with
    | tracedCode form place hash address =>
      rw [Operation.words, Operation.words, ← List.getElem?_map, ← List.getElem?_map, described]
    | _ => rfl

/-- **Keys in what a chain says.** With keys kept under the same names, opening a chain fails in the
same way or gives chains that withhold them: whatever these are asked for comes to the same, but
that the failure of a provider that is asked alone names it in other words, and not even that where
every place for a key is in a query. The words for a provider differ under two keys exactly if its
address has a place for one in front of the query. -/
theorem keys_withheld {one other : Secrets} (named : one.SameNames other) (id : Int) (name : String)
    (rpcs : Json) (settings : Settings) (network : Network) :
    Result.Related Eq (Withholds rpcs) ((connect id name rpcs settings network).ended one).1
      ((connect id name rpcs settings network).ended other).1 ∧
    ∀ template, (∃ key key' : String, key ≠ "" ∧ key' ≠ "" ∧
      Provider.wordsUnder key template ≠ Provider.wordsUnder key' template) ↔
        Provider.keyPlace <:+: Provider.front template := by
  refine ⟨?_, Provider.wordsUnder_differ_iff⟩
  have opened := (connect_related id name rpcs settings network one other named).1
  generalize ((connect id name rpcs settings network).ended one).1 = first at opened
  generalize ((connect id name rpcs settings network).ended other).1 = second at opened
  cases opened with
  | ok alike => exact .ok alike.withholds
  | error same => exact .error same

/-- A record of one provider at an address in which a key is filled. -/
def sampleRpcs (url : String) : Json :=
  .list [.record [("url", .text url), ("apiKeyName", .text "RPC_KEY"),
    ("traceSupport", .text "trace_transaction")]]

/-- A network in which a provider has no traces of a transaction. -/
def sampleUntraced : Network where
  replies := [.pieces 200 [(0, "\x7b\"result\":[]\x7d")]]

/-- A store with one key. -/
def sampleKeys (key : String) : Secrets where
  environment := [("RPC_KEY", key)]

/-- What opening a chain with one provider comes to, for its address and a key. -/
def sampleOpened (url key : String) : Except Failure Chain :=
  ((connect 1 "" (sampleRpcs url) {} sampleUntraced).ended (sampleKeys key)).1

/-- The words for the providers of a chain, and what it reports when one is asked for a trace. -/
def sampleSaid (chain : Chain) : List String × Option Report :=
  (chain.providers.map Provider.describe,
    match outcome [] (.tracedCode .listed 0 "0x01" "0xaa") chain with
    | .error failure => failure.report? true
    | .ok _ => none)

/-- An address with the place for a key in its query. -/
def sampleQueried : String := "https://rpc.example/v1?key=\x7bAPI_KEY\x7d"

/-- An address with the place for a key in front of its query. -/
def sampleFronted : String := "https://rpc.example/\x7bAPI_KEY\x7d"

/-- Keys of one provider are kept under the same name. -/
theorem sampleKeys_sameNames {key key' : String} (there : key.isEmpty = false)
    (there' : key'.isEmpty = false) : (sampleKeys key).SameNames (sampleKeys key') := by
  intro name
  by_cases named : "RPC_KEY" = name
  · simp [Secrets.key?, sampleKeys, Table.get?, named, there, there']
  · simp [Secrets.key?, sampleKeys, Table.get?, named]

/-- The place for the key is in the query. -/
theorem sampleQueried_guarded : Guarded (sampleRpcs sampleQueried) := by
  rintro _ ⟨⟩ value member template ⟨-, url, found, read⟩
  obtain rfl := List.mem_singleton.mp member
  obtain rfl : Json.text sampleQueried = url := Except.ok.inj found
  obtain rfl : sampleQueried.toList = template := Except.ok.inj read
  decide +kernel

/-- Chains with different keys in the query of an address say the same. -/
theorem keys_withheld_sample :
    (sampleKeys "alpha").SameNames (sampleKeys "beta") ∧
    ∃ chain twin, sampleOpened sampleQueried "alpha" = .ok chain ∧
      sampleOpened sampleQueried "beta" = .ok twin ∧
      chain.providers.map Provider.url = ["https://rpc.example/v1?key=alpha"] ∧
      twin.providers.map Provider.url = ["https://rpc.example/v1?key=beta"] ∧
      chain.providers.map Provider.describe = twin.providers.map Provider.describe ∧
      ∀ earlier operation, outcome earlier operation chain = outcome earlier operation twin := by
  have named : (sampleKeys "alpha").SameNames (sampleKeys "beta") :=
    sampleKeys_sameNames (by decide) (by decide)
  have opens : (sampleOpened sampleQueried "alpha").map (·.providers.map Provider.url) =
      .ok ["https://rpc.example/v1?key=alpha"] := by decide +kernel
  have opens' : (sampleOpened sampleQueried "beta").map (·.providers.map Provider.url) =
      .ok ["https://rpc.example/v1?key=beta"] := by decide +kernel
  obtain ⟨chain, opened, urls⟩ := Result.map_eq_ok.mp opens
  obtain ⟨twin, opened', urls'⟩ := Result.map_eq_ok.mp opens'
  obtain ⟨related, -⟩ := keys_withheld named 1 "" (sampleRpcs sampleQueried) {} sampleUntraced
  change Result.Related Eq _ (sampleOpened sampleQueried "alpha")
    (sampleOpened sampleQueried "beta") at related
  rw [opened, opened'] at related
  cases related with
  | ok withheld =>
    exact ⟨named, chain, twin, opened, opened', urls, urls', withheld.guarded sampleQueried_guarded⟩

/-- Chains with different keys in front of the query of an address say these: in the words for their
providers, and in the message of a failure. -/
theorem key_in_words :
    (sampleOpened sampleFronted "alpha").map sampleSaid =
      .ok (["RpcProvider(https://rpc.example/alpha)"], some ⟨.chain,
        "Traces of 0x01 on RpcProvider(https://rpc.example/alpha) are empty or malformed",
        "malformed_traces"⟩) ∧
    (sampleOpened sampleFronted "beta").map sampleSaid =
      .ok (["RpcProvider(https://rpc.example/beta)"], some ⟨.chain,
        "Traces of 0x01 on RpcProvider(https://rpc.example/beta) are empty or malformed",
        "malformed_traces"⟩) := by
  decide +kernel

end Chain

end Attest
