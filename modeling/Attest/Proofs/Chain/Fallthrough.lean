import Attest.Proofs.Chain.Turns
import Attest.Proofs.Json.Equality

/-!
# Providers in turn

A question about code, a transaction or a receipt goes to the providers of a chain in their order,
one request to each, up to the first whose reply settles it (`Chain.questions_asked_in_turn`). A
reply that does not come or is refused, that is no JSON, tells of an error or has no acceptable
result passes the question on. One that is JSON but no record does not: it settles the question with
a fault, and no provider behind it is asked (`Chain.foreign_document_settles`).
-/
namespace Attest

open Attempt

/-- What a reply to a question says. -/
inductive Verdict where
  /-- An acceptable answer. -/
  | accepted (answer : Json)
  /-- Nothing that could be accepted. -/
  | passed
  /-- A document that is no record. -/
  | foreign
  deriving DecidableEq

namespace Verdict

/-- The verdict on the members of a document. -/
def ofMembers (accept : Json → Bool) (members : List (String × Json)) : Verdict :=
  let answer := (Table.get? members "result").getD .null
  if ((Table.get? members "error").getD .null).holds then passed
  else if accept answer then accepted answer
  else passed

/-- The verdict on the bytes of a body. -/
def ofBody (accept : Json → Bool) (body : List UInt8) : Verdict :=
  match Json.readDocument body with
  | .error _ => passed
  | .ok (.record members) => ofMembers accept members
  | .ok _ => foreign

/-- The verdict on a reply, or on there being none. -/
def ofReply (accept : Json → Bool) (limit : Option Rat) (reply : Option NetworkReply) : Verdict :=
  match Network.arrival limit reply with
  | .error _ => passed
  | .ok body => ofBody accept body

/-- Whether no other provider is asked. -/
def settles : Verdict → Bool
  | passed => false
  | _ => true

/-- Whether the outcome of asking one provider is that of a verdict. -/
def Governs : Verdict → Except Failure Json → Prop
  | accepted answer, outcome => outcome = .ok answer
  | passed, outcome => ∃ failure : Failure, outcome = .error failure ∧ failure.isPassedOn = true
  | foreign, outcome => outcome = .error (.fault .wrongKind)

/-- What is found by asking providers in turn. -/
def found (verdicts : List Verdict) : Except Failure (Option Json) :=
  match verdicts.find? settles with
  | some (accepted answer) => .ok (some answer)
  | some _ => .error (.fault .wrongKind)
  | none => .ok none

/-- The number of providers that are asked: all up to the first whose reply settles the question. -/
def askedCount (verdicts : List Verdict) : Nat :=
  min (verdicts.findIdx settles + 1) verdicts.length

/-- What a verdict settles, none if the question is passed on. -/
def settled? : Verdict → Option (Except Failure Json)
  | accepted answer => some (.ok answer)
  | passed => none
  | foreign => some (.error (.fault .wrongKind))

/-- What is found is what is settled first. -/
theorem found_eq (verdicts : List Verdict) :
    found verdicts = Chain.firstSettled (verdicts.map settled?) := by
  rw [found, Chain.firstSettled, List.findSome?_map]
  induction verdicts with
  | nil => rfl
  | cons verdict rest inductive_hypothesis =>
    cases verdict with
    | passed => exact inductive_hypothesis
    | _ => rfl

/-- All are asked up to the one that settles the question. -/
theorem askedCount_eq (verdicts : List Verdict) :
    askedCount verdicts = min (Chain.settledCount (verdicts.map settled?)) verdicts.length := by
  rw [askedCount, Chain.settledCount, List.findIdx_map]
  congr 2
  refine congrArg (List.findIdx · verdicts) (funext fun verdict => ?_)
  cases verdict <;> rfl

end Verdict

/-- A document that cannot be read leaves it to another provider to answer. -/
theorem Json.isUnreadable_of_readDocument {body : List UInt8} {fault : Fault}
    (unread : readDocument body = .error fault) : fault.isUnreadable = true := by
  rw [readDocument] at unread
  split at unread
  · cases unread
    rfl
  · obtain ⟨error, -, rfl⟩ := Result.mapError_eq_error.mp unread
    rfl

namespace Chain

/-- The answer itself if it is acceptable. -/
def judged (accept : Json → Bool) (provider : Provider) (description : String) (answer : Json) :
    Except Failure Json :=
  if accept answer then .ok answer
  else .error (.chain (.notFound description provider.describe))

/-- A document that is a record tells of an error or has a result. -/
theorem resultOf_record {body : List UInt8} {members : List (String × Json)}
    (record : Json.readDocument body = .ok (.record members)) (provider : Provider)
    (method : String) :
    resultOf provider method body =
      if ((Table.get? members "error").getD .null).holds then
        .error (.chain (.refused method provider.describe
          ((Table.get? members "error").getD .null).plain))
      else .ok ((Table.get? members "result").getD .null) := by
  rw [resultOf, record]
  rfl

/-- The verdict on a body is that on what becomes of it. -/
theorem governs_ofBody (accept : Json → Bool) (provider : Provider) (method description : String)
    (body : List UInt8) :
    (Verdict.ofBody accept body).Governs
      (resultOf provider method body >>= judged accept provider description) := by
  rw [Verdict.ofBody]
  split
  · rename_i fault unread
    refine ⟨.fault fault, ?_, Json.isUnreadable_of_readDocument unread⟩
    rw [resultOf, unread]
    rfl
  · rename_i members record
    rw [resultOf_record record, Verdict.ofMembers]
    by_cases refused : ((Table.get? members "error").getD .null).holds = true
    · rw [if_pos refused, if_pos refused]
      exact ⟨_, rfl, rfl⟩
    · rw [if_neg refused, if_neg refused]
      change Verdict.Governs _ (judged accept provider description _)
      rw [judged]
      by_cases acceptable : accept ((Table.get? members "result").getD .null) = true
      · rw [if_pos acceptable, if_pos acceptable]
        rfl
      · rw [if_neg acceptable, if_neg acceptable]
        exact ⟨_, rfl, rfl⟩
  · -- What is no record has no members to look for an error in: that is a fault of its own.
    rename_i value no_record document
    change (resultOf provider method body >>= _) = _
    rw [resultOf, document]
    cases value with
    | record members => exact absurd rfl (no_record members)
    | _ => rfl

/-- The verdict on a reply is that on what becomes of it. -/
theorem governs_ofReply (accept : Json → Bool) (limit : Option Rat) (reply : Option NetworkReply)
    (provider : Provider) (method description : String) :
    (Verdict.ofReply accept limit reply).Governs
      (answer limit reply provider method >>= judged accept provider description) := by
  rw [Verdict.ofReply, answer]
  cases Network.arrival limit reply with
  | error error => exact ⟨.network error, rfl, rfl⟩
  | ok body => exact governs_ofBody accept provider method description body

/-- Asking one provider has the outcome that the verdict on the next reply says. -/
theorem sendFor_ended {chain : Chain} {limit : Option Rat}
    (timed : chain.settings.timeout.seconds = .ok limit) (accept : Json → Bool)
    (provider : Provider) (method : String) (parameters : List Json) (description : String) :
    ∃ outcome clock, (sendFor accept provider method parameters description).ended chain =
        (outcome, chain.asked (chain.requestOf (chain.sent + 1) provider method parameters) clock) ∧
      (Verdict.ofReply accept limit chain.network.replies.head?).Governs outcome := by
  obtain ⟨clock, sent⟩ := send_ended timed provider method parameters
  refine ⟨_, clock, ?_, governs_ofReply accept limit _ provider method description⟩
  rw [sendFor, ended_bind, sent]
  cases answer limit chain.network.replies.head? provider method with
  | error failure => rfl
  | ok result =>
    change (if accept result = true then pure result else throw _ : Attempt Chain Json).ended _ =
      (judged accept provider description result, _)
    rw [judged]
    split <;> rfl

/-- The verdicts on the replies to a question, one for each provider. -/
def verdicts (accept : Json → Bool) (limit : Option Rat) (providers : List Provider)
    (replies : List NetworkReply) : List Verdict :=
  providers.mapIdx fun place _ => Verdict.ofReply accept limit replies[place]?

/-- A chain after a question was put to providers in turn. -/
def askedEach (chain : Chain) (asked : List Provider) (method : String) (parameters : List Json)
    (clock : Rat) : Chain :=
  { chain with
    sent := chain.sent + asked.length
    network := {
      replies := chain.network.replies.drop asked.length
      clock
      requests := chain.network.requests ++ asked.mapIdx fun place provider =>
        chain.requestOf (chain.sent + 1 + place) provider method parameters } }

/-- One question put to providers in turn is one question for each of them. -/
theorem askedEach_eq (chain : Chain) (asked : List Provider) (method : String)
    (parameters : List Json) (clock : Rat) :
    chain.askedEach asked method parameters clock =
      chain.questioned (asked.map fun provider => ⟨provider, method, parameters⟩) clock := by
  have requests : (asked.map fun provider => (⟨provider, method, parameters⟩ : Question)).mapIdx
      (fun place question => chain.requestFor (chain.sent + 1 + place) question) =
        asked.mapIdx fun place provider =>
          chain.requestOf (chain.sent + 1 + place) provider method parameters := by
    refine List.ext_getElem? fun place => ?_
    simp only [List.getElem?_mapIdx, List.getElem?_map, Option.map_map]
    rfl
  rw [askedEach, questioned, List.length_map, requests]

/-- An acceptable answer is settled as the verdict on its reply says. -/
theorem settledBy_of_governs {verdict : Verdict} {outcome : Except Failure Json}
    (governs : verdict.Governs outcome) : settledBy (outcome.map some) = verdict.settled? := by
  cases verdict with
  | accepted answer =>
    obtain rfl := governs
    rfl
  | passed =>
    obtain ⟨failure, rfl, passes⟩ := governs
    exact if_pos passes
  | foreign =>
    obtain rfl := governs
    rfl

/-- Each provider is asked once, and the verdict on the next reply says what is settled. -/
theorem sendFor_asksOnce (limit : Option Rat) (accept : Json → Bool) (method : String)
    (parameters : List Json) (description : String) (provider : Provider) :
    AsksOnce limit (fun provider => do
        return some (← sendFor accept provider method parameters description))
      (fun provider => ⟨provider, method, parameters⟩)
      (fun _ reply => (Verdict.ofReply accept limit reply).settled?) provider := by
  intro chain timed
  obtain ⟨outcome, clock, ended, governs⟩ :=
    sendFor_ended timed accept provider method parameters description
  refine ⟨outcome.map some, clock, ?_, settledBy_of_governs governs⟩
  rw [ended_bind, ended]
  cases outcome <;> rfl

/-- Asking providers in turn finds what the verdicts on their replies say. -/
theorem firstAnswer_ended {limit : Option Rat} (accept : Json → Bool) (method : String)
    (parameters : List Json) (description : String) (providers : List Provider) {chain : Chain}
    (timed : chain.settings.timeout.seconds = .ok limit) :
    ∃ clock, (firstAnswer (fun provider => do
        return some (← sendFor accept provider method parameters description)) providers).ended
          chain =
      (Verdict.found (verdicts accept limit providers chain.network.replies),
        chain.askedEach (providers.take
          (Verdict.askedCount (verdicts accept limit providers chain.network.replies)))
          method parameters clock) := by
  have settled : settlements (fun _ reply => (Verdict.ofReply accept limit reply).settled?)
      providers chain.network.replies =
        (verdicts accept limit providers chain.network.replies).map Verdict.settled? := by
    refine List.ext_getElem? fun place => ?_
    simp only [settlements, verdicts, List.getElem?_mapIdx, List.getElem?_map, Option.map_map]
    rfl
  have length : (verdicts accept limit providers chain.network.replies).length =
      providers.length := by
    rw [verdicts, List.length_mapIdx]
  obtain ⟨clock, ended⟩ := firstAnswer_settled (fun provider _ =>
    sendFor_asksOnce limit accept method parameters description provider) timed
  rw [settled] at ended
  refine ⟨clock, ?_⟩
  rw [ended, askedEach_eq, Verdict.found_eq, Verdict.askedCount_eq, length,
    ← List.take_eq_take_min]

/-- What comes of a question for which providers are asked in turn. -/
def settlement (unavailable : Failure) (verdicts : List Verdict) : Except Failure Json :=
  match verdicts.find? Verdict.settles with
  | some (.accepted answer) => .ok answer
  | some _ => .error (.fault .wrongKind)
  | none => .error unavailable

/-- An action that puts a question to the providers of a chain in turn: one request to each, up to
the first whose reply settles the question. -/
structure AsksInTurn (chain : Chain) (limit : Option Rat) (accept : Json → Bool) (method : String)
    (parameters : List Json) (description : String) (action : Attempt Chain Json) : Prop where
  /-- The first reply that settles the question says what comes of it. If none does, the chain is
  unavailable. -/
  outcome : (action.ended chain).1 =
    settlement (.chain (.unavailable description chain.id))
      (verdicts accept limit chain.providers chain.network.replies)
  /-- Each provider up to that reply is asked once, in order, and nothing else is done. -/
  asked : ∃ clock, (action.ended chain).2 =
    chain.askedEach (chain.providers.take (Verdict.askedCount
      (verdicts accept limit chain.providers chain.network.replies))) method parameters clock

/-- A request puts its question to the providers in turn. -/
theorem request_asksInTurn {chain : Chain} {limit : Option Rat}
    (timed : chain.settings.timeout.seconds = .ok limit) (accept : Json → Bool) (method : String)
    (parameters : List Json) (description : String) :
    chain.AsksInTurn limit accept method parameters description
      (request accept method parameters description) := by
  obtain ⟨clock, ended⟩ :=
    firstAnswer_ended accept method parameters description chain.providers timed
  have whole : (request accept method parameters description).ended chain =
      (settlement (.chain (.unavailable description chain.id))
        (verdicts accept limit chain.providers chain.network.replies),
        chain.askedEach (chain.providers.take (Verdict.askedCount
          (verdicts accept limit chain.providers chain.network.replies))) method parameters
          clock) := by
    rw [request, ended_get_bind, ended_bind, ended, settlement, Verdict.found]
    cases (verdicts accept limit chain.providers chain.network.replies).find? Verdict.settles with
    | none => rfl
    | some verdict => cases verdict <;> rfl
  exact ⟨congrArg Prod.fst whole, clock, congrArg Prod.snd whole⟩

/-- The code at an address, a transaction and a receipt are asked of the providers in turn. -/
theorem questions_asked_in_turn {chain : Chain} {limit : Option Rat} {address checked : String}
    (timed : chain.settings.timeout.seconds = .ok limit)
    (valid : Address.ofText address = .ok checked) (block : Option Int) (hash : String) :
    chain.AsksInTurn limit isAnyText "eth_getCode" [.text checked, .text (blockName block)]
        ("bytecode of " ++ checked) (bytecode address block) ∧
      chain.AsksInTurn limit isPresent "eth_getTransactionByHash" [.text hash] ("tx " ++ hash)
        (transaction hash) ∧
      chain.AsksInTurn limit isPresent "eth_getTransactionReceipt" [.text hash]
        ("receipt of tx " ++ hash) (receipt hash) := by
  have code := request_asksInTurn timed isAnyText "eth_getCode"
    [.text checked, .text (blockName block)] ("bytecode of " ++ checked)
  have same : (bytecode address block).ended chain =
      (request isAnyText "eth_getCode" [.text checked, .text (blockName block)]
        ("bytecode of " ++ checked)).ended chain := by
    rw [bytecode, valid]
    rfl
  refine ⟨⟨?_, ?_⟩, request_asksInTurn timed _ _ _ _, request_asksInTurn timed _ _ _ _⟩
  · rw [same]
    exact code.outcome
  · rw [same]
    exact code.asked

/-- A chain with three providers, and the replies that come from them. -/
def sampleOf (replies : List NetworkReply) : Chain where
  id := 1
  name := "1"
  settings := {}
  providers := [⟨"http://first", .record [], .null⟩, ⟨"http://second", .record [], .null⟩,
    ⟨"http://third", .record [], .null⟩]
  network := { replies }

/-- A reply that tells of an error after some seconds, one that is refused, and one with a code. -/
def samplePassing : Chain :=
  sampleOf [.pieces 200 [(1, "\x7b\"err"), (2, "or\":[0],\"result\":\"0x\"\x7d")], .pieces 503 [],
    .pieces 200 [(0, "\x7b\"result\":\"0x60\"\x7d")]]

/-- The first two providers of the sample pass a question on and the third answers it. -/
theorem questions_asked_in_turn_sample :
    ∃ checked, samplePassing.settings.timeout.seconds = .ok (some 10) ∧
      Address.ofText "0x00000000000000000000000000000000000000Aa" = .ok checked ∧
      ((bytecode "0x00000000000000000000000000000000000000Aa" none).ended
          samplePassing).1.toOption.any (·.isText "0x60") = true ∧
      ((bytecode "0x00000000000000000000000000000000000000Aa" none).ended
          samplePassing).2.network.requests.map NetworkRequest.url =
        ["http://first", "http://second", "http://third"] := by
  have timed : samplePassing.settings.timeout.seconds = .ok (some 10) := rfl
  have hex : Address.isHex "0x00000000000000000000000000000000000000Aa".toList = true := by
    decide +kernel
  have length : (Address.unmarked "0x00000000000000000000000000000000000000Aa".toList).length =
      Address.digits := by decide +kernel
  have valid := Address.ofText_eq_ok hex length
  obtain ⟨⟨outcome, clock, asked⟩, -, -⟩ := questions_asked_in_turn timed valid none "0x01"
  have all : Verdict.askedCount (verdicts isAnyText (some 10) samplePassing.providers
      samplePassing.network.replies) = 3 := by decide +kernel
  refine ⟨_, timed, valid, ?_, ?_⟩
  · rw [outcome]
    decide +kernel
  · rw [asked, all]
    rfl

/-- A reply that is JSON but no record, and one that would have been accepted. -/
def sampleForeign : Chain :=
  sampleOf [.pieces 200 [(0, "[]")], .pieces 200 [(0, "\x7b\"result\":\"0x60\"\x7d")]]

/-- The first provider of the sample settles a question with a fault, and the second, which has an
answer, is not asked. -/
theorem foreign_document_settles :
    ((transaction "0x01").ended sampleForeign).1 = .error (.fault .wrongKind) ∧
      ((transaction "0x01").ended sampleForeign).2.network.requests.length = 1 ∧
      Verdict.ofReply isPresent (some 10) sampleForeign.network.replies[1]? =
        .accepted (.text "0x60") := by
  decide +kernel

end Chain

end Attest
