import Attest.Proofs.Chain.Fallthrough

/-!
# What providers told

A chain that asks its providers makes requests and takes one reply for each, whatever comes of it
(`Chain.Went`). So what an action of a chain gives can be traced to a reply: a request for it was made
to one of the providers, and the reply at the same place says it (`Chain.Told`). That holds of the
answer of one provider (`Chain.send_told`) and of one for which providers were asked in turn
(`Chain.request_told`).
-/
namespace Attest

open Attempt

namespace Chain

/-- Whether a chain can have become another by asking its providers: some requests were made, and one
reply is gone for each. -/
structure Went (start stop : Chain) : Prop where
  /-- It has the same settings. -/
  settings : stop.settings = start.settings
  /-- It has the same providers. -/
  providers : stop.providers = start.providers
  /-- One reply is gone for each request made. -/
  network : ∃ made, stop.network.requests = start.network.requests ++ made ∧
    stop.network.replies = start.network.replies.drop made.length

/-- Asking nothing is asking, and so is asking twice. -/
theorem went_frame : Frame Went where
  refl := fun chain => ⟨rfl, rfl, [], (List.append_nil _).symm, rfl⟩
  trans := by
    intro first second third went later
    obtain ⟨made, requests, replies⟩ := went.network
    obtain ⟨made', requests', replies'⟩ := later.network
    refine ⟨later.settings.trans went.settings, later.providers.trans went.providers,
      made ++ made', ?_, ?_⟩
    · rw [requests', requests, List.append_assoc]
    · rw [replies', replies, List.drop_drop, List.length_append]

/-- Whether a provider told a value, for a method and its parameters, while a chain became another:
a request for it was made and the reply at the same place tells it. -/
def Told (start stop : Chain) (method : String) (parameters : List Json) (value : Json) : Prop :=
  ∃ provider ∈ start.providers, ∃ number place reply limit,
    start.settings.timeout.seconds = .ok limit ∧
      stop.network.requests[start.network.requests.length + place]? =
        some (start.requestOf number provider method parameters) ∧
      start.network.replies[place]? = some reply ∧
      answer limit (some reply) provider method = .ok value

/-- What was told stays told. -/
theorem Told.later {start middle stop : Chain} {method : String} {parameters : List Json}
    {value : Json} (told : Told start middle method parameters value) (went : Went middle stop) :
    Told start stop method parameters value := by
  obtain ⟨provider, known, number, place, reply, limit, timed, requested, replied, said⟩ := told
  obtain ⟨made, requests, -⟩ := went.network
  refine ⟨provider, known, number, place, reply, limit, timed, ?_, replied, said⟩
  rw [requests, List.getElem?_append_left (List.getElem?_eq_some_iff.mp requested).1]
  exact requested

/-- What was told in the end was told. -/
theorem Told.earlier {start middle stop : Chain} {method : String} {parameters : List Json}
    {value : Json} (told : Told middle stop method parameters value) (went : Went start middle) :
    Told start stop method parameters value := by
  obtain ⟨provider, known, number, place, reply, limit, timed, requested, replied, said⟩ := told
  obtain ⟨made, requests, replies⟩ := went.network
  refine ⟨provider, went.providers ▸ known, number, made.length + place, reply, limit, ?_, ?_, ?_,
    said⟩
  · rw [← went.settings]
    exact timed
  · have same : middle.requestOf number provider method parameters =
        start.requestOf number provider method parameters := by
      rw [requestOf, requestOf, went.settings]
    rw [← same, ← Nat.add_assoc, ← List.length_append, ← requests]
    exact requested
  · -- The replies left then are those behind the ones gone for the requests made before.
    rw [← replied, replies, List.getElem?_drop]

/-- A provider that cannot be asked leaves the network as it is. -/
theorem send_untimed {chain : Chain} {fault : Fault}
    (untimed : chain.settings.timeout.seconds = .error fault) (provider : Provider)
    (method : String) (parameters : List Json) :
    (send provider method parameters).ended chain =
      (.error (.fault fault), { chain with sent := chain.sent + 1 }) := by
  rw [send, ended_modify_bind, ended_get_bind, ended_bind]
  dsimp only
  rw [ended_within, Network.post]
  dsimp only
  rw [untimed]
  rfl

/-- A chain that has asked one provider has become another by asking. -/
theorem went_asked (chain : Chain) (request : NetworkRequest) (clock : Rat) :
    Went chain (chain.asked request clock) :=
  ⟨rfl, rfl, [request], rfl, List.drop_one.symm⟩

/-- Asking a provider is asking. -/
theorem send_went (provider : Provider) (method : String) (parameters : List Json) :
    (send provider method parameters).Keeps Went := by
  intro chain
  cases timed : chain.settings.timeout.seconds with
  | error fault =>
    rw [send_untimed timed]
    exact ⟨rfl, rfl, [], (List.append_nil _).symm, rfl⟩
  | ok limit =>
    obtain ⟨clock, ended⟩ := send_ended timed provider method parameters
    rw [ended]
    exact went_asked chain _ clock

/-- What a provider answers is told. -/
theorem send_told {provider : Provider} {method : String} {parameters : List Json} {value : Json}
    {start stop : Chain} (known : provider ∈ start.providers)
    (ends : (send provider method parameters).Ends start value stop) :
    Told start stop method parameters value := by
  rw [Ends] at ends
  cases timed : start.settings.timeout.seconds with
  | error fault =>
    rw [send_untimed timed] at ends
    cases ends
  | ok limit =>
    obtain ⟨clock, ended⟩ := send_ended timed provider method parameters
    rw [ended] at ends
    obtain ⟨said, stopped⟩ := Prod.mk.inj ends
    cases reply : start.network.replies.head? with
    | none =>
      rw [reply] at said
      cases said
    | some first =>
      refine ⟨provider, known, start.sent + 1, 0, first, limit, timed, ?_, ?_, reply ▸ said⟩
      · rw [← stopped]
        exact List.getElem?_concat_length
      · rw [← List.head?_eq_getElem?, reply]

variable {α : Type}

/-- Asking providers in turn is asking, if asking each is. -/
theorem firstAnswer_went {ask : Provider → Attempt Chain (Option α)}
    (each : ∀ provider, (ask provider).Keeps Went) (providers : List Provider) :
    (firstAnswer ask providers).Keeps Went := by
  induction providers with
  | nil => exact went_frame.pure none
  | cons provider rest inductive_hypothesis =>
    refine went_frame.bind (each provider).outcome fun outcome => ?_
    cases outcome with
    | error failure =>
      change Keeps Went (if failure.isPassedOn = true then _ else _)
      split
      · exact inductive_hypothesis
      · exact went_frame.throw failure
    | ok found =>
      cases found with
      | none => exact inductive_hypothesis
      | some answer => exact went_frame.pure (some answer)

/-- The first answer is that of a provider, asked after others were. -/
theorem firstAnswer_ends_some {ask : Provider → Attempt Chain (Option α)}
    (each : ∀ provider, (ask provider).Keeps Went) {providers : List Provider}
    {start stop : Chain} {answer : α}
    (ends : (firstAnswer ask providers).Ends start (some answer) stop) :
    ∃ provider ∈ providers, ∃ middle, Went start middle ∧
      (ask provider).Ends middle (some answer) stop := by
  induction providers generalizing start with
  | nil => cases (ends_pure.mp ends).1
  | cons provider rest inductive_hypothesis =>
    -- A provider that is passed over only moves the start: the others are asked from where it ended.
    have behind {middle : Chain} (went : Went start middle)
        (later : (firstAnswer ask rest).Ends middle (some answer) stop) :
        ∃ provider' ∈ provider :: rest, ∃ middle, Went start middle ∧
          (ask provider').Ends middle (some answer) stop := by
      obtain ⟨other, present, last, went', said⟩ := inductive_hypothesis later
      exact ⟨other, List.mem_cons_of_mem _ present, last, went_frame.trans went went', said⟩
    have went := each provider start
    rw [Ends, firstAnswer_cons_ended] at ends
    cases first : (ask provider).ended start with
    | mk outcome middle =>
      rw [first] at ends went
      cases outcome with
      | error failure =>
        rw [answeredOr] at ends
        split at ends
        · exact behind went ends
        · cases ends
      | ok found =>
        cases found with
        | none => exact behind went ends
        | some found =>
          exact ⟨provider, List.mem_cons_self, start, went_frame.refl start, first.trans ends⟩

/-- Asking a provider for an acceptable answer is asking. -/
theorem sendFor_went (accept : Json → Bool) (provider : Provider) (method : String)
    (parameters : List Json) (description : String) :
    (sendFor accept provider method parameters description).Keeps Went :=
  went_frame.bind (send_went provider method parameters) fun result => by
    split
    · exact went_frame.pure result
    · exact went_frame.throw _

/-- An answer of a provider is one that it gives. -/
theorem sendFor_answer_went (accept : Json → Bool) (method : String) (parameters : List Json)
    (description : String) (provider : Provider) :
    Keeps Went (do
      return some (← sendFor accept provider method parameters description) :
        Attempt Chain (Option Json)) :=
  went_frame.bind (sendFor_went accept provider method parameters description) fun value =>
    went_frame.pure (some value)

/-- An acceptable answer of a provider is told. -/
theorem sendFor_told {accept : Json → Bool} {provider : Provider} {method : String}
    {parameters : List Json} {description : String} {start stop : Chain} {value : Json}
    (known : provider ∈ start.providers)
    (ends : (sendFor accept provider method parameters description).Ends start value stop) :
    Told start stop method parameters value := by
  obtain ⟨result, middle, sent, ends⟩ := ends_bind.mp ends
  split at ends
  · obtain ⟨rfl, rfl⟩ := ends_pure.mp ends
    exact send_told known sent
  · exact absurd ends not_ends_throw

/-- Putting a question to the providers is asking. -/
theorem request_went (accept : Json → Bool) (method : String) (parameters : List Json)
    (description : String) : (request accept method parameters description).Keeps Went :=
  went_frame.bind went_frame.get fun chain =>
    went_frame.bind (firstAnswer_went
      (sendFor_answer_went accept method parameters description) chain.providers) fun found => by
      cases found with
      | none => exact went_frame.throw _
      | some answer => exact went_frame.pure answer

/-- The answer to a question was told by a provider. -/
theorem request_told {accept : Json → Bool} {method : String} {parameters : List Json}
    {description : String} {start stop : Chain} {value : Json}
    (ends : (request accept method parameters description).Ends start value stop) :
    Told start stop method parameters value := by
  rw [request, ends_get_bind] at ends
  obtain ⟨found, middle, asked, ends⟩ := ends_bind.mp ends
  cases found with
  | none => exact absurd ends not_ends_throw
  | some answer =>
    obtain ⟨rfl, rfl⟩ := ends_pure.mp ends
    obtain ⟨provider, known, before, went, ends⟩ := firstAnswer_ends_some
      (sendFor_answer_went accept method parameters description) asked
    obtain ⟨result, after, sent, ends⟩ := ends_bind.mp ends
    obtain ⟨same, rfl⟩ := ends_pure.mp ends
    obtain rfl := Option.some.inj same
    -- The provider that answered was asked last, so its requests count from a later chain.
    exact (sendFor_told (went.providers ▸ known) sent).earlier went

end Chain

end Attest
