import Mathlib.Control.Monad.Basic
import Mathlib.Data.List.Forall2
import Attest.Proofs.Chain.Exchange
import Attest.Proofs.Parallel

/-!
# Questions put to providers in turn

Providers are asked one after another, each by one request, until one settles the matter: it has an
answer, or it fails in a way that is not passed on. What comes of it, which requests go out and what
is left of the replies follows from what each provider makes of its own reply
(`Chain.firstAnswer_settled`), and two runs come to the same if each provider settles the same in
both (`Chain.firstAnswer_related`).
-/
namespace Attest

open Attempt

namespace Chain

/-- A question put to one provider. -/
structure Question where
  /-- The provider. -/
  provider : Provider
  /-- The method. -/
  method : String
  /-- The parameters of the method. -/
  parameters : List Json

/-- The request with a number that puts a question. -/
def requestFor (chain : Chain) (number : Nat) (question : Question) : NetworkRequest :=
  chain.requestOf number question.provider question.method question.parameters

/-- A chain after questions were put, one after another. -/
def questioned (chain : Chain) (questions : List Question) (clock : Rat) : Chain :=
  { chain with
    sent := chain.sent + questions.length
    network := {
      replies := chain.network.replies.drop questions.length
      clock
      requests := chain.network.requests ++ questions.mapIdx fun place question =>
        chain.requestFor (chain.sent + 1 + place) question } }

/-- Putting a question and then others is putting all of them. -/
theorem asked_questioned (chain : Chain) (question : Question) (rest : List Question)
    (first last : Rat) :
    (chain.asked (chain.requestFor (chain.sent + 1) question) first).questioned rest last =
      chain.questioned (question :: rest) last := by
  have sent : chain.sent + 1 + rest.length = chain.sent + (question :: rest).length := by
    rw [List.length_cons]
    omega
  have replies : chain.network.replies.tail.drop rest.length =
      chain.network.replies.drop (question :: rest).length := by
    rw [List.drop_tail, List.length_cons]
  have requests : (chain.network.requests ++ [chain.requestFor (chain.sent + 1) question]) ++
      (rest.mapIdx fun place question => chain.requestFor (chain.sent + 1 + 1 + place) question) =
      chain.network.requests ++ ((question :: rest).mapIdx fun place question =>
        chain.requestFor (chain.sent + 1 + place) question) := by
    rw [List.mapIdx_cons, List.append_assoc, List.singleton_append]
    simp only [Nat.add_zero, Nat.add_assoc, Nat.add_comm 1]
  change ({ chain with
    sent := chain.sent + 1 + rest.length
    network := {
      replies := chain.network.replies.tail.drop rest.length
      clock := last
      requests := (chain.network.requests ++ [chain.requestFor (chain.sent + 1) question]) ++
        rest.mapIdx fun place question =>
          chain.requestFor (chain.sent + 1 + 1 + place) question } } : Chain) = _
  rw [sent, replies, requests]
  rfl

/-- Putting no question changes nothing. -/
theorem questioned_nil (chain : Chain) : chain.questioned [] chain.network.clock = chain := by
  simp [questioned]

variable {α : Type}

/-- What the outcome of asking one provider settles, none if it is passed on. -/
def settledBy : Except Failure (Option α) → Option (Except Failure α)
  | .ok (some answer) => some (.ok answer)
  | .ok none => none
  | .error failure => if failure.isPassedOn then none else some (.error failure)

/-- What comes of asking providers in turn, given what each settles: what the first settles that
settles anything. -/
def firstSettled (settled : List (Option (Except Failure α))) : Except Failure (Option α) :=
  match settled.findSome? fun result => result with
  | some (.ok answer) => .ok (some answer)
  | some (.error failure) => .error failure
  | none => .ok none

/-- How many providers are asked, given what each settles, if there are so many: all up to the first
that settles anything. -/
def settledCount (settled : List (Option (Except Failure α))) : Nat :=
  settled.findIdx Option.isSome + 1

/-- What comes of asking a provider and those behind it, given what came of asking it. -/
def answeredOr (behind : Attempt Chain (Option α)) :
    Except Failure (Option α) × Chain → Except Failure (Option α) × Chain
  | (.ok (some answer), after) => (.ok (some answer), after)
  | (.ok none, after) => behind.ended after
  | (.error failure, after) =>
    if failure.isPassedOn then behind.ended after else (.error failure, after)

/-- An answer is the first one, and a provider without one passes the question on. -/
theorem firstAnswer_cons_ended (ask : Provider → Attempt Chain (Option α)) (provider : Provider)
    (rest : List Provider) (before : Chain) :
    (firstAnswer ask (provider :: rest)).ended before =
      answeredOr (firstAnswer ask rest) ((ask provider).ended before) := by
  rw [firstAnswer, ended_outcome_bind]
  obtain ⟨outcome, after⟩ := (ask provider).ended before
  cases outcome with
  | error failure =>
    rw [answeredOr]
    dsimp only
    split <;> rfl
  | ok found => cases found <;> rfl

/-- A provider that settles a matter ends the asking, and one that does not leaves it to those
behind. -/
theorem answeredOr_settled (behind : Attempt Chain (Option α)) (outcome : Except Failure (Option α))
    (after : Chain) :
    answeredOr behind (outcome, after) =
      match settledBy outcome with
      | some (.ok answer) => (.ok (some answer), after)
      | some (.error failure) => (.error failure, after)
      | none => behind.ended after := by
  cases outcome with
  | error failure =>
    rw [answeredOr, settledBy]
    cases failure.isPassedOn <;> rfl
  | ok found => cases found <;> rfl

/-- What each provider settles by the reply that it gets if all are asked. -/
def settlements (settle : Provider → Option NetworkReply → Option (Except Failure α))
    (providers : List Provider) (replies : List NetworkReply) :
    List (Option (Except Failure α)) :=
  providers.mapIdx fun place provider => settle provider replies[place]?

/-- The first provider gets the first reply, and the others those behind. -/
theorem settlements_cons (settle : Provider → Option NetworkReply → Option (Except Failure α))
    (provider : Provider) (rest : List Provider) (replies : List NetworkReply) :
    settlements settle (provider :: rest) replies =
      settle provider replies.head? :: settlements settle rest replies.tail := by
  rw [settlements, settlements, List.mapIdx_cons, List.head?_eq_getElem?]
  simp only [List.getElem?_tail]

/-- Whether asking a provider puts one question to it, of which the next reply settles what is
said. -/
def AsksOnce (limit : Option Rat) (ask : Provider → Attempt Chain (Option α))
    (question : Provider → Question)
    (settle : Provider → Option NetworkReply → Option (Except Failure α)) (provider : Provider) :
    Prop :=
  ∀ chain : Chain, chain.settings.timeout.seconds = .ok limit → ∃ outcome clock,
    (ask provider).ended chain =
        (outcome, chain.asked (chain.requestFor (chain.sent + 1) (question provider)) clock) ∧
      settledBy outcome = settle provider chain.network.replies.head?

/-- Providers that are each asked once are asked in turn, up to the first that settles the matter by
its reply. -/
theorem firstAnswer_settled {limit : Option Rat} {ask : Provider → Attempt Chain (Option α)}
    {question : Provider → Question}
    {settle : Provider → Option NetworkReply → Option (Except Failure α)}
    {providers : List Provider} (each : ∀ provider ∈ providers, AsksOnce limit ask question settle
      provider) {chain : Chain} (timed : chain.settings.timeout.seconds = .ok limit) :
    ∃ clock, (firstAnswer ask providers).ended chain =
      (firstSettled (settlements settle providers chain.network.replies),
        chain.questioned ((providers.take
          (settledCount (settlements settle providers chain.network.replies))).map question)
          clock) := by
  induction providers generalizing chain with
  | nil =>
    refine ⟨chain.network.clock, ?_⟩
    rw [List.take_nil, List.map_nil, questioned_nil]
    rfl
  | cons provider rest inductive_hypothesis =>
    obtain ⟨outcome, clock, ended, settles⟩ := each provider List.mem_cons_self chain timed
    let middle := chain.asked (chain.requestFor (chain.sent + 1) (question provider)) clock
    have alone : middle = chain.questioned [question provider] clock := by
      rw [← asked_questioned chain (question provider) [] clock clock]
      exact (questioned_nil middle).symm
    rw [firstAnswer_cons_ended, ended, answeredOr_settled, settlements_cons, ← settles]
    cases settled : settledBy outcome with
    | some result =>
      have count : settledCount (some result :: settlements settle rest chain.network.replies.tail) =
          1 := rfl
      refine ⟨clock, ?_⟩
      rw [count, List.take_succ_cons, List.take_zero, List.map_singleton, ← alone]
      cases result <;> rfl
    | none =>
      -- The others are asked from the chain behind this request, with its reply gone.
      have timed_middle : middle.settings.timeout.seconds = .ok limit := timed
      obtain ⟨last, behind⟩ := inductive_hypothesis
        (fun other later => each other (List.mem_cons_of_mem _ later)) timed_middle
      have count : settledCount (none :: settlements settle rest chain.network.replies.tail) =
          settledCount (settlements settle rest chain.network.replies.tail) + 1 := by
        rw [settledCount, List.findIdx_cons]
        rfl
      refine ⟨last, ?_⟩
      rw [count, List.take_succ_cons, List.map_cons,
        ← asked_questioned chain (question provider) _ clock last]
      exact behind

/-- Whether failures in one relation are both passed on, or neither is and they are in another. -/
def PassesAs (inner outer : Failure → Failure → Prop) : Prop :=
  ∀ one other, inner one other →
    one.isPassedOn = other.isPassedOn ∧ (one.isPassedOn = false → outer one other)

/-- Providers that are asked in turn come to the same in two runs if each settles the same in both.
-/
theorem firstAnswer_related {states : Chain → Chain → Prop} {outer : Failure → Failure → Prop}
    {ask ask' : Provider → Attempt Chain (Option α)} {asked asked' : List Provider}
    (each : List.Forall₂ (fun provider provider' => ∃ inner, PassesAs inner outer ∧
      Related states inner Eq (ask provider) (ask' provider')) asked asked') :
    Related states outer Eq (firstAnswer ask asked) (firstAnswer ask' asked') := by
  induction each with
  | nil => exact .pure rfl
  | @cons provider provider' rest rest' here behind inductive_hypothesis =>
    obtain ⟨inner, passes, related⟩ := here
    intro before before' begins
    obtain ⟨results, kept⟩ := related before before' begins
    rw [firstAnswer_cons_ended, firstAnswer_cons_ended]
    generalize (ask provider).ended before = first at results kept
    generalize (ask' provider').ended before' = second at results kept
    obtain ⟨result, middle⟩ := first
    obtain ⟨result', middle'⟩ := second
    cases results with
    | @ok found _ same =>
      subst same
      cases found with
      | none => exact inductive_hypothesis middle middle' kept
      | some answer => exact ⟨.ok rfl, kept⟩
    | @error failure failure' failed =>
      obtain ⟨together, settles⟩ := passes failure failure' failed
      rw [answeredOr, answeredOr, ← together]
      cases passed : failure.isPassedOn with
      | true => exact inductive_hypothesis middle middle' kept
      | false => exact ⟨.error (settles passed), kept⟩

/-- Providers of which nothing is asked may be left out. -/
theorem firstAnswer_filter {ask : Provider → Attempt Chain (Option α)} {known : Provider → Bool}
    (idle : ∀ provider, known provider = false → ask provider = pure none)
    (providers : List Provider) (chain : Chain) :
    (firstAnswer ask providers).ended chain =
      (firstAnswer ask (providers.filter known)).ended chain := by
  induction providers generalizing chain with
  | nil => rfl
  | cons provider rest inductive_hypothesis =>
    rw [List.filter_cons]
    cases asked : known provider with
    | true =>
      rw [if_pos rfl, firstAnswer_cons_ended, firstAnswer_cons_ended]
      obtain ⟨outcome, after⟩ := (ask provider).ended chain
      rw [answeredOr_settled, answeredOr_settled, inductive_hypothesis]
    | false =>
      rw [if_neg Bool.false_ne_true, firstAnswer_cons_ended, idle provider asked]
      exact inductive_hypothesis chain

end Chain

end Attest
