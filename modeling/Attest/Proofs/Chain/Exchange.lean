import Attest.Chain.Basic
import Attest.Proofs.Attempt

/-!
# Requests and replies

Whatever comes back, a request takes one reply from the network and is noted there once
(`Network.post_ended`). So a provider that is asked leaves the chain in one of few states: the
question is counted and noted, a reply is gone, and the clock may have moved
(`Chain.send_ended`).
-/
namespace Attest

open Attempt

namespace Network

/-- Whether pieces all come by a time limit, some seconds being spent already. -/
def timely (limit : Option Rat) (spent : Rat) : List (Rat × List UInt8) → Bool
  | [] => true
  | (seconds, _) :: rest => !late (spent + seconds) limit && timely limit (spent + seconds) rest

/-- What a reply comes to: the bytes of its body, or why there are none. Where no reply is left there
is no connection. -/
def arrival (limit : Option Rat) : Option NetworkReply → Except NetworkError (List UInt8)
  | none => .error .connection
  | some (.broken error) => .error error
  | some (.pieces status body) =>
    if 400 ≤ status then .error .status
    else if timely limit 0 body then .ok (body.flatMap Prod.snd)
    else .error .late

/-- A clock is late for a deadline exactly if the seconds since it was set are too many. -/
theorem late_deadline (clock seconds : Rat) (limit : Option Rat) :
    late (clock + seconds) (limit.map (clock + ·)) = late seconds limit := by
  cases limit with
  | none => rfl
  | some limit =>
    change decide (clock + limit < clock + seconds) = decide (limit < seconds)
    exact decide_eq_decide.mpr Rat.add_lt_add_left

/-- Taking the pieces of a body moves the clock only. It gives all bytes if no piece is late. -/
theorem collect_ended (limit : Option Rat) (began spent : Rat) (read : List UInt8)
    (body : List (Rat × List UInt8)) (network : Network) (now : network.clock = began + spent) :
    ∃ clock, (collect (limit.map (began + ·)) read body).ended network =
      (if timely limit spent body then .ok (read ++ body.flatMap Prod.snd)
        else .error (.network .late), { network with clock }) := by
  -- The clock is where it began and the seconds spent since: that is kept from piece to piece.
  induction body generalizing network spent read with
  | nil =>
    refine ⟨network.clock, ?_⟩
    rw [timely, if_pos rfl, List.flatMap_nil, List.append_nil]
    rfl
  | cons piece rest inductive_hypothesis =>
    obtain ⟨seconds, bytes⟩ := piece
    let moved : Network := { network with clock := network.clock + seconds }
    have moved_clock : moved.clock = began + (spent + seconds) := by
      change network.clock + seconds = _
      rw [now, Rat.add_assoc]
    rw [collect, ended_modify_bind, ended_get_bind]
    change ∃ clock, (if late moved.clock _ then _ else _ : Attempt Network _).ended moved = _
    rw [moved_clock, late_deadline, timely]
    cases tardy : late (spent + seconds) limit with
    | true => exact ⟨moved.clock, rfl⟩
    | false =>
      obtain ⟨clock, ended⟩ := inductive_hypothesis (spent + seconds) (read ++ bytes) moved moved_clock
      refine ⟨clock, ?_⟩
      rw [List.flatMap_cons, ← List.append_assoc]
      exact ended

/-- A network after a request: the request is noted, one reply is gone, and the clock is as given. -/
def served (network : Network) (request : NetworkRequest) (clock : Rat) : Network :=
  { replies := network.replies.tail
    clock
    requests := network.requests ++ [request] }

/-- A request within a time limit comes to what the next reply comes to. -/
theorem post_ended {request : NetworkRequest} {limit : Option Rat}
    (timed : request.timeout.seconds = .ok limit) (network : Network) :
    ∃ clock, (post request).ended network =
      ((arrival limit network.replies.head?).mapError .network, network.served request clock) := by
  obtain ⟨replies, began, requests⟩ := network
  rw [post, timed]
  cases replies with
  | nil => exact ⟨began, rfl⟩
  | cons reply rest =>
    cases reply with
    | broken error => exact ⟨began, rfl⟩
    | pieces status body =>
      by_cases refused : 400 ≤ status
      · refine ⟨began, ?_⟩
        rw [List.head?_cons, arrival, if_pos refused]
        change (if 400 ≤ status then _ else _ : Attempt Network _).ended _ = _
        rw [if_pos refused]
        rfl
      · obtain ⟨clock, ended⟩ := collect_ended limit began 0 [] body
          ⟨rest, began, requests ++ [request]⟩ (Rat.add_zero began).symm
        refine ⟨clock, ?_⟩
        rw [List.head?_cons, arrival, if_neg refused]
        change (if 400 ≤ status then _ else _ : Attempt Network _).ended _ = _
        rw [if_neg refused]
        by_cases all : timely limit 0 body = true
        · rw [if_pos all] at ended ⊢
          exact ended
        · rw [if_neg all] at ended ⊢
          exact ended

end Network

namespace Chain

/-- The request with a number that puts a question to a provider. -/
def requestOf (chain : Chain) (number : Nat) (provider : Provider) (method : String)
    (parameters : List Json) : NetworkRequest where
  url := provider.url
  headers := provider.headers
  timeout := chain.settings.timeout
  body := .record [("jsonrpc", .text "2.0"), ("id", .int number), ("method", .text method),
    ("params", .list parameters)]

/-- A chain after a request: it is counted, and the network has served it. -/
def asked (chain : Chain) (request : NetworkRequest) (clock : Rat) : Chain :=
  { chain with sent := chain.sent + 1, network := chain.network.served request clock }

/-- What a provider answers by a reply. -/
def answer (limit : Option Rat) (reply : Option NetworkReply) (provider : Provider)
    (method : String) : Except Failure Json := do
  let body ← (Network.arrival limit reply).mapError Failure.network
  resultOf provider method body

/-- A provider that is asked within a time limit answers by the next reply. -/
theorem send_ended {chain : Chain} {limit : Option Rat}
    (timed : chain.settings.timeout.seconds = .ok limit) (provider : Provider) (method : String)
    (parameters : List Json) :
    ∃ clock, (send provider method parameters).ended chain =
      (answer limit chain.network.replies.head? provider method,
        chain.asked (chain.requestOf (chain.sent + 1) provider method parameters) clock) := by
  have timed_request : (chain.requestOf (chain.sent + 1) provider method
      parameters).timeout.seconds = .ok limit := timed
  obtain ⟨clock, posted⟩ := Network.post_ended timed_request chain.network
  refine ⟨clock, ?_⟩
  rw [requestOf] at posted
  rw [send, ended_modify_bind, ended_get_bind, ended_bind]
  dsimp only
  rw [ended_within, posted, answer]
  cases Network.arrival limit chain.network.replies.head? with
  | error failure => rfl
  | ok body => rfl

end Chain

end Attest
