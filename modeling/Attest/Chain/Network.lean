import Attest.Attempt
import Attest.Json.Document

/-!
# The network

Requests go out to providers and replies come back in pieces, each after some time. The network
holds the replies in the order in which they come, the clock that the pieces move, and the record of
the requests.
-/
namespace Attest

/-- A text stands for its bytes. -/
instance textBytes : Coe String (List UInt8) := ⟨fun text => Utf8.encode text.toList⟩

/-- A reply to a request. -/
inductive NetworkReply where
  /-- No connection, or one that breaks, named by the way in which it fails. -/
  | broken (error : NetworkError)
  /-- A status, and the body in pieces that each take some seconds. -/
  | pieces (status : Int) (body : List (Rat × List UInt8))

/-- A request to a provider. -/
structure NetworkRequest where
  /-- The address of the provider. -/
  url : String
  /-- The headers. -/
  headers : Json
  /-- The seconds that it may take. -/
  timeout : Json
  /-- The body. -/
  body : Json

/-- The replies still to come, the clock, and the requests made. -/
structure Network where
  /-- The replies still to come. -/
  replies : List NetworkReply
  /-- The seconds that have passed. -/
  clock : Rat := 0
  /-- The requests made. -/
  requests : List NetworkRequest := []

namespace Double

/-- The number that a finite double stands for. -/
def toRat (number : Double) : Rat :=
  let (m, q) := number.scaled
  let size : Rat := if q < 0 then (m : Rat) / Nat.pow 2 q.natAbs else (m : Rat) * Nat.pow 2 q.natAbs
  if number.negative then -size else size

end Double

/-- The seconds of a time limit, none if there is no end to them. -/
def Json.seconds : Json → Except Fault (Option Rat)
  | .int value => .ok (some value)
  | .bool value => .ok (some (if value then 1 else 0))
  | .real value =>
    if value.isNaN then .ok none
    else if value.isInfinite then .ok (if value.negative then some (-(Nat.pow 2 2000)) else none)
    else .ok (some value.toRat)
  | _ => .error .unsuitable

namespace Network

/-- Whether a clock is past a deadline. -/
def late (clock : Rat) (deadline : Option Rat) : Bool :=
  match deadline with
  | some deadline => deadline < clock
  | none => false

/-- Take the pieces of a body until it is complete or late. -/
def collect (deadline : Option Rat) (body : List UInt8) :
    List (Rat × List UInt8) → Attempt Network (List UInt8)
  | [] => return body
  | (seconds, bytes) :: rest => do
    modify fun network => { network with clock := network.clock + seconds }
    if late (← get).clock deadline then throw (.network .late)
    collect deadline (body ++ bytes) rest

/-- Send a request and take the body of the reply. The deadline for the whole body is set when the
request goes out. -/
def post (request : NetworkRequest) : Attempt Network (List UInt8) := do
  let limit ← request.timeout.seconds
  let deadline := limit.map ((← get).clock + ·)
  modify fun network => { network with requests := network.requests ++ [request] }
  match (← get).replies with
  | [] => throw (.network .connection)
  | reply :: rest =>
    modify fun network => { network with replies := rest }
    match reply with
    | .broken error => throw (.network error)
    | .pieces status body =>
      if 400 ≤ status then throw (.network .status)
      collect deadline [] body

end Network

end Attest
