import LanguageClient.Server.Recorded

/-!
# The life of a request

A request is sent once and ends once. Until its server answers it can be cancelled. A server
that heeds this answers at once that the request was cancelled; one that does not may still
answer, but is waited for only as long as the grace lasts. Signalling a second time, or after
the answer, does nothing at the server.

`Request.signal` and `Request.advance` are the two steps of a request's life, and
`Request.finish` says when and how it will end if it is not signalled again.
-/

namespace LanguageClient

/-- The number of a request, counted from 1 in the order of sending. -/
abbrev RequestId := Nat

/-- How a request ended: with an answer of the form asked for, without one that anybody waits
for, or with a failure. -/
inductive Outcome (α : Type)
  | resolved (value : α)
  | cancelled
  | failed (error : ServerError)
  deriving Repr

/-- The outcome that an answer means, read by `read`. `mismatch` describes an answer that cannot
be read. -/
def Outcome.ofAnswer {α : Type} (read : Json → Option α) (mismatch : String) :
    Answer → Outcome α
  | .ok value =>
    match read value with
    | some a => resolved a
    | none => failed (.invalidResponse mismatch)
  | .error e => if e.isCancellation then cancelled else failed e

/-- A request to one server. The answer will come at time `due`, and is waited for no longer
than up to `deadline`, which the first signal sets. -/
structure Request where
  id : RequestId
  server : Nat
  method : String
  params : Json
  due : Nat
  answer : Answer
  ignoresCancel : Bool
  grace : Nat
  deadline : Option Nat := none
  isCancelled : Bool := false
  ended : Option (Nat × Answer) := none
  deriving Repr

namespace Request

/-- Whether a request has ended. -/
def isFinished (r : Request) : Bool := r.ended.isSome

/-- Whether the server was told that the request is cancelled. -/
def isTold (r : Request) : Bool := r.deadline.isSome

/-- When and how a request ends that is not signalled again. -/
def finish (r : Request) : Nat × Answer :=
  match r.deadline with
  | some deadline => if deadline < r.due then (deadline, .error .cancelled) else (r.due, r.answer)
  | none => (r.due, r.answer)

/-- Signals at time `now` that the request is cancelled. -/
def signal (now : Nat) (r : Request) : Request :=
  if r.isFinished || r.isTold then { r with isCancelled := true }
  else if r.ignoresCancel then
    { r with isCancelled := true, deadline := some (now + r.grace) }
  else
    { r with
      isCancelled := true
      deadline := some (now + r.grace)
      due := now
      answer := .error (.rpc ⟨RpcError.cancelledCode, "Canceled", none⟩) }

/-- Whether the request ends at `now` or before. -/
def endsBy (now : Nat) (r : Request) : Bool := !r.isFinished && r.finish.1 ≤ now

/-- Lets time pass up to `now`. -/
def advance (now : Nat) (r : Request) : Request :=
  if r.endsBy now then { r with ended := some r.finish } else r

end Request

end LanguageClient
