import LanguageClient.Server.Exchange

/-!
# Histories of an exchange

What happens to an exchange: servers come and go, requests are sent and cancelled, and time passes.
`Exchange.run` goes through a list of such events and `Exchange.reported` lists the requests that
end on the way. `Exchange.signals` tells when a request was signalled to be cancelled.
-/

namespace LanguageClient

/-- What can happen to an exchange. -/
inductive ExchangeEvent
  | attach (server : RecordedServer)
  | detach (name : String)
  /-- A request is sent to all servers that qualify. -/
  | dispatch (qualifies : RecordedServer → Bool) (grace : Nat) (method : String) (params : Json)
  /-- A request is signalled to be cancelled. -/
  | cancel (id : RequestId)
  /-- Time passes up to some time. -/
  | advance (time : Nat)

namespace Exchange

/-- The exchange behind an event, with the requests that end. -/
def perform (x : Exchange) : ExchangeEvent → Exchange × List (RequestId × Answer)
  | .attach server => (x.attach server, [])
  | .detach name => (x.detach name, [])
  | .dispatch qualifies grace method params => ((x.dispatch qualifies grace method params).1, [])
  | .cancel id => (x.cancel id, [])
  | .advance time => x.advance time

/-- The exchange behind several events. -/
def run (x : Exchange) (events : List ExchangeEvent) : Exchange :=
  events.foldl (fun x event => (x.perform event).1) x

/-- The requests that end in the course of several events, in the order in which they do. -/
def reported (x : Exchange) : List ExchangeEvent → List (RequestId × Answer)
  | [] => []
  | event :: events => (x.perform event).2 ++ (x.perform event).1.reported events

/-- The times at which a request is signalled to be cancelled. -/
def signals (x : Exchange) (id : RequestId) : List ExchangeEvent → List Nat
  | [] => []
  | .cancel id' :: events =>
    if id' = id then x.now :: (x.cancel id').signals id events else (x.cancel id').signals id events
  | event :: events => (x.perform event).1.signals id events

theorem run_append (x : Exchange) (events events' : List ExchangeEvent) :
    x.run (events ++ events') = (x.run events).run events' := List.foldl_append

theorem reported_append (x : Exchange) (events events' : List ExchangeEvent) :
    x.reported (events ++ events') = x.reported events ++ (x.run events).reported events' := by
  induction events generalizing x with
  | nil => rfl
  | cons event events ih =>
    rw [List.cons_append, reported, ih, reported, List.append_assoc]
    rfl

theorem signals_append (x : Exchange) (id : RequestId) (events events' : List ExchangeEvent) :
    x.signals id (events ++ events') =
      x.signals id events ++ (x.run events).signals id events' := by
  induction events generalizing x with
  | nil => rfl
  | cons event events ih =>
    cases event with
    | cancel id' =>
      simp only [List.cons_append, signals, ih]
      split <;> rfl
    | _ => exact ih _

end Exchange

end LanguageClient
