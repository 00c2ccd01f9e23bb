import LanguageClient.Protocol.RequestParams
import LanguageClient.Session.Pause

/-!
# Broadcasts

A broadcast sends one request to every attached server with the right capability and follows
each of them to its end. Each can be cancelled on its own.
-/

namespace LanguageClient

/-- One request sent to several servers: the numbers of the requests, with the names of their
servers, in the order of sending. -/
structure Broadcast where
  exchange : Exchange
  kind : RequestKind
  sent : List (RequestId × String)
  deriving Repr

namespace Broadcast

/-- Sends a request to the servers with a capability. -/
def start (servers : List RecordedServer) (capability : Capability) (grace : Nat)
    (kind : RequestKind) (params : RequestParams) : Broadcast :=
  let (exchange, sent) := (Exchange.ofServers servers).dispatch
    (fun server => capability.isSupportedBy server.capabilities) grace kind.method params.toJson
  { exchange := exchange.afterPause.1, kind, sent }

/-- Lets the pause between two steps pass. -/
def afterPause (b : Broadcast) : Broadcast := { b with exchange := b.exchange.afterPause.1 }

/-- Lets some milliseconds pass. -/
def wait (b : Broadcast) (time : Nat) : Broadcast :=
  { b with exchange := (b.exchange.wait time).1 }

/-- Cancels one of the requests by its place. -/
def cancel (b : Broadcast) (index : Nat) : Broadcast :=
  match b.sent[index]? with
  | some (id, _) => { b with exchange := b.exchange.cancel id }
  | none => b

/-- Cancels all of the requests. -/
def cancelAll (b : Broadcast) : Broadcast :=
  { b with exchange := b.exchange.cancelAll (b.sent.map (·.1)) }

/-- Waits until all of the requests have ended. -/
def settled (b : Broadcast) : Broadcast :=
  let ids := b.sent.map (·.1)
  { b with exchange := (b.exchange.advance (b.exchange.finishTime ids)).1 }

/-- How the requests ended, as far as they have. -/
def outcomes (b : Broadcast) : List (Outcome Reply) :=
  b.sent.filterMap fun (id, _) =>
    (b.exchange.answer? id).map (Outcome.ofAnswer (Reply.ofJson? b.kind) "")

end Broadcast

end LanguageClient
