import LanguageClient.Server.Request

/-!
# The exchange

The exchange holds the servers and all requests dispatched to them, on a clock that counts
milliseconds. A request counts as sent from then on, as if the task that brings it to its server
ran at once; where it may run later, a `ConcurrentEditor` keeps the requests that are still unsent.
A server that was detached is asked no more, but what was sent to it goes on.
When time passes, `Exchange.advance` reports the requests that end, in the order in which they
do; those that end at one time end in the order of sending.
-/

namespace LanguageClient

/-- A server that is or was attached. -/
structure Peer where
  server : RecordedServer
  isAttached : Bool := true
  deriving Repr

/-- All servers and requests. `told` lists the requests whose servers were told that they are
cancelled, in that order. -/
structure Exchange where
  now : Nat := 0
  peers : List Peer := []
  requests : List Request := []
  told : List RequestId := []
  deriving Repr

namespace Exchange

/-- An exchange with the given servers attached. -/
def ofServers (servers : List RecordedServer) : Exchange :=
  { peers := servers.map ({ server := · }) }

/-- Attaches a server behind the others. -/
def attach (x : Exchange) (server : RecordedServer) : Exchange :=
  { x with peers := x.peers ++ [{ server }] }

/-- Detaches all servers of a name. -/
def detach (x : Exchange) (name : String) : Exchange :=
  { x with peers := x.peers.map fun p =>
      if p.server.name = name then { p with isAttached := false } else p }

/-- Whether a server of this name is attached. -/
def isAttached (x : Exchange) (name : String) : Bool :=
  x.peers.any fun p => p.isAttached && p.server.name == name

/-- The attached servers that are accepted by `qualifies`, with their places. -/
def qualifying (x : Exchange) (qualifies : RecordedServer → Bool) : List (Nat × RecordedServer) :=
  x.peers.zipIdx.filterMap fun (p, i) =>
    if p.isAttached && qualifies p.server then some (i, p.server) else none

/-- A new request to a server. One without a response to the method fails at once. -/
def newRequest (x : Exchange) (grace : Nat) (method : String) (params : Json)
    (place : Nat) (server : RecordedServer) : Request :=
  let id := x.requests.length + 1
  match server.response? method with
  | some r =>
    { id, server := place, method, params, grace
      due := x.now + r.delay, answer := r.answer server.name, ignoresCancel := r.ignoresCancel }
  | none =>
    { id, server := place, method, params, grace
      due := x.now, answer := .error (.rpc .methodNotFound), ignoresCancel := true }

/-- Dispatches a request to the given servers. -/
def sendAll (grace : Nat) (method : String) (params : Json) :
    Exchange → List (Nat × RecordedServer) → Exchange
  | x, [] => x
  | x, (place, server) :: rest =>
    let request := x.newRequest grace method params place server
    sendAll grace method params { x with requests := x.requests ++ [request] } rest

/-- Dispatches a request to all attached servers that qualify. Returns the numbers of the requests
with the names of their servers. -/
def dispatch (x : Exchange) (qualifies : RecordedServer → Bool) (grace : Nat) (method : String)
    (params : Json) : Exchange × List (RequestId × String) :=
  let servers := x.qualifying qualifies
  (sendAll grace method params x servers,
    servers.zipIdx.map fun ((_, server), i) => (x.requests.length + 1 + i, server.name))

/-- The request of a number. -/
def request? (x : Exchange) (id : RequestId) : Option Request :=
  x.requests.find? (·.id == id)

/-- Whether a request has ended. -/
def isFinished (x : Exchange) (id : RequestId) : Bool := (x.request? id).any (·.isFinished)

/-- Signals that a request is cancelled. -/
def cancel (x : Exchange) (id : RequestId) : Exchange :=
  match x.request? id with
  | none => x
  | some r =>
    { x with
      requests := x.requests.map fun r => if r.id = id then r.signal x.now else r
      told := if r.isFinished || r.isTold then x.told else x.told ++ [id] }

/-- Signals that all of these requests are cancelled. -/
def cancelAll (x : Exchange) (ids : List RequestId) : Exchange := ids.foldl cancel x

/-- The requests that end up to `time`, in the order in which they do. -/
def ending (x : Exchange) (time : Nat) : List Request :=
  (x.requests.filter (·.endsBy time)).mergeSort fun a b => a.finish.1 ≤ b.finish.1

/-- Lets time pass up to `time`, and reports the requests that end meanwhile. -/
def advance (x : Exchange) (time : Nat) : Exchange × List (RequestId × Answer) :=
  ({ x with now := max x.now time, requests := x.requests.map (·.advance time) },
    (x.ending time).map fun r => (r.id, r.finish.2))

/-- The time at which the last of these requests ends. -/
def finishTime (x : Exchange) (ids : List RequestId) : Nat :=
  ids.foldl (fun time id =>
    match x.request? id with
    | some r => if r.isFinished then time else max time r.finish.1
    | none => time) x.now

/-- The outcome of a request that has ended. -/
def answer? (x : Exchange) (id : RequestId) : Option Answer :=
  (x.request? id).bind fun r => r.ended.map (·.2)

/-- The requests that a server received. -/
def received (x : Exchange) (place : Nat) : List Request :=
  x.requests.filter (·.server == place)

/-- The cancelled requests that a server was told of. -/
def toldTo (x : Exchange) (place : Nat) : List RequestId :=
  x.told.filter fun id => (x.request? id).any (·.server == place)

end Exchange

end LanguageClient
