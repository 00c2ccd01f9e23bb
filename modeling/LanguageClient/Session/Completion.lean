import LanguageClient.Completion.Gathering
import LanguageClient.Protocol.RequestParams
import LanguageClient.Session.Pause

/-!
# Completion sessions

A session asks servers for completions of a document while the document is edited, and applies
the proposals. Servers that have not answered in time are cancelled and contribute nothing.
-/

namespace LanguageClient

/-- A document under completion, with the servers and the present proposals. -/
structure CompletionSession where
  exchange : Exchange
  settings : CompletionSettings
  document : Document
  proposals : List Proposal := []
  deriving Repr

/-- Why a proposal cannot be resolved. -/
inductive ResolveError
  | noSuchProposal
  | notACompletion
  deriving DecidableEq, Repr

namespace CompletionSession

/-- The place of a request among those sent and the name of its server. -/
def place? (sent : List (RequestId × String)) (id : RequestId) : Option (Nat × String) :=
  (sent.zipIdx.find? (·.1.1 == id)).map fun ((_, server), order) => (order, server)

/-- The answers to the requests sent, among the requests that end, in the order in which they
do. -/
def answers (sent : List (RequestId × String)) (ended : List (RequestId × Answer)) :
    List Answered :=
  ended.filterMap fun (id, answer) => (place? sent id).map fun (order, server) =>
    ⟨order, server, .ofAnswer CompletionAnswer.ofJson? CompletionAnswer.mismatch answer⟩

/-- Waits until all requests have ended or the time is up; what is open then is cancelled.
Returns also what arrived meanwhile. The deadline comes last, though nobody may wait for it. -/
def await (x : Exchange) (timeout : Nat) (sent : List (RequestId × String)) :
    Exchange × List Arrival :=
  let ids := sent.map (·.1)
  let deadline := x.now + timeout
  let finish := x.finishTime ids
  let (x, ended) := x.advance (min finish deadline)
  (if finish ≤ deadline then x else x.cancelAll ids,
    (answers sent ended).map .answer ++ [.deadline])

/-- Asks all servers with completion for items at an offset. The proposals replace the present
ones. A document without a URI, or an offset outside of it, has none. -/
def compute (s : CompletionSession) (offset : Nat) : CompletionSession :=
  match s.document.uri, s.document.offsetToPosition offset with
  | some uri, .ok position =>
    let params := RequestParams.completion uri position (some .invoked)
    let (x, sent) := s.exchange.dispatch
      (fun server => Capability.completion.isSupportedBy server.capabilities)
      s.settings.cancelGrace RequestKind.completion.method params.toJson
    let (x, arrived) := await x s.settings.timeout sent
    let gathered := Gathered.ofAnswered (Arrival.answered sent.length arrived)
    let snapshot : Document := { s.document with stamp := 0 }
    { s with exchange := x, proposals := gathered.proposals s.settings snapshot offset }
  | _, _ => { s with proposals := [] }

/-- Lets the pause between two steps pass. -/
def afterPause (s : CompletionSession) : CompletionSession :=
  { s with exchange := s.exchange.afterPause.1 }

/-- Lets some milliseconds pass. -/
def wait (s : CompletionSession) (time : Nat) : CompletionSession :=
  { s with exchange := (s.exchange.wait time).1 }

/-- Asks the server of a proposal for more details of its item, and waits for the answer. The
proposal with them is there only if the server can resolve items and does so. -/
def resolveWith (s : CompletionSession) (p : CompletionProposal) :
    CompletionSession × Option CompletionProposal :=
  if s.document.uri.isNone then (s, none)
  else
    let (x, sent) := s.exchange.dispatch
      (fun server => server.name == p.candidate.server &&
        Capability.completionResolve.isSupportedBy server.capabilities)
      s.settings.cancelGrace RequestKind.resolve.method p.candidate.item.toJson
    match sent with
    | [] => ({ s with exchange := x }, none)
    | (id, _) :: _ =>
      let x := (x.advance (x.finishTime [id])).1
      let resolved := match (x.answer? id).map (Outcome.ofAnswer CompletionItem.ofJson? "") with
        | some (.resolved item) => some (p.withItem item)
        | _ => none
      ({ s with exchange := x }, resolved)

/-- Resolves a proposal by its place. What comes back is added to the proposals. -/
def resolve (s : CompletionSession) (index : Nat) :
    Except ResolveError (CompletionSession × Option CompletionProposal) :=
  match s.proposals[index]? with
  | none => .error .noSuchProposal
  | some entry =>
    match entry.completion? with
    | none => .error .notACompletion
    | some p =>
      let (s, resolved) := s.resolveWith p
      .ok ({ s with proposals := s.proposals ++ (resolved.map Proposal.completion).toList },
        resolved)

end CompletionSession

end LanguageClient
