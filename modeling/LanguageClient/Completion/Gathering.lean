import LanguageClient.Completion.Proposal
import LanguageClient.Server.Request
import LanguageClient.Settings

/-!
# Gathering answers

The answers of all servers to one completion request become one list of proposals. They are taken
as they arrive, until none is missing or the time is up (`Arrival.answered`), and put into the
order of the servers. Their items are ranked together; behind them come, where the settings ask
for it, the servers that failed and an entry that asks for more typing.
-/

namespace LanguageClient

/-- How a request to one server ended. `order` is the place of the server among those asked. -/
structure Answered where
  order : Nat
  server : String
  outcome : Outcome CompletionAnswer
  deriving Repr

/-- What whoever waits for answers is woken by. -/
inductive Arrival
  | answer (answer : Answered)
  /-- The time for answers is up. -/
  | deadline
  deriving Repr

/-- The answers that are taken of what arrives while so many are awaited. Nothing is taken behind
the last of them, or behind the deadline. -/
def Arrival.answered : Nat → List Arrival → List Answered
  | awaited + 1, .answer a :: rest => a :: answered awaited rest
  | _, _ => []

/-- What came back from the servers. -/
structure Gathered where
  candidates : List Candidate := []
  errors : List (String × String) := []
  isIncomplete : Bool := false
  deriving Repr

namespace Gathered

/-- Takes an answer. -/
def record (g : Gathered) (a : Answered) : Gathered :=
  match a.outcome with
  | .resolved answer =>
    { g with
      candidates := g.candidates ++ answer.allItems.zipIdx.map fun (item, index) =>
        ⟨item, a.server, ⟨a.order, index⟩⟩
      isIncomplete := g.isIncomplete || answer.isIncomplete }
  | .cancelled => g
  | .failed error => { g with errors := g.errors ++ [(a.server, error.message)] }

/-- Takes answers in the order of the servers, in whatever order they arrived. -/
def ofAnswered (answers : List Answered) : Gathered :=
  (answers.mergeSort fun a b => a.order ≤ b.order).foldl record {}

/-- The proposals for what came back. -/
def proposals (g : Gathered) (settings : CompletionSettings) (snapshot : Document)
    (invocation : Nat) : List Proposal :=
  let policy := if settings.caseSensitive then CasePolicy.sensitive else .insensitive
  let ranked := (rank policy snapshot invocation g.candidates).map fun r =>
    Proposal.completion (.ofRanked r snapshot invocation)
  let errors := if settings.errorsAsProposals then
      g.errors.map fun (server, message) => Proposal.serverError server message
    else []
  let more := if g.isIncomplete && settings.incompleteAsProposal then
      [Proposal.continueTyping]
    else []
  ranked ++ errors ++ more

end Gathered

end LanguageClient
