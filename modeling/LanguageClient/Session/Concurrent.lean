import LanguageClient.Session.Editor

/-!
# Concurrent editors

Tasks on several threads share an editor. Three steps that an `Editor` takes together with others
are events of their own here, and anything may happen in between. A cycle only creates the tasks
that bring its requests to the servers, and a server receives its request when such a task first
runs (`ConcurrentEvent.send`). The continuation of a request records the answer under the lock of
its cycle (`ConcurrentEvent.record`), and at some later time applies what the cycle held then, under
the lock of the reconciler (`ConcurrentEvent.apply`). Continuations may overtake each other.

What is done under one lock is one event. Applying also reads and changes documents and models,
which have locks of their own; the host is assumed to leave them alone meanwhile.
-/

namespace LanguageClient

/-- The numbers of all requests that were dispatched, with the places of their servers. -/
def Exchange.dispatched (x : Exchange) : List (RequestId × Nat) :=
  x.requests.map fun r => (r.id, r.server)

/-- The continuation of a request whose answer has been recorded: what is `found` is still to be
applied. -/
structure Continuation where
  request : RequestId
  found : Option (DocumentId × List FoldingRange)
  deriving Repr

/-- An editor with the requests that no server has received yet, and the continuations that have
recorded an answer and not applied it yet. -/
structure ConcurrentEditor where
  editor : Editor
  unsent : List RequestId := []
  unapplied : List Continuation := []
  deriving Repr

/-- What can happen in a concurrent editor. -/
inductive ConcurrentEvent
  /-- Anything that happens in an editor but an answer. -/
  | host (event : EditorEvent)
  /-- The task of a request runs for the first time, and the server receives the request. -/
  | send (id : RequestId)
  /-- A request is answered, and its continuation records the answer. -/
  | record (id : RequestId) (answer : Answer)
  /-- The continuation of a request applies what it has found, which is its end. -/
  | apply (id : RequestId)
  deriving Repr

/-- An editor without tasks. -/
def Editor.concurrent (e : Editor) : ConcurrentEditor := { editor := e }

namespace ConcurrentEditor

/-- Whether an event can happen. Only what a server has received is answered, and once. -/
def allows (s : ConcurrentEditor) : ConcurrentEvent → Bool
  | .host event => event.answered?.isNone && s.editor.allows event
  | .send id => s.unsent.contains id
  | .record id _ => s.editor.exchange.isOpen id && !s.unsent.contains id
  | .apply id => s.unapplied.any (·.request == id)

/-- The concurrent editor behind an event. -/
def after (s : ConcurrentEditor) : ConcurrentEvent → ConcurrentEditor
  | .host event =>
    let editor := s.editor.after event
    let new := editor.exchange.requests.drop s.editor.exchange.requests.length
    { s with editor, unsent := s.unsent ++ new.map (·.id) }
  | .send id => { s with unsent := s.unsent.filter (· != id) }
  | .record id answer =>
    let (editor, found) := s.editor.record id answer
    { s with editor, unapplied := s.unapplied ++ [{ request := id, found }] }
  | .apply id =>
    match s.unapplied.find? (·.request == id) with
    | none => s
    | some k =>
      { s with
        editor := s.editor.applyRecorded k.found
        unapplied := s.unapplied.filter (·.request != id) }

/-- The requests that servers have received, with the places of their servers. -/
def sent (s : ConcurrentEditor) : List (RequestId × Nat) :=
  s.editor.exchange.dispatched.filter fun (id, _) => !s.unsent.contains id

/-- Whether a request and its continuation have ended. -/
def isFinished (s : ConcurrentEditor) (id : RequestId) : Bool :=
  s.editor.exchange.isFinished id && !s.unapplied.any (·.request == id)

/-- What the reconciler is doing. -/
def state (s : ConcurrentEditor) : ReconcilerState :=
  if s.editor.reconciler.isUninstalled then .uninstalled
  else if s.editor.reconciler.requests.any fun id => !s.isFinished id then .requestsInFlight
  else .idle

/-- The concurrent editor behind several events. -/
def run (s : ConcurrentEditor) (events : List ConcurrentEvent) : ConcurrentEditor :=
  events.foldl after s

/-- Whether events can happen one after the other. -/
def CanRun : ConcurrentEditor → List ConcurrentEvent → Prop
  | _, [] => True
  | s, event :: events => s.allows event ∧ (s.after event).CanRun events

instance decidableCanRun :
    (s : ConcurrentEditor) → (events : List ConcurrentEvent) → Decidable (s.CanRun events)
  | _, [] => inferInstanceAs (Decidable True)
  | s, event :: events =>
    have := decidableCanRun (s.after event) events
    inferInstanceAs (Decidable (s.allows event = true ∧ (s.after event).CanRun events))

/-- To record an answer and apply it at once is to handle it as an editor does. -/
theorem run_record_apply (s : ConcurrentEditor) {id : RequestId} (answer : Answer)
    (h : ∀ k ∈ s.unapplied, k.request ≠ id) :
    s.run [.record id answer, .apply id] = { s with editor := s.editor.after (.answer id answer) } := by
  have hfind : s.unapplied.find? (·.request == id) = none := by simpa using h
  have hfilter : s.unapplied.filter (·.request != id) = s.unapplied := by simpa using h
  simp [run, after, hfind, hfilter, Editor.after_answer]

end ConcurrentEditor

end LanguageClient
