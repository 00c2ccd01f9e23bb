import LanguageClient.Folding.Reconciler

/-!
# Editors

An editor holds documents, annotation models and servers, and runs the folding reconciler among
them. `EditorEvent` lists all that can happen, in whatever order: the reconciler is told to do
things, documents and annotations change, servers come and go, time passes, and requests come
back. What a request brings, and when, is left open. `Editor.run` goes through a list of events,
and `Editor.CanRun` says that they can happen one after the other.

Answers are handled one by one here. An answer is recorded and its ranges are applied in one event
(`Editor.record` and `Editor.applyRecorded`), and a request is with its server as soon as its cycle
has begun. That is so if all tasks share one thread. Where several threads run them, each of these
steps is an event of its own, as for a `ConcurrentEditor`.
-/

namespace LanguageClient

/-- What happens to the annotations of a model apart from the reconciler. -/
inductive AnnotationAction
  /-- The spans follow a change of the document. -/
  | follow (change : TextChange)
  | addOther (name : String) (span : Span)
  | collapse (id : AnnotationId)
  | expand (id : AnnotationId)
  | updateVisibility (id : AnnotationId) (pixelHeight lineHeight : Nat)
  /-- Somebody else applies a batch. -/
  | modify (batch : AnnotationBatch)
  deriving Repr

/-- The model behind an action. -/
def AnnotationModel.act (m : AnnotationModel) : AnnotationAction → AnnotationModel
  | .follow change => m.documentChanged change
  | .addOther name span => m.add (.other name) span
  | .collapse id => (m.collapse id).1
  | .expand id => (m.expand id).1
  | .updateVisibility id pixelHeight lineHeight => m.updateVisibility id pixelHeight lineHeight
  | .modify batch => m.modify batch

/-- Ends a request with an answer. -/
def Exchange.conclude (x : Exchange) (id : RequestId) (answer : Answer) : Exchange :=
  { x with requests := x.requests.map fun r =>
      if r.id = id then { r with ended := some (x.now, answer) } else r }

/-- Whether a request was sent and has not ended. -/
def Exchange.isOpen (x : Exchange) (id : RequestId) : Bool :=
  (x.request? id).any fun r => !r.isFinished

/-- An editor with its reconciler. -/
structure Editor where
  settings : FoldingSettings := {}
  workspace : Workspace
  exchange : Exchange := {}
  reconciler : Reconciler := {}
  deriving Repr

/-- What can happen in an editor. -/
inductive EditorEvent
  /-- The reconciler is bound to a document, or to none. -/
  | bind (document : Option DocumentId)
  | install (model : ModelId)
  | enable
  | disable
  | uninstall
  | reconcile (trigger : Trigger)
  /-- Somebody waits for the requests of the reconciler, which lets go of them. -/
  | settle
  | openDocument (text : Text) (uri : Option String)
  | edit (document : DocumentId) (offset removed : Nat) (new : Text)
  | openModel
  | annotate (model : ModelId) (action : AnnotationAction)
  | attach (server : RecordedServer)
  | detach (name : String)
  | pass (time : Nat)
  /-- An answer to a request arrives and is handled. -/
  | answer (id : RequestId) (answer : Answer)
  deriving Repr

/-- The request that an event ends, with its answer. -/
def EditorEvent.answered? : EditorEvent → Option (RequestId × Answer)
  | answer id a => some (id, a)
  | _ => none

namespace Editor

/-- Whether an event can happen. Only documents and models that are there can be bound and
installed, and a request is answered once. -/
def allows (e : Editor) : EditorEvent → Bool
  | .bind (some document) => document < e.workspace.documents.length
  | .install model => model < e.workspace.models.length
  | .answer id _ => e.exchange.isOpen id
  | _ => true

/-- Replaces characters of a document, if that is possible. -/
def editDocument (e : Editor) (document : DocumentId) (offset removed : Nat) (new : Text) :
    Editor :=
  match e.workspace.documents[document]? with
  | none => e
  | some d =>
    match d.replace offset removed new with
    | .error _ => e
    | .ok (d, _) => { e with workspace := e.workspace.setDocument document d }

/-- The editor behind the recording of an answer, and the ranges that are to be applied. -/
def record (e : Editor) (id : RequestId) (answer : Answer) :
    Editor × Option (DocumentId × List FoldingRange) :=
  let (reconciler, found) := e.reconciler.record id answer
  ({ e with reconciler, exchange := e.exchange.conclude id answer }, found)

/-- Applies what has been recorded. -/
def applyRecorded (e : Editor) (found : Option (DocumentId × List FoldingRange)) : Editor :=
  { e with
    workspace := e.reconciler.applyRecorded e.workspace e.settings.collapseImports found }

/-- The editor behind an event. -/
def after (e : Editor) : EditorEvent → Editor
  | .bind document => { e with reconciler := e.reconciler.setDocument document }
  | .install model => { e with reconciler := e.reconciler.install model }
  | .enable => { e with reconciler := e.reconciler.enable }
  | .disable => { e with reconciler := e.reconciler.disable }
  | .uninstall =>
    let (reconciler, exchange) := e.reconciler.uninstall e.exchange
    { e with reconciler, exchange }
  | .reconcile trigger =>
    let (reconciler, exchange) := e.reconciler.start e.workspace e.exchange e.settings trigger
    { e with reconciler, exchange }
  | .settle => { e with reconciler := { e.reconciler with requests := [], superseded := [] } }
  | .openDocument text uri =>
    { e with workspace := { e.workspace with
        documents := e.workspace.documents ++ [{ text, uri }] } }
  | .edit document offset removed new => e.editDocument document offset removed new
  | .openModel =>
    { e with workspace := { e.workspace with models := e.workspace.models ++ [.empty] } }
  | .annotate model action =>
    { e with workspace := { e.workspace with
        models := e.workspace.models.modify model (·.act action) } }
  | .attach server => { e with exchange := e.exchange.attach server }
  | .detach name => { e with exchange := e.exchange.detach name }
  | .pass time => { e with exchange := { e.exchange with now := max e.exchange.now time } }
  | .answer id answer =>
    let (e, found) := e.record id answer
    e.applyRecorded found

section After

variable (e : Editor) (trigger : Trigger) (id : RequestId) (answer : Answer)

theorem reconciler_after_reconcile : (e.after (.reconcile trigger)).reconciler =
    (e.reconciler.start e.workspace e.exchange e.settings trigger).1 := rfl

theorem exchange_after_reconcile : (e.after (.reconcile trigger)).exchange =
    (e.reconciler.start e.workspace e.exchange e.settings trigger).2 := rfl

theorem after_answer :
    e.after (.answer id answer) = (e.record id answer).1.applyRecorded (e.record id answer).2 := rfl

theorem reconciler_after_answer : (e.after (.answer id answer)).reconciler =
    (e.reconciler.receive e.workspace e.settings.collapseImports id answer).1 := rfl

theorem exchange_after_answer :
    (e.after (.answer id answer)).exchange = e.exchange.conclude id answer := rfl

section Edit

variable (document : DocumentId) (offset removed : Nat) (new : Text)

/-- An edit changes nothing but documents, and there are as many as before. -/
theorem exists_editDocument_eq : ∃ documents : List Document,
    documents.length = e.workspace.documents.length ∧
      e.editDocument document offset removed new =
        { e with workspace := { e.workspace with documents } } := by
  unfold editDocument
  split
  · exact ⟨_, rfl, rfl⟩
  · split
    · exact ⟨_, rfl, rfl⟩
    · exact ⟨_, List.length_set .., rfl⟩

theorem reconciler_after_edit :
    (e.after (.edit document offset removed new)).reconciler = e.reconciler := by
  obtain ⟨documents, -, heq⟩ := e.exists_editDocument_eq document offset removed new
  rw [after, heq]

end Edit

end After

/-- The editor behind several events. -/
def run (e : Editor) (events : List EditorEvent) : Editor := events.foldl after e

/-- Whether events can happen one after the other. -/
def CanRun : Editor → List EditorEvent → Prop
  | _, [] => True
  | e, event :: events => e.allows event ∧ (e.after event).CanRun events

instance decidableCanRun : (e : Editor) → (events : List EditorEvent) → Decidable (e.CanRun events)
  | _, [] => inferInstanceAs (Decidable True)
  | e, event :: events =>
    have := decidableCanRun (e.after event) events
    inferInstanceAs (Decidable (e.allows event = true ∧ (e.after event).CanRun events))

theorem run_append (e : Editor) (events events' : List EditorEvent) :
    e.run (events ++ events') = (e.run events).run events' := List.foldl_append

theorem canRun_append {e : Editor} {events events' : List EditorEvent} :
    e.CanRun (events ++ events') ↔ e.CanRun events ∧ (e.run events).CanRun events' := by
  induction events generalizing e with
  | nil => simp [CanRun, run]
  | cons event events ih => simp [CanRun, run, ih, and_assoc]

end Editor

end LanguageClient
