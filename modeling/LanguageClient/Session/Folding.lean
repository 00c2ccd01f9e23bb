import LanguageClient.Folding.Reconciler
import LanguageClient.Session.Pause

/-!
# Folding sessions

A session runs the reconciler among the actions of its host: documents are opened, edited and
closed, models installed and removed, servers come and go, and time passes. `FoldingSession.step`
is one action, and behind every action follows the pause between two steps.
-/

namespace LanguageClient

/-- The state of a session. `document` and `model` are the ones that the user works on, whether
or not the reconciler knows them. -/
structure FoldingSession where
  exchange : Exchange
  settings : FoldingSettings
  workspace : Workspace
  reconciler : Reconciler := {}
  document : DocumentId := 0
  model : ModelId := 0
  deriving Repr

/-- What a host can do. -/
inductive FoldingAction
  /-- Opens a new document. -/
  | openNew (text : Text) (uri : Option String)
  /-- Binds the present document again. -/
  | reopen
  | close
  /-- Installs the present model, or a new one that takes its place. -/
  | install (isNew : Bool)
  | uninstall
  | enable
  | disable
  | reconcile (trigger : Trigger)
  /-- Waits until all requests of the reconciler have ended. -/
  | settle
  | wait (time : Nat)
  /-- Edits the present document; the model follows if the edit is tracked. -/
  | edit (offset length : Nat) (text : Text) (isTracked : Bool)
  | addOther (kind : String) (span : Span)
  | collapse (id : AnnotationId)
  | expand (id : AnnotationId)
  | updateVisibility (id : AnnotationId) (pixelHeight lineHeight : Nat)
  | attach (server : RecordedServer)
  | detach (name : String)
  deriving Repr

/-- What an action answers. -/
inductive FoldingResult
  | nothing
  | changed (change : Except DocumentError TextChange)
  | flag (b : Bool)
  | added (id : AnnotationId)
  deriving Repr

namespace FoldingSession

/-- A session with one document and one model, which the reconciler knows unless it is bare. -/
def start (servers : List RecordedServer) (settings : FoldingSettings) (document : Document)
    (isBare : Bool) : FoldingSession :=
  { exchange := .ofServers servers
    settings
    workspace := ⟨[document], [.empty]⟩
    reconciler := if isBare then {}
      else ({} : Reconciler).setDocument (some 0) |>.install 0 }

/-- The present document. -/
def currentDocument (s : FoldingSession) : Document :=
  s.workspace.documents.getD s.document { text := [] }

/-- The present model. -/
def currentModel (s : FoldingSession) : AnnotationModel :=
  s.workspace.models.getD s.model .empty

/-- Replaces the present model. -/
def setModel (s : FoldingSession) (m : AnnotationModel) : FoldingSession :=
  { s with workspace := s.workspace.setModel s.model m }

/-- Lets time pass up to `time`, and takes what comes back meanwhile. -/
def advance (s : FoldingSession) (time : Nat) : FoldingSession :=
  let (exchange, ended) := s.exchange.advance time
  let (reconciler, workspace) :=
    s.reconciler.receiveAll s.workspace s.settings.collapseImports ended
  { s with exchange, reconciler, workspace }

/-- Lets the pause between two steps pass. -/
def afterPause (s : FoldingSession) : FoldingSession :=
  s.advance (s.exchange.now + Exchange.pause)

/-- Waits until all requests of the reconciler have ended, and lets go of them. -/
def settle (s : FoldingSession) : FoldingSession :=
  let r := s.reconciler
  let held := r.requests ++ r.superseded
  { s with reconciler := { r with requests := [], superseded := [] } }.advance
    (s.exchange.finishTime held)

/-- Edits the present document, and lets the model follow if the edit is tracked. -/
def edit (s : FoldingSession) (offset length : Nat) (text : Text) (isTracked : Bool) :
    FoldingSession × Except DocumentError TextChange :=
  match s.currentDocument.replace offset length text with
  | .error e => (s, .error e)
  | .ok (d, change) =>
    let s := { s with workspace := s.workspace.setDocument s.document d }
    (if isTracked then s.setModel (s.currentModel.documentChanged change) else s, .ok change)

/-- One action of the host. -/
def act (s : FoldingSession) : FoldingAction → FoldingSession × FoldingResult
  | .openNew text uri =>
    let id := s.workspace.documents.length
    let documents := s.workspace.documents ++ [{ text, uri }]
    ({ s with
      workspace := { s.workspace with documents }
      document := id
      reconciler := s.reconciler.setDocument (some id) }, .nothing)
  | .reopen => ({ s with reconciler := s.reconciler.setDocument (some s.document) }, .nothing)
  | .close => ({ s with reconciler := s.reconciler.setDocument none }, .nothing)
  | .install false => ({ s with reconciler := s.reconciler.install s.model }, .nothing)
  | .install true =>
    let id := s.workspace.models.length
    let models := s.workspace.models ++ [.empty]
    ({ s with
      workspace := { s.workspace with models }
      model := id
      reconciler := s.reconciler.install id }, .nothing)
  | .uninstall =>
    let (reconciler, exchange) := s.reconciler.uninstall s.exchange
    ({ s with reconciler, exchange }, .nothing)
  | .enable => ({ s with reconciler := s.reconciler.enable }, .nothing)
  | .disable => ({ s with reconciler := s.reconciler.disable }, .nothing)
  | .reconcile trigger =>
    let (reconciler, exchange) := s.reconciler.start s.workspace s.exchange s.settings trigger
    ({ s with reconciler, exchange }, .nothing)
  | .settle => (s.settle, .nothing)
  | .wait time => (s.advance (s.exchange.now + time), .nothing)
  | .edit offset length text isTracked =>
    let (s, change) := s.edit offset length text isTracked
    (s, .changed change)
  | .addOther kind span =>
    let m := s.currentModel.add (.other kind) span
    (s.setModel m, .added m.lastId)
  | .collapse id =>
    let (m, isCollapsed) := s.currentModel.collapse id
    (s.setModel m, .flag isCollapsed)
  | .expand id =>
    let (m, found) := s.currentModel.expand id
    (s.setModel m, .flag found)
  | .updateVisibility id pixelHeight lineHeight =>
    (s.setModel (s.currentModel.updateVisibility id pixelHeight lineHeight), .nothing)
  | .attach server => ({ s with exchange := s.exchange.attach server }, .nothing)
  | .detach name =>
    ({ s with exchange := s.exchange.detach name }, .flag (s.exchange.isAttached name))

/-- One action of the host and the pause behind it. -/
def step (s : FoldingSession) (action : FoldingAction) : FoldingSession × FoldingResult :=
  let (s, result) := s.act action
  (s.afterPause, result)

/-- The state of the reconciler. -/
def state (s : FoldingSession) : ReconcilerState := s.reconciler.state s.exchange

end FoldingSession

end LanguageClient
