import LanguageClient.Folding.Batch
import LanguageClient.Folding.Cycle
import LanguageClient.Protocol.RequestParams
import LanguageClient.Server.Exchange
import LanguageClient.Settings

/-!
# The folding reconciler

The reconciler keeps the folds of a document's annotation model in line with what servers
report. Each cycle cancels the requests of the one before it and asks all servers with folding
support; every answer, also a late one to an earlier cycle, is applied to the model that is
attached when it comes in, provided that its document is still the one that is bound.

`Reconciler.start` begins a cycle. What comes back is recorded in its cycle (`Reconciler.record`),
and the ranges that the cycle holds then are applied (`Reconciler.applyRecorded`). These are two
steps: where answers are handled side by side, something else may happen in between.
`Reconciler.receive` takes them at once. Documents and models are seen through a `Workspace`.
-/

namespace LanguageClient

/-- The number of an annotation model in its session. -/
abbrev ModelId := Nat

/-- The documents and annotation models of a session, by their numbers. -/
structure Workspace where
  documents : List Document
  models : List AnnotationModel
  deriving Repr

namespace Workspace

/-- Replaces an annotation model. -/
def setModel (w : Workspace) (id : ModelId) (m : AnnotationModel) : Workspace :=
  { w with models := w.models.set id m }

/-- Replaces a document. -/
def setDocument (w : Workspace) (id : DocumentId) (d : Document) : Workspace :=
  { w with documents := w.documents.set id d }

end Workspace

/-- What causes a cycle. The first cycle of a document is never skipped. -/
inductive Trigger
  | initial
  | dirtyRegion
  | explicit
  deriving DecidableEq, Repr

/-- Whether the reconciler is at rest, waits for answers, or is not installed any more. -/
inductive ReconcilerState
  | idle
  | requestsInFlight
  | uninstalled
  deriving DecidableEq, Repr

/-- The reconciler. A model is `attached` while the projection is enabled, and `installed`
remembers it otherwise. `requests` are those of the newest cycle and `superseded` older ones;
`lastStamp` is the stamp of the document when the last cycle began. -/
structure Reconciler where
  document : Option DocumentId := none
  attached : Option ModelId := none
  installed : Option ModelId := none
  requests : List RequestId := []
  superseded : List RequestId := []
  lastStamp : Option Nat := none
  isUninstalled : Bool := false
  cycles : List Cycle := []
  deriving DecidableEq, Repr

namespace Reconciler

/-- Binds a document, or none. -/
def setDocument (r : Reconciler) (document : Option DocumentId) : Reconciler :=
  { r with document }

/-- Installs the annotation model of a viewer. -/
def install (r : Reconciler) (model : ModelId) : Reconciler :=
  { r with installed := some model, attached := some model, isUninstalled := false }

/-- Attaches the installed model. -/
def enable (r : Reconciler) : Reconciler := { r with attached := r.installed }

/-- Detaches the model, which stays installed. -/
def disable (r : Reconciler) : Reconciler := { r with attached := none }

/-- Lets go of document and model and cancels the newest cycle. -/
def uninstall (r : Reconciler) (x : Exchange) : Reconciler × Exchange :=
  ({ r with document := none, installed := none, attached := none, isUninstalled := true },
    x.cancelAll r.requests)

/-- What the reconciler is doing. -/
def state (r : Reconciler) (x : Exchange) : ReconcilerState :=
  if r.isUninstalled then .uninstalled
  else if r.requests.any fun id => !x.isFinished id then .requestsInFlight
  else .idle

/-- Whether a cycle is skipped, because the document has not been modified since the last one
began. -/
def isUpToDate (r : Reconciler) (trigger : Trigger) (stamp : Nat) : Bool :=
  trigger != .initial && r.lastStamp == some stamp

/-- The document that a cycle would be about, with its URI. There is none while the reconciler
is uninstalled or without document or model, nor for a document without a URI. -/
def target? (r : Reconciler) (w : Workspace) : Option (DocumentId × Document × String) := do
  guard !r.isUninstalled
  let id ← r.document
  let _ ← r.attached
  let document ← w.documents[id]?
  return (id, document, ← document.uri)

/-- Begins a cycle, unless there is nothing to do. -/
def start (r : Reconciler) (w : Workspace) (x : Exchange) (settings : FoldingSettings)
    (trigger : Trigger) : Reconciler × Exchange :=
  match r.target? w with
  | none => (r, x)
  | some (id, document, uri) =>
    if r.isUpToDate trigger document.stamp then (r, x)
    else
      let x := x.cancelAll r.requests
      let superseded := r.superseded.filter (fun id => !x.isFinished id) ++ r.requests
      let (x, sent) := x.dispatch
        (fun server => Capability.foldingRange.isSupportedBy server.capabilities)
        settings.cancelGrace RequestKind.foldingRange.method
        (RequestParams.foldingRange uri).toJson
      let requests := sent.map (·.1)
      ({ r with
          requests, superseded
          lastStamp := some document.stamp
          cycles := r.cycles ++ [{ document := id, requests }] }, x)

/-- Applies the ranges of a cycle to the attached model, if the cycle's document is bound. -/
def applyRanges (r : Reconciler) (w : Workspace) (collapseImports : Bool)
    (document : DocumentId) (ranges : List FoldingRange) : Workspace :=
  if r.document = some document then
    match r.attached with
    | none => w
    | some id =>
      match w.documents[document]?, w.models[id]? with
      | some d, some m =>
        let batch := foldingBatch m.tracked d ranges collapseImports
        if batch.isEmpty then w else w.setModel id (m.modify batch)
      | _, _ => w
  else w

/-- Takes the outcome of a request for one cycle after the other, up to the cycle that sent
it. Returns that cycle's document with the ranges to be applied, if any. -/
def recordIn (id : RequestId) (outcome : Outcome FoldingAnswer) :
    List Cycle → List Cycle × Option (DocumentId × List FoldingRange)
  | [] => ([], none)
  | c :: rest =>
    if c.requests.contains id then
      let (c', ranges) := c.record outcome
      (c' :: rest, ranges.map (c.document, ·))
    else
      let (rest', found) := recordIn id outcome rest
      (c :: rest', found)

/-- Records what came back for a request in its cycle. Returns that cycle's document with the
ranges to be applied, if any. -/
def record (r : Reconciler) (id : RequestId) (answer : Answer) :
    Reconciler × Option (DocumentId × List FoldingRange) :=
  let (cycles, found) := recordIn id (Outcome.ofAnswer FoldingAnswer.ofJson? "" answer) r.cycles
  ({ r with cycles }, found)

/-- Applies what has been recorded, if anything is to be applied. -/
def applyRecorded (r : Reconciler) (w : Workspace) (collapseImports : Bool) :
    Option (DocumentId × List FoldingRange) → Workspace
  | some (document, ranges) => r.applyRanges w collapseImports document ranges
  | none => w

/-- Takes what came back for a request: records it and applies the ranges with nothing in
between. -/
def receive (r : Reconciler) (w : Workspace) (collapseImports : Bool) (id : RequestId)
    (answer : Answer) : Reconciler × Workspace :=
  let (r, found) := r.record id answer
  (r, r.applyRecorded w collapseImports found)

/-- Takes what came back for several requests, in order. -/
def receiveAll (r : Reconciler) (w : Workspace) (collapseImports : Bool) :
    List (RequestId × Answer) → Reconciler × Workspace
  | [] => (r, w)
  | (id, answer) :: rest =>
    let (r, w) := r.receive w collapseImports id answer
    receiveAll r w collapseImports rest

end Reconciler

end LanguageClient
