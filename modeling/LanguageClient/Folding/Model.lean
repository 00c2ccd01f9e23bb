import LanguageClient.Folding.Annotation

/-!
# The annotation model

The model holds the annotations of one document in the order in which they were added. Numbers
count up and are never given twice. When the document changes, the spans follow it.
-/

namespace LanguageClient

/-- An annotation in its place. -/
structure AnnotationEntry where
  id : AnnotationId
  kind : AnnotationKind
  span : Span
  deriving DecidableEq, Repr

/-- The annotations of a document. `lastId` is the last number given, and `batches` counts the
batches applied, of which `lastBatch` was the last. -/
structure AnnotationModel where
  entries : List AnnotationEntry := []
  lastId : AnnotationId := 0
  batches : Nat := 0
  lastBatch : Option AnnotationBatch := none
  deriving DecidableEq, Repr

namespace AnnotationModel

/-- The model without annotations. -/
def empty : AnnotationModel := {}

/-- Adds an annotation under a new number. -/
def add (m : AnnotationModel) (kind : AnnotationKind) (span : Span) : AnnotationModel :=
  { m with
    entries := m.entries ++ [⟨m.lastId + 1, kind, span⟩]
    lastId := m.lastId + 1 }

/-- The entry with a number. -/
def find? (m : AnnotationModel) (id : AnnotationId) : Option AnnotationEntry :=
  m.entries.find? (·.id == id)

/-- All annotations with their places. -/
def tracked (m : AnnotationModel) : List Tracked :=
  m.entries.map fun e => ⟨e.id, e.kind, some e.span⟩

/-- The folds with their numbers and spans, ordered by offset and length. -/
def folds (m : AnnotationModel) : List (AnnotationId × Span × Fold) :=
  (m.entries.filterMap fun e => e.kind.fold?.map (e.id, e.span, ·)).mergeSort
    fun (_, a, _) (_, b, _) => a.offset < b.offset || (a.offset == b.offset && a.length ≤ b.length)

/-- The spans of the folds, in the order of the entries. -/
def foldSpans (m : AnnotationModel) : List Span :=
  m.entries.filterMap fun e => if e.kind.isFolding then some e.span else none

/-- Moves all spans across a change of the document. -/
def documentChanged (m : AnnotationModel) (c : TextChange) : AnnotationModel :=
  { m with entries := m.entries.map fun e => { e with span := e.span.afterChange c } }

/-- Changes the fold of an annotation. -/
def updateFold (m : AnnotationModel) (id : AnnotationId) (f : Fold → Fold) : AnnotationModel :=
  { m with entries := m.entries.map fun e =>
      match e.kind with
      | .folding fold => if e.id = id then { e with kind := .folding (f fold) } else e
      | .other _ => e }

/-- The fold of an annotation, if it is a folding annotation. -/
def fold? (m : AnnotationModel) (id : AnnotationId) : Option Fold :=
  (m.find? id).bind (·.kind.fold?)

/-- Collapses a fold. Says also whether it is collapsed now. -/
def collapse (m : AnnotationModel) (id : AnnotationId) : AnnotationModel × Bool :=
  let m := m.updateFold id Fold.collapse
  (m, (m.fold? id).any (·.collapsed))

/-- Expands a fold. Says also whether there is one. -/
def expand (m : AnnotationModel) (id : AnnotationId) : AnnotationModel × Bool :=
  (m.updateFold id Fold.expand, (m.fold? id).isSome)

/-- Decides whether a fold is shown, see `Fold.updateVisibility`. -/
def updateVisibility (m : AnnotationModel) (id : AnnotationId) (pixelHeight lineHeight : Nat) :
    AnnotationModel :=
  m.updateFold id (·.updateVisibility pixelHeight lineHeight)

/-- Applies a batch: deletions, then changes of spans, then additions. -/
def modify (m : AnnotationModel) (b : AnnotationBatch) : AnnotationModel :=
  let kept := m.entries.filter fun e => !b.deletions.contains e.id
  let moved := b.updates.foldl (fun entries (id, span) =>
    entries.map fun e => if e.id = id then { e with span } else e) kept
  let m := b.additions.foldl (fun m (fold, span) => m.add (.folding fold) span)
    { m with entries := moved }
  { m with batches := m.batches + 1, lastBatch := some b }

end AnnotationModel

end LanguageClient
