import LanguageClient.Folding.Batch
import LanguageClient.Folding.Model

/-!
# Annotated documents

A document with the annotations that follow it. `AnnotatedDocument.Action` lists what can be done
with the two: the document is edited, ranges are folded, and annotations of other parts of the
editor come in. `AnnotatedDocument.run` goes through a list of actions, and
`AnnotatedDocument.CanRun` says that they can be done one after the other.
-/

namespace LanguageClient

/-- A document and its annotations. -/
structure AnnotatedDocument where
  document : Document
  model : AnnotationModel := .empty
  deriving DecidableEq, Repr

/-- What can be done with an annotated document. -/
inductive AnnotatedDocument.Action
  /-- Characters are replaced, and the annotations follow. -/
  | edit (offset removed : Nat) (new : Text)
  /-- The batch for some ranges is applied. -/
  | fold (ranges : List FoldingRange) (collapseImports : Bool)
  | addOther (name : String) (span : Span)
  | collapse (id : AnnotationId)
  | expand (id : AnnotationId)
  | updateVisibility (id : AnnotationId) (pixelHeight lineHeight : Nat)
  deriving Repr

/-- Whether an action applies a batch. -/
def AnnotatedDocument.Action.isFold : Action → Bool
  | fold _ _ => true
  | _ => false

namespace AnnotatedDocument

/-- A document without annotations. -/
def start (document : Document) : AnnotatedDocument := { document }

/-- Whether an action can be done: an annotation is added within the document. -/
def allows (s : AnnotatedDocument) : Action → Bool
  | .addOther _ span => span.stop ≤ s.document.length
  | _ => true

/-- Replaces characters, if that is possible, and moves the annotations. -/
def edit (s : AnnotatedDocument) (offset removed : Nat) (new : Text) : AnnotatedDocument :=
  match s.document.replace offset removed new with
  | .error _ => s
  | .ok (document, change) => { document, model := s.model.documentChanged change }

/-- Replaces the folds by those for some ranges. -/
def fold (s : AnnotatedDocument) (ranges : List FoldingRange) (collapseImports : Bool) :
    AnnotatedDocument :=
  { s with model := s.model.modify (foldingBatch s.model.tracked s.document ranges collapseImports) }

/-- The document and its annotations behind an action. -/
def after (s : AnnotatedDocument) : Action → AnnotatedDocument
  | .edit offset removed new => s.edit offset removed new
  | .fold ranges collapseImports => s.fold ranges collapseImports
  | .addOther name span => { s with model := s.model.add (.other name) span }
  | .collapse id => { s with model := (s.model.collapse id).1 }
  | .expand id => { s with model := (s.model.expand id).1 }
  | .updateVisibility id pixelHeight lineHeight =>
    { s with model := s.model.updateVisibility id pixelHeight lineHeight }

/-- The document and its annotations behind several actions. -/
def run (s : AnnotatedDocument) (actions : List Action) : AnnotatedDocument := actions.foldl after s

/-- Whether actions can be done one after the other. -/
def CanRun : AnnotatedDocument → List Action → Prop
  | _, [] => True
  | s, action :: actions => s.allows action ∧ (s.after action).CanRun actions

instance decidableCanRun :
    (s : AnnotatedDocument) → (actions : List Action) → Decidable (s.CanRun actions)
  | _, [] => inferInstanceAs (Decidable True)
  | s, action :: actions =>
    have := decidableCanRun (s.after action) actions
    inferInstanceAs (Decidable (s.allows action = true ∧ (s.after action).CanRun actions))

theorem run_append (s : AnnotatedDocument) (actions actions' : List Action) :
    s.run (actions ++ actions') = (s.run actions).run actions' := List.foldl_append

theorem canRun_append {s : AnnotatedDocument} {actions actions' : List Action} :
    s.CanRun (actions ++ actions') ↔ s.CanRun actions ∧ (s.run actions).CanRun actions' := by
  induction actions generalizing s with
  | nil => simp [CanRun, run]
  | cons action actions ih => simp [CanRun, run, ih, and_assoc]

end AnnotatedDocument

end LanguageClient
