import LanguageClient.Folding.Span

/-!
# Annotations

An annotation marks a span of a document. Folding annotations can be collapsed and expanded;
others belong to other parts of the editor and are left alone. An `AnnotationBatch` is a change
of many annotations in one step.
-/

namespace LanguageClient

/-- The number of an annotation in its model. -/
abbrev AnnotationId := Nat

/-- A region that can be collapsed. A new one is not visible. -/
structure Fold where
  collapsed : Bool
  visible : Bool := false
  deriving DecidableEq, Repr

namespace Fold

/-- Collapses a fold, if it is visible. -/
def collapse (f : Fold) : Fold := if f.visible then { f with collapsed := true } else f

/-- Expands a fold. -/
def expand (f : Fold) : Fold := { f with collapsed := false }

/-- Decides whether a fold is shown: a collapsed one is, an expanded one if it is higher than
one line. Lines without height count as none. -/
def updateVisibility (f : Fold) (pixelHeight lineHeight : Nat) : Fold :=
  { f with visible := f.collapsed || 1 < pixelHeight / lineHeight }

end Fold

/-- What an annotation is: a fold, or something of another part of the editor, by its name. -/
inductive AnnotationKind
  | folding (fold : Fold)
  | other (name : String)
  deriving DecidableEq, Repr

namespace AnnotationKind

/-- The fold of a folding annotation. -/
def fold? : AnnotationKind → Option Fold
  | folding fold => some fold
  | other _ => none

/-- Whether an annotation is a folding annotation. -/
def isFolding (k : AnnotationKind) : Bool := k.fold?.isSome

end AnnotationKind

/-- An annotation with its number and its place, if that is known. -/
structure Tracked where
  id : AnnotationId
  kind : AnnotationKind
  span : Option Span
  deriving DecidableEq, Repr

/-- Annotations to delete, folds to add and spans to change. -/
structure AnnotationBatch where
  deletions : List AnnotationId := []
  additions : List (Fold × Span) := []
  updates : List (AnnotationId × Span) := []
  deriving DecidableEq, Repr

/-- Whether a batch changes nothing. -/
def AnnotationBatch.isEmpty (b : AnnotationBatch) : Bool :=
  b.deletions.isEmpty && b.additions.isEmpty && b.updates.isEmpty

end LanguageClient
