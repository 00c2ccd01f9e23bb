import LanguageClient.Folding.Model
import LanguageClient.Protocol.FoldingRange

/-!
# From folding ranges to a batch

`foldingBatch` finds the batch that turns the folds of a model into the ranges that servers
report. Live folds and ranges are paired by position: the fold that ends first takes the range
that ends first, and so on, so that folds never cross. A paired fold moves to its range, or goes
if the range is empty; ranges left over become new folds, and folds left over go, as do all
decayed ones.
-/

namespace LanguageClient

namespace FoldingRange

/-- Whether a range is in order and lies within a document of so many lines. -/
def isWithin (r : FoldingRange) (lineCount : Nat) : Bool :=
  r.startLine ≤ r.endLine && r.endLine < lineCount

/-- The span of a range: from the start of its first line to the end of its last one, with the
break. -/
def span (r : FoldingRange) (d : Document) : Except DocumentError Span := do
  let start ← d.lineOffset r.startLine
  let stop ← d.lineEndOffset r.endLine
  return ⟨start, stop - start⟩

end FoldingRange

/-- The live folds of a model in the order in which they are paired: by their end, and of those
with one end the last one first. -/
def liveFolds (annotations : List Tracked) : List (AnnotationId × Span) :=
  (annotations.filterMap fun t =>
    if t.kind.isFolding then
      match t.span with
      | some span => if span.isDecayed then none else some (t.id, span)
      | none => none
    else none).reverse.mergeSort fun (_, a) (_, b) => a.stop ≤ b.stop

/-- The folds of a model that are decayed or have no known place. -/
def lostFolds (annotations : List Tracked) : List AnnotationId :=
  annotations.filterMap fun t =>
    if t.kind.isFolding ∧ t.span.all (·.isDecayed) then some t.id else none

/-- The ranges that lie within a document, by their last line. -/
def validRanges (d : Document) (ranges : List FoldingRange) : List FoldingRange :=
  (ranges.filter (·.isWithin d.lineCount)).mergeSort fun a b => a.endLine ≤ b.endLine

/-- Pairs live folds with ranges, both in order, and adds what has to be done to a batch. -/
def pairFolds (d : Document) (collapseImports : Bool) :
    List (AnnotationId × Span) → List FoldingRange → AnnotationBatch → AnnotationBatch
  | live, [], b => { b with deletions := b.deletions ++ live.reverse.map (·.1) }
  | live, range :: ranges, b =>
    match range.span d with
    | .error _ => pairFolds d collapseImports live ranges b
    | .ok span =>
      match live with
      | (id, current) :: live =>
        if span.isDecayed then
          pairFolds d collapseImports live ranges { b with deletions := b.deletions ++ [id] }
        else if span ≠ current then
          pairFolds d collapseImports live ranges { b with updates := b.updates ++ [(id, span)] }
        else pairFolds d collapseImports live ranges b
      | [] =>
        if span.isDecayed then pairFolds d collapseImports [] ranges b
        else
          let collapsed := collapseImports && range.kind == some .imports
          pairFolds d collapseImports [] ranges
            { b with additions := b.additions ++ [({ collapsed }, span)] }

/-- The batch that turns the folds among `annotations` into `ranges`. -/
def foldingBatch (annotations : List Tracked) (d : Document) (ranges : List FoldingRange)
    (collapseImports : Bool) : AnnotationBatch :=
  pairFolds d collapseImports (liveFolds annotations) (validRanges d ranges)
    { deletions := lostFolds annotations }

end LanguageClient
