import LanguageClient.Folding.Batch
import LanguageClient.Folding.Model

/-!
# What a batch makes of the folds

A batch deletes a fold, moves it or leaves it (`AnnotationBatch.spanAfter?`). Of a model it keeps
the folds that it does not delete, in their order and in their new places, with the added ones
behind them (`AnnotationModel.foldSpans_modify`).
-/

namespace LanguageClient

/-! ## One fold -/

namespace AnnotationBatch

/-- Where a batch leaves the annotation with a number and a span. There is no place for one that
it deletes. -/
def spanAfter? (b : AnnotationBatch) (id : AnnotationId) (span : Span) : Option Span :=
  if id ∈ b.deletions then none
  else some (b.updates.foldl (fun s (id', span') => if id = id' then span' else s) span)

variable {b : AnnotationBatch} {id id' : AnnotationId} {span span' : Span}

theorem spanAfter?_of_mem (h : id ∈ b.deletions) : b.spanAfter? id span = none := if_pos h

/-- Further deletions. -/
theorem spanAfter?_append_deletions (ids : List AnnotationId) :
    { b with deletions := b.deletions ++ ids }.spanAfter? id span =
      if id ∈ ids then none else b.spanAfter? id span := by
  by_cases h : id ∈ ids <;> simp [spanAfter?, h]

/-- A further change of a span. -/
theorem spanAfter?_append_update :
    { b with updates := b.updates ++ [(id', span')] }.spanAfter? id span =
      (b.spanAfter? id span).map fun s => if id = id' then span' else s := by
  by_cases h : id ∈ b.deletions <;> simp [spanAfter?, h, List.foldl_append]

end AnnotationBatch

/-! ## The folds of a model -/

namespace AnnotationModel

variable (m : AnnotationModel) (b : AnnotationBatch)

/-- The folds with their numbers, in the order of the entries. -/
def places : List (AnnotationId × Span) :=
  (m.entries.filter (·.kind.isFolding)).map fun e => (e.id, e.span)

theorem foldSpans_eq_map_places : m.foldSpans = m.places.map (·.2) := by
  rw [places, List.map_map, ← List.filterMap_eq_map, List.filterMap_filter]
  rfl

theorem nodup_places {m : AnnotationModel} (h : (m.entries.map (·.id)).Nodup) :
    (m.places.map (·.1)).Nodup := by
  rw [places, List.map_map]
  exact h.sublist (List.filter_sublist.map _)

theorem foldSpans_add (fold : Fold) (span : Span) :
    (m.add (.folding fold) span).foldSpans = m.foldSpans ++ [span] := by
  simp [foldSpans, add, AnnotationKind.isFolding, AnnotationKind.fold?]

theorem foldSpans_foldl_add (additions : List (Fold × Span)) :
    (additions.foldl (fun m (fold, span) => m.add (.folding fold) span) m).foldSpans =
      m.foldSpans ++ additions.map (·.2) := by
  induction additions generalizing m with
  | nil => simp
  | cons a additions ih => simp [ih, foldSpans_add]

theorem foldl_move_eq_map (updates : List (AnnotationId × Span)) (es : List AnnotationEntry) :
    updates.foldl (fun es (id, span) =>
        es.map fun e => if e.id = id then { e with span } else e) es =
      es.map fun e => { e with
        span := updates.foldl (fun s (id, span) => if e.id = id then span else s) e.span } := by
  induction updates generalizing es with
  | nil => simp
  | cons u updates ih =>
    rw [List.foldl_cons, ih, List.map_map]
    congr 1
    funext e
    by_cases h : e.id = u.1 <;> simp [h]

/-- **A batch keeps the order of the folds.** -/
theorem foldSpans_modify :
    (m.modify b).foldSpans =
      m.places.filterMap (fun p => b.spanAfter? p.1 p.2) ++ b.additions.map (·.2) := by
  have hfoldSpans (n : Nat) (last : Option AnnotationBatch) (m : AnnotationModel) :
      foldSpans { m with batches := n, lastBatch := last } = m.foldSpans := rfl
  rw [modify, hfoldSpans, foldSpans_foldl_add]
  congr 1
  rw [foldl_move_eq_map, foldSpans, places, List.filterMap_map, List.filterMap_map,
    List.filterMap_filter, List.filterMap_filter]
  congr 1
  funext e
  by_cases hfold : e.kind.isFolding <;> by_cases hmem : e.id ∈ b.deletions <;>
    simp [hfold, hmem, AnnotationBatch.spanAfter?]

theorem foldSpans_modify_of_isEmpty {b : AnnotationBatch} (h : b.isEmpty) :
    (m.modify b).foldSpans = m.foldSpans := by
  obtain ⟨⟨hdeletions, hadditions⟩, hupdates⟩ :
      (b.deletions = [] ∧ b.additions = []) ∧ b.updates = [] := by
    simpa [AnnotationBatch.isEmpty] using h
  rw [foldSpans_modify, foldSpans_eq_map_places, hadditions, List.map_nil, List.append_nil,
    ← List.filterMap_eq_map]
  congr 1
  funext p
  simp [AnnotationBatch.spanAfter?, hdeletions, hupdates]

end AnnotationModel

end LanguageClient
