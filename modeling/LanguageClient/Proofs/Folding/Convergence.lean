import LanguageClient.Proofs.Folding.Pairing
import Mathlib

/-!
# Applying ranges converges

Whatever folds a model has, after the batch for some ranges it has one fold for each of those
that lie within the document and are not empty, and no other
(`AnnotationModel.foldSpans_withRanges_perm`).
-/

namespace LanguageClient

/-- The spans of the ranges that lie within a document, without the empty ones. -/
def reportedSpans (d : Document) (ranges : List FoldingRange) : List Span :=
  ((ranges.filter (·.isWithin d.lineCount)).map (·.lineSpan d)).filter (!·.isDecayed)

/-- The spans of the ranges that lie within a document, in the order in which they are paired. -/
def pairedSpans (d : Document) (ranges : List FoldingRange) : List Span :=
  (validRanges d ranges).map (·.lineSpan d)

/-- Those that are not empty, in the same order. -/
def shownSpans (d : Document) (ranges : List FoldingRange) : List Span :=
  (pairedSpans d ranges).filter (!·.isDecayed)

variable {d : Document} {ranges : List FoldingRange} {collapseImports : Bool}

theorem isWithin_of_mem_validRanges {r : FoldingRange} (h : r ∈ validRanges d ranges) :
    r.isWithin d.lineCount :=
  (List.mem_filter.1 (List.mem_mergeSort.1 h)).2

theorem shownSpans_perm : (shownSpans d ranges).Perm (reportedSpans d ranges) :=
  ((List.mergeSort_perm _ _).map _).filter _

namespace AnnotationModel

/-- The model after the batch for some ranges. -/
def withRanges (m : AnnotationModel) (d : Document) (ranges : List FoldingRange)
    (collapseImports : Bool) : AnnotationModel :=
  m.modify (foldingBatch m.tracked d ranges collapseImports)

/-! ## The folds that are paired -/

section Folds

variable (m : AnnotationModel)

theorem liveFolds_tracked : liveFolds m.tracked =
    (m.places.filter (!·.2.isDecayed)).reverse.mergeSort fun a b => a.2.stop ≤ b.2.stop := by
  rw [liveFolds, tracked, List.filterMap_map, places, List.filter_map, List.filter_filter,
    ← List.filterMap_eq_map, List.filterMap_filter]
  refine congrArg (fun f => List.mergeSort (List.filterMap f m.entries).reverse _) ?_
  funext e
  by_cases hfold : e.kind.isFolding <;> by_cases hdecayed : e.span.isDecayed <;>
    simp [hfold, hdecayed]

theorem lostFolds_tracked :
    lostFolds m.tracked = (m.places.filter (·.2.isDecayed)).map (·.1) := by
  rw [lostFolds, tracked, List.filterMap_map, places, List.filter_map, List.filter_filter,
    List.map_map, ← List.filterMap_eq_map, List.filterMap_filter]
  congr 1
  funext e
  by_cases hfold : e.kind.isFolding <;> by_cases hdecayed : e.span.isDecayed <;>
    simp [hfold, hdecayed]

theorem liveFolds_tracked_perm : (liveFolds m.tracked).Perm (m.places.filter (!·.2.isDecayed)) := by
  rw [liveFolds_tracked]
  exact (List.mergeSort_perm _ _).trans (List.reverse_perm _)

end Folds

/-! ## What the batch makes of them -/

section Batch

variable {m : AnnotationModel} (hids : (m.entries.map (·.id)).Nodup)

include hids

theorem nodup_liveFolds : ((liveFolds m.tracked).map (·.1)).Nodup :=
  (m.liveFolds_tracked_perm.map _).nodup_iff.2
    ((nodup_places hids).sublist (List.filter_sublist.map _))

theorem id_not_mem_of_isDecayed {p : AnnotationId × Span} (hp : p ∈ m.places)
    (hdecayed : p.2.isDecayed) : p.1 ∉ (liveFolds m.tracked).map (·.1) := by
  intro hmem
  obtain ⟨q, hq, hid⟩ := List.mem_map.1 hmem
  obtain ⟨hq, hlive⟩ := List.mem_filter.1 (m.liveFolds_tracked_perm.mem_iff.1 hq)
  obtain rfl := List.inj_on_of_nodup_map (nodup_places hids) hq hp hid
  simp [hdecayed] at hlive

/-- Decayed folds go. -/
theorem spanAfter?_foldingBatch_of_isDecayed {p : AnnotationId × Span} (hp : p ∈ m.places)
    (hdecayed : p.2.isDecayed) :
    (foldingBatch m.tracked d ranges collapseImports).spanAfter? p.1 p.2 = none := by
  rw [foldingBatch, spanAfter?_pairFolds_of_not_mem (id_not_mem_of_isDecayed hids hp hdecayed),
    lostFolds_tracked]
  exact AnnotationBatch.spanAfter?_of_mem
    (List.mem_map_of_mem (List.mem_filter.2 ⟨hp, hdecayed⟩))

/-- The live folds take the spans of the ranges in turn. -/
theorem filterMap_spanAfter?_liveFolds :
    (liveFolds m.tracked).filterMap
        (fun p => (foldingBatch m.tracked d ranges collapseImports).spanAfter? p.1 p.2) =
      ((pairedSpans d ranges).take (liveFolds m.tracked).length).filter (!·.isDecayed) := by
  refine filterMap_spanAfter?_pairFolds (fun r => isWithin_of_mem_validRanges)
    (nodup_liveFolds hids) fun p hp => ?_
  have hlost : p.1 ∉ lostFolds m.tracked := by
    rw [lostFolds_tracked]
    intro hmem
    obtain ⟨q, hq, hid⟩ := List.mem_map.1 hmem
    obtain ⟨hq, hdecayed⟩ := List.mem_filter.1 hq
    exact id_not_mem_of_isDecayed hids hq hdecayed (hid ▸ List.mem_map_of_mem hp)
  simp [AnnotationBatch.spanAfter?, hlost]

omit hids in
theorem additions_foldingBatch :
    (foldingBatch m.tracked d ranges collapseImports).additions.map (·.2) =
      ((pairedSpans d ranges).drop (liveFolds m.tracked).length).filter (!·.isDecayed) :=
  additions_pairFolds fun _ => isWithin_of_mem_validRanges

/-- The folds after the batch, in the order in which ranges are paired. -/
theorem foldSpans_withRanges_perm_shownSpans :
    (m.withRanges d ranges collapseImports).foldSpans.Perm (shownSpans d ranges) := by
  let b := foldingBatch m.tracked d ranges collapseImports
  have hplaces : (m.places.filter (·.2.isDecayed) ++ liveFolds m.tracked).Perm m.places :=
    (m.liveFolds_tracked_perm.append_left _).trans (List.filter_append_perm _ _)
  have hlost : (m.places.filter (·.2.isDecayed)).filterMap (fun p => b.spanAfter? p.1 p.2) = [] :=
    List.filterMap_eq_nil_iff.2 fun p hp =>
      have ⟨hp, hdecayed⟩ := List.mem_filter.1 hp
      spanAfter?_foldingBatch_of_isDecayed hids hp hdecayed
  rw [withRanges, foldSpans_modify]
  refine ((hplaces.symm.filterMap _).append_right _).trans (.of_eq ?_)
  calc (m.places.filter (·.2.isDecayed) ++ liveFolds m.tracked).filterMap
          (fun p => b.spanAfter? p.1 p.2) ++ b.additions.map (·.2)
      = ((pairedSpans d ranges).take (liveFolds m.tracked).length ++
          (pairedSpans d ranges).drop (liveFolds m.tracked).length).filter (!·.isDecayed) := by
        rw [List.filterMap_append, hlost, filterMap_spanAfter?_liveFolds hids,
          additions_foldingBatch, List.nil_append, List.filter_append]
    _ = shownSpans d ranges := by rw [List.take_append_drop, shownSpans]

/-- **Applying ranges converges from any state.** Whatever folds the model has, live or decayed,
after the batch they are the ranges that lie within the document and are not empty, one fold for
each. -/
theorem foldSpans_withRanges_perm :
    (m.withRanges d ranges collapseImports).foldSpans.Perm (reportedSpans d ranges) :=
  (foldSpans_withRanges_perm_shownSpans hids).trans shownSpans_perm

end Batch

/-- Three lines, and the empty one behind them. -/
def threeLines : Document := { text := "a\nb\nc\n".toList }

/-- A fold, an annotation of another part of the editor, a decayed fold and a collapsed one. -/
def mixedModel : AnnotationModel where
  entries :=
    [⟨1, .folding { collapsed := false }, ⟨0, 6⟩⟩, ⟨2, .other "marker", ⟨2, 2⟩⟩,
      ⟨3, .folding { collapsed := false }, ⟨4, 0⟩⟩, ⟨5, .folding { collapsed := true }, ⟨0, 2⟩⟩]
  lastId := 5

/-- Of these ranges one ends before it starts, one is empty and one is not within three lines. -/
def mixedRanges : List FoldingRange :=
  [{ startLine := 1, endLine := 0 }, { startLine := 3, endLine := 3 },
    { startLine := 2, endLine := 2 }, { startLine := 2, endLine := 9 },
    { startLine := 0, endLine := 1 }]

theorem foldSpans_withRanges_mixedModel :
    (mixedModel.withRanges threeLines mixedRanges true).foldSpans.Perm [⟨4, 2⟩, ⟨0, 4⟩] := by
  have h := @foldSpans_withRanges_perm threeLines mixedRanges true mixedModel (by decide)
  have hreported : reportedSpans threeLines mixedRanges = [⟨4, 2⟩, ⟨0, 4⟩] := by cbv
  rwa [hreported] at h

end AnnotationModel

end LanguageClient
