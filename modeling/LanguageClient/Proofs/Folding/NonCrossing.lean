import LanguageClient.Proofs.Folding.Pairs
import LanguageClient.Proofs.Folding.Soundness
import LanguageClient.Proofs.StableSort
import Mathlib

/-!
# Folds that do not cross

The live folds of a model are paired with the ranges that lie within the document, both in the order
of their ends (`AnnotationModel.IsFoldOrder`, `IsRangeOrder`), so that of two folds the one that
ended first does not end last afterwards. A live fold goes away only if its range is empty, or if
there are fewer ranges than folds and it is among the last ones
(`AnnotationModel.foldingBatch_keeps_order`).
-/

namespace LanguageClient

/-- The ranges that lie within a document by their last lines, and those with one last line as they
came. -/
structure IsRangeOrder (d : Document) (ranges valid : List FoldingRange) : Prop where
  ascending : valid.Pairwise fun a b => a.endLine ≤ b.endLine
  tied : ∀ line, valid.filter (·.endLine == line) =
    ranges.filter fun r => r.isWithin d.lineCount && r.endLine == line

variable {d : Document} {ranges : List FoldingRange} {collapseImports : Bool}

theorem isRangeOrder_validRanges : IsRangeOrder d ranges (validRanges d ranges) where
  ascending := (List.pairwise_mergeSort StableSort.key_le_trans StableSort.key_le_total _).imp
    of_decide_eq_true
  tied line := by
    rw [validRanges, @StableSort.filter_key_mergeSort _ FoldingRange.endLine, List.filter_filter]
    simp only [Bool.and_comm]

theorem length_validRanges :
    (validRanges d ranges).length = ranges.countP (·.isWithin d.lineCount) := by
  rw [validRanges, List.length_mergeSort, List.countP_eq_length_filter]

namespace AnnotationModel

variable {m : AnnotationModel}

/-- The live folds of a model by their ends, and of those with one end the later one first. -/
structure IsFoldOrder (m : AnnotationModel) (folds : List (AnnotationId × Span)) : Prop where
  ascending : folds.Pairwise fun a b => a.2.stop ≤ b.2.stop
  tied : ∀ stop, folds.filter (·.2.stop == stop) =
    (m.places.filter fun p => !p.2.isDecayed && p.2.stop == stop).reverse

theorem isFoldOrder_liveFolds : m.IsFoldOrder (liveFolds m.tracked) where
  ascending := by
    rw [liveFolds_tracked]
    exact (List.pairwise_mergeSort
      (@StableSort.key_le_trans (AnnotationId × Span) fun p => p.2.stop)
      StableSort.key_le_total _).imp of_decide_eq_true
  tied stop := by
    rw [liveFolds_tracked, @StableSort.filter_key_mergeSort (AnnotationId × Span) fun p => p.2.stop,
      ← List.filter_reverse, ← List.filter_reverse, List.filter_filter]
    simp only [Bool.and_comm]

/-- The number of live folds. -/
theorem length_liveFolds : (liveFolds m.tracked).length =
    m.entries.countP fun e => e.kind.isFolding && !e.span.isDecayed := by
  rw [m.liveFolds_tracked_perm.length_eq, places, List.filter_map, List.length_map,
    List.filter_filter, List.countP_eq_length_filter]
  simp only [Bool.and_comm, Function.comp_def]

section Survivors

variable (h : m.IsSound)

include h

/-- A fold that is still there has found a range, and is where that is. -/
theorem exists_mem_pairs_of_mem {e e' : AnnotationEntry} (he : e ∈ m.entries)
    (hfolding : e.kind.isFolding) (he' : e' ∈ (m.withRanges d ranges collapseImports).entries)
    (hid : e'.id = e.id) :
    ∃ r, ((e.id, e.span), r) ∈ m.pairs d ranges ∧ e'.span = r.lineSpan d := by
  rcases mem_entries_modify he' with ⟨e₀, he₀, span, hspan, rfl⟩ | ⟨hlt, -⟩
  · obtain rfl := List.inj_on_of_nodup_map h.nodup he₀ he hid
    cases hlive : e₀.span.isDecayed with
    | true =>
      rw [spanAfter?_foldingBatch h.nodup he₀ (by simp [hlive]), if_pos hfolding] at hspan
      cases hspan
    | false =>
      rcases mem_liveFolds_cases d ranges (mem_liveFolds he₀ hfolding hlive) with ⟨r, hr⟩ | hleft
      · refine ⟨r, hr, ?_⟩
        rw [spanAfter?_of_mem_pairs h.nodup hr] at hspan
        split_ifs at hspan with hdecayed
        exact (Option.some.inj hspan).symm
      · rw [AnnotationBatch.spanAfter?_of_mem
          (mem_deletions_iff.2 (.inr (.inr ⟨_, hleft, rfl⟩)))] at hspan
        cases hspan
  · exact absurd (hid ▸ hlt) (not_lt.2 (h.id_le e he))

/-- **Folds do not cross.** -/
theorem stop_le_stop_of_mem {e₁ e₂ e₁' e₂' : AnnotationEntry} (he₁ : e₁ ∈ m.entries)
    (he₂ : e₂ ∈ m.entries) (hfolding₁ : e₁.kind.isFolding) (hfolding₂ : e₂.kind.isFolding)
    (he₁' : e₁' ∈ (m.withRanges d ranges collapseImports).entries)
    (he₂' : e₂' ∈ (m.withRanges d ranges collapseImports).entries) (hid₁ : e₁'.id = e₁.id)
    (hid₂ : e₂'.id = e₂.id) (hlt : e₁.span.stop < e₂.span.stop) :
    e₁'.span.stop ≤ e₂'.span.stop := by
  obtain ⟨r₁, hr₁, hspan₁⟩ := exists_mem_pairs_of_mem h he₁ hfolding₁ he₁' hid₁
  obtain ⟨r₂, hr₂, hspan₂⟩ := exists_mem_pairs_of_mem h he₂ hfolding₂ he₂' hid₂
  have hordered : (m.pairs d ranges).Pairwise fun p q =>
      p.1.2.stop ≤ q.1.2.stop ∧ p.2.endLine ≤ q.2.endLine :=
    pairwise_zip isFoldOrder_liveFolds.ascending isRangeOrder_validRanges.ascending
  -- no later pair has a fold that ends earlier
  have hlines : r₁.endLine ≤ r₂.endLine :=
    StableSort.rel_of_pairwise_not (r := fun p q => p.1.2.stop < q.1.2.stop)
      (fun p => lt_irrefl p.1.2.stop) (hordered.imp fun h => not_lt.2 h.1)
      (hordered.imp And.right) hr₁ hr₂ hlt
  have hwithin₁ := isWithin_of_mem_validRanges (mem_of_mem_pairs hr₁).2
  have hwithin₂ := isWithin_of_mem_validRanges (mem_of_mem_pairs hr₂).2
  rw [hspan₁, hspan₂, FoldingRange.stop_lineSpan hwithin₁, FoldingRange.stop_lineSpan hwithin₂]
  exact Text.lineStart_le_lineStart _ (Nat.succ_le_succ hlines)

end Survivors

/-- **Folds are paired with ranges in the order of their ends.** The model may be any sound one, with
as many live folds as there are ranges or more or fewer. The live folds come by their ends,
those with one end the later one first, and the ranges that lie within the document by their last
lines, those with one last line as they were reported. As many as there are of both are paired in
this order, and the batch is computed from the pairs and from what is left over. Of two folds that
are still there the one that ended first does not end last. A live fold goes away only if it is
paired with an empty range, or if there are more live folds than ranges and it is one of those left
over at the end. -/
theorem foldingBatch_keeps_order (h : m.IsSound) (d : Document) (ranges : List FoldingRange)
    (collapseImports : Bool) :
    ∃ folds valid, m.IsFoldOrder folds ∧ IsRangeOrder d ranges valid ∧
      folds.length = (m.entries.countP fun e => e.kind.isFolding && !e.span.isDecayed) ∧
      valid.length = ranges.countP (·.isWithin d.lineCount) ∧
      (folds.zip valid).length = min folds.length valid.length ∧
      foldingBatch m.tracked d ranges collapseImports =
        { deletions := (m.places.filter (·.2.isDecayed)).map (·.1) ++
            (((folds.zip valid).filter fun p => (p.2.lineSpan d).isDecayed).map (·.1.1) ++
              (folds.drop valid.length).reverse.map (·.1))
          additions := ((valid.drop folds.length).filter fun r => !(r.lineSpan d).isDecayed).map
            fun r => (r.fold collapseImports, r.lineSpan d)
          updates := ((folds.zip valid).filter fun p =>
              !(p.2.lineSpan d).isDecayed && p.2.lineSpan d != p.1.2).map
            fun p => (p.1.1, p.2.lineSpan d) } ∧
      (∀ e₁ ∈ m.entries, ∀ e₂ ∈ m.entries, e₁.kind.isFolding → e₂.kind.isFolding →
        ∀ e₁' ∈ (m.withRanges d ranges collapseImports).entries,
        ∀ e₂' ∈ (m.withRanges d ranges collapseImports).entries,
          e₁'.id = e₁.id → e₂'.id = e₂.id → e₁.span.stop < e₂.span.stop →
            e₁'.span.stop ≤ e₂'.span.stop) ∧
      ∀ e ∈ m.entries, e.kind.isFolding → e.span.isDecayed = false →
        e.id ∈ (foldingBatch m.tracked d ranges collapseImports).deletions →
          (∃ r, ((e.id, e.span), r) ∈ folds.zip valid ∧ (r.lineSpan d).isDecayed) ∨
            valid.length < folds.length ∧ (e.id, e.span) ∈ folds.drop valid.length := by
  refine ⟨liveFolds m.tracked, validRanges d ranges, isFoldOrder_liveFolds,
    isRangeOrder_validRanges, length_liveFolds, length_validRanges, List.length_zip, ?_, ?_, ?_⟩
  · rw [foldingBatch_eq, lostFolds_tracked, pairs, unpaired]
  · intro e₁ he₁ e₂ he₂ hfolding₁ hfolding₂ e₁' he₁' e₂' he₂' hid₁ hid₂ hlt
    exact stop_le_stop_of_mem h he₁ he₂ hfolding₁ hfolding₂ he₁' he₂' hid₁ hid₂ hlt
  · intro e he hfolding hlive hmem
    have hfold := mem_liveFolds he hfolding hlive
    have hunique : ∀ p ∈ liveFolds m.tracked, p.1 = e.id → p = (e.id, e.span) := fun p hp =>
      List.inj_on_of_nodup_map (nodup_liveFolds h.nodup) hp hfold
    rcases mem_deletions_iff.1 hmem with hlost | ⟨⟨p, r⟩, hp, hdecayed, hid⟩ | ⟨p, hp, hid⟩
    · have hdecayed := ((id_mem_lostFolds_iff h.nodup he).1 hlost).2
      simp [hlive] at hdecayed
    · rw [hunique p (mem_of_mem_pairs hp).1 hid] at hp
      exact .inl ⟨r, hp, hdecayed⟩
    · rw [hunique p (List.mem_of_mem_drop hp) hid] at hp
      refine .inr ⟨?_, hp⟩
      have hlength := List.length_pos_of_mem hp
      rw [List.length_drop] at hlength
      omega

/-- Three folds, two of which end together, and an annotation of another part of the editor. -/
def nestedModel : AnnotationModel where
  entries :=
    [⟨1, .folding { collapsed := false }, ⟨0, 6⟩⟩, ⟨2, .folding { collapsed := false }, ⟨2, 4⟩⟩,
      ⟨3, .other "marker", ⟨0, 3⟩⟩, ⟨4, .folding { collapsed := true }, ⟨2, 2⟩⟩]
  lastId := 4

/-- Two ranges that lie within three lines. -/
def twoRanges : List FoldingRange :=
  [{ startLine := 1, endLine := 2 }, { startLine := 0, endLine := 0 }]

/-- Two of three folds find a range: the collapsed one, which ends first, and the later one of those
that end together. The other one goes away. -/
theorem foldingBatch_keeps_order_nestedModel :
    foldingBatch nestedModel.tracked threeLines twoRanges false =
        { deletions := [1], updates := [(4, ⟨0, 2⟩)] } ∧
      ∃ folds valid, nestedModel.IsFoldOrder folds ∧ IsRangeOrder threeLines twoRanges valid ∧
        (folds.zip valid).length = 2 ∧
        ((∃ r, ((1, ⟨0, 6⟩), r) ∈ folds.zip valid ∧ (r.lineSpan threeLines).isDecayed) ∨
          valid.length < folds.length ∧ (1, ⟨0, 6⟩) ∈ folds.drop valid.length) := by
  have hbatch : foldingBatch nestedModel.tracked threeLines twoRanges false =
      { deletions := [1], updates := [(4, ⟨0, 2⟩)] } := by cbv
  obtain ⟨folds, valid, hfolds, hvalid, hcount, hcount', hpairs, -, -, hdeleted⟩ :=
    foldingBatch_keeps_order (m := nestedModel) ⟨by decide, by decide⟩ threeLines twoRanges false
  refine ⟨hbatch, folds, valid, hfolds, hvalid, ?_, ?_⟩
  · rw [hpairs, hcount, hcount']
    decide
  · refine hdeleted ⟨1, .folding { collapsed := false }, ⟨0, 6⟩⟩ (by decide) (by decide)
      (by decide) ?_
    rw [hbatch]
    decide

end AnnotationModel

end LanguageClient
