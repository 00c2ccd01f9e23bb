import LanguageClient.Proofs.Folding.Convergence
import LanguageClient.Proofs.StableSort

/-!
# Applying the same ranges again

Once ranges have been applied, applying them again need not be a no-op. Folds that end together are
paired in the reverse of their order in the model, so that they can change places
(`AnnotationModel.foldingBatch_again_of_nested`), and an empty range takes a fold away from a range
behind it. For each model, `AnnotationModel.isEmpty_foldingBatch_withRanges_iff` says when nothing
is left to do. For all models at once it is so if and only if the empty ranges are paired last and
no two folds end together (`AnnotationModel.isEmpty_foldingBatch_again_iff`); the models that show
it have their folds in the reverse of the order of pairing (`AnnotationModel.descending`).
-/

namespace LanguageClient

/-! ## Lists -/

section Lists

variable {α : Type*} {p : α → Bool} {l : List α}

/-- A list splits into a first part without a property and a rest with it. -/
theorem exists_eq_append_iff {l' : List α} (h : ∀ a ∈ l', p a = false) :
    (∃ rest, l = l' ++ rest ∧ ∀ a ∈ rest, p a) ↔
      l.Pairwise (fun a b => p a → p b) ∧ l' = l.filter (!p ·) := by
  constructor
  · rintro ⟨rest, rfl, hrest⟩
    refine ⟨List.pairwise_append.2 ⟨?_, ?_, ?_⟩, ?_⟩
    · exact List.pairwise_of_forall_mem_list fun a ha => by simp [h a ha]
    · exact List.pairwise_of_forall_mem_list fun _ _ b hb _ => hrest b hb
    · exact fun a ha b hb _ => hrest b hb
    · rw [List.filter_append, List.filter_eq_self.2 (by simpa using h),
        List.filter_eq_nil_iff.2 (by simpa using hrest), List.append_nil]
  · rintro ⟨hpairwise, rfl⟩
    clear h
    induction l with
    | nil => exact ⟨[], rfl, nofun⟩
    | cons a l ih =>
      obtain ⟨ha, hpairwise⟩ := List.pairwise_cons.1 hpairwise
      by_cases hp : p a
      · -- all behind `a` has the property too
        refine ⟨a :: l, ?_, List.forall_mem_cons.2 ⟨hp, fun b hb => ha b hb hp⟩⟩
        rw [List.filter_eq_nil_iff.2, List.nil_append]
        simpa [hp] using fun b hb => ha b hb hp
      · obtain ⟨rest, hl, hrest⟩ := ih hpairwise
        exact ⟨rest, by rw [List.filter_cons_of_pos (by simpa using hp), List.cons_append, ← hl],
          hrest⟩

/-- A list splits at the last of its members with a property. -/
theorem exists_eq_append_cons_last {a : α} (ha : a ∈ l)
    (hp : p a) : ∃ before b after, l = before ++ b :: after ∧ p b ∧ ∀ x ∈ after, p x = false := by
  have hfind : (l.reverse.find? p).isSome := List.find?_isSome.2 ⟨a, List.mem_reverse.2 ha, hp⟩
  obtain ⟨b, hb⟩ := Option.isSome_iff_exists.1 hfind
  obtain ⟨hpb, after, before, hsplit, hafter⟩ := List.find?_eq_some_iff_append.1 hb
  refine ⟨before.reverse, b, after.reverse, ?_, hpb, by simpa using hafter⟩
  rw [← List.reverse_reverse l, hsplit]
  simp

/-- A list that does not change when its first element goes to its end repeats that element. -/
theorem eq_of_mem_of_cons_eq_concat {a b : α} (h : a :: l = l ++ [a])
    (hb : b ∈ l) : b = a := by
  have hrotate : (a :: l).rotate 1 = a :: l := by rw [List.rotate_cons_succ, List.rotate_zero, ← h]
  have : Nonempty α := ⟨a⟩
  obtain ⟨c, hc⟩ := List.rotate_one_eq_self_iff_eq_replicate.1 hrotate
  have hall : ∀ x ∈ a :: l, x = c := fun x hx => List.eq_of_mem_replicate (hc ▸ hx)
  rw [hall b (List.mem_cons_of_mem _ hb), hall a List.mem_cons_self]

end Lists

variable {d : Document} {ranges : List FoldingRange} {collapseImports collapseImports' : Bool}

/-! ## The order of pairing -/

/-- The empty ranges are paired last. -/
def EmptyLast (d : Document) (ranges : List FoldingRange) : Prop :=
  (pairedSpans d ranges).Pairwise fun s t => s.isDecayed → t.isDecayed

/-- Folds that are reported to end together are the same. -/
def EndsApart (d : Document) (ranges : List FoldingRange) : Prop :=
  ∀ s ∈ reportedSpans d ranges, ∀ t ∈ reportedSpans d ranges, s.stop = t.stop → s = t

theorem pairwise_stop_pairedSpans : (pairedSpans d ranges).Pairwise (·.stop ≤ ·.stop) := by
  refine List.pairwise_map.2 ?_
  have hsorted : (validRanges d ranges).Pairwise (·.endLine ≤ ·.endLine) :=
    (List.pairwise_mergeSort (by simp; omega) (by simp; omega) _).imp (by simp)
  refine hsorted.imp_of_mem fun {a b} ha hb hle => ?_
  rw [FoldingRange.stop_lineSpan (isWithin_of_mem_validRanges ha),
    FoldingRange.stop_lineSpan (isWithin_of_mem_validRanges hb)]
  exact Text.lineStart_le_lineStart _ (Nat.succ_le_succ hle)

namespace AnnotationModel

variable {m : AnnotationModel}

theorem map_liveFolds_tracked (h : ∀ s ∈ m.foldSpans, s.isDecayed = false) :
    (liveFolds m.tracked).map (·.2) =
      m.foldSpans.reverse.mergeSort fun s t => s.stop ≤ t.stop := by
  rw [foldSpans_eq_map_places, List.forall_mem_map] at h
  rw [liveFolds_tracked, List.filter_eq_self.2 (by simpa using h), foldSpans_eq_map_places,
    ← List.map_reverse]
  exact List.map_mergeSort fun _ _ _ _ => rfl

theorem isEmpty_foldingBatch_iff (h : ∀ s ∈ m.foldSpans, s.isDecayed = false) :
    (foldingBatch m.tracked d ranges collapseImports).isEmpty ↔ EmptyLast d ranges ∧
      ∀ stop, (m.foldSpans.filter (·.stop == stop)).reverse =
        (shownSpans d ranges).filter (·.stop == stop) := by
  have hlost : lostFolds m.tracked = [] := by
    rw [foldSpans_eq_map_places, List.forall_mem_map] at h
    rw [lostFolds_tracked, List.filter_eq_nil_iff.2 (by simpa using h), List.map_nil]
  have hlive : ∀ p ∈ liveFolds m.tracked, p.2.isDecayed = false := fun p hp => by
    simpa using (List.mem_filter.1 (m.liveFolds_tracked_perm.mem_iff.1 hp)).2
  have hlive' : ∀ s ∈ (liveFolds m.tracked).map (·.2), s.isDecayed = false :=
    List.forall_mem_map.2 hlive
  rw [foldingBatch, isEmpty_pairFolds_iff (fun _ => isWithin_of_mem_validRanges) hlive, hlost,
    ← pairedSpans, exists_eq_append_iff hlive', map_liveFolds_tracked h,
    StableSort.mergeSort_key_eq_iff (pairwise_stop_pairedSpans.filter _)]
  simp [AnnotationBatch.isEmpty, EmptyLast, shownSpans, List.filter_reverse]

theorem not_isDecayed_of_mem_foldSpans (hids : (m.entries.map (·.id)).Nodup) :
    ∀ s ∈ (m.withRanges d ranges collapseImports).foldSpans, s.isDecayed = false := fun s hs => by
  simpa using (List.mem_filter.1 ((foldSpans_withRanges_perm_shownSpans hids).mem_iff.1 hs)).2

/-- **When the same ranges find nothing to do.** The empty ones are paired last, and the folds that
end together stand in the reverse of the order of their ranges. -/
theorem isEmpty_foldingBatch_withRanges_iff (hids : (m.entries.map (·.id)).Nodup) :
    (foldingBatch (m.withRanges d ranges collapseImports).tracked d ranges
        collapseImports').isEmpty ↔
      EmptyLast d ranges ∧ ∀ stop,
        ((m.withRanges d ranges collapseImports).foldSpans.filter (·.stop == stop)).reverse =
          (shownSpans d ranges).filter (·.stop == stop) :=
  isEmpty_foldingBatch_iff (not_isDecayed_of_mem_foldSpans hids)

/-- If no folds end together, their order does not matter. -/
theorem reverse_filter_stop_of_endsApart (hids : (m.entries.map (·.id)).Nodup)
    (h : EndsApart d ranges) (stop : Nat) :
    ((m.withRanges d ranges collapseImports).foldSpans.filter (·.stop == stop)).reverse =
      (shownSpans d ranges).filter (·.stop == stop) := by
  set spans := (m.withRanges d ranges collapseImports).foldSpans
  have hperm : ((spans.filter (·.stop == stop)).reverse).Perm
      ((shownSpans d ranges).filter (·.stop == stop)) :=
    (List.reverse_perm _).trans ((foldSpans_withRanges_perm_shownSpans hids).filter _)
  have heq : ∀ s t, s ∈ (spans.filter (·.stop == stop)).reverse →
      t ∈ (shownSpans d ranges).filter (·.stop == stop) → True → True → s = t := by
    intro s t hs ht _ _
    obtain ⟨hs, hs'⟩ := List.mem_filter.1 (hperm.mem_iff.1 hs)
    obtain ⟨ht, ht'⟩ := List.mem_filter.1 ht
    refine h s (shownSpans_perm.mem_iff.1 hs) t (shownSpans_perm.mem_iff.1 ht) ?_
    rw [beq_iff_eq.1 hs', beq_iff_eq.1 ht']
  -- both lists repeat one span, so that any order of theirs is the same
  exact List.Perm.eq_of_pairwise heq (List.pairwise_of_forall fun _ _ => trivial)
    (List.pairwise_of_forall fun _ _ => trivial) hperm

/-! ## Models in which folds are paired backwards -/

/-- A model of `n` folds of which the last one ends first. -/
def descending (n : Nat) : AnnotationModel where
  entries := (List.range n).reverse.map fun k => ⟨k + 1, .folding { collapsed := false }, ⟨k, 1⟩⟩
  lastId := n

theorem places_descending (n : Nat) : (descending n).places =
    ((List.range n).map fun k => (k + 1, (⟨k, 1⟩ : Span))).reverse := by
  rw [places, descending, List.filter_eq_self.2 (by simp [AnnotationKind.isFolding,
    AnnotationKind.fold?]), List.map_map, ← List.map_reverse]
  rfl

theorem nodup_descending (n : Nat) : ((descending n).entries.map (·.id)).Nodup := by
  rw [descending, List.map_map]
  exact (List.nodup_reverse.2 List.nodup_range).map fun _ _ => Nat.succ.inj

theorem liveFolds_descending (n : Nat) : liveFolds (descending n).tracked =
    (List.range n).map fun k => (k + 1, (⟨k, 1⟩ : Span)) := by
  rw [liveFolds_tracked, places_descending, List.filter_eq_self.2 (by simp [Span.isDecayed]),
    List.reverse_reverse]
  refine List.mergeSort_of_pairwise (List.pairwise_map.2 ?_)
  exact List.pairwise_lt_range.imp fun h => by simpa [Span.stop] using h.le

theorem foldSpans_withRanges_descending (n : Nat) :
    ((descending n).withRanges d ranges collapseImports).foldSpans =
      (((pairedSpans d ranges).take n).filter (!·.isDecayed)).reverse ++
        ((pairedSpans d ranges).drop n).filter (!·.isDecayed) := by
  have hplaces : (descending n).places = (liveFolds (descending n).tracked).reverse := by
    rw [places_descending, liveFolds_descending]
  have hlength : (liveFolds (descending n).tracked).length = n := by
    rw [liveFolds_descending, List.length_map, List.length_range]
  rw [withRanges, foldSpans_modify, hplaces, List.filterMap_reverse,
    filterMap_spanAfter?_liveFolds (nodup_descending n), additions_foldingBatch, hlength]

/-- The folds that are there take the first ranges backwards, and the other ranges follow. -/
theorem foldSpans_withRanges_descending_of_emptyLast (hlast : EmptyLast d ranges)
    {before after : List Span} (hsplit : shownSpans d ranges = before ++ after) :
    ((descending before.length).withRanges d ranges collapseImports).foldSpans =
      before.reverse ++ after := by
  obtain ⟨rest, hspans, hrest⟩ := (exists_eq_append_iff (by simp)).2 ⟨hlast, rfl⟩
  rw [← shownSpans, hsplit] at hspans
  have hshown : ∀ x ∈ before ++ after, !x.isDecayed := by
    rw [← hsplit]
    exact fun x hx => (List.mem_filter.1 hx).2
  rw [foldSpans_withRanges_descending, hspans, List.append_assoc, List.take_left, List.drop_left,
    List.filter_append, List.filter_eq_self.2 fun x hx => hshown x (List.mem_append_left _ hx),
    List.filter_eq_self.2 fun x hx => hshown x (List.mem_append_right _ hx),
    List.filter_eq_nil_iff.2 (by simpa using hrest), List.append_nil]

/-- Ranges that end together are the same if they are settled for every number of folds that are
paired backwards. -/
theorem endsApart_of_descending (hlast : EmptyLast d ranges)
    (h : ∀ n stop,
      (((descending n).withRanges d ranges collapseImports).foldSpans.filter
          (·.stop == stop)).reverse = (shownSpans d ranges).filter (·.stop == stop)) :
    EndsApart d ranges := by
  intro s hs t ht hstop
  rw [← shownSpans_perm.mem_iff] at hs ht
  obtain ⟨before, last, after, hsplit, hlaststop, hafter⟩ :=
    exists_eq_append_cons_last (p := (·.stop == s.stop)) hs (by simp)
  have hafter : (last :: after).filter (·.stop == s.stop) = [last] := by
    rw [List.filter_cons, if_pos hlaststop, List.filter_eq_nil_iff.2 (by simpa using hafter)]
  -- as many folds as there are ranges in front of the last one that ends there
  have hrotate := h before.length s.stop
  rw [foldSpans_withRanges_descending_of_emptyLast hlast hsplit, hsplit, List.filter_append,
    List.filter_append, hafter, List.filter_reverse, List.reverse_append,
    List.reverse_reverse, List.reverse_singleton, List.singleton_append] at hrotate
  have hall : ∀ x ∈ shownSpans d ranges, x.stop = s.stop → x = last := by
    intro x hx hxstop
    have hmem : x ∈ (before ++ last :: after).filter (·.stop == s.stop) :=
      List.mem_filter.2 ⟨hsplit ▸ hx, by simpa using hxstop⟩
    rw [List.filter_append, hafter, List.mem_append, List.mem_singleton] at hmem
    rcases hmem with hmem | rfl
    · exact eq_of_mem_of_cons_eq_concat hrotate hmem
    · rfl
  rw [hall s hs rfl, hall t ht hstop.symm]

/-! ## When nothing is left to do -/

/-- **When applying the same ranges again is a no-op.** After a batch for some ranges, the next one
for them is empty if and only if the empty ranges are paired last and the folds that end together
stand in the model in the reverse of the order of their ranges. It is so for every model if and
only if the empty ranges are paired last and no two different folds end together. -/
theorem isEmpty_foldingBatch_again_iff (d : Document) (ranges : List FoldingRange)
    (collapseImports collapseImports' : Bool) :
    (∀ m : AnnotationModel, (m.entries.map (·.id)).Nodup →
      ((foldingBatch (m.withRanges d ranges collapseImports).tracked d ranges
          collapseImports').isEmpty ↔
        EmptyLast d ranges ∧ ∀ stop,
          ((m.withRanges d ranges collapseImports).foldSpans.filter (·.stop == stop)).reverse =
            (shownSpans d ranges).filter (·.stop == stop))) ∧
    ((∀ m : AnnotationModel, (m.entries.map (·.id)).Nodup →
      (foldingBatch (m.withRanges d ranges collapseImports).tracked d ranges
        collapseImports').isEmpty) ↔ EmptyLast d ranges ∧ EndsApart d ranges) := by
  refine ⟨fun m hids => isEmpty_foldingBatch_withRanges_iff hids, fun h => ?_, ?_⟩
  · have hsettled := fun n => (isEmpty_foldingBatch_withRanges_iff (nodup_descending n)).1
      (h (descending n) (nodup_descending n))
    have hlast := (hsettled 0).1
    exact ⟨hlast, endsApart_of_descending hlast fun n => (hsettled n).2⟩
  · rintro ⟨hlast, hapart⟩ m hids
    exact (isEmpty_foldingBatch_withRanges_iff hids).2
      ⟨hlast, reverse_filter_stop_of_endsApart hids hapart⟩

/-- Ranges that end apart leave nothing to do, whatever annotations there were. -/
theorem isEmpty_foldingBatch_again_mixedModel :
    (foldingBatch (mixedModel.withRanges threeLines mixedRanges true).tracked threeLines mixedRanges
      true).isEmpty := by
  have hpaired : pairedSpans threeLines mixedRanges = [⟨0, 4⟩, ⟨4, 2⟩, ⟨6, 0⟩] := by cbv
  have hreported : reportedSpans threeLines mixedRanges = [⟨4, 2⟩, ⟨0, 4⟩] := by cbv
  refine (isEmpty_foldingBatch_again_iff threeLines mixedRanges true true).2.2 ⟨?_, ?_⟩ mixedModel
    (by decide)
  · rw [EmptyLast, hpaired]
    decide
  · rw [EndsApart, hreported]
    decide

/-- A block, and one in it that ends with it. -/
def nestedRanges : List FoldingRange :=
  [{ startLine := 0, endLine := 2 }, { startLine := 1, endLine := 2 }]

/-- The two folds of a new model change places. -/
theorem foldingBatch_again_of_nested :
    foldingBatch (empty.withRanges threeLines nestedRanges false).tracked threeLines nestedRanges
      false = { updates := [(2, ⟨0, 6⟩), (1, ⟨2, 4⟩)] } := by
  cbv

end AnnotationModel

end LanguageClient
