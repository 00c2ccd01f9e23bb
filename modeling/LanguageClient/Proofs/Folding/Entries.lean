import LanguageClient.Proofs.Folding.Convergence
import Mathlib

/-!
# What a batch makes of annotations

A batch keeps the annotations that it does not delete, in their order, and adds new ones behind them
under the next numbers (`AnnotationModel.entries_modify`). The batch for some ranges deletes or moves
live folds only and deletes all decayed ones; every other annotation stays as it is
(`AnnotationModel.spanAfter?_foldingBatch`).
-/

namespace LanguageClient.AnnotationModel

/-- The numbers of the annotations, in their order. -/
def ids (m : AnnotationModel) : List AnnotationId := m.entries.map (·.id)

/-! ## Batches -/

section Modify

variable (m : AnnotationModel)

theorem entries_foldl_add (additions : List (Fold × Span)) :
    (additions.foldl (fun m (fold, span) => m.add (.folding fold) span) m).entries =
      m.entries ++ additions.mapIdx fun i a => ⟨m.lastId + 1 + i, .folding a.1, a.2⟩ := by
  induction additions generalizing m with
  | nil => simp
  | cons a additions ih =>
    have hid (i : Nat) : m.lastId + 1 + 1 + i = m.lastId + 1 + (i + 1) :=
      Nat.add_right_comm _ _ _
    rw [List.foldl_cons, ih, List.mapIdx_cons]
    simp [add, hid]

theorem lastId_foldl_add (additions : List (Fold × Span)) :
    (additions.foldl (fun m (fold, span) => m.add (.folding fold) span) m).lastId =
      m.lastId + additions.length := by
  induction additions generalizing m with
  | nil => rfl
  | cons a additions ih =>
    rw [List.foldl_cons, ih, List.length_cons]
    simp [add, Nat.add_assoc, Nat.add_comm 1]

variable (b : AnnotationBatch)

theorem lastId_modify : (m.modify b).lastId = m.lastId + b.additions.length :=
  lastId_foldl_add _ b.additions

/-- **A batch keeps what it does not delete, and adds what is new behind it.** -/
theorem entries_modify : (m.modify b).entries =
    (m.entries.filterMap fun e => (b.spanAfter? e.id e.span).map fun span => { e with span }) ++
      b.additions.mapIdx fun i a => ⟨m.lastId + 1 + i, .folding a.1, a.2⟩ := by
  have hentries (n : Nat) (last : Option AnnotationBatch) (m : AnnotationModel) :
      entries { m with batches := n, lastBatch := last } = m.entries := rfl
  rw [modify, hentries, entries_foldl_add]
  congr 1
  dsimp only
  rw [foldl_move_eq_map, ← List.filterMap_eq_map, List.filterMap_filter]
  congr 1
  funext e
  by_cases hmem : e.id ∈ b.deletions <;> simp [hmem, AnnotationBatch.spanAfter?]

/-- What a batch keeps differs from what was there in its spans only. -/
theorem map_kept {α : Type*} (g : AnnotationEntry → α) (hg : ∀ e span, g { e with span } = g e) :
    (m.entries.filterMap fun e =>
        (b.spanAfter? e.id e.span).map fun span => { e with span }).map g =
      (m.entries.filter (·.id ∉ b.deletions)).map g := by
  rw [List.map_filterMap, ← List.filterMap_eq_map, List.filterMap_filter]
  congr 1
  funext e
  by_cases hmem : e.id ∈ b.deletions <;> simp [hmem, AnnotationBatch.spanAfter?, hg]

theorem ids_modify : (m.modify b).ids =
    m.ids.filter (· ∉ b.deletions) ++ List.range' (m.lastId + 1) b.additions.length := by
  rw [ids, entries_modify, List.map_append, ids]
  congr 1
  · rw [map_kept m b (·.id) fun _ _ => rfl, List.filter_map]
    rfl
  · refine List.ext_getElem (by simp) fun i _ _ => ?_
    simp

variable {m b}

/-- An annotation behind a batch was there before, or is a new fold. -/
theorem mem_entries_modify {e' : AnnotationEntry} (h : e' ∈ (m.modify b).entries) :
    (∃ e ∈ m.entries, ∃ span, b.spanAfter? e.id e.span = some span ∧ { e with span } = e') ∨
      (m.lastId < e'.id ∧ e'.kind.isFolding) := by
  rw [entries_modify, List.mem_append, List.mem_filterMap, List.mem_mapIdx] at h
  rcases h with ⟨e, he, hspan⟩ | ⟨i, hi, rfl⟩
  · obtain ⟨span, hspan', rfl⟩ := Option.map_eq_some_iff.1 hspan
    exact .inl ⟨e, he, span, hspan', rfl⟩
  · exact .inr ⟨(Nat.lt_succ_self _).trans_le (Nat.le_add_right _ _), rfl⟩

theorem span_mem_foldSpans {e : AnnotationEntry} (he : e ∈ m.entries) (hfolding : e.kind.isFolding) :
    e.span ∈ m.foldSpans :=
  List.mem_filterMap.2 ⟨e, he, if_pos hfolding⟩

end Modify

/-! ## The batch for some ranges -/

section FoldingBatch

variable {m : AnnotationModel} (hids : m.ids.Nodup) {d : Document} {ranges : List FoldingRange}
  {collapseImports : Bool} {e : AnnotationEntry} (he : e ∈ m.entries)

include hids he

theorem id_mem_places_iff (p : Span → Bool) :
    e.id ∈ (m.places.filter (p ·.2)).map (·.1) ↔ e.kind.isFolding ∧ p e.span := by
  simp only [places, List.mem_map, List.mem_filter]
  constructor
  · rintro ⟨_, ⟨⟨e', ⟨he', hfolding⟩, rfl⟩, hp⟩, hid⟩
    obtain rfl := List.inj_on_of_nodup_map hids he' he hid
    exact ⟨hfolding, hp⟩
  · rintro ⟨hfolding, hp⟩
    exact ⟨_, ⟨⟨e, ⟨he, hfolding⟩, rfl⟩, hp⟩, rfl⟩

theorem id_mem_liveFolds_iff :
    e.id ∈ (liveFolds m.tracked).map (·.1) ↔ e.kind.isFolding ∧ e.span.isDecayed = false := by
  rw [(m.liveFolds_tracked_perm.map _).mem_iff, id_mem_places_iff hids he fun s => !s.isDecayed,
    Bool.not_eq_true']

theorem id_mem_lostFolds_iff :
    e.id ∈ lostFolds m.tracked ↔ e.kind.isFolding ∧ e.span.isDecayed := by
  rw [lostFolds_tracked, id_mem_places_iff hids he]

/-- **The batch for some ranges leaves alone what is no live fold**, but for decayed folds. -/
theorem spanAfter?_foldingBatch (hlive : ¬ (e.kind.isFolding ∧ e.span.isDecayed = false)) :
    (foldingBatch m.tracked d ranges collapseImports).spanAfter? e.id e.span =
      if e.kind.isFolding then none else some e.span := by
  rw [foldingBatch, spanAfter?_pairFolds_of_not_mem (mt (id_mem_liveFolds_iff hids he).1 hlive)]
  have hlost := id_mem_lostFolds_iff hids he
  by_cases hfolding : e.kind.isFolding
  · have hdecayed : e.span.isDecayed := by simpa [hfolding] using hlive
    rw [if_pos hfolding, AnnotationBatch.spanAfter?_of_mem (hlost.2 ⟨hfolding, hdecayed⟩)]
  · rw [if_neg hfolding, AnnotationBatch.spanAfter?, if_neg fun hmem => hfolding (hlost.1 hmem).1]
    rfl

end FoldingBatch

end LanguageClient.AnnotationModel
