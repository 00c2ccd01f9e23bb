import LanguageClient.Proofs.Folding.Pairs
import LanguageClient.Proofs.Folding.Soundness
import Mathlib

/-!
# What a batch touches

The batch for some ranges names folds only, each once, and only those that it has to delete or to
move (`AnnotationModel.IsMinimal`). Applied to its model it leaves all other annotations alone, keeps
the order of the annotations and the state of the folds, and puts new folds under new numbers behind
them (`AnnotationModel.foldingBatch_touches_folds_only`).
-/

namespace LanguageClient.AnnotationModel

variable {m : AnnotationModel} {d : Document} {ranges : List FoldingRange} {collapseImports : Bool}

/-! ## The batch -/

/-- A batch that names each fold at most once and nothing else, deletes all that is decayed, moves
folds to other places where they cover something, and leaves those alone that have the span of a
range. -/
structure IsMinimal (m : AnnotationModel) (d : Document) (ranges : List FoldingRange)
    (b : AnnotationBatch) : Prop where
  nodup : (b.deletions ++ b.updates.map (·.1)).Nodup
  isFolding : ∀ id ∈ b.deletions ++ b.updates.map (·.1),
    ∃ e ∈ m.entries, e.id = id ∧ e.kind.isFolding
  deletes : ∀ e ∈ m.entries, e.kind.isFolding → e.span.length = 0 →
    e.id ∈ b.deletions ∧ e.id ∉ b.updates.map (·.1)
  moves : ∀ id span, (id, span) ∈ b.updates →
    0 < span.length ∧ ∃ e ∈ m.entries, e.id = id ∧ span ≠ e.span
  settled : ∀ e ∈ m.entries, e.kind.isFolding → 0 < e.span.length → e.id ∉ b.deletions →
    e.id ∉ b.updates.map (·.1) → ∃ r ∈ ranges, r.isWithin d.lineCount ∧ r.span d = .ok e.span

theorem exists_entry_of_mem_places {p : AnnotationId × Span} (h : p ∈ m.places) :
    ∃ e ∈ m.entries, e.kind.isFolding ∧ (e.id, e.span) = p := by
  obtain ⟨e, he, rfl⟩ := List.mem_map.1 h
  obtain ⟨he, hfolding⟩ := List.mem_filter.1 he
  exact ⟨e, he, hfolding, rfl⟩

theorem exists_entry_of_mem_liveFolds {p : AnnotationId × Span} (h : p ∈ liveFolds m.tracked) :
    ∃ e ∈ m.entries, e.kind.isFolding ∧ (e.id, e.span) = p :=
  exists_entry_of_mem_places (List.mem_filter.1 (m.liveFolds_tracked_perm.mem_iff.1 h)).1

/-- Whatever a batch names is a fold. -/
theorem exists_entry_of_mem_named {id : AnnotationId}
    (h : id ∈ (foldingBatch m.tracked d ranges collapseImports).named) :
    ∃ e ∈ m.entries, e.id = id ∧ e.kind.isFolding := by
  have hlive : ∀ p ∈ liveFolds m.tracked, p.1 = id → ∃ e ∈ m.entries, e.id = id ∧
      e.kind.isFolding := by
    rintro p hp rfl
    obtain ⟨e, he, hfolding, rfl⟩ := exists_entry_of_mem_liveFolds hp
    exact ⟨e, he, rfl, hfolding⟩
  rcases List.mem_append.1 h with hdeletions | hupdates
  · rcases mem_deletions_iff.1 hdeletions with hlost | ⟨p, hp, -, hid⟩ | ⟨p, hp, hid⟩
    · rw [lostFolds_tracked] at hlost
      obtain ⟨p, hp, rfl⟩ := List.mem_map.1 hlost
      obtain ⟨e, he, hfolding, rfl⟩ := exists_entry_of_mem_places (List.mem_filter.1 hp).1
      exact ⟨e, he, rfl, hfolding⟩
    · exact hlive p.1 (mem_of_mem_pairs hp).1 hid
    · exact hlive p (List.mem_of_mem_drop hp) hid
  · obtain ⟨⟨id, span⟩, hmem, rfl⟩ := List.mem_map.1 hupdates
    obtain ⟨p, hp, hid, -⟩ := mem_updates_iff.1 hmem
    exact hlive p.1 (mem_of_mem_pairs hp).1 hid

/-- A fold that is moved covers something in its new place, which is not its old one. -/
theorem exists_entry_of_mem_updates {id : AnnotationId} {span : Span}
    (h : (id, span) ∈ (foldingBatch m.tracked d ranges collapseImports).updates) :
    0 < span.length ∧ ∃ e ∈ m.entries, e.id = id ∧ span ≠ e.span := by
  obtain ⟨p, hp, rfl, rfl, hdecayed, hmoved⟩ := mem_updates_iff.1 h
  obtain ⟨e, he, -, hplace⟩ := exists_entry_of_mem_liveFolds (mem_of_mem_pairs hp).1
  refine ⟨Nat.pos_of_ne_zero (by simpa [Span.isDecayed] using hdecayed), e, he, ?_, ?_⟩
  · rw [← hplace]
  · rwa [← hplace] at hmoved

/-- A live fold that a batch does not name has the span of a range. -/
theorem exists_range_of_not_mem_named {e : AnnotationEntry} (he : e ∈ m.entries)
    (hfolding : e.kind.isFolding) (hlive : e.span.isDecayed = false)
    (h : e.id ∉ (foldingBatch m.tracked d ranges collapseImports).named) :
    ∃ r ∈ ranges, r.isWithin d.lineCount ∧ r.span d = .ok e.span := by
  obtain ⟨hdeletions, hupdates⟩ := not_or.1 (mt List.mem_append.2 h)
  rcases mem_liveFolds_cases d ranges (mem_liveFolds he hfolding hlive) with ⟨r, hr⟩ | hleft
  · obtain ⟨hmem, hwithin⟩ := mem_validRanges_iff.1 (mem_of_mem_pairs hr).2
    refine ⟨r, hmem, hwithin, ?_⟩
    rw [FoldingRange.span_of_isWithin hwithin, Except.ok.injEq]
    -- otherwise it would be deleted or moved
    by_contra hplace
    cases hdecayed : (r.lineSpan d).isDecayed with
    | true => exact hdeletions (mem_deletions_iff.2 (.inr (.inl ⟨_, hr, hdecayed, rfl⟩)))
    | false =>
      exact hupdates (List.mem_map_of_mem (mem_updates_iff.2 ⟨_, hr, rfl, rfl, hdecayed, hplace⟩))
  · exact absurd (mem_deletions_iff.2 (.inr (.inr ⟨_, hleft, rfl⟩))) hdeletions

/-- **A batch names what it has to change, and nothing else.** -/
theorem isMinimal_foldingBatch (hids : m.ids.Nodup) :
    m.IsMinimal d ranges (foldingBatch m.tracked d ranges collapseImports) where
  nodup := nodup_named hids
  isFolding _ := exists_entry_of_mem_named
  deletes e he hfolding hdecayed := by
    have hlost : e.id ∈ lostFolds m.tracked :=
      (id_mem_lostFolds_iff hids he).2 ⟨hfolding, by simpa [Span.isDecayed] using hdecayed⟩
    have hdeletions : e.id ∈ (foldingBatch m.tracked d ranges collapseImports).deletions :=
      mem_deletions_iff.2 (.inl hlost)
    exact ⟨hdeletions, fun hupdates =>
      (List.nodup_append.1 (nodup_named hids)).2.2 _ hdeletions _ hupdates rfl⟩
  moves _ _ := exists_entry_of_mem_updates
  settled e he hfolding hlive hdeletions hupdates :=
    exists_range_of_not_mem_named he hfolding (by simpa [Span.isDecayed] using hlive.ne')
      fun hnamed => (List.mem_append.1 hnamed).elim hdeletions hupdates

/-! ## The model behind it -/

/-- Other annotations than folds stay as they are. -/
theorem filter_entries_withRanges (hids : m.ids.Nodup) :
    (m.withRanges d ranges collapseImports).entries.filter (!·.kind.isFolding) =
      m.entries.filter (!·.kind.isFolding) := by
  have hadded : ((foldingBatch m.tracked d ranges collapseImports).additions.mapIdx
      fun i a => (⟨m.lastId + 1 + i, .folding a.1, a.2⟩ : AnnotationEntry)).filter
        (!·.kind.isFolding) = [] := by
    rw [List.filter_eq_nil_iff]
    intro e he
    obtain ⟨i, hi, rfl⟩ := List.mem_mapIdx.1 he
    simp [AnnotationKind.isFolding, AnnotationKind.fold?]
  rw [withRanges, entries_modify, List.filter_append, hadded, List.append_nil,
    List.filter_filterMap, ← List.filterMap_eq_filter]
  refine List.filterMap_congr fun e he => ?_
  cases hfolding : e.kind.isFolding with
  | true =>
    cases (foldingBatch m.tracked d ranges collapseImports).spanAfter? e.id e.span <;>
      simp [Option.filter, Option.guard, hfolding]
  | false =>
    rw [spanAfter?_foldingBatch hids he (by simp [hfolding])]
    simp [Option.filter, Option.guard, hfolding]

theorem additions_foldingBatch_eq :
    (foldingBatch m.tracked d ranges collapseImports).additions =
      (m.unpaired d ranges).map fun r => (r.fold collapseImports, r.lineSpan d) := by
  rw [foldingBatch_eq]

/-- **A batch touches folds only, and of these only what it has to.** The model may be any that has
come about by adding and changing annotations, all of which are sound. Each fold is named at most
once; all decayed ones are deleted and none of them is moved; a fold is moved to another place,
where it covers something; a live fold that is not named has the span of a range that lies within
the document. In the model behind it all other annotations are as they were. What was there and is
not deleted keeps its order, its number and its state. The ranges that found no fold follow it under
new numbers, as folds that are not visible, and collapsed if they hold imports and these are to be
collapsed. -/
theorem foldingBatch_touches_folds_only (h : m.IsSound) (d : Document) (ranges : List FoldingRange)
    (collapseImports : Bool) :
    m.IsMinimal d ranges (foldingBatch m.tracked d ranges collapseImports) ∧
      (m.withRanges d ranges collapseImports).entries.filter (!·.kind.isFolding) =
        m.entries.filter (!·.kind.isFolding) ∧
      ∃ kept added, (m.withRanges d ranges collapseImports).entries = kept ++ added ∧
        (kept.map fun e => (e.id, e.kind)) =
          ((m.entries.filter
            (·.id ∉ (foldingBatch m.tracked d ranges collapseImports).deletions)).map
              fun e => (e.id, e.kind)) ∧
        added = ((m.unpaired d ranges).mapIdx fun i r => ⟨m.lastId + 1 + i,
          .folding { collapsed := collapseImports && r.kind == some .imports, visible := false },
          r.lineSpan d⟩) ∧
        (∀ r ∈ m.unpaired d ranges, r ∈ ranges ∧ r.isWithin d.lineCount) ∧
        ∀ e ∈ added, e.id ∉ m.ids := by
  refine ⟨isMinimal_foldingBatch h.nodup, filter_entries_withRanges h.nodup, _, _,
    entries_modify m _, map_kept m _ _ fun _ _ => rfl, ?_, fun r => mem_of_mem_unpaired, ?_⟩
  · rw [additions_foldingBatch_eq]
    refine List.ext_getElem (by simp) fun i _ _ => ?_
    simp [FoldingRange.fold]
  · intro e he hmem
    obtain ⟨i, hi, rfl⟩ := List.mem_mapIdx.1 he
    obtain ⟨e', he', hid⟩ := List.mem_map.1 hmem
    have hlt : m.lastId < m.lastId + 1 + i :=
      (Nat.lt_succ_self _).trans_le (Nat.le_add_right _ _)
    exact absurd hlt (not_lt.2 (hid.ge.trans (h.id_le e' he')))

/-- One range for each of three lines; the first one and the last one hold imports. -/
def importRanges : List FoldingRange :=
  [{ startLine := 0, endLine := 0, kind := some .imports }, { startLine := 1, endLine := 1 },
    { startLine := 2, endLine := 2, kind := some .imports }]

/-- A decayed fold goes, one is moved, a collapsed one stays, and imports are added as a collapsed
fold. -/
theorem foldingBatch_touches_folds_only_mixedModel :
    (mixedModel.withRanges threeLines importRanges true).entries =
        [⟨1, .folding { collapsed := false }, ⟨2, 2⟩⟩, ⟨2, .other "marker", ⟨2, 2⟩⟩,
          ⟨5, .folding { collapsed := true }, ⟨0, 2⟩⟩,
          ⟨6, .folding { collapsed := true }, ⟨4, 2⟩⟩] ∧
      mixedModel.IsMinimal threeLines importRanges
        (foldingBatch mixedModel.tracked threeLines importRanges true) ∧
      ∃ kept added, (mixedModel.withRanges threeLines importRanges true).entries = kept ++ added ∧
        added = [⟨6, .folding { collapsed := true }, ⟨4, 2⟩⟩] ∧
        ∀ e ∈ added, e.id ∉ mixedModel.ids := by
  obtain ⟨hminimal, -, kept, added, hentries, -, hadded, -, hfresh⟩ :=
    foldingBatch_touches_folds_only (m := mixedModel) ⟨by decide, by decide⟩ threeLines
      importRanges true
  refine ⟨by cbv, hminimal, kept, added, hentries, ?_, hfresh⟩
  rw [hadded]
  cbv

end LanguageClient.AnnotationModel
