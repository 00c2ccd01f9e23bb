import LanguageClient.Proofs.Folding.Entries
import LanguageClient.Session.AnnotatedDocument
import Mathlib

/-!
# Annotations follow their document

Whatever is done with a document and its annotations, all spans stay within the text
(`Span.stop_afterChange_le`), the numbers stay in order (`AnnotationModel.IsOrdered`), and nothing
that has gone comes back: neither a number that was deleted nor a character of a span that has
decayed (`AnnotationModel.Precedes`). `AnnotatedDocument.run_tracks` says so of all runs.
-/

namespace LanguageClient

/-! ## Spans -/

namespace Span

variable {s : Span} {offset count length : Nat}

/-- Removing characters leaves a span within what is left of the document. -/
theorem stop_afterRemoval_le (hs : s.stop ≤ length) (h : offset + count ≤ length) :
    (s.afterRemoval offset count).stop ≤ length - count := by
  unfold afterRemoval
  dsimp only
  split_ifs <;> simp only [stop, lastOffset] at * <;> omega

theorem stop_afterInsertion_le (hs : s.stop ≤ length) :
    (s.afterInsertion offset count).stop ≤ length + count := by
  unfold afterInsertion
  split_ifs <;> simp only [stop, lastOffset] at * <;> omega

theorem stop_afterChange_le {c : TextChange} (hs : s.stop ≤ length)
    (h : c.offset + c.removed ≤ length) :
    (s.afterChange c).stop ≤ length - c.removed + c.inserted :=
  stop_afterInsertion_le (stop_afterRemoval_le hs h)

theorem length_afterRemoval_le (s : Span) (offset count : Nat) :
    (s.afterRemoval offset count).length ≤ s.length := by
  unfold afterRemoval
  dsimp only
  split_ifs
  · exact le_rfl
  · exact le_rfl
  · exact Nat.sub_le _ _
  · exact Nat.sub_le _ _
  · exact le_rfl
  · exact Nat.sub_le _ _

/-- No character stands between the ends of a decayed span. -/
theorem length_afterInsertion_of_length_eq_zero (h : s.length = 0) :
    (s.afterInsertion offset count).length = 0 := by
  have hlast : s.lastOffset = s.offset := by
    rw [lastOffset, stop, h]
    exact max_eq_right (Nat.sub_le _ _)
  unfold afterInsertion
  rw [hlast]
  split_ifs <;> exact h

theorem length_afterChange_of_length_eq_zero (h : s.length = 0) (c : TextChange) :
    (s.afterChange c).length = 0 :=
  length_afterInsertion_of_length_eq_zero (Nat.le_zero.1 (h ▸ length_afterRemoval_le s _ _))

theorem exists_lines_eq_ok {d : Document} (h : s.stop ≤ d.length) :
    ∃ lines, s.lines d = .ok lines := by
  have hoffset : s.offset ≤ d.length := (Nat.le_add_right _ _).trans h
  have hlast : s.lastOffset ≤ d.length := max_le ((Nat.sub_le _ _).trans h) hoffset
  obtain ⟨first, hfirst⟩ := Document.exists_offsetToLine_eq_ok hoffset
  obtain ⟨last, hlast⟩ := Document.exists_offsetToLine_eq_ok hlast
  exact ⟨(first, last), by rw [lines, hfirst, hlast]; rfl⟩

end Span

theorem stop_le_of_mem_reportedSpans {d : Document} {ranges : List FoldingRange} {s : Span}
    (h : s ∈ reportedSpans d ranges) : s.stop ≤ d.length := by
  obtain ⟨r, hr, rfl⟩ := List.mem_map.1 (List.mem_filter.1 h).1
  rw [FoldingRange.stop_lineSpan (List.mem_filter.1 hr).2, Document.length]
  conv_rhs => rw [← d.text.flatten_lines]
  exact Text.lineStart_le _ _

/-! ## Models -/

namespace AnnotationModel

variable {m m' m'' : AnnotationModel}

/-- The numbers count up, and none is beyond the last one given. -/
structure IsOrdered (m : AnnotationModel) : Prop where
  increasing : m.ids.Pairwise (· < ·)
  id_le : ∀ id ∈ m.ids, id ≤ m.lastId

/-- What is so of a model that comes about after another one: annotations with old numbers are old
ones, and what was decayed still is. -/
structure Precedes (m m' : AnnotationModel) : Prop where
  lastId_le : m.lastId ≤ m'.lastId
  old : ∀ e' ∈ m'.entries, e'.id ≤ m.lastId →
    ∃ e ∈ m.entries, e.id = e'.id ∧ (e.span.length = 0 → e'.span.length = 0)

theorem isOrdered_empty : empty.IsOrdered := ⟨.nil, nofun⟩

namespace IsOrdered

theorem nodup (h : m.IsOrdered) : m.ids.Nodup := h.increasing.imp ne_of_lt

theorem id_le_of_mem (h : m.IsOrdered) {e : AnnotationEntry} (he : e ∈ m.entries) : e.id ≤ m.lastId :=
  h.id_le _ (List.mem_map_of_mem he)

theorem congr (h : m.IsOrdered) (hids : m'.ids = m.ids) (hlast : m'.lastId = m.lastId) :
    m'.IsOrdered where
  increasing := hids ▸ h.increasing
  id_le := hids ▸ hlast ▸ h.id_le

/-- Deleting numbers and adding the next ones behind them keeps their order. -/
theorem of_ids_eq (h : m.IsOrdered) {kept : List AnnotationId} {n : Nat} (hkept : kept.Sublist m.ids)
    (hids : m'.ids = kept ++ List.range' (m.lastId + 1) n) (hlast : m'.lastId = m.lastId + n) :
    m'.IsOrdered where
  increasing := by
    rw [hids, List.pairwise_append]
    refine ⟨h.increasing.sublist hkept, List.pairwise_lt_range', fun id hid id' hid' => ?_⟩
    exact (h.id_le id (hkept.subset hid)).trans_lt (List.mem_range'_1.1 hid').1
  id_le id hid := by
    rw [hlast]
    rcases List.mem_append.1 (hids ▸ hid) with hid | hid
    · exact (h.id_le id (hkept.subset hid)).trans (Nat.le_add_right _ _)
    · have hlt := (List.mem_range'_1.1 hid).2
      rw [Nat.add_right_comm] at hlt
      exact Nat.le_of_lt_succ hlt

end IsOrdered

namespace Precedes

theorem refl (m : AnnotationModel) : m.Precedes m := ⟨le_rfl, fun e he _ => ⟨e, he, rfl, id⟩⟩

theorem trans (h : m.Precedes m') (h' : m'.Precedes m'') : m.Precedes m'' where
  lastId_le := h.lastId_le.trans h'.lastId_le
  old e'' he'' hid := by
    obtain ⟨e', he', hid', hdecayed'⟩ := h'.old e'' he'' (hid.trans h.lastId_le)
    obtain ⟨e, he, hid, hdecayed⟩ := h.old e' he' (hid' ▸ hid)
    exact ⟨e, he, hid.trans hid', hdecayed' ∘ hdecayed⟩

/-- A number that is gone stays away. -/
theorem not_mem (h : m.Precedes m') {id : AnnotationId} (hle : id ≤ m.lastId) (hid : id ∉ m.ids) :
    id ∉ m'.ids := by
  intro hmem
  obtain ⟨e', he', rfl⟩ := List.mem_map.1 hmem
  obtain ⟨e, he, heq, -⟩ := h.old e' he' hle
  exact hid (heq ▸ List.mem_map_of_mem he)

theorem map {f : AnnotationEntry → AnnotationEntry} (hid : ∀ e, (f e).id = e.id)
    (hdecayed : ∀ e : AnnotationEntry, e.span.length = 0 → (f e).span.length = 0) :
    m.Precedes { m with entries := m.entries.map f } where
  lastId_le := le_rfl
  old e' he' _ := by
    obtain ⟨e, he, rfl⟩ := List.mem_map.1 he'
    exact ⟨e, he, (hid e).symm, hdecayed e⟩

end Precedes

/-! ### What is done with a model -/

theorem ids_documentChanged (m : AnnotationModel) (c : TextChange) : (m.documentChanged c).ids = m.ids := by
  rw [ids, documentChanged, List.map_map]
  rfl

theorem precedes_documentChanged (m : AnnotationModel) (c : TextChange) :
    m.Precedes (m.documentChanged c) :=
  .map (fun _ => rfl) fun _ h => Span.length_afterChange_of_length_eq_zero h c

theorem ids_add (m : AnnotationModel) (kind : AnnotationKind) (span : Span) :
    (m.add kind span).ids = m.ids ++ [m.lastId + 1] := by
  rw [ids, AnnotationModel.add, List.map_append]
  rfl

theorem precedes_add (m : AnnotationModel) (kind : AnnotationKind) (span : Span) :
    m.Precedes (m.add kind span) where
  lastId_le := Nat.le_succ _
  old e' he' hid := by
    rcases List.mem_append.1 he' with he' | he'
    · exact ⟨e', he', rfl, id⟩
    · rw [List.mem_singleton.1 he'] at hid
      exact absurd hid (Nat.not_succ_le_self _)

section UpdateFold

variable (m) (id : AnnotationId) (f : Fold → Fold)

/-- Changing a fold leaves numbers and spans. -/
theorem map_updateFold : ∃ g : AnnotationEntry → AnnotationEntry,
    (∀ e, (g e).id = e.id ∧ (g e).span = e.span) ∧
      m.updateFold id f = { m with entries := m.entries.map g } := by
  refine ⟨_, fun e => ?_, rfl⟩
  cases e.kind with
  | folding fold => dsimp only; split_ifs <;> exact ⟨rfl, rfl⟩
  | other name => exact ⟨rfl, rfl⟩

theorem ids_updateFold : (m.updateFold id f).ids = m.ids := by
  obtain ⟨g, hg, heq⟩ := map_updateFold m id f
  rw [heq, ids, List.map_map]
  exact List.map_congr_left fun e _ => (hg e).1

theorem precedes_updateFold : m.Precedes (m.updateFold id f) := by
  obtain ⟨g, hg, heq⟩ := map_updateFold m id f
  rw [heq]
  exact .map (fun e => (hg e).1) fun e h => by rwa [(hg e).2]

end UpdateFold

section WithRanges

variable {d : Document} {ranges : List FoldingRange} {collapseImports : Bool}

/-- An annotation of another part of the editor is left alone. -/
theorem mem_entries_of_not_isFolding (h : m.IsOrdered) {e' : AnnotationEntry}
    (he' : e' ∈ (m.withRanges d ranges collapseImports).entries) (hother : ¬ e'.kind.isFolding) :
    e' ∈ m.entries := by
  rcases mem_entries_modify he' with ⟨e, he, span, hspan, rfl⟩ | ⟨-, hfolding⟩
  · rw [spanAfter?_foldingBatch h.nodup he (fun hlive => hother hlive.1), if_neg hother] at hspan
    obtain rfl := Option.some.inj hspan
    exact he
  · exact absurd hfolding hother

theorem precedes_withRanges (h : m.IsOrdered) : m.Precedes (m.withRanges d ranges collapseImports) where
  lastId_le := by
    rw [withRanges, lastId_modify]
    exact Nat.le_add_right _ _
  old e' he' hid := by
    rcases mem_entries_modify he' with ⟨e, he, span, hspan, rfl⟩ | ⟨hnew, -⟩
    · refine ⟨e, he, rfl, fun hdecayed => ?_⟩
      -- a decayed fold would have been deleted, and another annotation keeps its span
      rw [spanAfter?_foldingBatch h.nodup he (by simp [Span.isDecayed, hdecayed])] at hspan
      split_ifs at hspan
      obtain rfl := Option.some.inj hspan
      exact hdecayed
    · exact absurd hid (Nat.not_le_of_lt hnew)

theorem isOrdered_withRanges (h : m.IsOrdered) : (m.withRanges d ranges collapseImports).IsOrdered :=
  h.of_ids_eq List.filter_sublist (ids_modify m _) (lastId_modify m _)

theorem isDecayed_eq_false_of_mem (h : m.IsOrdered) {e' : AnnotationEntry}
    (he' : e' ∈ (m.withRanges d ranges collapseImports).entries) (hfolding : e'.kind.isFolding) :
    e'.span.isDecayed = false := by
  have hshown := (foldSpans_withRanges_perm_shownSpans h.nodup).mem_iff.1
    (span_mem_foldSpans he' hfolding)
  simpa using (List.mem_filter.1 hshown).2

theorem stop_le_of_mem_withRanges (h : m.IsOrdered) (hwithin : ∀ e ∈ m.entries, e.span.stop ≤ d.length)
    {e' : AnnotationEntry} (he' : e' ∈ (m.withRanges d ranges collapseImports).entries) :
    e'.span.stop ≤ d.length := by
  by_cases hfolding : e'.kind.isFolding
  · have hshown := (foldSpans_withRanges_perm_shownSpans h.nodup).mem_iff.1
      (span_mem_foldSpans he' hfolding)
    exact stop_le_of_mem_reportedSpans (shownSpans_perm.mem_iff.1 hshown)
  · exact hwithin e' (mem_entries_of_not_isFolding h he' hfolding)

end WithRanges

end AnnotationModel

/-! ## Documents and their annotations -/

namespace AnnotatedDocument

variable {s : AnnotatedDocument}

/-- An edit replaces characters and lets the annotations follow, or nothing happens. -/
theorem edit_cases (s : AnnotatedDocument) (offset removed : Nat) (new : Text) :
    s.edit offset removed new = s ∨ offset + removed ≤ s.document.length ∧
      (s.edit offset removed new).document.length = s.document.length - removed + new.length ∧
      (s.edit offset removed new).model = s.model.documentChanged ⟨offset, removed, new.length⟩ := by
  unfold edit
  by_cases hwithin : offset + removed ≤ s.document.length
  · refine .inr ⟨hwithin, ?_⟩
    rw [Document.replace_of_le new hwithin]
    refine ⟨?_, rfl⟩
    have hlength : (s.document.text.splice offset (offset + removed) new).length +
        (offset + removed - offset) = s.document.text.length + new.length :=
      Text.length_splice (Nat.le_add_right offset removed) hwithin
    simp only [Document.length] at hwithin ⊢
    omega
  · left
    rw [Document.replace, if_neg hwithin]

/-- What holds of a document and its annotations throughout a run. -/
structure IsSound (s : AnnotatedDocument) : Prop where
  isOrdered : s.model.IsOrdered
  stop_le : ∀ e ∈ s.model.entries, e.span.stop ≤ s.document.length

theorem isSound_start (document : Document) : (start document).IsSound :=
  ⟨AnnotationModel.isOrdered_empty, nofun⟩

/-- What was there before an action is older than what is there behind it. -/
theorem precedes_after (h : s.model.IsOrdered) (action : Action) :
    s.model.Precedes (s.after action).model := by
  cases action with
  | edit offset removed new =>
    rcases s.edit_cases offset removed new with heq | ⟨-, -, hmodel⟩
    · rw [after, heq]
      exact .refl _
    · rw [after, hmodel]
      exact s.model.precedes_documentChanged _
  | fold ranges collapseImports => exact AnnotationModel.precedes_withRanges h
  | addOther name span => exact s.model.precedes_add _ _
  | collapse id => exact s.model.precedes_updateFold _ _
  | expand id => exact s.model.precedes_updateFold _ _
  | updateVisibility id pixelHeight lineHeight => exact s.model.precedes_updateFold _ _

theorem IsSound.edit (h : s.IsSound) (offset removed : Nat) (new : Text) :
    (s.edit offset removed new).IsSound := by
  rcases s.edit_cases offset removed new with heq | ⟨hwithin, hlength, hmodel⟩
  · rwa [heq]
  · refine ⟨?_, fun e' he' => ?_⟩
    · rw [hmodel]
      exact h.isOrdered.congr (s.model.ids_documentChanged _) rfl
    · rw [hmodel] at he'
      obtain ⟨e, he, rfl⟩ := List.mem_map.1 he'
      rw [hlength]
      exact Span.stop_afterChange_le (h.stop_le e he) hwithin

theorem IsSound.updateFold (h : s.IsSound) (id : AnnotationId) (f : Fold → Fold) :
    IsSound { s with model := s.model.updateFold id f } := by
  refine ⟨h.isOrdered.congr (s.model.ids_updateFold id f) rfl, fun e' he' => ?_⟩
  obtain ⟨g, hg, heq⟩ := s.model.map_updateFold id f
  rw [heq] at he'
  obtain ⟨e, he, rfl⟩ := List.mem_map.1 he'
  rw [(hg e).2]
  exact h.stop_le e he

/-- **Every action keeps spans within the document and numbers in order.** -/
theorem IsSound.after (h : s.IsSound) {action : Action} (hallows : s.allows action) :
    (s.after action).IsSound := by
  cases action with
  | edit offset removed new => exact h.edit offset removed new
  | fold ranges collapseImports =>
    exact ⟨AnnotationModel.isOrdered_withRanges h.isOrdered,
      fun _ => AnnotationModel.stop_le_of_mem_withRanges h.isOrdered h.stop_le⟩
  | addOther name span =>
    refine ⟨h.isOrdered.of_ids_eq (n := 1) (.refl _) (s.model.ids_add _ _) rfl, fun e he => ?_⟩
    rcases List.mem_append.1 he with he | he
    · exact h.stop_le e he
    · rw [List.mem_singleton.1 he]
      exact of_decide_eq_true hallows
  | collapse id => exact h.updateFold id _
  | expand id => exact h.updateFold id _
  | updateVisibility id pixelHeight lineHeight => exact h.updateFold id _

/-! ## Runs -/

theorem IsSound.run (h : s.IsSound) {actions : List Action} (hrun : s.CanRun actions) :
    (s.run actions).IsSound := by
  induction actions generalizing s with
  | nil => exact h
  | cons action actions ih => exact ih (h.after hrun.1) hrun.2

theorem IsSound.precedes_run (h : s.IsSound) {actions : List Action} (hrun : s.CanRun actions) :
    s.model.Precedes (s.run actions).model := by
  induction actions generalizing s with
  | nil => exact .refl _
  | cons action actions ih =>
    exact (precedes_after h.isOrdered action).trans (ih (h.after hrun.1) hrun.2)

/-- Only a batch deletes annotations. -/
theorem ids_subset_after {action : Action} (h : !action.isFold) :
    s.model.ids ⊆ (s.after action).model.ids := by
  have hupdate (id : AnnotationId) (f : Fold → Fold) : s.model.ids ⊆ (s.model.updateFold id f).ids :=
    s.model.ids_updateFold id f ▸ List.Subset.refl _
  cases action with
  | edit offset removed new =>
    rcases s.edit_cases offset removed new with heq | ⟨-, -, hmodel⟩
    · rw [AnnotatedDocument.after, heq]
      exact List.Subset.refl _
    · rw [AnnotatedDocument.after, hmodel, AnnotationModel.ids_documentChanged]
      exact List.Subset.refl _
  | fold ranges collapseImports => cases h
  | addOther name span =>
    rw [AnnotatedDocument.after, AnnotationModel.ids_add]
    exact List.subset_append_left _ _
  | collapse id => exact hupdate id _
  | expand id => exact hupdate id _
  | updateVisibility id pixelHeight lineHeight => exact hupdate id _

theorem ids_subset_run {actions : List Action} (h : ∀ action ∈ actions, !action.isFold) :
    s.model.ids ⊆ (s.run actions).model.ids := by
  induction actions generalizing s with
  | nil => exact List.Subset.refl _
  | cons action actions ih =>
    obtain ⟨haction, hactions⟩ := List.forall_mem_cons.1 h
    exact List.Subset.trans (ids_subset_after haction) (ih hactions)

/-- A number that a batch deletes is gone for good. -/
theorem IsSound.not_mem_ids_of_mem_deletions (h : s.IsSound) {ranges : List FoldingRange}
    {collapseImports : Bool} {actions : List Action}
    (hrun : s.CanRun (.fold ranges collapseImports :: actions)) {id : AnnotationId}
    (hid : id ∈ s.model.ids)
    (hdeleted : id ∈ (foldingBatch s.model.tracked s.document ranges collapseImports).deletions) :
    id ∉ (s.run (.fold ranges collapseImports :: actions)).model.ids := by
  have hafter := precedes_after h.isOrdered (.fold ranges collapseImports)
  refine ((h.after hrun.1).precedes_run hrun.2).not_mem
    ((h.isOrdered.id_le id hid).trans hafter.lastId_le) ?_
  rw [AnnotatedDocument.after, AnnotatedDocument.fold, AnnotationModel.ids_modify, List.mem_append,
    not_or, List.mem_filter, List.mem_range'_1]
  exact ⟨fun hmem => of_decide_eq_true hmem.2 hdeleted,
    fun hnew => absurd (h.isOrdered.id_le id hid) (Nat.not_le_of_lt hnew.1)⟩

/-- **Annotations follow their document through every run.** From a document without annotations on,
every span lies within the document, so that its lines can be told, and the numbers count up. A
number that is gone, by whatever batch, is never given again. What has decayed stays decayed, and
stays there until a batch is applied. A batch for some ranges leaves no decayed fold behind. -/
theorem run_tracks (document : Document) {earlier later : List Action}
    (hrun : (start document).CanRun (earlier ++ later)) :
    let s := (start document).run earlier
    let s' := s.run later
    (∀ e ∈ s.model.entries,
      e.span.stop ≤ s.document.length ∧ ∃ lines, e.span.lines s.document = .ok lines) ∧
    s.model.ids.Pairwise (· < ·) ∧
    (∀ before middle, earlier = before ++ middle →
      ∀ id ∈ ((start document).run before).model.ids, id ∉ s.model.ids → id ∉ s'.model.ids) ∧
    (∀ ranges collapseImports rest, later = .fold ranges collapseImports :: rest →
      ∀ id ∈ s.model.ids,
        id ∈ (foldingBatch s.model.tracked s.document ranges collapseImports).deletions →
          id ∉ s'.model.ids) ∧
    (∀ e ∈ s.model.entries, e.span.length = 0 →
      (∀ e' ∈ s'.model.entries, e'.id = e.id → e'.span.length = 0) ∧
      ((∀ action ∈ later, !action.isFold) → e.id ∈ s'.model.ids)) ∧
    ∀ ranges collapseImports, ∀ e ∈ (s.fold ranges collapseImports).model.entries,
      e.kind.isFolding → e.span.length ≠ 0 := by
  intro s s'
  obtain ⟨hearlier, hlater⟩ := canRun_append.1 hrun
  have h : s.IsSound := (isSound_start document).run hearlier
  have hprecedes : s.model.Precedes s'.model := h.precedes_run hlater
  refine ⟨fun e he => ⟨h.stop_le e he, Span.exists_lines_eq_ok (h.stop_le e he)⟩,
    h.isOrdered.increasing, ?_, ?_, fun e he hdecayed => ⟨fun e' he' hid => ?_, fun hkeeps => ?_⟩, ?_⟩
  · rintro before middle rfl id hid hgone
    obtain ⟨hbefore, hmiddle⟩ := canRun_append.1 hearlier
    have hsound := (isSound_start document).run hbefore
    have hlast := (hsound.precedes_run hmiddle).lastId_le
    rw [← run_append] at hlast
    exact hprecedes.not_mem ((hsound.isOrdered.id_le id hid).trans hlast) hgone
  · rintro ranges collapseImports rest rfl id hid hdeleted
    exact h.not_mem_ids_of_mem_deletions hlater hid hdeleted
  · obtain ⟨e₀, he₀, hid₀, hstays⟩ := hprecedes.old e' he' (hid ▸ h.isOrdered.id_le_of_mem he)
    obtain rfl := List.inj_on_of_nodup_map h.isOrdered.nodup he₀ he (hid₀.trans hid)
    exact hstays hdecayed
  · exact ids_subset_run hkeeps (List.mem_map_of_mem he)
  · intro ranges collapseImports e he hfolding
    have hlive := AnnotationModel.isDecayed_eq_false_of_mem h.isOrdered he hfolding
    simpa [Span.isDecayed] using hlive

/-- Two folds and a marker, and the removal of the line that the first fold and the marker are on. -/
def marked : List Action :=
  [.fold [{ startLine := 0, endLine := 0 }, { startLine := 1, endLine := 2 }] false,
    .addOther "marker" ⟨0, 2⟩, .edit 0 2 []]

/-- The second fold is reported again, and a line is inserted. -/
def refolded : List Action :=
  [.fold [{ startLine := 0, endLine := 1 }] false, .edit 0 0 "x\n".toList]

/-- The first fold goes for good, and the marker stays where its line was. -/
theorem run_tracks_refolded :
    let s := (start AnnotationModel.threeLines).run marked
    let s' := s.run refolded
    s.model.entries.map (fun e => (e.id, e.span)) = [(1, ⟨0, 0⟩), (2, ⟨0, 4⟩), (3, ⟨0, 0⟩)] ∧
    1 ∉ s'.model.ids ∧ (∀ e' ∈ s'.model.entries, e'.id = 3 → e'.span.length = 0) ∧
    ∀ e ∈ (s.fold [] false).model.entries, e.kind.isFolding → e.span.length ≠ 0 := by
  have hrun : (start AnnotationModel.threeLines).CanRun (marked ++ refolded) := by decide
  obtain ⟨-, -, -, hdeleted, hdecayed, hfold⟩ := run_tracks AnnotationModel.threeLines hrun
  have hentries : ((start AnnotationModel.threeLines).run marked).model.entries =
      [⟨1, .folding { collapsed := false }, ⟨0, 0⟩⟩, ⟨2, .folding { collapsed := false }, ⟨0, 4⟩⟩,
        ⟨3, .other "marker", ⟨0, 0⟩⟩] := by cbv
  have hbatch : (foldingBatch ((start AnnotationModel.threeLines).run marked).model.tracked
      ((start AnnotationModel.threeLines).run marked).document
      [{ startLine := 0, endLine := 1 }] false).deletions = [1] := by cbv
  have hmarker : ⟨3, .other "marker", ⟨0, 0⟩⟩ ∈
      ((start AnnotationModel.threeLines).run marked).model.entries := by
    rw [hentries]
    decide
  have hfirst : 1 ∈ ((start AnnotationModel.threeLines).run marked).model.ids := by
    rw [AnnotationModel.ids, hentries]
    decide
  refine ⟨by rw [hentries]; rfl, ?_, (hdecayed _ hmarker rfl).1, hfold [] false⟩
  exact hdeleted _ _ _ rfl 1 hfirst (by rw [hbatch]; decide)

end AnnotatedDocument

end LanguageClient
