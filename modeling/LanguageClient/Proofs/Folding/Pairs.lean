import LanguageClient.Proofs.Folding.Entries
import Mathlib

/-!
# The pairs of folds and ranges

A batch is computed from the pairs of live folds and ranges (`AnnotationModel.pairs`): it moves the
folds that are not where their ranges are, deletes those whose ranges are empty and those without a
range, and adds the ranges without a fold (`AnnotationModel.foldingBatch_eq`). No annotation is
named twice in it (`AnnotationModel.nodup_named`).
-/

namespace LanguageClient

/-! ## Lists -/

section Lists

variable {α β : Type*} {l : List α} {l' : List β}

theorem map_fst_zip_eq_take (l : List α) (l' : List β) :
    (l.zip l').map Prod.fst = l.take l'.length := by
  induction l generalizing l' with
  | nil => simp
  | cons a l ih => cases l' <;> simp [ih]

theorem map_snd_zip_eq_take (l : List α) (l' : List β) :
    (l.zip l').map Prod.snd = l'.take l.length := by
  induction l generalizing l' with
  | nil => simp
  | cons a l ih => cases l' <;> simp [ih]

/-- Pairs of two lists in order are in both orders. -/
theorem pairwise_zip {r : α → α → Prop} {s : β → β → Prop} (h : l.Pairwise r)
    (h' : l'.Pairwise s) : (l.zip l').Pairwise fun a b => r a.1 b.1 ∧ s a.2 b.2 := by
  refine List.Pairwise.and ?_ ?_
  · rw [← List.pairwise_map, map_fst_zip_eq_take]
    exact h.sublist (List.take_sublist ..)
  · rw [← List.pairwise_map, map_snd_zip_eq_take]
    exact h'.sublist (List.take_sublist ..)

end Lists

/-! ## One batch -/

section Pairing

variable {d : Document} {collapseImports : Bool} {live : List (AnnotationId × Span)}
  {ranges : List FoldingRange} {b : AnnotationBatch}

/-- The fold that a range becomes: collapsed if it holds imports and these are to be collapsed. -/
def FoldingRange.fold (r : FoldingRange) (collapseImports : Bool) : Fold :=
  { collapsed := collapseImports && r.kind == some .imports }

/-- **What a batch does to each pair**, and to the folds and the ranges that are left over. -/
theorem pairFolds_eq (hranges : ∀ r ∈ ranges, r.isWithin d.lineCount) :
    pairFolds d collapseImports live ranges b =
      { deletions := b.deletions ++
          (((live.zip ranges).filter fun p => (p.2.lineSpan d).isDecayed).map (·.1.1) ++
            (live.drop ranges.length).reverse.map (·.1))
        additions := b.additions ++
          ((ranges.drop live.length).filter fun r => !(r.lineSpan d).isDecayed).map
            fun r => (r.fold collapseImports, r.lineSpan d)
        updates := b.updates ++
          ((live.zip ranges).filter fun p =>
              !(p.2.lineSpan d).isDecayed && p.2.lineSpan d != p.1.2).map
            fun p => (p.1.1, p.2.lineSpan d) } := by
  fun_induction pairFolds d collapseImports live ranges b with
  | case1 live b => simp
  | case2 live range ranges b e herror ih =>
    exact absurd herror (FoldingRange.span_ne_error (hranges _ List.mem_cons_self))
  | case3 range ranges b span hspan id current live hdecayed ih =>
    obtain ⟨hrange, hranges⟩ := List.forall_mem_cons.1 hranges
    have heq := FoldingRange.lineSpan_of_span_eq_ok hrange hspan
    rw [ih hranges]
    simp [heq, hdecayed]
  | case4 range ranges b span hspan id current live hdecayed hmoved ih =>
    obtain ⟨hrange, hranges⟩ := List.forall_mem_cons.1 hranges
    have heq := FoldingRange.lineSpan_of_span_eq_ok hrange hspan
    rw [ih hranges]
    simp [heq, hdecayed, hmoved]
  | case5 range ranges b span hspan id current live hdecayed hkept ih =>
    obtain ⟨hrange, hranges⟩ := List.forall_mem_cons.1 hranges
    have heq := FoldingRange.lineSpan_of_span_eq_ok hrange hspan
    obtain rfl := Decidable.not_not.1 hkept
    rw [ih hranges]
    simp [heq, hdecayed]
  | case6 range ranges b span hspan hdecayed ih =>
    obtain ⟨hrange, hranges⟩ := List.forall_mem_cons.1 hranges
    have heq := FoldingRange.lineSpan_of_span_eq_ok hrange hspan
    rw [ih hranges]
    simp [heq, hdecayed]
  | case7 range ranges b span hspan hdecayed collapsed ih =>
    obtain ⟨hrange, hranges⟩ := List.forall_mem_cons.1 hranges
    have heq := FoldingRange.lineSpan_of_span_eq_ok hrange hspan
    rw [ih hranges]
    simp [heq, hdecayed, FoldingRange.fold, collapsed]

end Pairing

namespace AnnotationBatch

variable {b : AnnotationBatch} {id : AnnotationId} {span span' : Span}

/-- The annotations that a batch names as those that were there. -/
def named (b : AnnotationBatch) : List AnnotationId := b.deletions ++ b.updates.map (·.1)

theorem foldl_move_of_not_mem {updates : List (AnnotationId × Span)}
    (h : id ∉ updates.map (·.1)) :
    updates.foldl (fun s (id', span') => if id = id' then span' else s) span = span := by
  induction updates with
  | nil => rfl
  | cons u updates ih =>
    rw [List.map_cons, List.mem_cons, not_or] at h
    rw [List.foldl_cons]
    dsimp only
    rw [if_neg h.1, ih h.2]

theorem spanAfter?_of_not_mem_named (h : id ∉ b.named) : b.spanAfter? id span = some span := by
  obtain ⟨hdeletions, hupdates⟩ := not_or.1 (mt List.mem_append.2 h)
  rw [spanAfter?, if_neg hdeletions, foldl_move_of_not_mem hupdates]

/-- An annotation that is moved once and not deleted is where it is moved to. -/
theorem spanAfter?_of_mem_updates (hnamed : b.named.Nodup) (h : (id, span') ∈ b.updates) :
    b.spanAfter? id span = some span' := by
  obtain ⟨-, hupdates, hdisjoint⟩ := List.nodup_append.1 hnamed
  have hid : id ∈ b.updates.map (·.1) := List.mem_map_of_mem h
  obtain ⟨before, after, hsplit⟩ := List.append_of_mem h
  have hafter : id ∉ after.map (·.1) := by
    rw [hsplit, List.map_append, List.map_cons] at hupdates
    exact (List.nodup_cons.1 (List.nodup_append.1 hupdates).2.1).1
  rw [spanAfter?, if_neg fun hmem => hdisjoint id hmem id hid rfl, hsplit, List.foldl_append,
    List.foldl_cons, foldl_move_of_not_mem hafter]
  exact congrArg some (if_pos rfl)

end AnnotationBatch

namespace AnnotationModel

/-- The live folds of a model that find a range, each with its range. -/
def pairs (m : AnnotationModel) (d : Document) (ranges : List FoldingRange) :
    List ((AnnotationId × Span) × FoldingRange) :=
  (liveFolds m.tracked).zip (validRanges d ranges)

/-- The ranges that find no fold, without the empty ones. -/
def unpaired (m : AnnotationModel) (d : Document) (ranges : List FoldingRange) :
    List FoldingRange :=
  ((validRanges d ranges).drop (liveFolds m.tracked).length).filter
    fun r => !(r.lineSpan d).isDecayed

variable {m : AnnotationModel} {d : Document} {ranges : List FoldingRange} {collapseImports : Bool}

/-- **The batch for some ranges.** -/
theorem foldingBatch_eq : foldingBatch m.tracked d ranges collapseImports =
    { deletions := lostFolds m.tracked ++
        (((m.pairs d ranges).filter fun p => (p.2.lineSpan d).isDecayed).map (·.1.1) ++
          ((liveFolds m.tracked).drop (validRanges d ranges).length).reverse.map (·.1))
      additions := (m.unpaired d ranges).map fun r => (r.fold collapseImports, r.lineSpan d)
      updates :=
        ((m.pairs d ranges).filter fun p =>
            !(p.2.lineSpan d).isDecayed && p.2.lineSpan d != p.1.2).map
          fun p => (p.1.1, p.2.lineSpan d) } := by
  rw [foldingBatch, pairFolds_eq fun _ => isWithin_of_mem_validRanges]
  rfl

theorem mem_validRanges_iff {r : FoldingRange} :
    r ∈ validRanges d ranges ↔ r ∈ ranges ∧ r.isWithin d.lineCount := by
  rw [validRanges, List.mem_mergeSort, List.mem_filter]

theorem mem_of_mem_unpaired {r : FoldingRange} (h : r ∈ m.unpaired d ranges) :
    r ∈ ranges ∧ r.isWithin d.lineCount :=
  mem_validRanges_iff.1 (List.mem_of_mem_drop (List.mem_filter.1 h).1)

theorem mem_of_mem_pairs {p : (AnnotationId × Span) × FoldingRange} (h : p ∈ m.pairs d ranges) :
    p.1 ∈ liveFolds m.tracked ∧ p.2 ∈ validRanges d ranges :=
  List.of_mem_zip h

theorem mem_liveFolds {e : AnnotationEntry} (he : e ∈ m.entries) (hfolding : e.kind.isFolding)
    (hlive : e.span.isDecayed = false) : (e.id, e.span) ∈ liveFolds m.tracked := by
  refine m.liveFolds_tracked_perm.mem_iff.2 (List.mem_filter.2 ⟨?_, by simp [hlive]⟩)
  exact List.mem_map.2 ⟨e, List.mem_filter.2 ⟨he, hfolding⟩, rfl⟩

variable (d ranges) in
/-- A live fold finds a range or is one of the last ones. -/
theorem mem_liveFolds_cases {p : AnnotationId × Span} (h : p ∈ liveFolds m.tracked) :
    (∃ r, (p, r) ∈ m.pairs d ranges) ∨
      p ∈ (liveFolds m.tracked).drop (validRanges d ranges).length := by
  rw [← List.take_append_drop (validRanges d ranges).length (liveFolds m.tracked),
    List.mem_append, ← map_fst_zip_eq_take] at h
  refine h.imp_left fun h => ?_
  obtain ⟨⟨p', r⟩, hmem, rfl⟩ := List.mem_map.1 h
  exact ⟨r, hmem⟩

theorem mem_deletions_iff {id : AnnotationId} :
    id ∈ (foldingBatch m.tracked d ranges collapseImports).deletions ↔
      id ∈ lostFolds m.tracked ∨
        (∃ p ∈ m.pairs d ranges, (p.2.lineSpan d).isDecayed ∧ p.1.1 = id) ∨
        ∃ p ∈ (liveFolds m.tracked).drop (validRanges d ranges).length, p.1 = id := by
  simp only [foldingBatch_eq, List.mem_append, List.mem_map, List.mem_filter, List.mem_reverse,
    and_assoc]

theorem mem_updates_iff {id : AnnotationId} {span : Span} :
    (id, span) ∈ (foldingBatch m.tracked d ranges collapseImports).updates ↔
      ∃ p ∈ m.pairs d ranges, p.1.1 = id ∧ p.2.lineSpan d = span ∧ span.isDecayed = false ∧
        span ≠ p.1.2 := by
  simp only [foldingBatch_eq, List.mem_map, List.mem_filter, Bool.and_eq_true, Bool.not_eq_true',
    bne_iff_ne, Prod.mk.injEq, and_assoc]
  constructor
  · rintro ⟨p, hp, hdecayed, hmoved, rfl, rfl⟩
    exact ⟨p, hp, rfl, rfl, hdecayed, hmoved⟩
  · rintro ⟨p, hp, rfl, rfl, hdecayed, hmoved⟩
    exact ⟨p, hp, hdecayed, hmoved, rfl, rfl⟩

section Named

variable (hids : m.ids.Nodup)

include hids

variable (d ranges) in
/-- The decayed folds, those that find a range, and those that do not. -/
theorem nodup_folds : (lostFolds m.tracked ++ ((m.pairs d ranges).map (·.1.1) ++
    ((liveFolds m.tracked).drop (validRanges d ranges).length).map (·.1))).Nodup := by
  have hpairs : (m.pairs d ranges).map (·.1.1) =
      ((liveFolds m.tracked).take (validRanges d ranges).length).map (·.1) := by
    rw [← map_fst_zip_eq_take, List.map_map]
    rfl
  have hperm : (lostFolds m.tracked ++ (liveFolds m.tracked).map (·.1)).Perm
      (m.places.map (·.1)) := by
    rw [lostFolds_tracked]
    refine ((m.liveFolds_tracked_perm.map _).append_left _).trans ?_
    rw [← List.map_append]
    exact (List.filter_append_perm _ _).map _
  rw [hpairs, ← List.map_append, List.take_append_drop]
  exact hperm.nodup_iff.2 (nodup_places hids)

/-- **No annotation is named twice.** -/
theorem nodup_named : (foldingBatch m.tracked d ranges collapseImports).named.Nodup := by
  set gone := (m.pairs d ranges).filter fun p => (p.2.lineSpan d).isDecayed
  set present := (m.pairs d ranges).filter fun p => !(p.2.lineSpan d).isDecayed
  set moved := (m.pairs d ranges).filter fun p =>
    !(p.2.lineSpan d).isDecayed && p.2.lineSpan d != p.1.2
  set last := (liveFolds m.tracked).drop (validRanges d ranges).length
  have hpairs : ((gone ++ present).map (·.1.1)).Perm ((m.pairs d ranges).map (·.1.1)) :=
    (List.filter_append_perm _ _).map _
  have hall : (lostFolds m.tracked ++ ((gone ++ present).map (·.1.1) ++ last.map (·.1))).Nodup :=
    ((hpairs.append_right _).append_left _).nodup_iff.2 (nodup_folds d ranges hids)
  have hmoved : moved.Sublist present :=
    List.monotone_filter_right _ fun p hp => (Bool.and_eq_true_iff.1 hp).1
  have hnamed : (foldingBatch m.tracked d ranges collapseImports).named.Perm
      (lostFolds m.tracked ++ ((gone ++ moved).map (·.1.1) ++ last.map (·.1))) := by
    rw [AnnotationBatch.named, foldingBatch_eq, List.map_map, List.map_append, List.append_assoc,
      List.append_assoc, List.append_assoc, List.map_reverse]
    refine ((List.perm_append_comm.trans ?_).append_left _).append_left _
    exact (List.reverse_perm _).append_left _
  refine hnamed.nodup_iff.2 (hall.sublist ?_)
  exact ((((hmoved.append_left _).map _).append_right _).append_left _)

/-- A fold that is where its range is is left alone. -/
theorem not_mem_named_of_mem_pairs {p : AnnotationId × Span} {r : FoldingRange}
    (h : (p, r) ∈ m.pairs d ranges) (hdecayed : (r.lineSpan d).isDecayed = false)
    (hplace : r.lineSpan d = p.2) :
    p.1 ∉ (foldingBatch m.tracked d ranges collapseImports).named := by
  obtain ⟨-, hfolds, hlost⟩ := List.nodup_append.1 (nodup_folds d ranges hids)
  obtain ⟨hpairs, -, hlast⟩ := List.nodup_append.1 hfolds
  have hid : p.1 ∈ (m.pairs d ranges).map (·.1.1) := List.mem_map_of_mem h
  have hunique : ∀ q ∈ m.pairs d ranges, q.1.1 = p.1 → q = (p, r) := fun q hq =>
    List.inj_on_of_nodup_map hpairs hq h
  rw [AnnotationBatch.named, List.mem_append, mem_deletions_iff]
  rintro ((hmem | ⟨q, hq, hgone, hid'⟩ | ⟨q, hq, hid'⟩) | hmem)
  · exact hlost _ hmem _ (List.mem_append_left _ hid) rfl
  · rw [hunique q hq hid'] at hgone
    exact absurd hgone (by simp [hdecayed])
  · exact hlast _ hid _ (List.mem_map_of_mem hq) hid'.symm
  · obtain ⟨⟨id, span⟩, hmem, hid'⟩ := List.mem_map.1 hmem
    obtain ⟨q, hq, hid'', hspan, -, hmoved⟩ := mem_updates_iff.1 hmem
    obtain rfl := hunique q hq (hid''.trans hid')
    exact hmoved (hspan.symm.trans hplace)

/-- A fold that finds a range goes where the range is, or goes away if that is empty. -/
theorem spanAfter?_of_mem_pairs {p : AnnotationId × Span} {r : FoldingRange}
    (h : (p, r) ∈ m.pairs d ranges) :
    (foldingBatch m.tracked d ranges collapseImports).spanAfter? p.1 p.2 =
      if (r.lineSpan d).isDecayed then none else some (r.lineSpan d) := by
  split_ifs with hdecayed
  · exact AnnotationBatch.spanAfter?_of_mem
      (mem_deletions_iff.2 (.inr (.inl ⟨_, h, hdecayed, rfl⟩)))
  · rw [Bool.not_eq_true] at hdecayed
    by_cases hplace : r.lineSpan d = p.2
    · rw [hplace]
      exact AnnotationBatch.spanAfter?_of_not_mem_named
        (not_mem_named_of_mem_pairs hids h hdecayed hplace)
    · exact AnnotationBatch.spanAfter?_of_mem_updates (nodup_named hids)
        (mem_updates_iff.2 ⟨_, h, rfl, rfl, hdecayed, hplace⟩)

end Named

end AnnotationModel

end LanguageClient
