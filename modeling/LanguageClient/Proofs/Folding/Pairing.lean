import LanguageClient.Proofs.Folding.Modification

/-!
# Pairing folds with ranges

`pairFolds` goes through the ranges and takes a fold for each as long as there are some. What it
makes of the folds is the spans of as many ranges, but for the empty ones
(`filterMap_spanAfter?_pairFolds`); what it adds is the spans of the other ranges
(`additions_pairFolds`). It has nothing to do if and only if the folds have the spans of the first
ranges, with nothing but empty ranges behind these (`isEmpty_pairFolds_iff`).
-/

namespace LanguageClient

namespace FoldingRange

/-- The span of a range that lies within the document. -/
def lineSpan (r : FoldingRange) (d : Document) : Span :=
  let start := Text.lineStart d.text.lines r.startLine
  ⟨start, Text.lineStart d.text.lines (r.endLine + 1) - start⟩

theorem isWithin_iff {r : FoldingRange} {lineCount : Nat} :
    r.isWithin lineCount ↔ r.startLine ≤ r.endLine ∧ r.endLine < lineCount := by
  simp [isWithin]

theorem stop_lineSpan {r : FoldingRange} {d : Document} (h : r.isWithin d.lineCount) :
    (r.lineSpan d).stop = Text.lineStart d.text.lines (r.endLine + 1) := by
  obtain ⟨hle, -⟩ := isWithin_iff.1 h
  exact Nat.add_sub_cancel' (Text.lineStart_le_lineStart d.text.lines (Nat.le_succ_of_le hle))

theorem span_of_isWithin {r : FoldingRange} {d : Document} (h : r.isWithin d.lineCount) :
    r.span d = .ok (r.lineSpan d) := by
  obtain ⟨hle, hlt⟩ := isWithin_iff.1 h
  rw [span, Document.lineOffset_of_lt (by omega), Document.lineEndOffset_of_lt hlt]
  rfl

theorem lineSpan_of_span_eq_ok {r : FoldingRange} {d : Document} {span : Span}
    (h : r.isWithin d.lineCount) (hspan : r.span d = .ok span) : r.lineSpan d = span := by
  rwa [span_of_isWithin h, Except.ok.injEq] at hspan

theorem span_ne_error {r : FoldingRange} {d : Document} {e : DocumentError}
    (h : r.isWithin d.lineCount) : r.span d ≠ .error e := by
  rw [span_of_isWithin h]
  nofun

end FoldingRange

section Pairing

variable {d : Document} {collapseImports : Bool} {live : List (AnnotationId × Span)}
  {ranges : List FoldingRange} {b : AnnotationBatch}

/-! ## The folds -/

/-- A fold that is not to be paired is left to what the batch does already. -/
theorem spanAfter?_pairFolds_of_not_mem {id : AnnotationId} {span : Span}
    (h : id ∉ live.map (·.1)) :
    (pairFolds d collapseImports live ranges b).spanAfter? id span = b.spanAfter? id span := by
  fun_induction pairFolds d collapseImports live ranges b with
  | case1 live b =>
    rw [AnnotationBatch.spanAfter?_append_deletions, if_neg]
    simpa using h
  | case2 live range ranges b e herror ih => exact ih h
  | case3 range ranges b span' hspan id' current live hdecayed ih =>
    rw [List.map_cons, List.mem_cons, not_or] at h
    rw [ih h.2, AnnotationBatch.spanAfter?_append_deletions, if_neg (by simpa using h.1)]
  | case4 range ranges b span' hspan id' current live hdecayed hmoved ih =>
    rw [List.map_cons, List.mem_cons, not_or] at h
    rw [ih h.2, AnnotationBatch.spanAfter?_append_update]
    simp [h.1]
  | case5 range ranges b span' hspan id' current live hdecayed heq ih =>
    rw [List.map_cons, List.mem_cons, not_or] at h
    exact ih h.2
  | case6 range ranges b span' hspan hdecayed ih => exact ih h
  | case7 range ranges b span' hspan hdecayed collapsed ih => exact ih h

theorem fst_ne_of_not_mem {id : AnnotationId} (h : id ∉ live.map (·.1)) {p : AnnotationId × Span}
    (hp : p ∈ live) : p.1 ≠ id := by
  rintro rfl
  exact h (List.mem_map_of_mem hp)

/-- One pair. What follows leaves the first fold alone. -/
theorem filterMap_spanAfter?_cons {id : AnnotationId} {current span : Span} {spans : List Span}
    (hid : id ∉ live.map (·.1))
    (hhead : b.spanAfter? id current = if span.isDecayed then none else some span)
    (ih : live.filterMap (fun p => (pairFolds d collapseImports live ranges b).spanAfter? p.1 p.2) =
      (spans.take live.length).filter (!·.isDecayed)) :
    ((id, current) :: live).filterMap
        (fun p => (pairFolds d collapseImports live ranges b).spanAfter? p.1 p.2) =
      ((span :: spans).take (live.length + 1)).filter (!·.isDecayed) := by
  rw [List.filterMap_cons, spanAfter?_pairFolds_of_not_mem hid, hhead, ih, List.take_succ_cons,
    List.filter_cons]
  by_cases hdecayed : span.isDecayed <;> simp [hdecayed]

/-- The folds take the spans of the ranges in turn. Those that meet an empty range and those that
are left over go. -/
theorem filterMap_spanAfter?_pairFolds (hranges : ∀ r ∈ ranges, r.isWithin d.lineCount)
    (hlive : (live.map (·.1)).Nodup) (hb : ∀ p ∈ live, b.spanAfter? p.1 p.2 = some p.2) :
    live.filterMap (fun p => (pairFolds d collapseImports live ranges b).spanAfter? p.1 p.2) =
      ((ranges.map (·.lineSpan d)).take live.length).filter (!·.isDecayed) := by
  fun_induction pairFolds d collapseImports live ranges b with
  | case1 live b =>
    rw [List.map_nil, List.take_nil, List.filter_nil, List.filterMap_eq_nil_iff]
    intro p hp
    rw [AnnotationBatch.spanAfter?_append_deletions, if_pos (by simpa using ⟨p.2, hp⟩)]
  | case2 live range ranges b e herror ih =>
    exact absurd herror (FoldingRange.span_ne_error (hranges _ List.mem_cons_self))
  | case3 range ranges b span hspan id current live hdecayed ih =>
    obtain ⟨hrange, hranges⟩ := List.forall_mem_cons.1 hranges
    obtain ⟨hid, hlive⟩ := List.nodup_cons.1 hlive
    obtain ⟨hcurrent, hb⟩ := List.forall_mem_cons.1 hb
    rw [List.map_cons, FoldingRange.lineSpan_of_span_eq_ok hrange hspan]
    refine filterMap_spanAfter?_cons hid ?_ (ih hranges hlive fun p hp => ?_)
    · simp [AnnotationBatch.spanAfter?_append_deletions, hdecayed]
    · have hne : p.1 ≠ id := fst_ne_of_not_mem hid hp
      rw [AnnotationBatch.spanAfter?_append_deletions, if_neg (by simpa using hne), hb p hp]
  | case4 range ranges b span hspan id current live hdecayed hmoved ih =>
    obtain ⟨hrange, hranges⟩ := List.forall_mem_cons.1 hranges
    obtain ⟨hid, hlive⟩ := List.nodup_cons.1 hlive
    obtain ⟨hcurrent, hb⟩ := List.forall_mem_cons.1 hb
    rw [List.map_cons, FoldingRange.lineSpan_of_span_eq_ok hrange hspan]
    refine filterMap_spanAfter?_cons hid ?_ (ih hranges hlive fun p hp => ?_)
    · simp [AnnotationBatch.spanAfter?_append_update, hdecayed, hcurrent]
    · have hne : p.1 ≠ id := fst_ne_of_not_mem hid hp
      simp [AnnotationBatch.spanAfter?_append_update, hb p hp, hne]
  | case5 range ranges b span hspan id current live hdecayed heq ih =>
    obtain ⟨hrange, hranges⟩ := List.forall_mem_cons.1 hranges
    obtain ⟨hid, hlive⟩ := List.nodup_cons.1 hlive
    obtain ⟨hcurrent, hb⟩ := List.forall_mem_cons.1 hb
    rw [List.map_cons, FoldingRange.lineSpan_of_span_eq_ok hrange hspan]
    refine filterMap_spanAfter?_cons hid ?_ (ih hranges hlive hb)
    rw [hcurrent, if_neg hdecayed, Decidable.not_not.1 heq]
  | case6 range ranges b span hspan hdecayed ih => rfl
  | case7 range ranges b span hspan hdecayed collapsed ih => rfl

/-! ## The additions -/

/-- The ranges that find no fold become folds, but for the empty ones. -/
theorem additions_pairFolds (hranges : ∀ r ∈ ranges, r.isWithin d.lineCount) :
    (pairFolds d collapseImports live ranges b).additions.map (·.2) =
      b.additions.map (·.2) ++
        ((ranges.map (·.lineSpan d)).drop live.length).filter (!·.isDecayed) := by
  fun_induction pairFolds d collapseImports live ranges b with
  | case1 live b => simp
  | case2 live range ranges b e herror ih =>
    exact absurd herror (FoldingRange.span_ne_error (hranges _ List.mem_cons_self))
  | case3 range ranges b span hspan id current live hdecayed ih =>
    exact ih (List.forall_mem_cons.1 hranges).2
  | case4 range ranges b span hspan id current live hdecayed hmoved ih =>
    exact ih (List.forall_mem_cons.1 hranges).2
  | case5 range ranges b span hspan id current live hdecayed heq ih =>
    exact ih (List.forall_mem_cons.1 hranges).2
  | case6 range ranges b span hspan hdecayed ih =>
    obtain ⟨hrange, hranges⟩ := List.forall_mem_cons.1 hranges
    rw [ih hranges, List.map_cons, FoldingRange.lineSpan_of_span_eq_ok hrange hspan]
    simp [hdecayed]
  | case7 range ranges b span hspan hdecayed collapsed ih =>
    obtain ⟨hrange, hranges⟩ := List.forall_mem_cons.1 hranges
    rw [ih hranges, List.map_cons, FoldingRange.lineSpan_of_span_eq_ok hrange hspan]
    simp [hdecayed]

/-! ## Nothing to do -/

/-- **No fold is touched if and only if each has the span of its range already.** The ranges behind
those are empty. -/
theorem isEmpty_pairFolds_iff (hranges : ∀ r ∈ ranges, r.isWithin d.lineCount)
    (hlive : ∀ p ∈ live, p.2.isDecayed = false) :
    (pairFolds d collapseImports live ranges b).isEmpty ↔ b.isEmpty ∧
      ∃ rest, ranges.map (·.lineSpan d) = live.map (·.2) ++ rest ∧ ∀ s ∈ rest, s.isDecayed := by
  fun_induction pairFolds d collapseImports live ranges b with
  | case1 live b =>
    cases live <;> simp [AnnotationBatch.isEmpty]
  | case2 live range ranges b e herror ih =>
    exact absurd herror (FoldingRange.span_ne_error (hranges _ List.mem_cons_self))
  | case3 range ranges b span hspan id current live hdecayed ih =>
    obtain ⟨hrange, hranges⟩ := List.forall_mem_cons.1 hranges
    obtain ⟨hcurrent, hlive⟩ := List.forall_mem_cons.1 hlive
    have hne : span ≠ current := by
      rintro rfl
      exact absurd hdecayed (by simpa using hcurrent)
    rw [ih hranges hlive, List.map_cons, FoldingRange.lineSpan_of_span_eq_ok hrange hspan]
    simp [AnnotationBatch.isEmpty, hne]
  | case4 range ranges b span hspan id current live hdecayed hmoved ih =>
    obtain ⟨hrange, hranges⟩ := List.forall_mem_cons.1 hranges
    rw [ih hranges (List.forall_mem_cons.1 hlive).2, List.map_cons,
      FoldingRange.lineSpan_of_span_eq_ok hrange hspan]
    simp [AnnotationBatch.isEmpty, hmoved]
  | case5 range ranges b span hspan id current live hdecayed heq ih =>
    obtain ⟨hrange, hranges⟩ := List.forall_mem_cons.1 hranges
    rw [ih hranges (List.forall_mem_cons.1 hlive).2, List.map_cons,
      FoldingRange.lineSpan_of_span_eq_ok hrange hspan]
    simp [Decidable.not_not.1 heq]
  | case6 range ranges b span hspan hdecayed ih =>
    obtain ⟨hrange, hranges⟩ := List.forall_mem_cons.1 hranges
    rw [ih hranges hlive, List.map_cons, FoldingRange.lineSpan_of_span_eq_ok hrange hspan]
    simp [hdecayed]
  | case7 range ranges b span hspan hdecayed collapsed ih =>
    obtain ⟨hrange, hranges⟩ := List.forall_mem_cons.1 hranges
    rw [ih hranges hlive, List.map_cons, FoldingRange.lineSpan_of_span_eq_ok hrange hspan]
    simp [AnnotationBatch.isEmpty, hdecayed]

end Pairing

end LanguageClient
