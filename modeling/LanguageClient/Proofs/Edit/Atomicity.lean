import LanguageClient.Proofs.Edit.Substitution
import Mathlib

/-!
# Plans are carried out as a whole

An accepted plan is carried out to the end, and any other one leaves the document as it is
(`EditPlan.perform_all_or_nothing`). Which plans are accepted is said without sorting: each edit
lies within the document, and of any two edits the one that stands ahead (`EditPlan.StandsAhead`)
ends before the other one begins.

The check is the only source of errors. Its errors are about the edits (`EditError.IsAboutEdits`),
and never say that the document refused a place or that the proposal is stale.
-/

namespace LanguageClient

/-- Whether an error is about the edits themselves: one that is inverted, out of bounds or
overlaps another one. -/
def EditError.IsAboutEdits : EditError → Prop
  | .overlap .. => True
  | .outOfBounds .. => True
  | .invertedRange .. => True
  | .staleSnapshot => False
  | .document _ => False

namespace EditPlan

/-- The edits of a plan with their places in it; the primary edit is the first one. -/
def placedEdits (p : EditPlan) : List (Edit × Nat) := (p.primary :: p.additional).zipIdx

/-- Whether one edit of a plan stands in front of another one: it begins earlier, or at the same
offset and comes first in the plan. -/
def StandsAhead (a b : Edit × Nat) : Prop :=
  a.1.start < b.1.start ∨ a.1.start = b.1.start ∧ a.2 < b.2

variable {p : EditPlan}

/-! ## The order without sorting -/

theorem StandsAhead.asymm {a b : Edit × Nat} (h : StandsAhead a b) : ¬ StandsAhead b a := by
  unfold StandsAhead at *
  omega

theorem placedEdits_eq_map :
    p.placedEdits = p.edits.zipIdx.map fun e => (e.1.1, e.2) := by
  have hedits : p.primary :: p.additional = p.edits.map (·.1) := by
    simp [edits, Function.comp_def]
  rw [placedEdits, hedits, List.zipIdx_map]
  rfl

/-- The primary edit, and no other one, is the first of its plan. -/
theorem snd_eq_zero_iff_of_mem {e : (Edit × Bool) × Nat} (h : e ∈ p.edits.zipIdx) :
    e.2 = 0 ↔ e.1.2 = true := by
  obtain ⟨⟨e, isPrimary⟩, i⟩ := e
  rw [List.mem_zipIdx_iff_getElem?] at h
  cases i with
  | zero => simp_all [edits]
  | succ i =>
    obtain ⟨e', -, heq⟩ : ∃ e', p.additional[i]? = some e' ∧ (e', false) = (e, isPrimary) := by
      simpa [edits, Option.map_eq_some_iff] using h
    simp [← (Prod.mk.inj heq).2]

/-- The stable order of two edits of a plan is the order in which they stand. -/
theorem zipIdxLE_standsBefore_iff {a b : (Edit × Bool) × Nat} (ha : a ∈ p.edits.zipIdx)
    (hb : b ∈ p.edits.zipIdx) (hne : a.2 ≠ b.2) :
    List.zipIdxLE standsBefore a b ↔ StandsAhead (a.1.1, a.2) (b.1.1, b.2) := by
  have hprimary := snd_eq_zero_iff_of_mem ha
  have hprimary' := snd_eq_zero_iff_of_mem hb
  simp only [List.zipIdxLE, standsBefore, StandsAhead]
  grind

/-- **Sorting can be left out.** As the edits stand, each ends before every later one begins, if
and only if this holds of any two of them of which one stands ahead of the other. -/
theorem pairwise_disjoint_inOrder_iff :
    p.inOrder.Pairwise (fun a b => a.1.stop ≤ b.1.start) ↔
      ∀ a ∈ p.placedEdits, ∀ b ∈ p.placedEdits, StandsAhead a b → a.1.stop ≤ b.1.start := by
  set sorted := p.edits.zipIdx.mergeSort (List.zipIdxLE standsBefore) with hsorted
  have hperm : sorted.Perm p.edits.zipIdx := List.mergeSort_perm _ _
  have hnodup : sorted.Pairwise fun a b => a.2 ≠ b.2 := by
    rw [← List.pairwise_map, ← List.nodup_iff_pairwise_ne, (hperm.map _).nodup_iff,
      List.zipIdx_map_snd]
    exact List.nodup_range'
  have hordered : sorted.Pairwise fun a b => StandsAhead (a.1.1, a.2) (b.1.1, b.2) := by
    have hle : sorted.Pairwise (List.zipIdxLE standsBefore · ·) :=
      List.pairwise_mergeSort (List.zipIdxLE_trans standsBefore_trans)
        (List.zipIdxLE_total standsBefore_total) _
    refine (hle.and hnodup).imp_of_mem fun ha hb h => ?_
    exact (zipIdxLE_standsBefore_iff (hperm.mem_iff.1 ha) (hperm.mem_iff.1 hb) h.2).1 h.1
  have hinOrder : p.inOrder = sorted.map (·.1) := List.mergeSort_zipIdx.symm
  have hplaced : ∀ e, e ∈ p.placedEdits ↔ e ∈ sorted.map fun e => (e.1.1, e.2) := fun e => by
    rw [placedEdits_eq_map, (hperm.map _).mem_iff]
  rw [hinOrder, List.pairwise_map]
  simp only [hplaced, List.forall_mem_map]
  constructor
  · exact fun h a ha b hb hahead =>
      StableSort.rel_of_pairwise (fun _ _ hahead => hahead.asymm) hordered h ha hb hahead
  · intro h
    exact hordered.imp_of_mem fun ha hb hahead => h _ ha _ hb hahead

/-- **What the check accepts.** -/
theorem isAcceptable_iff {length : Nat} : p.IsAcceptable length ↔
    (∀ e ∈ p.primary :: p.additional, e.start ≤ e.stop ∧ e.stop ≤ length) ∧
      ∀ a ∈ p.placedEdits, ∀ b ∈ p.placedEdits, StandsAhead a b → a.1.stop ≤ b.1.start := by
  have hedits : ∀ e, e ∈ p.primary :: p.additional ↔ ∃ isPrimary, (e, isPrimary) ∈ p.edits := by
    intro e
    simp [edits, or_comm]
  simp only [hedits, forall_exists_index, ← pairwise_disjoint_inOrder_iff]
  constructor
  · intro h
    exact ⟨fun e isPrimary he => ⟨h.start_le_stop _ he, h.stop_le _ he⟩, h.disjoint⟩
  · rintro ⟨hall, hdisjoint⟩
    exact ⟨fun e he => (hall _ _ he).1, fun e he => (hall _ _ he).2, hdisjoint⟩

/-! ## Errors -/

theorem isAboutEdits_of_checkBounds {length : Nat} {es : List (Edit × Bool)} {cause : EditError}
    (h : checkBounds length es = .error cause) : cause.IsAboutEdits := by
  fun_induction checkBounds length es with
  | case1 => cases h
  | case2 => cases h; trivial
  | case3 => cases h; trivial
  | case4 _ _ _ _ _ ih => exact ih h

theorem isAboutEdits_of_checkDisjoint {es : List (Edit × Bool)} {cause : EditError}
    (h : checkDisjoint es = .error cause) : cause.IsAboutEdits := by
  fun_induction checkDisjoint es with
  | case1 => cases h; trivial
  | case2 _ _ _ _ _ _ ih => exact ih h
  | case3 => cases h

theorem isAboutEdits_of_check {length : Nat} {cause : EditError}
    (h : p.check length = .error cause) : cause.IsAboutEdits := by
  rw [check] at h
  cases hbounds : checkBounds length p.edits with
  | error cause' =>
    rw [hbounds] at h
    exact isAboutEdits_of_checkBounds (hbounds.trans h)
  | ok _ =>
    rw [hbounds] at h
    exact isAboutEdits_of_checkDisjoint h

/-- Only the check fails: behind it, no edit is refused. -/
theorem check_eq_error_of_perform {d : Document} {cause : EditError}
    (h : (p.perform d).2 = .error cause) :
    p.check d.length = .error cause ∧ (p.perform d).1 = d := by
  cases hcheck : p.check d.length with
  | ok _ =>
    rw [perform_eq_of_isAcceptable ((p.check_eq_ok_iff _).1 hcheck)] at h
    cases h
  | error cause' =>
    have hperform : p.perform d = (d, .error cause') := by rw [perform, hcheck]
    rw [hperform] at h ⊢
    exact ⟨by simpa using h, rfl⟩

/-- **A plan is carried out as a whole or not at all.** It is carried out if and only if each of
its edits lies within the document and ends before every other one begins that it stands ahead of.
If it is not, the document keeps its text and its stamp. The error is never one of the document,
as no edit is refused once the first of them is made. -/
theorem perform_all_or_nothing (p : EditPlan) (d : Document) :
    ((∃ cursor, (p.perform d).2 = .ok cursor) ↔
      (∀ e ∈ p.primary :: p.additional, e.start ≤ e.stop ∧ e.stop ≤ d.length) ∧
        ∀ a ∈ p.placedEdits, ∀ b ∈ p.placedEdits, StandsAhead a b → a.1.stop ≤ b.1.start) ∧
      ∀ cause, (p.perform d).2 = .error cause →
        (p.perform d).1 = d ∧ ∀ refusal, cause ≠ .document refusal := by
  rw [← isAcceptable_iff]
  refine ⟨⟨?_, ?_⟩, ?_⟩
  · rintro ⟨cursor, hcursor⟩
    by_contra hnot
    obtain ⟨cause, hcause⟩ := perform_of_not_isAcceptable hnot
    rw [hcause] at hcursor
    cases hcursor
  · intro h
    exact ⟨p.finalCursor, by rw [perform_eq_of_isAcceptable h]⟩
  · intro cause hcause
    obtain ⟨hcheck, hsame⟩ := check_eq_error_of_perform hcause
    refine ⟨hsame, ?_⟩
    rintro refusal rfl
    exact isAboutEdits_of_check hcheck

end EditPlan

end LanguageClient
