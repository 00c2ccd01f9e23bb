import LanguageClient.Proofs.Folding.Soundness
import Mathlib

/-!
# The folds mirror the answering cycle

When an answer is recorded, either nothing is to be applied or all that has been reported to its cycle
so far (`Editor.IsSound.record_cases`). Once that is applied, at whatever time, the folds of the attached
model are those that stand for these lines, in the document as it is then
(`Editor.IsSound.exists_applyRecorded_record_eq_setModel`). An answer that is recorded and applied at
once takes effect (`Editor.TakesEffect`) if it is a success, the cycle's document is bound, a model is
attached, and something has been reported to the cycle or all of its requests have succeeded;
otherwise no model changes.
-/

namespace LanguageClient

/-! ## Applying ranges -/

theorem Workspace.setModel_self {w : Workspace} {id : ModelId} {m : AnnotationModel}
    (h : w.models[id]? = some m) : w.setModel id m = w := by
  obtain ⟨hlt, rfl⟩ := List.getElem?_eq_some_iff.1 h
  rw [setModel, List.set_getElem_self]

namespace Reconciler

variable {r : Reconciler} {w : Workspace} {collapseImports : Bool} {document : DocumentId}

theorem applyRanges_of_ne (h : r.document ≠ some document) (ranges : List FoldingRange) :
    r.applyRanges w collapseImports document ranges = w := if_neg h

theorem applyRanges_of_attached_eq_none (h : r.attached = none) (ranges : List FoldingRange) :
    r.applyRanges w collapseImports document ranges = w := by
  rw [applyRanges, h]
  exact ite_self w

/-- The attached model has the folds of the ranges afterwards, whether or not there was anything to
do. -/
theorem exists_applyRanges_eq_setModel (collapseImports : Bool) {id : ModelId} {d : Document}
    {m : AnnotationModel} (hdocument : r.document = some document) (hattached : r.attached = some id)
    (hd : w.documents[document]? = some d) (hm : w.models[id]? = some m) (hsound : m.IsSound)
    (ranges : List FoldingRange) :
    ∃ m', r.applyRanges w collapseImports document ranges = w.setModel id m' ∧
      m'.foldSpans.Perm (reportedSpans d ranges) := by
  have hperm : (m.withRanges d ranges collapseImports).foldSpans.Perm (reportedSpans d ranges) :=
    (AnnotationModel.foldSpans_withRanges_perm_shownSpans hsound.nodup).trans
      shownSpans_perm
  rw [applyRanges, if_pos hdocument, hattached]
  dsimp only
  rw [hd, hm]
  dsimp only
  split_ifs with hempty
  · -- an empty batch is not applied, but it would not have changed any fold either
    rw [AnnotationModel.withRanges, m.foldSpans_modify_of_isEmpty hempty] at hperm
    exact ⟨m, (Workspace.setModel_self hm).symm, hperm⟩
  · exact ⟨_, rfl, hperm⟩

/-- What is to be applied depends on the cycle of the request alone. -/
theorem snd_record_of_cycles_eq {id : RequestId} {before after : List Cycle} {c : Cycle}
    (hcycles : r.cycles = before ++ c :: after) (hbefore : ∀ b ∈ before, id ∉ b.requests)
    (hid : id ∈ c.requests) (answer : Answer) : (r.record id answer).2 =
      (c.record (Outcome.ofAnswer FoldingAnswer.ofJson? "" answer)).2.map (c.document, ·) := by
  rw [record, hcycles, recordIn_append_cons _ hbefore hid]

end Reconciler

/-! ## What a cycle holds -/

namespace Cycle.Reflects

variable {c : Cycle} {x : Exchange} (h : c.Reflects x)

include h

theorem ranges_eq_nil_iff : c.ranges = [] ↔ x.reportedLines c.requests = ∅ := by
  rw [← h.lines, List.toFinset_eq_empty_iff, List.map_eq_nil_iff]

theorem succeeded_lt_iff : c.succeeded < c.requests.length ↔ ¬ x.AllSucceeded c.requests := by
  have hle : c.requests.countP (fun id => (x.foldingAnswer? id).isSome) ≤ c.requests.length :=
    List.countP_le_length
  rw [h.succeeded, hle.lt_iff_ne, Ne, List.countP_eq_length]
  rfl

end Cycle.Reflects

/-- Whether what is to be applied are ranges in a document that report just these lines, each pair
once. -/
def Reports (found : Option (DocumentId × List FoldingRange)) (document : DocumentId)
    (lines : Finset (Nat × Nat)) : Prop :=
  ∃ ranges, found = some (document, ranges) ∧ (ranges.map (·.lines)).Nodup ∧
    (ranges.map (·.lines)).toFinset = lines

/-! ## Recording and applying -/

namespace Editor.IsSound

variable {e : Editor} (h : e.IsSound)

include h

section Record

variable {c : Cycle} (hc : c ∈ e.reconciler.cycles) {id : RequestId} (hid : id ∈ c.requests)
  (hopen : e.exchange.isOpen id) {answer : Answer}

include hc hid

theorem snd_record_of_ofAnswer?_eq_none (hanswer : FoldingAnswer.ofAnswer? answer = none) :
    (e.record id answer).2 = none := by
  obtain ⟨before, after, hcycles, hbefore, -⟩ := h.serves.exists_eq_append_cons hc hid
  change (e.reconciler.record id answer).2 = none
  rw [Reconciler.snd_record_of_cycles_eq hcycles hbefore hid,
    Cycle.record_of_ofAnswer?_eq_none c hanswer]
  rfl

theorem snd_record_of_ofAnswer?_eq_some {value : FoldingAnswer}
    (hanswer : FoldingAnswer.ofAnswer? answer = some value) :
    (e.record id answer).2 = (c.withAnswer value).applicable?.map (c.document, ·) := by
  obtain ⟨before, after, hcycles, hbefore, -⟩ := h.serves.exists_eq_append_cons hc hid
  change (e.reconciler.record id answer).2 = _
  rw [Reconciler.snd_record_of_cycles_eq hcycles hbefore hid,
    Cycle.record_of_ofAnswer?_eq_some c hanswer]

include hopen

/-- What is to be applied once an answer is recorded: nothing as long as the cycle has nothing to show,
and else all that has been reported to it so far. -/
theorem record_cases :
    ((FoldingAnswer.ofAnswer? answer = none ∨
        ((e.exchange.conclude id answer).reportedLines c.requests = ∅ ∧
          ¬ (e.exchange.conclude id answer).AllSucceeded c.requests)) ∧
      (e.record id answer).2 = none) ∨
    (FoldingAnswer.ofAnswer? answer ≠ none ∧
      ((e.exchange.conclude id answer).reportedLines c.requests ≠ ∅ ∨
        (e.exchange.conclude id answer).AllSucceeded c.requests) ∧
      Reports (e.record id answer).2 c.document
        ((e.exchange.conclude id answer).reportedLines c.requests)) := by
  cases hanswer : FoldingAnswer.ofAnswer? answer with
  | none => exact .inl ⟨.inl rfl, h.snd_record_of_ofAnswer?_eq_none hc hid hanswer⟩
  | some value =>
    have hreflects := (h.serves.reflects c hc).withAnswer hid (h.serves.nodup hc) hopen hanswer
    have hempty := hreflects.ranges_eq_nil_iff
    have hpending := hreflects.succeeded_lt_iff
    rw [h.snd_record_of_ofAnswer?_eq_some hc hid hanswer, Cycle.applicable?_eq]
    split_ifs with hwait
    · exact .inl ⟨.inr ⟨hempty.1 hwait.1, hpending.1 hwait.2⟩, rfl⟩
    · refine .inr ⟨Option.some_ne_none _, ?_, _, rfl, hreflects.nodup, hreflects.lines⟩
      rwa [not_and_or, hempty, hpending, not_not] at hwait

end Record

section Apply

variable {found : Option (DocumentId × List FoldingRange)} {document : DocumentId}
  {lines : Finset (Nat × Nat)} (hreports : Reports found document lines)

include hreports

omit h in
theorem workspace_applyRecorded_of_unbound
    (hunbound : e.reconciler.document ≠ some document ∨ e.reconciler.attached = none) :
    (e.applyRecorded found).workspace = e.workspace := by
  obtain ⟨ranges, rfl, -, -⟩ := hreports
  rcases hunbound with hdocument | hattached
  · exact Reconciler.applyRanges_of_ne hdocument _
  · exact Reconciler.applyRanges_of_attached_eq_none hattached _

/-- What is applied leaves the attached model with the folds of the lines reported. -/
theorem exists_applyRecorded_eq_setModel (hdocument : e.reconciler.document = some document)
    (hattached : e.reconciler.attached ≠ none) :
    ∃ mid d m, e.reconciler.attached = some mid ∧ mid < e.workspace.models.length ∧
      e.workspace.documents[document]? = some d ∧
      (e.applyRecorded found).workspace = e.workspace.setModel mid m ∧
      (m.foldSpans : Multiset Span) = d.foldsAt lines := by
  obtain ⟨ranges, rfl, hnodup, rfl⟩ := hreports
  obtain ⟨mid, hattached⟩ := Option.ne_none_iff_exists'.1 hattached
  have hmid := h.within.attached mid hattached
  have hd := List.getElem?_eq_getElem (h.within.document document hdocument)
  have hm := List.getElem?_eq_getElem hmid
  obtain ⟨m, hm', hperm⟩ := Reconciler.exists_applyRanges_eq_setModel e.settings.collapseImports
    hdocument hattached hd hm (h.workspace _ (List.getElem_mem hmid)) ranges
  refine ⟨mid, _, m, hattached, hmid, hd, hm', ?_⟩
  rw [Multiset.coe_eq_coe.2 hperm, coe_reportedSpans _ hnodup]

end Apply

/-! ## What was recorded, applied later -/

section Later

variable {c : Cycle} (hc : c ∈ e.reconciler.cycles) {id : RequestId} (hid : id ∈ c.requests)
  (hopen : e.exchange.isOpen id) {answer : Answer} {e' : Editor}

include hc hid hopen

/-- To apply it changes nothing if there was nothing to show, or if the document or a model is
missing now. -/
theorem workspace_applyRecorded_record_of_idle (hidle : FoldingAnswer.ofAnswer? answer = none ∨
    e'.reconciler.document ≠ some c.document ∨ e'.reconciler.attached = none ∨
      ((e.exchange.conclude id answer).reportedLines c.requests = ∅ ∧
        ¬ (e.exchange.conclude id answer).AllSucceeded c.requests)) :
    (e'.applyRecorded (e.record id answer).2).workspace = e'.workspace := by
  rcases h.record_cases hc hid hopen with ⟨-, hnone⟩ | ⟨hanswer, hshown, hreports⟩
  · rw [hnone]
    rfl
  · refine workspace_applyRecorded_of_unbound hreports ?_
    rcases hidle with hnone | hdocument | hattached | ⟨hempty, hpending⟩
    · exact absurd hnone hanswer
    · exact .inl hdocument
    · exact .inr hattached
    · exact hshown.elim (absurd hempty) (absurd · hpending)

/-- Else it leaves the folds of all that had been reported to the cycle when it was recorded. -/
theorem exists_applyRecorded_record_eq_setModel (h' : e'.IsSound)
    (hanswer : FoldingAnswer.ofAnswer? answer ≠ none)
    (hdocument : e'.reconciler.document = some c.document) (hattached : e'.reconciler.attached ≠ none)
    (hshown : (e.exchange.conclude id answer).reportedLines c.requests ≠ ∅ ∨
      (e.exchange.conclude id answer).AllSucceeded c.requests) :
    ∃ mid d m, e'.reconciler.attached = some mid ∧ mid < e'.workspace.models.length ∧
      e'.workspace.documents[c.document]? = some d ∧
      (e'.applyRecorded (e.record id answer).2).workspace = e'.workspace.setModel mid m ∧
      (m.foldSpans : Multiset Span) =
        d.foldsAt ((e.exchange.conclude id answer).reportedLines c.requests) := by
  rcases h.record_cases hc hid hopen with ⟨hnone | ⟨hempty, hpending⟩, -⟩ | ⟨-, -, hreports⟩
  · exact absurd hnone hanswer
  · exact (hshown.elim (absurd hempty) hpending).elim
  · exact h'.exists_applyRecorded_eq_setModel hreports hdocument hattached

end Later

end Editor.IsSound

/-! ## Answers that take effect -/

namespace Editor

/-- Whether the answer to a request of a cycle takes effect: it is a success, the cycle's document
is bound, a model is attached, and with this answer something has been reported to the cycle or all
of its requests have succeeded. -/
def TakesEffect (e : Editor) (c : Cycle) (id : RequestId) (answer : Answer) : Prop :=
  (FoldingAnswer.ofAnswer? answer).isSome ∧ e.reconciler.document = some c.document ∧
    e.reconciler.attached.isSome ∧
      ((e.exchange.conclude id answer).reportedLines c.requests ≠ ∅ ∨
        (e.exchange.conclude id answer).AllSucceeded c.requests)

namespace IsSound

variable {e : Editor} (h : e.IsSound) {c : Cycle} (hc : c ∈ e.reconciler.cycles) {id : RequestId}
  (hid : id ∈ c.requests) {answer : Answer} (hopen : e.exchange.isOpen id)

include h hc hid hopen

/-- An answer that does not take effect changes nothing. -/
theorem workspace_after_of_not_takesEffect (heffect : ¬ e.TakesEffect c id answer) :
    (e.after (.answer id answer)).workspace = e.workspace := by
  rw [after_answer]
  refine h.workspace_applyRecorded_record_of_idle hc hid hopen ?_
  rwa [TakesEffect, not_and_or, not_and_or, not_and_or, not_or, not_not, Option.not_isSome_iff_eq_none,
    Option.not_isSome_iff_eq_none] at heffect

/-- An answer that takes effect leaves the folds that have been reported to its cycle. -/
theorem exists_workspace_after_eq_setModel (heffect : e.TakesEffect c id answer) :
    ∃ mid d m, e.reconciler.attached = some mid ∧ mid < e.workspace.models.length ∧
      e.workspace.documents[c.document]? = some d ∧
      (e.after (.answer id answer)).workspace = e.workspace.setModel mid m ∧
      (m.foldSpans : Multiset Span) =
        d.foldsAt ((e.exchange.conclude id answer).reportedLines c.requests) := by
  obtain ⟨hanswer, hdocument, hattached, hshown⟩ := heffect
  rw [Option.isSome_iff_ne_none] at hanswer hattached
  have happlied := h.exists_applyRecorded_record_eq_setModel hc hid hopen (h.record hopen answer)
    hanswer hdocument hattached hshown
  exact happlied

end IsSound

end Editor

end LanguageClient
