import LanguageClient.Proofs.Folding.Mirroring
import Mathlib

/-!
# The order of answers

While an editor waits for the answers to a cycle, their order does not matter for the folds in the
end (`Editor.IsAnswering.foldSpans_run_eq_of_perm`). Answers are not exchanged one for another here: at
any time in between the folds are those of what has been reported so far, or the model is untouched
(`Editor.IsAnswering`), and in the end the same has been reported.
-/

namespace LanguageClient

/-! ## Waiting -/

namespace EditorEvent

/-- Whether an event leaves documents, annotations and the reconciler alone: time passes, servers
come and go. -/
def isWaiting : EditorEvent → Bool
  | settle | attach _ | detach _ | pass _ => true
  | _ => false

theorem eq_answer_of_answered? {event : EditorEvent} {id : RequestId} {a : Answer}
    (h : event.answered? = some (id, a)) : event = .answer id a := by
  cases event with
  | answer id' a' =>
    obtain ⟨rfl, rfl⟩ := Prod.mk.inj (Option.some.inj h)
    rfl
  | _ => cases h

end EditorEvent

/-- The answers that arrive in a run. -/
def answersIn (events : List EditorEvent) : List (RequestId × Answer) :=
  events.filterMap (·.answered?)

/-- The pairs of lines that some answers report. -/
def reportedBy (answers : List (RequestId × Answer)) : Finset (Nat × Nat) :=
  ((answers.flatMap (·.2.ranges)).map (·.lines)).toFinset

/-- Whether all of some answers are successful. -/
def AllSuccessful (answers : List (RequestId × Answer)) : Prop :=
  ∀ a ∈ answers, (FoldingAnswer.ofAnswer? a.2).isSome

theorem mem_reportedBy {answers : List (RequestId × Answer)} {lines : Nat × Nat} :
    lines ∈ reportedBy answers ↔ ∃ a ∈ answers, lines ∈ a.2.ranges.map (·.lines) := by
  rw [reportedBy, List.mem_toFinset, List.map_flatMap, List.mem_flatMap]

section Perm

variable {answers answers' : List (RequestId × Answer)} (h : answers.Perm answers')

include h

theorem reportedBy_eq_of_perm : reportedBy answers = reportedBy answers' := by
  ext lines
  simp only [mem_reportedBy, h.mem_iff]

theorem allSuccessful_iff_of_perm : AllSuccessful answers ↔ AllSuccessful answers' := by
  simp only [AllSuccessful, h.mem_iff]

end Perm

namespace Exchange

variable {x : Exchange} {ids : List RequestId} {answers : List (RequestId × Answer)}
  (h : ∀ a ∈ answers, x.answer? a.1 = some a.2)

include h

/-- What has been reported is what the answers so far report. -/
theorem reportedLines_eq_reportedBy (hmem : ∀ a ∈ answers, a.1 ∈ ids)
    (hnone : ∀ id ∈ ids, id ∉ answers.map (·.1) → x.answer? id = none) :
    x.reportedLines ids = reportedBy answers := by
  ext lines
  rw [mem_reportedLines, mem_reportedBy]
  constructor
  · rintro ⟨id, hid, hlines⟩
    by_cases hanswered : id ∈ answers.map (·.1)
    · obtain ⟨a, ha, rfl⟩ := List.mem_map.1 hanswered
      exact ⟨a, ha, by rwa [x.rangesOf_of_answer?_eq_some (h a ha)] at hlines⟩
    · simp [rangesOf, foldingAnswer?, hnone id hid hanswered] at hlines
  · rintro ⟨a, ha, hlines⟩
    exact ⟨a.1, hmem a ha, by rwa [x.rangesOf_of_answer?_eq_some (h a ha)]⟩

theorem allSucceeded_iff_allSuccessful (hids : (answers.map (·.1)).Perm ids) :
    x.AllSucceeded ids ↔ AllSuccessful answers := by
  have hanswer : ∀ a ∈ answers, x.foldingAnswer? a.1 = FoldingAnswer.ofAnswer? a.2 :=
    fun a ha => by rw [foldingAnswer?, h a ha, Option.bind_some]
  constructor
  · intro hall a ha
    rw [← hanswer a ha]
    exact hall a.1 (hids.mem_iff.1 (List.mem_map_of_mem ha))
  · intro hall id hid
    obtain ⟨a, ha, rfl⟩ := List.mem_map.1 (hids.mem_iff.2 hid)
    rw [hanswer a ha]
    exact hall a ha

end Exchange

theorem Workspace.setModel_setModel (w : Workspace) (id : ModelId) (m m' : AnnotationModel) :
    (w.setModel id m).setModel id m' = w.setModel id m' := by
  rw [setModel, setModel, setModel, List.set_set]

namespace Editor

theorem allows_of_isWaiting (e : Editor) {event : EditorEvent} (h : event.isWaiting) :
    e.allows event := by
  cases event <;> first | rfl | cases h

/-! ## Between the first and the last answer -/

/-- That an editor has received `answers` to the cycle `c`, with the cycle's document `d` bound and a
model attached. -/
structure HasAnswered (e : Editor) (c : Cycle) (mid : ModelId) (d : Document)
    (answers : List (RequestId × Answer)) : Prop where
  isSound : e.IsSound
  document_eq : e.reconciler.document = some c.document
  attached_eq : e.reconciler.attached = some mid
  documents_eq : e.workspace.documents[c.document]? = some d
  mem_cycles : (c.document, c.requests) ∈ e.reconciler.cycles.map fun c => (c.document, c.requests)
  mem_requests : ∀ a ∈ answers, a.1 ∈ c.requests
  isOpen : ∀ id ∈ c.requests, id ∉ answers.map (·.1) → e.exchange.isOpen id
  answer?_eq : ∀ a ∈ answers, e.exchange.answer? a.1 = some a.2

namespace HasAnswered

variable {e : Editor} {c : Cycle} {mid : ModelId} {d : Document}
  {answers : List (RequestId × Answer)} (h : e.HasAnswered c mid d answers)

include h

theorem waiting {event : EditorEvent} (hwaiting : event.isWaiting) :
    (e.after event).HasAnswered c mid d answers := by
  have hsound := h.isSound.after (e.allows_of_isWaiting hwaiting)
  cases event with
  | settle | attach server | detach name | pass time =>
    exact ⟨hsound, h.document_eq, h.attached_eq, h.documents_eq, h.mem_cycles, h.mem_requests,
      h.isOpen, h.answer?_eq⟩
  | _ => cases hwaiting

theorem applyRecorded (found : Option (DocumentId × List FoldingRange)) :
    (e.applyRecorded found).HasAnswered c mid d answers :=
  ⟨h.isSound.applyRecorded found, h.document_eq, h.attached_eq,
    (e.documents_applyRecorded found).symm ▸ h.documents_eq, h.mem_cycles, h.mem_requests, h.isOpen,
    h.answer?_eq⟩

theorem reportedLines_eq : e.exchange.reportedLines c.requests = reportedBy answers :=
  Exchange.reportedLines_eq_reportedBy h.answer?_eq h.mem_requests
    fun id hid hnew => Exchange.answer?_eq_none_of_isOpen _ (h.isOpen id hid hnew)

variable {id : RequestId} (hid : id ∈ c.requests) (hnew : id ∉ answers.map (·.1)) (a : Answer)

include hid hnew

/-- One more answer. -/
theorem record : (e.record id a).1.HasAnswered c mid d (answers ++ [(id, a)]) where
  isSound := h.isSound.record (h.isOpen id hid hnew) a
  document_eq := h.document_eq
  attached_eq := h.attached_eq
  documents_eq := h.documents_eq
  mem_cycles := by
    change _ ∈ (e.reconciler.record id a).1.cycles.map _
    rw [Reconciler.record, Reconciler.map_fst_recordIn]
    exact h.mem_cycles
  mem_requests := List.forall_mem_append.2 ⟨h.mem_requests, by simpa using hid⟩
  isOpen id' hid' hnot := by
    rw [List.map_append, List.mem_append, not_or] at hnot
    exact Exchange.isOpen_conclude (h.isOpen id' hid' hnot.1) (by simpa using hnot.2) a
  answer?_eq b hb := by
    change (e.exchange.conclude id a).answer? b.1 = _
    rw [Exchange.answer?_conclude (h.isOpen id hid hnew)]
    rcases List.mem_append.1 hb with hb | hb
    · rw [if_neg fun heq : b.1 = id => hnew (heq ▸ List.mem_map_of_mem hb)]
      exact h.answer?_eq b hb
    · rw [List.mem_singleton.1 hb, if_pos rfl]

/-- With a further answer nothing is to be applied, or all that has been reported. -/
theorem found_record : (e.record id a).2 = none ∨
    Reports (e.record id a).2 c.document (reportedBy (answers ++ [(id, a)])) := by
  have hlines := (h.record hid hnew a).reportedLines_eq
  have hopen := h.isOpen id hid hnew
  obtain ⟨c', hc', hcycle⟩ := List.mem_map.1 h.mem_cycles
  obtain ⟨hdocument, hrequests⟩ := Prod.mk.inj hcycle
  rw [← hrequests] at hid hlines
  rcases h.isSound.record_cases hc' hid hopen with ⟨-, hnone⟩ | ⟨-, -, hreports⟩
  · exact .inl hnone
  · rw [← hdocument, ← hlines]
    exact .inr hreports

end HasAnswered

/-- How an editor `e'` has come from `e` by `answers` to the cycle `c` alone. As soon as something is
to be shown, the folds are those of what has been reported. -/
structure IsAnswering (e : Editor) (c : Cycle) (mid : ModelId) (d : Document)
    (answers : List (RequestId × Answer)) (e' : Editor) : Prop
    extends e'.HasAnswered c mid d answers where
  unchanged : e'.exchange.reportedLines c.requests = ∅ → ¬ e'.exchange.AllSucceeded c.requests →
    e'.workspace = e.workspace
  mirrored : e'.exchange.reportedLines c.requests ≠ ∅ ∨ e'.exchange.AllSucceeded c.requests →
    ∃ m, e'.workspace = e.workspace.setModel mid m ∧
      (m.foldSpans : Multiset Span) = d.foldsAt (e'.exchange.reportedLines c.requests)

namespace IsAnswering

variable {e e' : Editor} {c : Cycle} {mid : ModelId} {d : Document}
  {answers : List (RequestId × Answer)} (h : e.IsAnswering c mid d answers e')

include h

theorem waiting {event : EditorEvent} (hwaiting : event.isWaiting) :
    e.IsAnswering c mid d answers (e'.after event) := by
  have hwaits := h.toHasAnswered.waiting hwaiting
  cases event with
  | settle | attach server | detach name | pass time => exact ⟨hwaits, h.unchanged, h.mirrored⟩
  | _ => cases hwaiting

/-- Nothing but the attached model has changed. -/
theorem setModel_eq (m : AnnotationModel) :
    e'.workspace.setModel mid m = e.workspace.setModel mid m := by
  by_cases hshown : e'.exchange.reportedLines c.requests ≠ ∅ ∨ e'.exchange.AllSucceeded c.requests
  · obtain ⟨m', hworkspace, -⟩ := h.mirrored hshown
    rw [hworkspace, Workspace.setModel_setModel]
  · rw [not_or, not_not] at hshown
    rw [h.unchanged hshown.1 hshown.2]

variable {id : RequestId} (hid : id ∈ c.requests) (hnew : id ∉ answers.map (·.1))

include hid hnew

theorem not_allSucceeded : ¬ e'.exchange.AllSucceeded c.requests := fun hall => by
  simpa [Exchange.foldingAnswer?_eq_none_of_isOpen (h.isOpen id hid hnew)] using hall id hid

omit hid hnew in
/-- Whether a further answer takes effect. -/
theorem exists_takesEffect_iff (id : RequestId) (a : Answer) : ∃ c' ∈ e'.reconciler.cycles,
    c'.document = c.document ∧ c'.requests = c.requests ∧
      (e'.TakesEffect c' id a ↔ (FoldingAnswer.ofAnswer? a).isSome ∧
        ((e'.exchange.conclude id a).reportedLines c.requests ≠ ∅ ∨
          (e'.exchange.conclude id a).AllSucceeded c.requests)) := by
  obtain ⟨c', hc', hc⟩ := List.mem_map.1 h.mem_cycles
  obtain ⟨hdocument, hrequests⟩ := Prod.mk.inj hc
  refine ⟨c', hc', hdocument, hrequests, ?_⟩
  simp [TakesEffect, hdocument, hrequests, h.document_eq, h.attached_eq]

/-- An answer without success leaves what has been reported as it is. -/
theorem reportedLines_conclude_of_eq_none {a : Answer} (ha : FoldingAnswer.ofAnswer? a = none) :
    (e'.exchange.conclude id a).reportedLines c.requests = e'.exchange.reportedLines c.requests ∧
      ((e'.exchange.conclude id a).AllSucceeded c.requests ↔
        e'.exchange.AllSucceeded c.requests) := by
  have hsame := Exchange.foldingAnswer?_conclude_of_eq_none (h.isOpen id hid hnew) a ha
  refine ⟨Exchange.reportedLines_congr fun id' _ => hsame id', ?_⟩
  simp only [Exchange.AllSucceeded, hsame]

theorem unchanged_answer {a : Answer}
    (hempty : (e'.exchange.conclude id a).reportedLines c.requests = ∅)
    (hpending : ¬ (e'.exchange.conclude id a).AllSucceeded c.requests) :
    (e'.after (.answer id a)).workspace = e.workspace := by
  have hopen := h.isOpen id hid hnew
  obtain ⟨c', hc', -, hrequests, heffect⟩ := h.exists_takesEffect_iff id a
  have hnone : ¬ e'.TakesEffect c' id a := fun heff =>
    (heffect.1 heff).2.elim (absurd hempty) hpending
  rw [h.isSound.workspace_after_of_not_takesEffect hc' (hrequests ▸ hid) hopen hnone]
  refine h.unchanged ?_ (h.not_allSucceeded hid hnew)
  cases ha : FoldingAnswer.ofAnswer? a with
  | none => rwa [← (h.reportedLines_conclude_of_eq_none hid hnew ha).1]
  | some value =>
    rw [Exchange.reportedLines_conclude hopen a hid ha] at hempty
    exact (Finset.union_eq_empty.1 hempty).1

theorem mirrored_answer {a : Answer}
    (hshown : (e'.exchange.conclude id a).reportedLines c.requests ≠ ∅ ∨
      (e'.exchange.conclude id a).AllSucceeded c.requests) :
    ∃ m, (e'.after (.answer id a)).workspace = e.workspace.setModel mid m ∧
      (m.foldSpans : Multiset Span) =
        d.foldsAt ((e'.exchange.conclude id a).reportedLines c.requests) := by
  have hopen := h.isOpen id hid hnew
  obtain ⟨c', hc', hdocument, hrequests, heffect⟩ := h.exists_takesEffect_iff id a
  cases ha : FoldingAnswer.ofAnswer? a with
  | none =>
    have hnone : ¬ e'.TakesEffect c' id a := fun heff => by simpa [ha] using (heffect.1 heff).1
    obtain ⟨hlines, hall⟩ := h.reportedLines_conclude_of_eq_none hid hnew ha
    rw [hlines, hall] at hshown
    rw [h.isSound.workspace_after_of_not_takesEffect hc' (hrequests ▸ hid) hopen hnone, hlines]
    exact h.mirrored hshown
  | some value =>
    -- it replaces what earlier answers have made of the attached model
    obtain ⟨mid', d', m, hattached, -, hd, hworkspace, hfolds⟩ :=
      h.isSound.exists_workspace_after_eq_setModel hc' (hrequests ▸ hid) hopen
        (heffect.2 ⟨by rw [ha]; rfl, hshown⟩)
    obtain rfl := Option.some.inj (h.attached_eq.symm.trans hattached)
    rw [hdocument] at hd
    obtain rfl := Option.some.inj (h.documents_eq.symm.trans hd)
    rw [hrequests] at hfolds
    exact ⟨m, hworkspace.trans (h.setModel_eq m), hfolds⟩

/-- One more answer. -/
theorem answer (a : Answer) :
    e.IsAnswering c mid d (answers ++ [(id, a)]) (e'.after (.answer id a)) where
  toHasAnswered := (h.toHasAnswered.record hid hnew a).applyRecorded _
  unchanged hempty hpending := h.unchanged_answer hid hnew hempty hpending
  mirrored hshown := h.mirrored_answer hid hnew hshown

omit hid hnew

theorem run {later : List EditorEvent}
    (hlater : ∀ event ∈ later, event.isWaiting ∨ event.answered?.isSome)
    (hids : ∀ a ∈ answersIn later, a.1 ∈ c.requests)
    (hnodup : ((answers ++ answersIn later).map (·.1)).Nodup) :
    e'.CanRun later ∧ e.IsAnswering c mid d (answers ++ answersIn later) (e'.run later) := by
  induction later generalizing answers e' with
  | nil =>
    rw [show answersIn [] = [] from rfl, List.append_nil]
    exact ⟨trivial, h⟩
  | cons event later ih =>
    obtain ⟨hevent, hrun⟩ := List.forall_mem_cons.1 hlater
    cases hanswered : event.answered? with
    | none =>
      have hrest : answersIn (event :: later) = answersIn later := List.filterMap_cons_none hanswered
      rw [hrest] at hids hnodup ⊢
      have hwaiting : event.isWaiting := by simpa [hanswered] using hevent
      obtain ⟨hcan, hafter⟩ := ih (h.waiting hwaiting) hrun hids hnodup
      exact ⟨⟨e'.allows_of_isWaiting hwaiting, hcan⟩, hafter⟩
    | some a =>
      obtain ⟨id, a⟩ := a
      have hrest : answersIn (event :: later) = (id, a) :: answersIn later :=
        List.filterMap_cons_some hanswered
      obtain rfl := EditorEvent.eq_answer_of_answered? hanswered
      rw [hrest] at hids hnodup ⊢
      rw [List.append_cons] at hnodup ⊢
      -- the request has not been answered before, so it is still open
      have hnew : id ∉ answers.map (·.1) := by
        rw [List.map_append, List.map_append] at hnodup
        have hdisjoint := (List.nodup_append.1 (List.nodup_append.1 hnodup).1).2.2
        intro hmem
        exact hdisjoint id hmem id (by simp) rfl
      have hid := hids _ List.mem_cons_self
      obtain ⟨hcan, hafter⟩ := ih (h.answer hid hnew a) hrun
        (fun b hb => hids b (List.mem_cons_of_mem _ hb)) hnodup
      exact ⟨⟨h.isOpen id hid hnew, hcan⟩, hafter⟩

omit h in
/-- What becomes of the models once all requests are answered. -/
theorem exists_run_eq_setModel (h : e.IsAnswering c mid d [] e') (hnodup : c.requests.Nodup)
    {m : AnnotationModel} (hm : e.workspace.models[mid]? = some m) {later : List EditorEvent}
    (hlater : ∀ event ∈ later, event.isWaiting ∨ event.answered?.isSome)
    (hanswered : ((answersIn later).map (·.1)).Perm c.requests) :
    e'.CanRun later ∧ ∃ m', (e'.run later).workspace = e.workspace.setModel mid m' ∧
      (reportedBy (answersIn later) ≠ ∅ ∨ AllSuccessful (answersIn later) →
        (m'.foldSpans : Multiset Span) = d.foldsAt (reportedBy (answersIn later))) ∧
      (reportedBy (answersIn later) = ∅ → ¬ AllSuccessful (answersIn later) → m' = m) := by
  obtain ⟨hcan, h⟩ := h.run hlater (fun a ha => hanswered.mem_iff.1 (List.mem_map_of_mem ha))
    (hanswered.nodup_iff.2 hnodup)
  rw [List.nil_append] at h
  refine ⟨hcan, ?_⟩
  have hlines := h.reportedLines_eq
  have hall := Exchange.allSucceeded_iff_allSuccessful h.answer?_eq hanswered
  by_cases hshown : reportedBy (answersIn later) ≠ ∅ ∨ AllSuccessful (answersIn later)
  · obtain ⟨m', hworkspace, hfolds⟩ := h.mirrored (by rwa [hlines, hall])
    rw [hlines] at hfolds
    exact ⟨m', hworkspace, fun _ => hfolds,
      fun hempty hpending => absurd hshown (by simp [hempty, hpending])⟩
  · have hworkspace : (e'.run later).workspace = e.workspace := by
      rw [not_or, not_not, ← hlines, ← hall] at hshown
      exact h.unchanged hshown.1 hshown.2
    exact ⟨m, hworkspace.trans (Workspace.setModel_self hm).symm, fun hshown' => absurd hshown' hshown,
      fun _ _ => rfl⟩

omit h in
/-- The folds in the end are the same in whatever order a cycle is answered. -/
theorem foldSpans_run_eq_of_perm (h : e.IsAnswering c mid d [] e) (hnodup : c.requests.Nodup)
    {m : AnnotationModel} (hm : e.workspace.models[mid]? = some m) {later later' : List EditorEvent}
    (hlater : ∀ event ∈ later ++ later', event.isWaiting ∨ event.answered?.isSome)
    (hanswered : ((answersIn later).map (·.1)).Perm c.requests)
    (hperm : (answersIn later).Perm (answersIn later')) :
    ∃ m₁ m₂, (e.run later).workspace = e.workspace.setModel mid m₁ ∧
      (e.run later').workspace = e.workspace.setModel mid m₂ ∧
      m₁.foldSpans.Perm m₂.foldSpans ∧
      (reportedBy (answersIn later) ≠ ∅ →
        (m₁.foldSpans : Multiset Span) = d.foldsAt (reportedBy (answersIn later))) ∧
      (reportedBy (answersIn later) = ∅ → AllSuccessful (answersIn later) → m₁.foldSpans = []) ∧
      (reportedBy (answersIn later) = ∅ → ¬ AllSuccessful (answersIn later) →
        m₁ = m ∧ m₂ = m) := by
  have hanswered' : ((answersIn later').map (·.1)).Perm c.requests :=
    (hperm.map _).symm.trans hanswered
  obtain ⟨hlater, hlater'⟩ := List.forall_mem_append.1 hlater
  obtain ⟨-, m₁, h₁, hshown₁, hunchanged₁⟩ := h.exists_run_eq_setModel hnodup hm hlater hanswered
  obtain ⟨-, m₂, h₂, hshown₂, hunchanged₂⟩ :=
    h.exists_run_eq_setModel hnodup hm hlater' hanswered'
  rw [← reportedBy_eq_of_perm hperm, ← allSuccessful_iff_of_perm hperm] at hshown₂ hunchanged₂
  refine ⟨m₁, m₂, h₁, h₂, ?_, fun hreported => hshown₁ (.inl hreported), fun hempty hall => ?_,
    fun hempty hpending => ⟨hunchanged₁ hempty hpending, hunchanged₂ hempty hpending⟩⟩
  · by_cases hshown : reportedBy (answersIn later) ≠ ∅ ∨ AllSuccessful (answersIn later)
    · exact Multiset.coe_eq_coe.1 ((hshown₁ hshown).trans (hshown₂ hshown).symm)
    · rw [not_or, not_not] at hshown
      rw [hunchanged₁ hshown.1 hshown.2, hunchanged₂ hshown.1 hshown.2]
  · have hnone := hshown₁ (.inr hall)
    rw [hempty, Document.foldsAt_empty] at hnone
    exact (Multiset.coe_eq_zero _).1 hnone

end IsAnswering

/-- How a cycle has begun that was added to the others. -/
theorem exists_began (e : Editor) {trigger : Trigger} {c : Cycle}
    (hcycles : (e.after (.reconcile trigger)).reconciler.cycles = e.reconciler.cycles ++ [c]) :
    ∃ d uri, e.reconciler.target? e.workspace = some (c.document, d, uri) ∧
      e.reconciler.Began e.exchange c.document d.stamp (e.after (.reconcile trigger)).reconciler
        (e.after (.reconcile trigger)).exchange ∧
      (e.after (.reconcile trigger)).reconciler.requests = c.requests := by
  rcases e.reconciler.start_cases e.exchange e.settings e.workspace trigger with
    heq | ⟨id, d, uri, htarget, -, hbegan⟩
  · rw [reconciler_after_reconcile, heq] at hcycles
    simp at hcycles
  · rw [← reconciler_after_reconcile, ← exchange_after_reconcile] at hbegan
    obtain rfl : { document := id, requests := (e.after (.reconcile trigger)).reconciler.requests } =
        c := List.singleton_inj.1 (List.append_cancel_left (hbegan.cycles_eq.symm.trans hcycles))
    exact ⟨d, uri, htarget, hbegan, rfl⟩

section Begun

variable {e : Editor} (h : e.IsSound) {trigger : Trigger} {c : Cycle}
  (hcycles : (e.after (.reconcile trigger)).reconciler.cycles = e.reconciler.cycles ++ [c])
  (hrequests : c.requests ≠ [])

include h hcycles

theorem IsSound.isOpen_of_begun {id : RequestId} (hid : id ∈ c.requests) :
    (e.after (.reconcile trigger)).exchange.isOpen id := by
  obtain ⟨d, uri, -, hbegan, hids⟩ := e.exists_began hcycles
  exact (h.reconcile trigger).serves.isOpen_of_began hbegan (hids ▸ hid)

theorem IsSound.nodup_of_begun : c.requests.Nodup :=
  (h.reconcile trigger).serves.nodup (by rw [hcycles]; simp)

include hrequests

/-- A cycle that has begun waits for its first answer. -/
theorem IsSound.isAnswering : ∃ mid d,
    (e.after (.reconcile trigger)).IsAnswering c mid d [] (e.after (.reconcile trigger)) := by
  obtain ⟨d, uri, htarget, hbegan, -⟩ := e.exists_began hcycles
  obtain ⟨-, hdocument, hattached, hd, -⟩ := Reconciler.target?_eq_some_iff.1 htarget
  obtain ⟨mid, hattached⟩ := Option.isSome_iff_exists.1 hattached
  have hopen : ∀ id ∈ c.requests, (e.after (.reconcile trigger)).exchange.isOpen id :=
    fun id hid => h.isOpen_of_begun hcycles hid
  have hnone := fun id hid => Exchange.foldingAnswer?_eq_none_of_isOpen (hopen id hid)
  refine ⟨mid, d, {
    isSound := h.reconcile trigger
    document_eq := hbegan.document_eq.trans hdocument
    attached_eq := hbegan.attached_eq.trans hattached
    documents_eq := hd
    mem_cycles := by
      rw [hcycles]
      simp
    mem_requests := nofun
    isOpen := fun id hid _ => hopen id hid
    answer?_eq := nofun
    unchanged := fun _ _ => rfl
    mirrored := fun hshown => ?_ }⟩
  rcases hshown with hshown | hall
  · exact absurd (Exchange.reportedLines_eq_empty hnone) hshown
  · obtain ⟨id, hid⟩ := List.exists_mem_of_ne_nil _ hrequests
    simpa [hnone id hid] using hall id hid

end Begun

end Editor

end LanguageClient
