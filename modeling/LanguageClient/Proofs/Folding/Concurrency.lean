import LanguageClient.Proofs.Folding.Soundness
import LanguageClient.Session.Concurrent
import Mathlib

/-!
# What holds throughout a concurrent run

However the tasks of a concurrent editor are scheduled, the editor they share is sound and each
continuation is there once, for a request that has been answered and for the document of its cycle
(`ConcurrentEditor.IsSound`). Two things are never taken back: a continuation waits until it is
applied (`mem_unapplied_run`), and a request that has been answered keeps its answer
(`answer?_run`).
-/

namespace LanguageClient

/-! ## Cycles -/

namespace Reconciler

/-- The cycles of a reconciler that has recorded an answer are about the same requests. -/
theorem exists_mem_cycles_record {r : Reconciler} (id : RequestId) (answer : Answer) {c : Cycle}
    (hc : c ∈ r.cycles) : ∃ c' ∈ (r.record id answer).1.cycles,
      c'.document = c.document ∧ c'.requests = c.requests := by
  have hmem : (c.document, c.requests) ∈
      (r.record id answer).1.cycles.map fun c => (c.document, c.requests) := by
    rw [record, map_fst_recordIn]
    exact List.mem_map_of_mem hc
  obtain ⟨c', hc', heq⟩ := List.mem_map.1 hmem
  exact ⟨c', hc', Prod.mk.inj heq⟩

/-- What is to be applied is about the document of the request's cycle. -/
theorem document_of_snd_recordIn {id : RequestId} {outcome : Outcome FoldingAnswer}
    {cycles : List Cycle} {document : DocumentId} {ranges : List FoldingRange}
    (h : (recordIn id outcome cycles).2 = some (document, ranges)) :
    ∃ c ∈ cycles, c.document = document ∧ id ∈ c.requests := by
  induction cycles with
  | nil => cases h
  | cons c cycles ih =>
    rw [recordIn] at h
    split_ifs at h with hid
    · obtain ⟨_, -, heq⟩ := Option.map_eq_some_iff.1 h
      exact ⟨c, List.mem_cons_self, congrArg Prod.fst heq, by simpa using hid⟩
    · obtain ⟨c', hc', heq⟩ := ih h
      exact ⟨c', List.mem_cons_of_mem _ hc', heq⟩

end Reconciler

/-- A request belongs to one cycle only. -/
theorem Exchange.Serves.eq_of_mem {x : Exchange} {cycles : List Cycle} (h : x.Serves cycles)
    {c c' : Cycle} (hc : c ∈ cycles) (hc' : c' ∈ cycles) {id : RequestId} (hid : id ∈ c.requests)
    (hid' : id ∈ c'.requests) : c' = c := by
  obtain ⟨before, after, rfl, hbefore, hafter⟩ := h.exists_eq_append_cons hc hid
  rcases List.mem_append.1 hc' with hmem | hmem
  · exact absurd hid' (hbefore c' hmem)
  · rcases List.mem_cons.1 hmem with rfl | hmem
    · rfl
    · exact absurd hid' (hafter c' hmem)

namespace Editor

/-! ## Events without an answer -/

variable (e : Editor) {event : EditorEvent} (h : event.answered? = none)

include h

/-- Nothing but an answer changes what came back for a request. -/
theorem answer?_after (id : RequestId) :
    (e.after event).exchange.answer? id = e.exchange.answer? id := by
  cases event with
  | answer id' answer => cases h
  | uninstall => exact Exchange.answer?_congr (Exchange.ends_cancelAll _ _) id
  | reconcile trigger =>
    rw [exchange_after_reconcile]
    rcases e.reconciler.start_cases e.exchange e.settings e.workspace trigger with
      heq | ⟨document, d, uri, -, -, hbegan⟩
    · rw [heq]
    · exact Exchange.answer?_of_ends_eq_append hbegan.ends_eq id
  | edit document offset removed new =>
    obtain ⟨documents, -, heq⟩ := e.exists_editDocument_eq document offset removed new
    rw [after, heq]
  | _ => rfl

theorem mem_cycles_after {c : Cycle} (hc : c ∈ e.reconciler.cycles) :
    c ∈ (e.after event).reconciler.cycles := by
  cases event with
  | answer id' answer => cases h
  | reconcile trigger =>
    rw [reconciler_after_reconcile]
    rcases e.reconciler.start_cases e.exchange e.settings e.workspace trigger with
      heq | ⟨document, d, uri, -, -, hbegan⟩
    · rw [heq]
      exact hc
    · rw [hbegan.cycles_eq]
      exact List.mem_append_left _ hc
  | edit document offset removed new =>
    rw [reconciler_after_edit]
    exact hc
  | _ => exact hc

end Editor

namespace ConcurrentEditor

variable {s : ConcurrentEditor}

@[simp]
theorem allows_host {event : EditorEvent} :
    s.allows (.host event) ↔ event.answered? = none ∧ s.editor.allows event := by
  simp [allows]

@[simp]
theorem allows_record {id : RequestId} {answer : Answer} :
    s.allows (.record id answer) ↔ s.editor.exchange.isOpen id ∧ id ∉ s.unsent := by
  simp [allows]

@[simp]
theorem allows_apply {id : RequestId} :
    s.allows (.apply id) ↔ ∃ k ∈ s.unapplied, k.request = id := by
  simp [allows]

/-! ## Documents -/

section Documents

variable (s)

@[simp]
theorem documents_after_send (id : RequestId) :
    (s.after (.send id)).editor.workspace.documents = s.editor.workspace.documents := rfl

@[simp]
theorem documents_after_record (id : RequestId) (answer : Answer) :
    (s.after (.record id answer)).editor.workspace.documents = s.editor.workspace.documents := rfl

@[simp]
theorem documents_after_apply (id : RequestId) :
    (s.after (.apply id)).editor.workspace.documents = s.editor.workspace.documents := by
  rw [after]
  split
  · rfl
  · exact s.editor.documents_applyRecorded _

end Documents

/-! ## Continuations -/

theorem mem_unapplied_after {k : Continuation} (hk : k ∈ s.unapplied) {event : ConcurrentEvent}
    (h : event ≠ .apply k.request) : k ∈ (s.after event).unapplied := by
  cases event with
  | host event => exact hk
  | send id => exact hk
  | record id answer => exact List.mem_append_left _ hk
  | apply id =>
    rw [after]
    split
    · exact hk
    · refine List.mem_filter.2 ⟨hk, ?_⟩
      rw [bne_iff_ne]
      rintro rfl
      exact h rfl

/-- A continuation waits until it is applied. -/
theorem mem_unapplied_run {k : Continuation} (hk : k ∈ s.unapplied) {events : List ConcurrentEvent}
    (h : .apply k.request ∉ events) : k ∈ (s.run events).unapplied := by
  induction events generalizing s with
  | nil => exact hk
  | cons event events ih =>
    rw [List.mem_cons, not_or] at h
    exact ih (mem_unapplied_after hk (Ne.symm h.1)) h.2

/-! ## Soundness -/

/-- What holds of a concurrent editor throughout a run. -/
structure IsSound (s : ConcurrentEditor) : Prop where
  editor : s.editor.IsSound
  nodup : (s.unapplied.map (·.request)).Nodup
  answered : ∀ k ∈ s.unapplied, s.editor.exchange.answer? k.request ≠ none
  document : ∀ k ∈ s.unapplied, ∀ document ranges, k.found = some (document, ranges) →
    ∃ c ∈ s.editor.reconciler.cycles, c.document = document ∧ k.request ∈ c.requests

theorem isSound_concurrent {e : Editor} (h : e.IsFresh) : e.concurrent.IsSound :=
  ⟨h.isSound, List.nodup_nil, nofun, nofun⟩

/-- An answer changes only what came back for its own request. -/
theorem answer?_after (s : ConcurrentEditor) {event : ConcurrentEvent} (hallows : s.allows event)
    {id : RequestId} (h : ∀ answer, event ≠ .record id answer) :
    (s.after event).editor.exchange.answer? id = s.editor.exchange.answer? id := by
  cases event with
  | host event => exact s.editor.answer?_after (allows_host.1 hallows).1 id
  | send id' => rfl
  | record id' answer =>
    refine (Exchange.answer?_conclude (allows_record.1 hallows).1 answer id).trans (if_neg ?_)
    rintro rfl
    exact h answer rfl
  | apply id' =>
    rw [after]
    split <;> rfl

namespace IsSound

variable (h : s.IsSound)

include h

theorem find?_unapplied {k : Continuation} (hk : k ∈ s.unapplied) :
    s.unapplied.find? (·.request == k.request) = some k := find?_key_of_mem h.nodup hk

theorem after_apply {k : Continuation} (hk : k ∈ s.unapplied) : s.after (.apply k.request) =
    { s with
      editor := s.editor.applyRecorded k.found
      unapplied := s.unapplied.filter (·.request != k.request) } := by
  rw [after, h.find?_unapplied hk]

theorem record {id : RequestId} {answer : Answer} (hallows : s.allows (.record id answer)) :
    (s.after (.record id answer)).IsSound where
  editor := h.editor.record (allows_record.1 hallows).1 answer
  nodup := by
    have hnone := Exchange.answer?_eq_none_of_isOpen _ (allows_record.1 hallows).1
    have hrequests : (s.after (.record id answer)).unapplied.map (·.request) =
        (s.unapplied.map (·.request)).concat id := by simp [ConcurrentEditor.after]
    rw [hrequests]
    refine h.nodup.concat fun hmem => ?_
    obtain ⟨k, hk, rfl⟩ := List.mem_map.1 hmem
    exact h.answered k hk hnone
  answered k hk := by
    change (s.editor.exchange.conclude id answer).answer? k.request ≠ none
    rw [Exchange.answer?_conclude (allows_record.1 hallows).1]
    rcases List.mem_append.1 hk with hk | hk
    · split_ifs
      · exact Option.some_ne_none _
      · exact h.answered k hk
    · rw [List.mem_singleton.1 hk, if_pos rfl]
      exact Option.some_ne_none _
  document k hk document ranges hfound := by
    have hcycle : ∃ c ∈ s.editor.reconciler.cycles, c.document = document ∧ k.request ∈ c.requests := by
      rcases List.mem_append.1 hk with hk | hk
      · exact h.document k hk document ranges hfound
      · rw [List.mem_singleton.1 hk] at hfound ⊢
        exact Reconciler.document_of_snd_recordIn hfound
    obtain ⟨c, hc, hdocument, hid⟩ := hcycle
    obtain ⟨c', hc', hdocument', hrequests⟩ := Reconciler.exists_mem_cycles_record id answer hc
    exact ⟨c', hc', hdocument'.trans hdocument, hrequests ▸ hid⟩

/-- **Every event keeps a concurrent editor sound.** -/
theorem after {event : ConcurrentEvent} (hallows : s.allows event) : (s.after event).IsSound := by
  cases event with
  | host event =>
    obtain ⟨hanswered, hevent⟩ := allows_host.1 hallows
    refine ⟨h.editor.after hevent, h.nodup, fun k hk => ?_, fun k hk document ranges hfound => ?_⟩
    · exact (s.editor.answer?_after hanswered k.request).symm ▸ h.answered k hk
    · obtain ⟨c, hc, hcycle⟩ := h.document k hk document ranges hfound
      exact ⟨c, s.editor.mem_cycles_after hanswered hc, hcycle⟩
  | send id => exact ⟨h.editor, h.nodup, h.answered, h.document⟩
  | record id answer => exact h.record hallows
  | apply id =>
    obtain ⟨k, hk, rfl⟩ := allows_apply.1 hallows
    rw [h.after_apply hk]
    exact ⟨h.editor.applyRecorded k.found, h.nodup.sublist (List.filter_sublist.map _),
      fun k hk => h.answered k (List.mem_filter.1 hk).1,
      fun k hk => h.document k (List.mem_filter.1 hk).1⟩

theorem run {events : List ConcurrentEvent} (hrun : s.CanRun events) : (s.run events).IsSound := by
  induction events generalizing s with
  | nil => exact h
  | cons event events ih => exact ih (h.after hrun.1) hrun.2

end IsSound

/-! ## Answers -/

/-- What has been answered cannot be answered again. -/
theorem answer?_run {id : RequestId} {events : List ConcurrentEvent} (hrun : s.CanRun events)
    (h : s.editor.exchange.answer? id ≠ none ∨ ∀ answer, .record id answer ∉ events) :
    (s.run events).editor.exchange.answer? id = s.editor.exchange.answer? id := by
  induction events generalizing s with
  | nil => rfl
  | cons event events ih =>
    have hne : ∀ answer, event ≠ .record id answer := by
      rintro answer rfl
      rcases h with hanswered | hnot
      · exact hanswered (Exchange.answer?_eq_none_of_isOpen _ (allows_record.1 hrun.1).1)
      · exact hnot answer List.mem_cons_self
    have hafter := s.answer?_after hrun.1 hne
    refine (ih hrun.2 ?_).trans hafter
    rw [hafter]
    exact h.imp_right fun hnot answer hmem => hnot answer (List.mem_cons_of_mem _ hmem)

section Reported

variable {events : List ConcurrentEvent} (hrun : s.CanRun events) (ids : List RequestId)

include hrun

/-- What has been reported stays reported. -/
theorem reportedLines_subset_run : s.editor.exchange.reportedLines ids ⊆
    (s.run events).editor.exchange.reportedLines ids := by
  intro lines hlines
  rw [Exchange.mem_reportedLines] at hlines ⊢
  obtain ⟨id, hid, hlines⟩ := hlines
  have hanswered : s.editor.exchange.answer? id ≠ none := by
    intro hnone
    simp [Exchange.rangesOf, Exchange.foldingAnswer?, hnone] at hlines
  refine ⟨id, hid, ?_⟩
  rwa [Exchange.rangesOf, Exchange.foldingAnswer?, answer?_run hrun (.inl hanswered)]

/-- Without a further answer nothing more is reported. -/
theorem reportedLines_run (h : ∀ id ∈ ids, ∀ answer, .record id answer ∉ events) :
    (s.run events).editor.exchange.reportedLines ids = s.editor.exchange.reportedLines ids :=
  Exchange.reportedLines_congr fun id hid => by
    rw [Exchange.foldingAnswer?, Exchange.foldingAnswer?, answer?_run hrun (.inr (h id hid))]

end Reported

end ConcurrentEditor

end LanguageClient
