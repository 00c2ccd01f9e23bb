import LanguageClient.Proofs.Folding.ArrivalOrder
import LanguageClient.Proofs.Folding.Concurrency
import Mathlib

/-!
# Answers that are handled side by side

In whatever order a cycle is answered, the folds are the same in the end
(`ConcurrentEditor.foldSpans_eq_of_recorded_perm`). The handling of several answers may overlap, as
long as continuations end in the order in which they have recorded their answers
(`ConcurrentEditor.HandlesInOrder`). Such a schedule comes to the same as handling each answer at
once: an editor that does so is always ahead by the continuations that are still waiting
(`ConcurrentEditor.IsSound.editor_run_eq`). Where continuations overtake each other, the folds in the
end are those of what the first answers have reported, which need not be all
(`ConcurrentEditor.IsHandling`).
-/

namespace LanguageClient

/-! ## Schedules -/

namespace ConcurrentEvent

/-- The answer that an event records. -/
def recorded? : ConcurrentEvent → Option (RequestId × Answer)
  | record id a => some (id, a)
  | _ => none

/-- The request whose continuation comes to its end by an event. -/
def applied? : ConcurrentEvent → Option RequestId
  | apply id => some id
  | _ => none

/-- Whether the host does nothing but wait by an event: tasks run, time passes, servers come and
go. -/
def isWaiting : ConcurrentEvent → Bool
  | host event => event.isWaiting
  | _ => true

/-- What an event is to an editor that handles each answer as soon as it is recorded. -/
def atOnce? : ConcurrentEvent → Option EditorEvent
  | host event => some event
  | record id a => some (.answer id a)
  | _ => none

end ConcurrentEvent

/-- The answers that are recorded in a run, in order. -/
def recordedIn (events : List ConcurrentEvent) : List (RequestId × Answer) :=
  events.filterMap (·.recorded?)

/-- The requests whose continuations come to their end in a run, in order. -/
def appliedIn (events : List ConcurrentEvent) : List RequestId := events.filterMap (·.applied?)

theorem isWaiting_or_answered {events : List ConcurrentEvent}
    (h : ∀ event ∈ events, event.isWaiting) :
    ∀ event ∈ events.filterMap (·.atOnce?), event.isWaiting ∨ event.answered?.isSome := by
  intro event hevent
  obtain ⟨event', hevent', heq⟩ := List.mem_filterMap.1 hevent
  cases event' with
  | host event' =>
    obtain rfl := Option.some.inj heq
    exact .inl (h _ hevent')
  | send id => cases heq
  | record id answer =>
    obtain rfl := Option.some.inj heq
    exact .inr rfl
  | apply id => cases heq

theorem answersIn_filterMap_atOnce? {events : List ConcurrentEvent}
    (h : ∀ event ∈ events, event.isWaiting) :
    answersIn (events.filterMap (·.atOnce?)) = recordedIn events := by
  rw [answersIn, recordedIn, List.filterMap_filterMap]
  refine List.filterMap_congr fun event hevent => ?_
  cases event with
  | host event =>
    have hwaiting : event.isWaiting := h _ hevent
    cases event <;> first | rfl | cases hwaiting
  | _ => rfl

/-! ## An editor that handles each answer at once -/

namespace Editor

/-- The editor once continuations have applied what they have found, one after the other. -/
def applyAll (e : Editor) (continuations : List Continuation) : Editor :=
  continuations.foldl (fun e k => e.applyRecorded k.found) e

variable (e : Editor) (continuations : List Continuation)

theorem after_applyRecorded_of_isWaiting (found : Option (DocumentId × List FoldingRange))
    {event : EditorEvent} (h : event.isWaiting) :
    (e.applyRecorded found).after event = (e.after event).applyRecorded found := by
  cases event <;> first | cases found <;> rfl | cases h

theorem after_applyAll_of_isWaiting {event : EditorEvent} (h : event.isWaiting) :
    (e.applyAll continuations).after event = (e.after event).applyAll continuations := by
  induction continuations generalizing e with
  | nil => rfl
  | cons k continuations ih =>
    exact (ih _).trans (congrArg (applyAll · _) (e.after_applyRecorded_of_isWaiting k.found h))

theorem record_applyRecorded (found : Option (DocumentId × List FoldingRange)) (id : RequestId)
    (answer : Answer) : (e.applyRecorded found).record id answer =
      ((e.record id answer).1.applyRecorded found, (e.record id answer).2) := by
  cases found <;> rfl

/-- What is waiting to be applied does not matter for what a further answer brings. -/
theorem record_applyAll (id : RequestId) (answer : Answer) :
    (e.applyAll continuations).record id answer =
      ((e.record id answer).1.applyAll continuations, (e.record id answer).2) := by
  induction continuations generalizing e with
  | nil => rfl
  | cons k continuations ih =>
    refine (ih (e.applyRecorded k.found)).trans ?_
    rw [record_applyRecorded]
    rfl

/-- An answer that is handled at once is applied behind all that is waiting. -/
theorem after_answer_applyAll (id : RequestId) (answer : Answer) :
    (e.applyAll continuations).after (.answer id answer) =
      (e.record id answer).1.applyAll (continuations ++ [⟨id, (e.record id answer).2⟩]) := by
  rw [after_answer, record_applyAll, applyAll, applyAll, List.foldl_append]
  rfl

end Editor

namespace ConcurrentEditor

variable {s : ConcurrentEditor}

/-- The continuation that has waited longest ends. -/
theorem IsSound.after_apply_of_unapplied_eq (h : s.IsSound) {old pending : List Continuation}
    {k : Continuation} (hunapplied : s.unapplied = old ++ k :: pending) :
    s.after (.apply k.request) =
      { s with editor := s.editor.applyRecorded k.found, unapplied := old ++ pending } := by
  have hk : k ∈ s.unapplied := by simp [hunapplied]
  have hne : ∀ k' ∈ old ++ pending, k'.request != k.request := by
    have hnodup := h.nodup
    rw [hunapplied, List.map_append, List.map_cons, List.nodup_middle, ← List.map_append] at hnodup
    intro k' hk'
    rw [bne_iff_ne]
    intro heq
    exact (List.nodup_cons.1 hnodup).1 (heq ▸ List.mem_map_of_mem hk')
  rw [h.after_apply hk, hunapplied, List.filter_append, List.filter_cons_of_neg (by simp),
    ← List.filter_append, List.filter_eq_self.2 hne]

/-- An editor that handles each answer at once is ahead of a concurrent one by what is `pending`
there. Continuations that come to their ends in order catch up with it. -/
theorem IsSound.editor_run_eq (h : s.IsSound) {old pending : List Continuation}
    (hunapplied : s.unapplied = old ++ pending) {later : List ConcurrentEvent}
    (hrun : s.CanRun later)
    (hlater : ∀ event ∈ later, event.isWaiting)
    (hold : ∀ k ∈ old, k.request ∉ appliedIn later)
    (horder : appliedIn later = pending.map (·.request) ++ (recordedIn later).map (·.1)) :
    (s.run later).editor = (s.editor.applyAll pending).run (later.filterMap (·.atOnce?)) := by
  induction later generalizing s pending with
  | nil =>
    obtain rfl : pending = [] := by simpa [appliedIn, recordedIn] using horder.symm
    rfl
  | cons event later ih =>
    obtain ⟨hallows, hrun⟩ := hrun
    rw [List.forall_mem_cons] at hlater
    obtain ⟨hevent, hlater⟩ := hlater
    have hsound := h.after hallows
    cases event with
    | host event =>
      refine (ih hsound hunapplied hrun hlater hold horder).trans ?_
      exact congrArg (Editor.run · _) (s.editor.after_applyAll_of_isWaiting pending hevent).symm
    | send id => exact ih hsound hunapplied hrun hlater hold horder
    | record id answer =>
      let k : Continuation := ⟨id, (s.editor.record id answer).2⟩
      have hnew : (s.after (.record id answer)).unapplied = old ++ (pending ++ [k]) := by
        rw [← List.append_assoc, ← hunapplied]
        rfl
      have horder : appliedIn later =
          (pending ++ [k]).map (·.request) ++ (recordedIn later).map (·.1) := by
        rw [List.map_append, List.append_assoc]
        exact horder
      refine (ih hsound hnew hrun hlater hold horder).trans ?_
      exact congrArg (Editor.run · _) (s.editor.after_answer_applyAll pending id answer).symm
    | apply id =>
      have hrest : appliedIn (.apply id :: later) = id :: appliedIn later := rfl
      rw [hrest] at hold horder
      cases pending with
      | nil =>
        -- only older continuations are there, and these do not come to their ends
        obtain ⟨k, hk, rfl⟩ := allows_apply.1 hallows
        rw [hunapplied, List.append_nil] at hk
        exact absurd List.mem_cons_self (hold k hk)
      | cons k pending =>
        obtain ⟨rfl, horder⟩ := List.cons.inj horder
        rw [h.after_apply_of_unapplied_eq hunapplied] at hsound hrun
        refine Eq.trans (congrArg (fun s => (ConcurrentEditor.run s later).editor)
          (h.after_apply_of_unapplied_eq hunapplied)) ?_
        exact ih hsound rfl hrun hlater
          (fun k' hk' hmem => hold k' hk' (List.mem_cons_of_mem _ hmem)) horder

/-! ## Handling in any order -/

/-- How a concurrent editor `s'` has come from `s` by `answers` to the cycle `c` alone, whichever of its
continuations have ended. Each one that is left has found nothing or what the first answers have
reported, and so shows the attached model, unless it is what it was. -/
structure IsHandling (s : ConcurrentEditor) (c : Cycle) (mid : ModelId) (d : Document)
    (m : AnnotationModel) (answers : List (RequestId × Answer)) (s' : ConcurrentEditor) : Prop
    extends s'.editor.HasAnswered c mid d answers where
  found : ∀ k ∈ s'.unapplied, k.request ∈ c.requests → k.found = none ∨
    ∃ first, first <+: answers ∧ Reports k.found c.document (reportedBy first)
  shown : ∃ m', s'.editor.workspace = s.editor.workspace.setModel mid m' ∧ (m' = m ∨
    ∃ first, first <+: answers ∧ (m'.foldSpans : Multiset Span) = d.foldsAt (reportedBy first))

namespace IsHandling

variable {s' : ConcurrentEditor} {c : Cycle} {mid : ModelId} {d : Document} {m : AnnotationModel}
  {answers : List (RequestId × Answer)} (h : s.IsHandling c mid d m answers s')

include h

theorem host {event : EditorEvent} (hwaiting : event.isWaiting) :
    s.IsHandling c mid d m answers (s'.after (.host event)) := by
  have hwaits := h.toHasAnswered.waiting hwaiting
  cases event with
  | settle | attach server | detach name | pass time => exact ⟨hwaits, h.found, h.shown⟩
  | _ => cases hwaiting

theorem record {id : RequestId} (hid : id ∈ c.requests) (a : Answer)
    (hallows : s'.allows (.record id a)) :
    s.IsHandling c mid d m (answers ++ [(id, a)]) (s'.after (.record id a)) := by
  have hnew : id ∉ answers.map (·.1) := by
    intro hmem
    obtain ⟨b, hb, rfl⟩ := List.mem_map.1 hmem
    simpa [h.answer?_eq b hb] using Exchange.answer?_eq_none_of_isOpen _ (allows_record.1 hallows).1
  refine ⟨h.toHasAnswered.record hid hnew a, fun k hk hrequest => ?_, ?_⟩
  · rcases List.mem_append.1 hk with hk | hk
    · exact (h.found k hk hrequest).imp_right fun ⟨first, hfirst, hreports⟩ =>
        ⟨first, hfirst.trans (List.prefix_append _ _), hreports⟩
    · rw [List.mem_singleton.1 hk]
      exact (h.toHasAnswered.found_record hid hnew a).imp_right fun hreports =>
        ⟨_, List.prefix_rfl, hreports⟩
  · obtain ⟨m', hworkspace, hm'⟩ := h.shown
    exact ⟨m', hworkspace, hm'.imp_right fun ⟨first, hfirst, hfolds⟩ =>
      ⟨first, hfirst.trans (List.prefix_append _ _), hfolds⟩⟩

theorem apply (hsound : s'.IsSound) {id : RequestId} (hid : id ∈ c.requests)
    (hallows : s'.allows (.apply id)) :
    s.IsHandling c mid d m answers (s'.after (.apply id)) := by
  obtain ⟨k, hk, rfl⟩ := allows_apply.1 hallows
  rw [hsound.after_apply hk]
  refine ⟨h.toHasAnswered.applyRecorded k.found,
    fun k' hk' => h.found k' (List.mem_filter.1 hk').1, ?_⟩
  rcases h.found k hk hid with hnone | ⟨first, hfirst, hreports⟩
  · rw [hnone]
    exact h.shown
  · -- it replaces what other continuations have made of the attached model
    obtain ⟨m', hworkspace, -⟩ := h.shown
    obtain ⟨mid', d', m'', hattached, -, hd, happlied, hfolds⟩ :=
      h.isSound.exists_applyRecorded_eq_setModel hreports h.document_eq
        (by rw [h.attached_eq]; exact Option.some_ne_none _)
    obtain rfl := Option.some.inj (h.attached_eq.symm.trans hattached)
    obtain rfl := Option.some.inj (h.documents_eq.symm.trans hd)
    refine ⟨m'', ?_, .inr ⟨first, hfirst, hfolds⟩⟩
    rw [happlied, hworkspace, Workspace.setModel_setModel]

theorem run (hsound : s'.IsSound) {later : List ConcurrentEvent} (hrun : s'.CanRun later)
    (hlater : ∀ event ∈ later, event.isWaiting) (hrecorded : ∀ a ∈ recordedIn later, a.1 ∈ c.requests)
    (happlied : ∀ id ∈ appliedIn later, id ∈ c.requests) :
    s.IsHandling c mid d m (answers ++ recordedIn later) (s'.run later) := by
  induction later generalizing s' answers with
  | nil =>
    rw [show recordedIn [] = [] from rfl, List.append_nil]
    exact h
  | cons event later ih =>
    obtain ⟨hallows, hrun⟩ := hrun
    rw [List.forall_mem_cons] at hlater
    obtain ⟨hevent, hlater⟩ := hlater
    have hafter := hsound.after hallows
    cases event with
    | host event => exact ih (h.host hevent) hafter hrun hlater hrecorded happlied
    | send id =>
      exact ih ⟨h.toHasAnswered, h.found, h.shown⟩ hafter hrun hlater hrecorded happlied
    | record id a =>
      have hrest : recordedIn (.record id a :: later) = (id, a) :: recordedIn later := rfl
      rw [hrest] at hrecorded ⊢
      rw [List.append_cons]
      obtain ⟨hid, hrecorded⟩ := List.forall_mem_cons.1 hrecorded
      exact ih (h.record hid a hallows) hafter hrun hlater hrecorded happlied
    | apply id =>
      obtain ⟨hid, happlied⟩ := List.forall_mem_cons.1 happlied
      exact ih (h.apply hsound hid hallows) hafter hrun hlater hrecorded happlied

end IsHandling

/-- A schedule in which all requests of a cycle are answered and all their continuations end, while the
host only waits. -/
structure Handles (s : ConcurrentEditor) (c : Cycle) (later : List ConcurrentEvent) : Prop where
  canRun : s.CanRun later
  isWaiting : ∀ event ∈ later, event.isWaiting
  recorded : ((recordedIn later).map (·.1)).Perm c.requests
  applied : (appliedIn later).Perm c.requests

/-! ## Handling in order -/

/-- A schedule in which, besides, no continuation overtakes another one. The handling of several answers
may overlap even so. -/
structure HandlesInOrder (s : ConcurrentEditor) (c : Cycle) (later : List ConcurrentEvent) : Prop
    extends s.Handles c later where
  inOrder : appliedIn later = (recordedIn later).map (·.1)

/-- The handling of answers, each in its turn. -/
def handling (answers : List (RequestId × Answer)) : List ConcurrentEvent :=
  answers.flatMap fun (id, answer) => [.record id answer, .apply id]

theorem recordedIn_handling (answers : List (RequestId × Answer)) :
    recordedIn (handling answers) = answers := by
  rw [recordedIn, handling, List.filterMap_flatMap]
  exact List.flatMap_singleton' answers

theorem appliedIn_handling (answers : List (RequestId × Answer)) :
    appliedIn (handling answers) = answers.map (·.1) := by
  rw [appliedIn, handling, List.filterMap_flatMap, List.map_eq_flatMap]
  rfl

theorem isWaiting_of_mem_handling {answers : List (RequestId × Answer)} {event : ConcurrentEvent}
    (h : event ∈ handling answers) : event.isWaiting := by
  obtain ⟨a, -, hmem⟩ := List.mem_flatMap.1 h
  rcases List.mem_pair.1 hmem with rfl | rfl <;> rfl

theorem canRun_append {events events' : List ConcurrentEvent} :
    s.CanRun (events ++ events') ↔ s.CanRun events ∧ (s.run events).CanRun events' := by
  induction events generalizing s with
  | nil => simp [CanRun, run]
  | cons event events ih => simp [CanRun, run, ih, and_assoc]

theorem canRun_sends {ids : List RequestId} (hnodup : ids.Nodup) (hids : ∀ id ∈ ids, id ∈ s.unsent) :
    s.CanRun (ids.map .send) ∧
      s.run (ids.map .send) = { s with unsent := s.unsent.filter fun id => !ids.contains id } := by
  induction ids generalizing s with
  | nil => simp [CanRun, run]
  | cons id ids ih =>
    obtain ⟨hid, hnodup⟩ := List.nodup_cons.1 hnodup
    obtain ⟨hunsent, hids⟩ := List.forall_mem_cons.1 hids
    have hrest : ∀ id' ∈ ids, id' ∈ (s.after (.send id)).unsent := fun id' hid' =>
      List.mem_filter.2 ⟨hids id' hid', by rw [bne_iff_ne]; exact fun heq => hid (heq ▸ hid')⟩
    obtain ⟨hcan, hrun⟩ := ih hnodup hrest
    have hfilter : (s.unsent.filter (· != id)).filter (fun id' => !ids.contains id') =
        s.unsent.filter fun id' => !(id :: ids).contains id' := by
      rw [List.filter_filter]
      exact List.filter_congr fun id' _ => by rw [Bool.eq_iff_iff]; simp [and_comm]
    exact ⟨⟨by simpa [allows] using hunsent, hcan⟩,
      hrun.trans (congrArg (fun unsent => { s with unsent }) hfilter)⟩

theorem IsSound.canRun_handling (h : s.IsSound) {answers : List (RequestId × Answer)}
    (hnodup : (answers.map (·.1)).Nodup)
    (hallows : ∀ a ∈ answers, s.editor.exchange.isOpen a.1 ∧ a.1 ∉ s.unsent) :
    s.CanRun (handling answers) := by
  induction answers generalizing s with
  | nil => trivial
  | cons a answers ih =>
    obtain ⟨id, answer⟩ := a
    obtain ⟨hid, hnodup⟩ := List.nodup_cons.1 hnodup
    obtain ⟨hrecord, hallows⟩ := List.forall_mem_cons.1 hallows
    have hrecord : s.allows (.record id answer) := allows_record.2 hrecord
    have happly : (s.after (.record id answer)).allows (.apply id) :=
      allows_apply.2 ⟨_, List.mem_append_right _ (List.mem_singleton.2 rfl), rfl⟩
    refine ⟨hrecord, happly, ih ((h.after hrecord).after happly) hnodup fun b hb => ?_⟩
    have hnew : ∀ k ∈ s.unapplied, k.request ≠ id := fun k hk heq => h.answered k hk
      (heq ▸ Exchange.answer?_eq_none_of_isOpen _ (allows_record.1 hrecord).1)
    have hafter := s.run_record_apply answer hnew
    rw [ConcurrentEditor.run, List.foldl_cons, List.foldl_cons, List.foldl_nil] at hafter
    rw [hafter]
    obtain ⟨hopen, hsent⟩ := hallows b hb
    have hmem : b.1 ∈ answers.map (·.1) := List.mem_map_of_mem hb
    exact ⟨Exchange.isOpen_conclude hopen (fun heq : b.1 = id => hid (heq ▸ hmem)) answer, hsent⟩

/-! ## A cycle that has begun -/

section Begun

variable (h : s.IsSound) {trigger : Trigger} {c : Cycle}
  (hcycles : (s.after (.host (.reconcile trigger))).editor.reconciler.cycles =
    s.editor.reconciler.cycles ++ [c])

include hcycles

/-- No server has received a request of it yet. -/
theorem mem_unsent_of_begun {id : RequestId} (hid : id ∈ c.requests) :
    id ∈ (s.after (.host (.reconcile trigger))).unsent := by
  obtain ⟨d, uri, -, hbegan, hids⟩ := s.editor.exists_began hcycles
  refine List.mem_append_right _ ?_
  rw [List.map_drop, ← Exchange.map_fst_ends, hbegan.ends_eq, List.map_append,
    ← Exchange.length_ends, ← List.length_map (·.1), List.drop_left, hids]
  simpa using hid

include h

/-- Older continuations are of requests that have been answered before. -/
theorem IsSound.not_mem_of_begun {k : Continuation}
    (hk : k ∈ (s.after (.host (.reconcile trigger))).unapplied) : k.request ∉ c.requests := by
  intro hid
  refine h.answered k hk ?_
  rw [← @Editor.answer?_after s.editor (.reconcile trigger) rfl]
  exact Exchange.answer?_eq_none_of_isOpen _ (h.editor.isOpen_of_begun hcycles hid)

/-- Its requests can be answered in any order. -/
theorem IsSound.handlesInOrder (answers : List (RequestId × Answer))
    (hanswers : (answers.map (·.1)).Perm c.requests) :
    (s.after (.host (.reconcile trigger))).HandlesInOrder c
      (c.requests.map .send ++ handling answers) := by
  have hsound : (s.after (.host (.reconcile trigger))).IsSound :=
    h.after (allows_host.2 ⟨rfl, rfl⟩)
  have hnodup := h.editor.nodup_of_begun hcycles
  obtain ⟨hcan, hsend⟩ := canRun_sends hnodup fun id hid => mem_unsent_of_begun hcycles hid
  have hsends : ∀ event ∈ c.requests.map ConcurrentEvent.send,
      event.isWaiting ∧ event.recorded? = none ∧ event.applied? = none := by
    simp [ConcurrentEvent.isWaiting, ConcurrentEvent.recorded?, ConcurrentEvent.applied?]
  have hrecorded : recordedIn (c.requests.map .send ++ handling answers) = answers := by
    rw [recordedIn, List.filterMap_append,
      List.filterMap_eq_nil_iff.2 fun event hevent => (hsends event hevent).2.1]
    exact recordedIn_handling answers
  have happlied : appliedIn (c.requests.map .send ++ handling answers) = answers.map (·.1) := by
    rw [appliedIn, List.filterMap_append,
      List.filterMap_eq_nil_iff.2 fun event hevent => (hsends event hevent).2.2]
    exact appliedIn_handling answers
  exact {
    canRun := canRun_append.2 ⟨hcan, (hsound.run hcan).canRun_handling
      (hanswers.nodup_iff.2 hnodup) fun a ha => by
        have hid := hanswers.mem_iff.1 (List.mem_map_of_mem ha)
        rw [hsend]
        exact ⟨h.editor.isOpen_of_begun hcycles hid, by simp [hid]⟩⟩
    isWaiting := List.forall_mem_append.2 ⟨fun event hevent => (hsends event hevent).1,
      fun event hevent => isWaiting_of_mem_handling hevent⟩
    recorded := hrecorded.symm ▸ hanswers
    applied := happlied.symm ▸ hanswers
    inOrder := by rw [happlied, hrecorded] }

/-- A schedule without overtaking comes to the same as handling each answer at once. -/
theorem IsSound.editor_run_eq_of_handlesInOrder {later : List ConcurrentEvent}
    (horder : (s.after (.host (.reconcile trigger))).HandlesInOrder c later) :
    ((s.after (.host (.reconcile trigger))).run later).editor =
      (s.editor.after (.reconcile trigger)).run (later.filterMap (·.atOnce?)) := by
  refine (h.after (allows_host.2 ⟨rfl, rfl⟩)).editor_run_eq (List.append_nil _).symm horder.canRun
    horder.isWaiting (fun k hk hmem => ?_) horder.inOrder
  exact h.not_mem_of_begun hcycles hk (horder.applied.mem_iff.1 hmem)

/-- Whatever overtakes what, the attached model shows what the first answers have reported, if it is
not what it was. -/
theorem IsSound.isHandling_run {mid : ModelId} {d : Document} {m : AnnotationModel}
    (hanswered : (s.after (.host (.reconcile trigger))).editor.HasAnswered c mid d [])
    (hm : (s.after (.host (.reconcile trigger))).editor.workspace.models[mid]? = some m)
    {later : List ConcurrentEvent} (hlater : (s.after (.host (.reconcile trigger))).Handles c later) :
    (s.after (.host (.reconcile trigger))).IsHandling c mid d m (recordedIn later)
      ((s.after (.host (.reconcile trigger))).run later) := by
  have hbegins : (s.after (.host (.reconcile trigger))).IsHandling c mid d m []
      (s.after (.host (.reconcile trigger))) :=
    ⟨hanswered, fun k hk hid => absurd hid (h.not_mem_of_begun hcycles hk),
      m, (Workspace.setModel_self hm).symm, .inl rfl⟩
  exact hbegins.run (h.after (allows_host.2 ⟨rfl, rfl⟩)) hlater.canRun hlater.isWaiting
    (fun a ha => hlater.recorded.mem_iff.1 (List.mem_map_of_mem ha))
    fun id hid => hlater.applied.mem_iff.1 hid

end Begun

/-- Of three servers one reports a range twice over and one out of bounds, one drops the connection,
and one reports two ranges. -/
def threeAnswers : List (RequestId × Answer) :=
  [(1, .reporting [(0, 1), (0, 1), (7, 9)]), (2, .error (.disconnected "b")),
    (3, .reporting [(1, 2), (0, 1)])]

/-- The third answer is recorded before anything has been applied. -/
def overlapping : List ConcurrentEvent :=
  [.send 1, .send 2, .record 1 (.reporting [(0, 1), (0, 1), (7, 9)]), .send 3, .host (.pass 5),
    .record 2 (.error (.disconnected "b")), .record 3 (.reporting [(1, 2), (0, 1)]),
    .apply 1, .apply 2, .apply 3]

/-- Of two continuations the one that recorded first applies last, and a range is missing. -/
example :
    let s := (Editor.ofServers ["a", "b"]).concurrent.run
      [.host (.bind (some 0)), .host (.install 0), .host (.reconcile .initial), .send 1, .send 2]
    let s' := s.run [.record 1 (.reporting [(0, 1)]), .record 2 (.reporting [(1, 2)]), .apply 2, .apply 1]
    s'.editor.workspace.models.map (·.foldSpans) = [[⟨0, 4⟩]] := by cbv

end ConcurrentEditor

end LanguageClient
