import LanguageClient.Proofs.Folding.Concurrency
import LanguageClient.Proofs.Folding.Mirroring
import Mathlib

/-!
# Between uninstalling and installing

A reconciler that has been uninstalled is not asked whether it is when ranges are applied. That late
answers do nothing rests on another fact: it knows no model (`Reconciler.IsInert`), and nothing but
installing gives it one, since what is enabled is what was installed. Until then no request is
dispatched and the models are what the host makes of them (`Editor.Rests`). Requests that were
dispatched before are not called back, though: their tasks may first run later, and the servers
receive them then (`ConcurrentEditor.sent_after_uninstall`). At any other time an answer changes at
most the attached model, and that only if its document is bound
(`ConcurrentEditor.inert_until_install`).
-/

namespace LanguageClient

/-! ## Requests that were dispatched -/

namespace Exchange

variable (x : Exchange)

theorem dispatched_cancel (id : RequestId) : (x.cancel id).dispatched = x.dispatched := by
  unfold cancel
  split
  · rfl
  · rw [dispatched, dispatched, List.map_map]
    refine List.map_congr_left fun r _ => ?_
    by_cases h : r.id = id <;> simp [h, Request.server_signal]

theorem dispatched_cancelAll (ids : List RequestId) : (x.cancelAll ids).dispatched = x.dispatched := by
  unfold cancelAll
  induction ids generalizing x with
  | nil => rfl
  | cons id ids ih => rw [List.foldl_cons, ih, dispatched_cancel]

theorem dispatched_conclude (id : RequestId) (answer : Answer) :
    (x.conclude id answer).dispatched = x.dispatched := by
  rw [conclude, dispatched, dispatched, List.map_map]
  refine List.map_congr_left fun r _ => ?_
  by_cases h : r.id = id <;> simp [h]

theorem length_dispatched : x.dispatched.length = x.requests.length := List.length_map _

end Exchange

/-! ## Reconcilers without a model -/

namespace Reconciler

/-- Whether a reconciler has been uninstalled and not been installed again. -/
structure IsInert (r : Reconciler) : Prop where
  isUninstalled : r.isUninstalled
  attached_eq : r.attached = none
  installed_eq : r.installed = none

namespace IsInert

variable {r : Reconciler} (h : r.IsInert)

include h

theorem start_eq (w : Workspace) (x : Exchange) (settings : FoldingSettings) (trigger : Trigger) :
    r.start w x settings trigger = (r, x) := by
  refine start_of_target?_eq_none x settings trigger (Option.eq_none_iff_forall_ne_some.2 ?_)
  rintro ⟨id, d, uri⟩ htarget
  have hinstalled := (target?_eq_some_iff.1 htarget).1
  rw [h.isUninstalled] at hinstalled
  cases hinstalled

theorem applyRecorded_eq (w : Workspace) (collapseImports : Bool)
    (found : Option (DocumentId × List FoldingRange)) :
    r.applyRecorded w collapseImports found = w := by
  cases found with
  | none => rfl
  | some found => exact applyRanges_of_attached_eq_none h.attached_eq _

end IsInert

theorem isInert_uninstall (r : Reconciler) (x : Exchange) : (r.uninstall x).1.IsInert := ⟨rfl, rfl, rfl⟩

/-- Ranges change no model but the attached one, and that only if their document is bound. -/
theorem attached_of_models_applyRanges_ne {r : Reconciler} {w : Workspace} {collapseImports : Bool}
    {document : DocumentId} {ranges : List FoldingRange} {mid : ModelId}
    (hne : (r.applyRanges w collapseImports document ranges).models[mid]? ≠ w.models[mid]?) :
    r.attached = some mid ∧ r.document = some document := by
  by_cases hdocument : r.document = some document
  · refine ⟨?_, hdocument⟩
    by_contra hother
    refine hne ?_
    rw [applyRanges, if_pos hdocument]
    cases hattached : r.attached with
    | none => rfl
    | some id =>
      rw [hattached, Option.some.injEq] at hother
      dsimp only
      split
      · split_ifs
        · rfl
        · exact List.getElem?_set_ne hother
      · rfl
  · exact absurd (congrArg (·.models[mid]?) (applyRanges_of_ne hdocument ranges)) hne

end Reconciler

/-! ## Events -/

namespace EditorEvent

/-- Whether an event installs a model. -/
def installs : EditorEvent → Bool
  | install _ => true
  | _ => false

/-- What the host makes of the models by an event, without the reconciler. -/
def annotated (models : List AnnotationModel) : EditorEvent → List AnnotationModel
  | openModel => models ++ [.empty]
  | annotate model action => models.modify model (·.act action)
  | _ => models

end EditorEvent

namespace ConcurrentEvent

/-- Whether an event installs a model. -/
def installs : ConcurrentEvent → Bool
  | host event => event.installs
  | _ => false

/-- What the host makes of the models by an event, without the reconciler. -/
def annotated (models : List AnnotationModel) : ConcurrentEvent → List AnnotationModel
  | host event => event.annotated models
  | _ => models

/-- The request that a server receives by an event. -/
def sent? : ConcurrentEvent → Option RequestId
  | send id => some id
  | _ => none

end ConcurrentEvent

/-- The requests that servers receive in a run. -/
def sentIn (events : List ConcurrentEvent) : List RequestId := events.filterMap (·.sent?)

/-! ## Editors with an inert reconciler -/

namespace Editor

/-- What an editor with an inert reconciler keeps, event by event. -/
structure Rests (e : Editor) (models : List AnnotationModel) (dispatched : List (RequestId × Nat)) :
    Prop where
  isInert : e.reconciler.IsInert
  models_eq : e.workspace.models = models
  dispatched_eq : e.exchange.dispatched = dispatched

theorem rests_after_uninstall (e : Editor) :
    (e.after .uninstall).Rests e.workspace.models e.exchange.dispatched :=
  ⟨e.reconciler.isInert_uninstall e.exchange, rfl, e.exchange.dispatched_cancelAll _⟩

namespace Rests

variable {e : Editor} {models : List AnnotationModel} {dispatched : List (RequestId × Nat)}
  (h : e.Rests models dispatched)

include h

theorem record (id : RequestId) (answer : Answer) :
    (e.record id answer).1.Rests models dispatched :=
  ⟨⟨h.isInert.1, h.isInert.2, h.isInert.3⟩, h.models_eq,
    (e.exchange.dispatched_conclude id answer).trans h.dispatched_eq⟩

theorem applyRecorded (found : Option (DocumentId × List FoldingRange)) :
    (e.applyRecorded found).Rests models dispatched := by
  rw [Editor.applyRecorded, h.isInert.applyRecorded_eq]
  exact h

/-- Only installing wakes an inert reconciler. -/
theorem after {event : EditorEvent} (hevent : !event.installs) :
    (e.after event).Rests (event.annotated models) dispatched := by
  obtain ⟨hinert, rfl, rfl⟩ := h
  cases event with
  | bind document => exact ⟨⟨hinert.1, hinert.2, hinert.3⟩, rfl, rfl⟩
  | install model => cases hevent
  | enable => exact ⟨⟨hinert.1, hinert.3, hinert.3⟩, rfl, rfl⟩
  | disable => exact ⟨⟨hinert.1, rfl, hinert.3⟩, rfl, rfl⟩
  | uninstall => exact e.rests_after_uninstall
  | reconcile trigger =>
    rw [Editor.after, hinert.start_eq]
    exact ⟨hinert, rfl, rfl⟩
  | edit document offset removed new =>
    obtain ⟨documents, -, heq⟩ := e.exists_editDocument_eq document offset removed new
    rw [Editor.after, heq]
    exact ⟨hinert, rfl, rfl⟩
  | answer id answer => exact (record ⟨hinert, rfl, rfl⟩ id answer).applyRecorded _
  | settle => exact ⟨⟨hinert.1, hinert.2, hinert.3⟩, rfl, rfl⟩
  | _ => exact ⟨hinert, rfl, rfl⟩

end Rests

end Editor

namespace ConcurrentEditor

variable {s : ConcurrentEditor} {models : List AnnotationModel} {dispatched : List (RequestId × Nat)}

theorem unsent_after_host {event : EditorEvent}
    (h : (s.editor.after event).exchange.dispatched = s.editor.exchange.dispatched) :
    (s.after (.host event)).unsent = s.unsent := by
  have hlength := congrArg List.length h
  rw [Exchange.length_dispatched, Exchange.length_dispatched] at hlength
  rw [after, ← hlength, List.drop_length, List.map_nil, List.append_nil]

theorem rests_after (h : s.editor.Rests models dispatched) {event : ConcurrentEvent}
    (hevent : !event.installs) : (s.after event).editor.Rests (event.annotated models) dispatched ∧
      (s.after event).unsent = s.unsent.filter fun id => !(sentIn [event]).contains id := by
  have hall : s.unsent.filter (fun id => !([] : List RequestId).contains id) = s.unsent := by simp
  cases event with
  | host event =>
    have hafter := h.after hevent
    refine ⟨hafter, (unsent_after_host ?_).trans hall.symm⟩
    rw [hafter.dispatched_eq, h.dispatched_eq]
  | send id =>
    refine ⟨h, List.filter_congr fun id' _ => ?_⟩
    rw [Bool.eq_iff_iff]
    simp [sentIn, ConcurrentEvent.sent?]
  | record id answer => exact ⟨h.record id answer, hall.symm⟩
  | apply id =>
    rw [after]
    split
    · exact ⟨h, hall.symm⟩
    · exact ⟨h.applyRecorded _, hall.symm⟩

theorem rests_run (h : s.editor.Rests models dispatched) {events : List ConcurrentEvent}
    (hevents : ∀ event ∈ events, !event.installs) :
    (s.run events).editor.Rests (events.foldl ConcurrentEvent.annotated models) dispatched ∧
      (s.run events).unsent = s.unsent.filter fun id => !(sentIn events).contains id := by
  induction events generalizing s models with
  | nil => exact ⟨h, by simp [sentIn, run]⟩
  | cons event events ih =>
    obtain ⟨hevent, hevents⟩ := List.forall_mem_cons.1 hevents
    obtain ⟨hrests, hunsent⟩ := rests_after h hevent
    obtain ⟨hrun, hrest⟩ := ih hrests hevents
    refine ⟨hrun, hrest.trans ?_⟩
    rw [hunsent, List.filter_filter]
    refine List.filter_congr fun id _ => ?_
    rw [← Bool.not_or, Bool.or_comm, ← List.contains_append, sentIn, sentIn, ← List.filterMap_append]
    rfl

/-- What is applied changes no model but the attached one, and that only if the document of the
request's cycle is bound. -/
theorem IsSound.attached_of_models_ne (h : s.IsSound) {c : Cycle}
    (hc : c ∈ s.editor.reconciler.cycles) {id : RequestId} (hid : id ∈ c.requests)
    (hallows : s.allows (.apply id)) {mid : ModelId}
    (hne : (s.after (.apply id)).editor.workspace.models[mid]? ≠ s.editor.workspace.models[mid]?) :
    s.editor.reconciler.attached = some mid ∧ s.editor.reconciler.document = some c.document := by
  obtain ⟨k, hk, rfl⟩ := allows_apply.1 hallows
  rw [h.after_apply hk] at hne
  cases hfound : k.found with
  | none =>
    rw [hfound] at hne
    exact absurd rfl hne
  | some found =>
    obtain ⟨document, ranges⟩ := found
    rw [hfound] at hne
    obtain ⟨c', hc', rfl, hid'⟩ := h.document k hk document ranges hfound
    obtain rfl := h.editor.serves.eq_of_mem hc hc' hid hid'
    exact Reconciler.attached_of_models_applyRanges_ne hne

/-- **An uninstalled reconciler is inert.** In every concurrent run, from uninstalling on and until a
model is installed, whatever else happens and whatever answers come in, the reconciler stays
uninstalled, no request is dispatched, and the models are what the host makes of them. Servers receive
no request but those that were dispatched before and had not been sent then, each when its task first
runs; there are none if all had been sent. At any time an answer changes nothing when it is recorded,
and when it is applied no model but the one that is attached then, and that only if the document of its
cycle is bound then. -/
theorem inert_until_install {e₀ : Editor} {events : List ConcurrentEvent} (hfresh : e₀.IsFresh)
    (hrun : e₀.concurrent.CanRun events) :
    let s := e₀.concurrent.run events
    (∀ later : List ConcurrentEvent, (∀ event ∈ later, !event.installs) →
      let s' := (s.after (.host .uninstall)).run later
      s'.state = .uninstalled ∧
        s'.editor.exchange.dispatched = s.editor.exchange.dispatched ∧
        (∀ q, q ∈ s'.sent ↔ q ∈ s.sent ∨
          (q ∈ s.editor.exchange.dispatched ∧ q.1 ∈ s.unsent ∧ q.1 ∈ sentIn later)) ∧
        (s.unsent = [] → s'.sent = s.sent) ∧
        s'.editor.workspace.models =
          later.foldl ConcurrentEvent.annotated s.editor.workspace.models) ∧
    ∀ c ∈ s.editor.reconciler.cycles, ∀ id ∈ c.requests,
      (∀ answer, s.allows (.record id answer) →
        (s.after (.record id answer)).editor.workspace = s.editor.workspace) ∧
      (s.allows (.apply id) →
        let s' := s.after (.apply id)
        s'.editor.workspace.documents = s.editor.workspace.documents ∧
          ∀ mid : ModelId, s'.editor.workspace.models[mid]? ≠ s.editor.workspace.models[mid]? →
            s.editor.reconciler.attached = some mid ∧
              s.editor.reconciler.document = some c.document) := by
  intro s
  have h : s.IsSound := (isSound_concurrent hfresh).run hrun
  refine ⟨fun later hlater => ?_, fun c hc id hid => ⟨fun answer _ => rfl, fun hallows =>
    ⟨documents_after_apply s id, fun mid hne => h.attached_of_models_ne hc hid hallows hne⟩⟩⟩
  intro s'
  have huninstall := s.editor.rests_after_uninstall
  have hunsent : (s.after (.host .uninstall)).unsent = s.unsent :=
    unsent_after_host huninstall.dispatched_eq
  obtain ⟨hrests, hrest⟩ := rests_run (s := s.after (.host .uninstall)) huninstall hlater
  rw [hunsent] at hrest
  have hsent : ∀ q, q ∈ s'.sent ↔ q ∈ s.sent ∨
      (q ∈ s.editor.exchange.dispatched ∧ q.1 ∈ s.unsent ∧ q.1 ∈ sentIn later) := by
    intro q
    rw [sent, sent, hrests.dispatched_eq, hrest]
    simp only [List.mem_filter, List.contains_iff_mem, Bool.not_eq_true', ← Bool.not_eq_true]
    tauto
  refine ⟨if_pos hrests.isInert.isUninstalled, hrests.dispatched_eq, hsent, fun hnone => ?_,
    hrests.models_eq⟩
  rw [sent, sent, hrests.dispatched_eq, hrest, hnone, List.filter_nil]

/-- A document is bound and a model installed, and two servers are asked, one of which receives its
request at once. -/
def asked : List ConcurrentEvent :=
  [.host (.bind (some 0)), .host (.install 0), .host (.reconcile .initial), .send 1]

/-- The document is bound again, the projection enabled, and a cycle wished for; the second server
receives its request, and the answer of the first one comes in. -/
def disturbed : List ConcurrentEvent :=
  [.host (.bind (some 0)), .host .enable, .host (.reconcile .explicit), .send 2,
    .record 1 (.reporting [(0, 1)]), .apply 1]

/-- An answer that would have been shown in time is not shown any more. -/
theorem inert_of_disturbed :
    let s := (Editor.ofServers ["a", "b"]).concurrent.run asked
    let s' := (s.after (.host .uninstall)).run disturbed
    (s.after (.host .uninstall)).CanRun disturbed ∧
    (s.run [.record 1 (.reporting [(0, 1)]), .apply 1]).editor.workspace.models.map (·.foldSpans) =
      [[⟨0, 4⟩]] ∧
    s'.state = .uninstalled ∧ s'.editor.exchange.dispatched = [(1, 0), (2, 1)] ∧
    (∀ q, q ∈ s'.sent ↔ q = (1, 0) ∨ q = (2, 1)) ∧ s'.editor.workspace.models = [.empty] := by
  intro s s'
  have hrun : (Editor.ofServers ["a", "b"]).concurrent.CanRun asked := by decide
  obtain ⟨hinert, -⟩ := inert_until_install (Editor.isFresh_ofServers ["a", "b"]) hrun
  obtain ⟨hstate, hdispatched, hsent, -, hmodels⟩ := hinert disturbed (by decide)
  refine ⟨by decide, by cbv, hstate, hdispatched.trans (by cbv), fun q => ?_, hmodels.trans (by cbv)⟩
  rw [hsent q, show s.sent = [(1, 0)] by cbv,
    show s.editor.exchange.dispatched = [(1, 0), (2, 1)] by cbv, show s.unsent = [2] by cbv,
    show sentIn disturbed = [2] from rfl]
  simp only [List.mem_cons, List.not_mem_nil, or_false]
  grind

/-- A request that waits to be sent is not called back by uninstalling: the server receives it
afterwards. -/
theorem sent_after_uninstall :
    let s := ((Editor.ofServers ["a"]).concurrent.run
      [.host (.bind (some 0)), .host (.install 0), .host (.reconcile .initial)]).after (.host .uninstall)
    s.CanRun [.send 1] ∧ (s.run [.send 1]).state = .uninstalled ∧ s.sent = [] ∧
      (s.run [.send 1]).sent = [(1, 0)] := by
  refine ⟨by decide, by decide, by decide, by decide⟩

end ConcurrentEditor

end LanguageClient
