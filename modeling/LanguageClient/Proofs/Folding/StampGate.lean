import LanguageClient.Proofs.Folding.Soundness
import Mathlib

/-!
# When a cycle is skipped

A reconciler remembers of the last cycle only the stamp that the document had when it began. A cycle
with another trigger than the initial one is skipped if and only if the document to be asked about
has just this stamp. As long as no document was bound and no model installed since, this is the
document and the model of the last cycle (`Editor.after_reconcile_eq_self_iff`). But every document
counts its stamps from zero on: after binding another one a cycle may be skipped though nobody was
asked about it (`Editor.reconcile_skipped_of_new_document`), and after installing another model,
though that has no folds.
-/

namespace LanguageClient

/-- What a cycle is about when it begins. -/
structure Beginning where
  document : DocumentId
  model : ModelId
  stamp : Nat
  deriving DecidableEq, Repr

namespace EditorEvent

/-- Whether an event gives the reconciler another document or model to work on. -/
def rebinds : EditorEvent → Bool
  | bind _ | install _ | uninstall => true
  | _ => false

end EditorEvent

theorem Reconciler.isUpToDate_iff {r : Reconciler} {trigger : Trigger} (h : trigger ≠ .initial)
    {stamp : Nat} : r.isUpToDate trigger stamp ↔ r.lastStamp = some stamp := by
  simp [isUpToDate, h]

namespace Editor

/-- What the cycle is about that begins with an event: behind it there is one cycle more. -/
def begun? (e : Editor) (event : EditorEvent) : Option Beginning := do
  guard (e.reconciler.cycles.length < (e.after event).reconciler.cycles.length)
  let document ← e.reconciler.document
  let model ← e.reconciler.attached
  let d ← e.workspace.documents[document]?
  return { document, model, stamp := d.stamp }

/-- The last cycle that begins in the course of some events, with the events behind it. -/
def lastBegun? (e : Editor) : List EditorEvent → Option (Beginning × List EditorEvent)
  | [] => none
  | event :: events =>
    ((e.after event).lastBegun? events).or ((e.begun? event).map (·, events))

variable {e : Editor}

theorem begun?_eq_none {event : EditorEvent}
    (h : (e.after event).reconciler.cycles.length = e.reconciler.cycles.length) :
    e.begun? event = none := by
  rw [begun?, h]
  simp

/-- A cycle begins, and its stamp is remembered, or there are as many cycles as before. -/
theorem begun?_cases (e : Editor) (event : EditorEvent) :
    ((e.after event).reconciler.cycles.length = e.reconciler.cycles.length ∧
      (e.after event).reconciler.lastStamp = e.reconciler.lastStamp) ∨
    ∃ b, e.begun? event = some b ∧ (e.after event).reconciler.lastStamp = some b.stamp ∧
      e.reconciler.document = some b.document ∧ e.reconciler.attached = some b.model ∧
      !event.rebinds := by
  cases event with
  | reconcile trigger =>
    rcases e.reconciler.start_cases e.exchange e.settings e.workspace trigger with
      heq | ⟨id, d, uri, htarget, -, hbegan⟩
    · have hsame : (e.after (.reconcile trigger)).reconciler = e.reconciler := by
        rw [reconciler_after_reconcile, heq]
      exact .inl ⟨by rw [hsame], by rw [hsame]⟩
    · obtain ⟨-, hdocument, hattached, hd, -⟩ := Reconciler.target?_eq_some_iff.1 htarget
      obtain ⟨mid, hattached⟩ := Option.isSome_iff_exists.1 hattached
      rw [← reconciler_after_reconcile, ← exchange_after_reconcile] at hbegan
      have hlength : e.reconciler.cycles.length <
          (e.after (.reconcile trigger)).reconciler.cycles.length := by
        rw [hbegan.cycles_eq, List.length_append]
        simp
      refine .inr ⟨⟨id, mid, d.stamp⟩, ?_, hbegan.lastStamp_eq, hdocument, hattached, rfl⟩
      rw [begun?, hdocument, hattached]
      simp [hlength, hd]
  | edit document offset removed new =>
    have hsame := e.reconciler_after_edit document offset removed new
    exact .inl ⟨by rw [hsame], by rw [hsame]⟩
  | answer id answer =>
    have hreceive := e.reconciler.fst_receive e.workspace e.settings.collapseImports id answer
    rw [← reconciler_after_answer] at hreceive
    have hlength : (e.after (.answer id answer)).reconciler.cycles.length =
        e.reconciler.cycles.length := by
      rw [hreceive]
      simpa using congrArg List.length (Reconciler.map_fst_recordIn id _ e.reconciler.cycles)
    exact .inl ⟨hlength, by rw [hreceive]⟩
  | _ => exact .inl ⟨rfl, rfl⟩

theorem lastBegun?_append_singleton (events : List EditorEvent) (event : EditorEvent) :
    e.lastBegun? (events ++ [event]) = (((e.run events).begun? event).map (·, [])).or
      ((e.lastBegun? events).map fun last => (last.1, last.2 ++ [event])) := by
  induction events generalizing e with
  | nil => simp [lastBegun?, run]
  | cons event' events ih =>
    rw [List.cons_append, lastBegun?, ih, lastBegun?]
    rw [show e.run (event' :: events) = (e.after event').run events from rfl]
    cases (e.after event').lastBegun? events <;> cases e.begun? event' <;>
      cases ((e.after event').run events).begun? event <;> rfl

/-- What an editor remembers of the last cycle. -/
structure Remembers (e : Editor) (last : Option (Beginning × List EditorEvent)) : Prop where
  lastStamp_eq : e.reconciler.lastStamp = last.map (·.1.stamp)
  attached : e.reconciler.attached = none ∨ e.reconciler.attached = e.reconciler.installed
  bound : ∀ b later, last = some (b, later) → (∀ event ∈ later, !event.rebinds) →
    e.reconciler.document = some b.document ∧ e.reconciler.installed = some b.model

/-- Events that do not rebind keep what is bound and installed. -/
theorem bound_after_of_not_rebinds {event : EditorEvent} (h : !event.rebinds) :
    (e.after event).reconciler.document = e.reconciler.document ∧
      (e.after event).reconciler.installed = e.reconciler.installed := by
  by_cases hdirects : event.directs
  · cases event with
    | bind document | install model | uninstall => cases h
    | enable | disable => exact ⟨rfl, rfl⟩
    | _ => cases hdirects
  · have hsame := e.sameBinding_after (by simpa using hdirects)
    exact ⟨hsame.document_eq, hsame.installed_eq⟩

/-- A model that is attached is the installed one. -/
theorem attached_after {event : EditorEvent}
    (h : e.reconciler.attached = none ∨ e.reconciler.attached = e.reconciler.installed) :
    (e.after event).reconciler.attached = none ∨
      (e.after event).reconciler.attached = (e.after event).reconciler.installed := by
  by_cases hdirects : event.directs
  · cases event with
    | bind document => exact h
    | install model | enable => exact .inr rfl
    | disable | uninstall => exact .inl rfl
    | _ => cases hdirects
  · have hsame := e.sameBinding_after (by simpa using hdirects)
    rwa [hsame.attached_eq, hsame.installed_eq]

/-- Every event updates what is remembered. -/
theorem Remembers.after {last : Option (Beginning × List EditorEvent)} (h : e.Remembers last)
    (event : EditorEvent) : (e.after event).Remembers (((e.begun? event).map (·, [])).or
      (last.map fun last => (last.1, last.2 ++ [event]))) := by
  rcases e.begun?_cases event with
    ⟨hlength, hstamp⟩ | ⟨b, hsome, hstamp, hdocument, hattached, hkeeps⟩
  · rw [begun?_eq_none hlength, Option.map_none, Option.none_or]
    refine ⟨by rw [hstamp, h.lastStamp_eq, Option.map_map]; rfl, attached_after h.attached, ?_⟩
    intro b later hlast hlater
    -- the last cycle is the one before, with one event more behind it
    obtain ⟨⟨b', later'⟩, rfl, heq⟩ := Option.map_eq_some_iff.1 hlast
    obtain ⟨rfl, rfl⟩ := Prod.mk.inj heq
    obtain ⟨hlater, hevent⟩ := List.forall_mem_append.1 hlater
    obtain ⟨hdocument, hinstalled⟩ := bound_after_of_not_rebinds (hevent event (by simp))
    rw [hdocument, hinstalled]
    exact h.bound _ _ rfl hlater
  · rw [hsome, Option.map_some, Option.some_or]
    refine ⟨hstamp, attached_after h.attached, ?_⟩
    rintro b' later hlast -
    obtain ⟨rfl, rfl⟩ := Prod.mk.inj (Option.some.inj hlast)
    obtain ⟨hdocument', hinstalled⟩ := bound_after_of_not_rebinds hkeeps
    rw [hdocument', hinstalled]
    refine ⟨hdocument, ?_⟩
    rcases h.attached with hnone | heq
    · rw [hnone] at hattached
      cases hattached
    · rw [← heq, hattached]

theorem IsFresh.remembers (h : e.IsFresh) (events : List EditorEvent) :
    (e.run events).Remembers (e.lastBegun? events) := by
  induction events using List.reverseRecOn with
  | nil =>
    rw [show e.run [] = e from rfl]
    refine ⟨by rw [h.reconciler]; rfl, .inl (by rw [h.reconciler]), nofun⟩
  | append_singleton events event ih =>
    rw [lastBegun?_append_singleton, run_append]
    exact ih.after event

/-- A cycle with something to be about is skipped if the reconciler is up to date. -/
theorem skips_iff {trigger : Trigger} {document : DocumentId} {d : Document} {uri : String}
    (htarget : e.reconciler.target? e.workspace = some (document, d, uri)) :
    e.after (.reconcile trigger) = e ↔ e.reconciler.isUpToDate trigger d.stamp := by
  by_cases hstamp : e.reconciler.isUpToDate trigger d.stamp
  · rw [Editor.after, Reconciler.start_of_isUpToDate _ _ htarget hstamp]
    exact iff_of_true rfl hstamp
  · refine iff_of_false (fun hsame => ?_) hstamp
    have hbegan := Reconciler.began_start e.exchange e.settings htarget hstamp
    rw [← reconciler_after_reconcile, ← exchange_after_reconcile, hsame] at hbegan
    simpa using hbegan.cycles_eq

/-- **When a cycle is skipped.** In every run, let a document with a URI be bound, a model be attached
and nothing be uninstalled. A cycle other than an initial one is skipped if and only if the document
has the stamp with which the last cycle began. If no document was bound, and nothing installed or
uninstalled since, that cycle was about this document and this model. -/
theorem after_reconcile_eq_self_iff {e₀ : Editor} (hfresh : e₀.IsFresh) (events : List EditorEvent)
    {trigger : Trigger} (htrigger : trigger ≠ .initial)
    (huninstalled : (e₀.run events).reconciler.isUninstalled = false) {document : DocumentId}
    (hdocument : (e₀.run events).reconciler.document = some document) {model : ModelId}
    (hattached : (e₀.run events).reconciler.attached = some model) {d : Document}
    (hd : (e₀.run events).workspace.documents[document]? = some d) (huri : d.uri.isSome) :
    ((e₀.run events).after (.reconcile trigger) = e₀.run events ↔
      ∃ b later, e₀.lastBegun? events = some (b, later) ∧ b.stamp = d.stamp) ∧
    ∀ b later, e₀.lastBegun? events = some (b, later) → (∀ event ∈ later, !event.rebinds) →
      b.document = document ∧ b.model = model := by
  have h := hfresh.remembers events
  obtain ⟨uri, huri⟩ := Option.isSome_iff_exists.1 huri
  have htarget := Reconciler.target?_eq_some_iff.2
    ⟨huninstalled, hdocument, by rw [hattached]; rfl, hd, huri⟩
  refine ⟨?_, fun b later hlast hlater => ?_⟩
  · rw [skips_iff htarget, Reconciler.isUpToDate_iff htrigger, h.lastStamp_eq, Option.map_eq_some_iff,
      Prod.exists]
  · obtain ⟨hdocument', hinstalled⟩ := h.bound b later hlast hlater
    rcases h.attached with hnone | heq
    · rw [hnone] at hattached
      cases hattached
    · rw [heq, hinstalled] at hattached
      exact ⟨Option.some.inj (hdocument'.symm.trans hdocument), Option.some.inj hattached⟩

/-- A cycle begins after an edit, and the projection is disabled and enabled again. -/
def interrupted : List EditorEvent :=
  [.bind (some 0), .install 0, .reconcile .initial, .edit 0 0 0 "x\n".toList, .reconcile .dirtyRegion,
    .disable, .enable]

/-- That is no reason to ask once more about this document and for this model. -/
theorem reconcile_skipped_of_interrupted :
    let e := (ofServers ["a"]).run interrupted
    e.after (.reconcile .explicit) = e ∧ ∃ b later,
      (ofServers ["a"]).lastBegun? interrupted = some (b, later) ∧ b.document = 0 ∧ b.model = 0 := by
  have hlast : (ofServers ["a"]).lastBegun? interrupted = some (⟨0, 0, 1⟩, [.disable, .enable]) := by
    cbv
  have hd : ((ofServers ["a"]).run interrupted).workspace.documents[0]? =
      some { text := "x\na\nb\nc\n".toList, stamp := 1, uri := some "file:///a" } := by cbv
  have hattached : ((ofServers ["a"]).run interrupted).reconciler.attached = some 0 := by decide
  have htrigger : Trigger.explicit ≠ .initial := by decide
  have hskip := after_reconcile_eq_self_iff (isFresh_ofServers ["a"]) interrupted htrigger (by decide)
    (by decide) hattached hd rfl
  exact ⟨hskip.1.2 ⟨_, _, hlast, rfl⟩, _, _, hlast, hskip.2 _ _ hlast (by decide)⟩

/-- One document has been asked about. Another one is bound while the projection is disabled, so that
no initial cycle begins for it, and then the projection is enabled. -/
def reopened : List EditorEvent :=
  [.bind (some 0), .install 0, .reconcile .initial, .disable,
    .openDocument "y\n".toList (some "file:///b"), .bind (some 1), .reconcile .initial, .enable]

/-- The other document is skipped though no cycle has been about it. -/
theorem reconcile_skipped_of_new_document :
    let e := (ofServers ["a"]).run reopened
    (ofServers ["a"]).IsFresh ∧ (ofServers ["a"]).CanRun (reopened ++ [.reconcile .explicit]) ∧
      e.reconciler.isUninstalled = false ∧
      e.reconciler.document = some 1 ∧ e.reconciler.attached = some 0 ∧
      e.workspace.documents[1]? = some { text := "y\n".toList, uri := some "file:///b" } ∧
      e.after (.reconcile .explicit) = e ∧ e.reconciler.cycles.map (·.document) = [0] :=
  ⟨isFresh_ofServers _, by decide, by decide, by decide, by decide, by decide, rfl, by decide⟩

end Editor

end LanguageClient
