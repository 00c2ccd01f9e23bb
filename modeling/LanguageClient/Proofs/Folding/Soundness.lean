import LanguageClient.Proofs.Folding.Gathering
import LanguageClient.Proofs.Folding.Modification
import Mathlib

/-!
# What holds throughout a run

Whatever has happened in an editor (`Editor.IsSound`, `isSound_run`), the numbers of a model's
annotations are distinct (`AnnotationModel.IsSound`), the reconciler works on documents and models
that are there (`Reconciler.IsWithin`), and the cycles hold what their requests have brought
(`Exchange.Serves`). Each event touches one or two of the three.
-/

namespace LanguageClient

/-! ## Models -/

/-- The numbers of the annotations are distinct, and none is beyond the last one given. -/
structure AnnotationModel.IsSound (m : AnnotationModel) : Prop where
  nodup : (m.entries.map (·.id)).Nodup
  id_le : ∀ e ∈ m.entries, e.id ≤ m.lastId

namespace AnnotationModel

theorem isSound_empty : empty.IsSound := ⟨List.nodup_nil, nofun⟩

namespace IsSound

variable {m : AnnotationModel} (h : m.IsSound)

include h

theorem add (kind : AnnotationKind) (span : Span) : (m.add kind span).IsSound where
  nodup := by
    rw [AnnotationModel.add, List.map_append, List.map_singleton, ← List.concat_eq_append]
    refine h.nodup.concat fun hmem => ?_
    obtain ⟨e, he, hid⟩ := List.mem_map.1 hmem
    exact Nat.not_succ_le_self _ (hid ▸ h.id_le e he)
  id_le e he := by
    rcases List.mem_append.1 he with he | he
    · exact Nat.le_succ_of_le (h.id_le e he)
    · rw [List.mem_singleton.1 he]
      exact le_rfl

theorem map {f : AnnotationEntry → AnnotationEntry} (hf : ∀ e, (f e).id = e.id) :
    IsSound { m with entries := m.entries.map f } where
  nodup := by
    rw [List.map_map, show (fun e : AnnotationEntry => e.id) ∘ f = (·.id) from funext hf]
    exact h.nodup
  id_le e he := by
    obtain ⟨e', he', rfl⟩ := List.mem_map.1 he
    rw [hf]
    exact h.id_le e' he'

theorem filter (p : AnnotationEntry → Bool) : IsSound { m with entries := m.entries.filter p } where
  nodup := h.nodup.sublist (List.filter_sublist.map _)
  id_le e he := h.id_le e (List.mem_filter.1 he).1

theorem updateFold (id : AnnotationId) (f : Fold → Fold) : (m.updateFold id f).IsSound := by
  refine h.map fun e => ?_
  cases e.kind with
  | folding fold => dsimp only; split_ifs <;> rfl
  | other name => rfl

theorem modify (b : AnnotationBatch) : (m.modify b).IsSound := by
  have hadd : ∀ (additions : List (Fold × Span)) (m : AnnotationModel), m.IsSound →
      (additions.foldl (fun m a => m.add (.folding a.1) a.2) m).IsSound := by
    intro additions
    induction additions with
    | nil => exact fun _ h => h
    | cons a additions ih => exact fun m h => ih _ (h.add _ _)
  rw [AnnotationModel.modify, foldl_move_eq_map]
  have hmoved := hadd b.additions _ ((h.filter fun e => !b.deletions.contains e.id).map
    (f := fun e => { e with
      span := b.updates.foldl (fun s u => if e.id = u.1 then u.2 else s) e.span })
    fun _ => rfl)
  exact ⟨hmoved.nodup, hmoved.id_le⟩

theorem act (action : AnnotationAction) : (m.act action).IsSound := by
  cases action with
  | follow change => exact h.map fun _ => rfl
  | addOther name span => exact h.add _ _
  | collapse id => exact h.updateFold _ _
  | expand id => exact h.updateFold _ _
  | updateVisibility id pixelHeight lineHeight => exact h.updateFold _ _
  | modify batch => exact h.modify batch

end IsSound

end AnnotationModel

/-- All models are sound. -/
def Workspace.IsSound (w : Workspace) : Prop := ∀ m ∈ w.models, m.IsSound

theorem Workspace.IsSound.setModel {w : Workspace} (h : w.IsSound) {m : AnnotationModel}
    (hm : m.IsSound) (id : ModelId) : (w.setModel id m).IsSound := by
  intro m' hm'
  rcases List.mem_or_eq_of_mem_set hm' with hm' | rfl
  · exact h m' hm'
  · exact hm

theorem Workspace.IsSound.annotate {w : Workspace} (h : w.IsSound) (id : ModelId)
    (action : AnnotationAction) : IsSound { w with models := w.models.modify id (·.act action) } := by
  intro m hm
  obtain ⟨i, hi⟩ := List.mem_iff_getElem?.1 hm
  rw [List.getElem?_modify, Option.map_eq_map, Option.map_eq_some_iff] at hi
  obtain ⟨m', hm', rfl⟩ := hi
  have hsound := h m' (List.mem_of_getElem? hm')
  split_ifs
  · exact hsound.act action
  · exact hsound

/-! ## Documents and models -/

/-- The documents and models that a reconciler knows are there. -/
structure Reconciler.IsWithin (r : Reconciler) (w : Workspace) : Prop where
  document : ∀ id ∈ r.document, id < w.documents.length
  attached : ∀ id ∈ r.attached, id < w.models.length
  installed : ∀ id ∈ r.installed, id < w.models.length

theorem Reconciler.IsWithin.of_sameBinding {r r' : Reconciler} {w : Workspace} (h : r.IsWithin w)
    (hsame : r.SameBinding r') : r'.IsWithin w where
  document := hsame.document_eq ▸ h.document
  attached := hsame.attached_eq ▸ h.attached
  installed := hsame.installed_eq ▸ h.installed

theorem Reconciler.IsWithin.mono {r : Reconciler} {w w' : Workspace} (h : r.IsWithin w)
    (hdocuments : w.documents.length ≤ w'.documents.length)
    (hmodels : w.models.length ≤ w'.models.length) : r.IsWithin w' where
  document id hid := (h.document id hid).trans_le hdocuments
  attached id hid := (h.attached id hid).trans_le hmodels
  installed id hid := (h.installed id hid).trans_le hmodels

/-! ## Applying ranges -/

namespace Reconciler

variable (r : Reconciler) (w : Workspace) (collapseImports : Bool)

theorem applyRanges_cases (document : DocumentId) (ranges : List FoldingRange) :
    r.applyRanges w collapseImports document ranges = w ∨ ∃ id m b, w.models[id]? = some m ∧
      r.applyRanges w collapseImports document ranges = w.setModel id (m.modify b) := by
  unfold applyRanges
  split_ifs with hbound
  · split
    · exact .inl rfl
    · rename_i id hattached
      split
      · rename_i d m hd hm
        dsimp only
        split_ifs with hempty
        · exact .inl rfl
        · exact .inr ⟨id, m, _, hm, rfl⟩
      · exact .inl rfl
  · exact .inl rfl

/-- What is applied changes at most one model, by one batch. -/
theorem applyRecorded_cases (found : Option (DocumentId × List FoldingRange)) :
    r.applyRecorded w collapseImports found = w ∨ ∃ id m b, w.models[id]? = some m ∧
      r.applyRecorded w collapseImports found = w.setModel id (m.modify b) := by
  cases found with
  | none => exact .inl rfl
  | some found =>
    obtain ⟨document, ranges⟩ := found
    exact applyRanges_cases r w collapseImports document ranges

end Reconciler

/-! ## Editors -/

/-- Whether an event tells the reconciler what to work on. -/
def EditorEvent.directs : EditorEvent → Bool
  | bind _ | install _ | enable | disable | uninstall => true
  | _ => false

namespace Editor

/-- No other event has a say in it. -/
theorem sameBinding_after (e : Editor) {event : EditorEvent} (h : !event.directs) :
    e.reconciler.SameBinding (e.after event).reconciler := by
  cases event with
  | bind document | install model | enable | disable | uninstall => cases h
  | reconcile trigger =>
    rcases e.reconciler.start_cases e.exchange e.settings e.workspace trigger with
      heq | ⟨id, d, uri, -, -, hbegan⟩
    · rw [reconciler_after_reconcile, heq]
      exact ⟨rfl, rfl, rfl⟩
    · exact hbegan.toSameBinding
  | edit document offset removed new =>
    rw [reconciler_after_edit]
    exact ⟨rfl, rfl, rfl⟩
  | answer id answer =>
    rw [reconciler_after_answer, Reconciler.fst_receive]
    exact ⟨rfl, rfl, rfl⟩
  | _ => exact ⟨rfl, rfl, rfl⟩

/-- What is applied changes nothing but models, and there are as many as before. -/
theorem exists_applyRecorded_eq (e : Editor) (found : Option (DocumentId × List FoldingRange)) :
    ∃ models : List AnnotationModel, models.length = e.workspace.models.length ∧
      e.applyRecorded found = { e with workspace := { e.workspace with models } } := by
  rw [applyRecorded]
  rcases e.reconciler.applyRecorded_cases e.workspace e.settings.collapseImports found with
    heq | ⟨mid, m, b, -, heq⟩
  · exact ⟨_, rfl, by rw [heq]⟩
  · exact ⟨_, List.length_set .., by rw [heq]; rfl⟩

theorem documents_applyRecorded (e : Editor) (found : Option (DocumentId × List FoldingRange)) :
    (e.applyRecorded found).workspace.documents = e.workspace.documents := by
  obtain ⟨models, -, heq⟩ := e.exists_applyRecorded_eq found
  rw [heq]

/-- Documents and models stay. -/
theorem length_le_after (e : Editor) (event : EditorEvent) :
    e.workspace.documents.length ≤ (e.after event).workspace.documents.length ∧
      e.workspace.models.length ≤ (e.after event).workspace.models.length := by
  cases event with
  | openDocument text uri => simp [Editor.after]
  | openModel => simp [Editor.after]
  | annotate model action => simp [Editor.after]
  | edit document offset removed new =>
    obtain ⟨documents, hlength, heq⟩ := e.exists_editDocument_eq document offset removed new
    rw [Editor.after, heq]
    exact ⟨hlength.ge, le_rfl⟩
  | answer id answer =>
    obtain ⟨models, hlength, heq⟩ :=
      (e.record id answer).1.exists_applyRecorded_eq (e.record id answer).2
    rw [after_answer, heq]
    exact ⟨le_rfl, hlength.ge⟩
  | _ => exact ⟨le_rfl, le_rfl⟩

/-- An editor at its beginning: the reconciler is new and nothing has been sent. -/
structure IsFresh (e : Editor) : Prop where
  workspace : e.workspace.IsSound
  exchange : e.exchange.requests = []
  reconciler : e.reconciler = {}

/-- What holds of an editor throughout a run. -/
structure IsSound (e : Editor) : Prop where
  workspace : e.workspace.IsSound
  within : e.reconciler.IsWithin e.workspace
  serves : e.exchange.Serves e.reconciler.cycles

variable {e : Editor}

theorem IsFresh.isSound (h : e.IsFresh) : e.IsSound where
  workspace := h.workspace
  within := by
    rw [h.reconciler]
    exact ⟨by simp, by simp, by simp⟩
  serves := by
    have hends : e.exchange.ends = [] := by rw [Exchange.ends, h.exchange, List.map_nil]
    rw [h.reconciler]
    exact ⟨by rw [hends]; rfl, by rw [hends]; rfl, by simp⟩

namespace IsSound

theorem reconcile (h : e.IsSound) (trigger : Trigger) : (e.after (.reconcile trigger)).IsSound := by
  rw [Editor.after]
  rcases e.reconciler.start_cases e.exchange e.settings e.workspace trigger with
    heq | ⟨id, d, uri, -, -, hbegan⟩
  · rw [heq]
    exact h
  · exact ⟨h.workspace, h.within.of_sameBinding hbegan.toSameBinding, h.serves.began rfl hbegan⟩

theorem edit (h : e.IsSound) (document : DocumentId) (offset removed : Nat) (new : Text) :
    (e.after (.edit document offset removed new)).IsSound := by
  obtain ⟨documents, hlength, heq⟩ := e.exists_editDocument_eq document offset removed new
  rw [Editor.after, heq]
  exact ⟨h.workspace, h.within.mono hlength.ge le_rfl, h.serves⟩

theorem record (h : e.IsSound) {id : RequestId} (hopen : e.exchange.isOpen id) (answer : Answer) :
    (e.record id answer).1.IsSound :=
  ⟨h.workspace, h.within.of_sameBinding ⟨rfl, rfl, rfl⟩, h.serves.record hopen answer⟩

theorem applyRecorded (h : e.IsSound) (found : Option (DocumentId × List FoldingRange)) :
    (e.applyRecorded found).IsSound := by
  rw [Editor.applyRecorded]
  rcases e.reconciler.applyRecorded_cases e.workspace e.settings.collapseImports found with
    heq | ⟨mid, m, b, hm, heq⟩
  · rw [heq]
    exact h
  · have hsound := (h.workspace m (List.mem_of_getElem? hm)).modify b
    rw [heq]
    exact ⟨h.workspace.setModel hsound mid, h.within.mono le_rfl (List.length_set ..).ge, h.serves⟩

/-- **Every event keeps an editor sound.** -/
theorem after (h : e.IsSound) {event : EditorEvent} (hallows : e.allows event) :
    (e.after event).IsSound := by
  obtain ⟨hdocuments, hmodels⟩ := e.length_le_after event
  cases event with
  | bind document =>
    have hdocument : ∀ id ∈ document, id < e.workspace.documents.length := by
      rintro id rfl
      exact of_decide_eq_true hallows
    exact ⟨h.workspace, ⟨hdocument, h.within.attached, h.within.installed⟩, h.serves⟩
  | install model =>
    have hmodel : ∀ id ∈ some model, id < e.workspace.models.length := by
      rintro id ⟨⟩
      exact of_decide_eq_true hallows
    exact ⟨h.workspace, ⟨h.within.document, hmodel, hmodel⟩, h.serves⟩
  | enable => exact ⟨h.workspace, ⟨h.within.document, h.within.installed, h.within.installed⟩, h.serves⟩
  | disable => exact ⟨h.workspace, ⟨h.within.document, nofun, h.within.installed⟩, h.serves⟩
  | uninstall =>
    exact ⟨h.workspace, ⟨nofun, nofun, nofun⟩, h.serves.of_ends_eq (Exchange.ends_cancelAll _ _)⟩
  | reconcile trigger => exact h.reconcile trigger
  | settle => exact ⟨h.workspace, h.within.of_sameBinding ⟨rfl, rfl, rfl⟩, h.serves⟩
  | openDocument text uri => exact ⟨h.workspace, h.within.mono hdocuments hmodels, h.serves⟩
  | edit document offset removed new => exact h.edit document offset removed new
  | openModel =>
    have hworkspace : ∀ m ∈ e.workspace.models ++ [.empty], m.IsSound :=
      List.forall_mem_append.2 ⟨h.workspace, by simpa using AnnotationModel.isSound_empty⟩
    exact ⟨hworkspace, h.within.mono hdocuments hmodels, h.serves⟩
  | annotate model action =>
    exact ⟨h.workspace.annotate model action, h.within.mono hdocuments hmodels, h.serves⟩
  | attach server | detach name | pass time =>
    exact ⟨h.workspace, h.within, h.serves.of_ends_eq rfl⟩
  | answer id answer => exact (h.record hallows answer).applyRecorded _

end IsSound

theorem IsSound.run (h : e.IsSound) {events : List EditorEvent} (hrun : e.CanRun events) :
    (e.run events).IsSound := by
  induction events generalizing e with
  | nil => exact h
  | cons event events ih => exact ih (h.after hrun.1) hrun.2

/-- An editor with servers, a document and a model without annotations. -/
def blank (servers : List RecordedServer) (settings : FoldingSettings) (document : Document) :
    Editor where
  settings := settings
  workspace := ⟨[document], [.empty]⟩
  exchange := .ofServers servers

theorem isFresh_blank (servers : List RecordedServer) (settings : FoldingSettings)
    (document : Document) : (blank servers settings document).IsFresh where
  workspace m hm := by
    rw [List.mem_singleton.1 hm]
    exact AnnotationModel.isSound_empty
  exchange := rfl
  reconciler := rfl

/-- A blank editor with a document of three lines and servers that fold. -/
def ofServers (names : List String) : Editor :=
  blank (names.map fun name => { name, capabilities := { folding := true } }) {}
    { AnnotationModel.threeLines with uri := some "file:///a" }

theorem isFresh_ofServers (names : List String) : (ofServers names).IsFresh := isFresh_blank ..

end Editor

end LanguageClient
