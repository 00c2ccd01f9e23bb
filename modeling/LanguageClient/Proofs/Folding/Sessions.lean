import LanguageClient.Proofs.Folding.Soundness
import LanguageClient.Proofs.Server.Advance
import LanguageClient.Proofs.Server.Sending
import LanguageClient.Session.Folding
import Mathlib

/-!
# Sessions are runs of editors

A session of folding goes through runs of an editor: each action of its host, and the pause behind
it, is a list of events that can happen (`FoldingSession.reaches_step`). Whatever holds in every run
of an editor, in whatever order answers come, thus holds in every session, where requests are
answered as their servers were recorded to do (`FoldingSession.reaches_run`).
-/

namespace LanguageClient

/-- Whether events lead from one editor to another. -/
def Editor.Reaches (e e' : Editor) : Prop := ∃ events, e.CanRun events ∧ e.run events = e'

namespace Editor

variable {e e' e'' : Editor}

theorem Reaches.refl (e : Editor) : e.Reaches e := ⟨[], trivial, rfl⟩

theorem Reaches.trans (h : e.Reaches e') (h' : e'.Reaches e'') : e.Reaches e'' := by
  obtain ⟨events, hcan, rfl⟩ := h
  obtain ⟨events', hcan', rfl⟩ := h'
  exact ⟨events ++ events', canRun_append.2 ⟨hcan, hcan'⟩, run_append ..⟩

theorem Reaches.length_le (h : e.Reaches e') :
    e.workspace.documents.length ≤ e'.workspace.documents.length ∧
      e.workspace.models.length ≤ e'.workspace.models.length := by
  obtain ⟨events, -, rfl⟩ := h
  induction events generalizing e with
  | nil => exact ⟨le_rfl, le_rfl⟩
  | cons event events ih =>
    obtain ⟨hdocuments, hmodels⟩ := e.length_le_after event
    exact ⟨hdocuments.trans (@ih (e.after event)).1, hmodels.trans (@ih (e.after event)).2⟩

theorem IsSound.of_reaches (h : e.IsSound) (hreaches : e.Reaches e') : e'.IsSound := by
  obtain ⟨events, hcan, rfl⟩ := hreaches
  exact h.run hcan

end Editor

theorem Exchange.IsTimely.start {x : Exchange} (h : x.IsTimely) (r : Reconciler) (w : Workspace)
    (settings : FoldingSettings) (trigger : Trigger) :
    (r.start w x settings trigger).2.IsTimely := by
  rw [Reconciler.start]
  split
  · exact h
  · split_ifs
    · exact h
    · exact (h.cancelAll r.requests).dispatch _ _ _ _

namespace FoldingSession

/-- The editor of a session. -/
def editor (s : FoldingSession) : Editor where
  settings := s.settings
  workspace := s.workspace
  exchange := s.exchange
  reconciler := s.reconciler

/-- What holds of a session between two actions. -/
structure IsSound (s : FoldingSession) : Prop where
  editor : s.editor.IsSound
  isTimely : s.exchange.IsTimely
  document_lt : s.document < s.workspace.documents.length
  model_lt : s.model < s.workspace.models.length

variable {s : FoldingSession}

/-! ## Time -/

theorem IsSound.reaches_advance (h : s.IsSound) (time : Nat) :
    s.editor.Reaches (s.advance time).editor := by
  have hnodup := Exchange.IsNumbered.nodup h.editor.serves.numbered
  obtain ⟨hcan, hrun⟩ := Editor.run_ending_advance (e := s.editor) hnodup h.isTimely time
  exact ⟨_, hcan, hrun⟩

/-- A session that goes on with its document and model. -/
theorem IsSound.of_reaches {s' : FoldingSession} (h : s.IsSound)
    (hreaches : s.editor.Reaches s'.editor) (htimely : s'.exchange.IsTimely)
    (hdocument : s'.document = s.document) (hmodel : s'.model = s.model) : s'.IsSound where
  editor := h.editor.of_reaches hreaches
  isTimely := htimely
  document_lt := hdocument ▸ h.document_lt.trans_le hreaches.length_le.1
  model_lt := hmodel ▸ h.model_lt.trans_le hreaches.length_le.2

theorem IsSound.advance (h : s.IsSound) (time : Nat) : (s.advance time).IsSound :=
  h.of_reaches (h.reaches_advance time) (h.isTimely.advance time) rfl rfl

/-! ## Actions -/

theorem IsSound.documents_eq (h : s.IsSound) :
    s.workspace.documents[s.document]? = some s.currentDocument := by
  rw [currentDocument, List.getD_eq_getElem?_getD, List.getElem?_eq_getElem h.document_lt]
  rfl

/-- What is done to the present model is done by an event. -/
theorem IsSound.setModel_eq (h : s.IsSound) (action : AnnotationAction) :
    (s.setModel (s.currentModel.act action)).editor =
      s.editor.after (.annotate s.model action) := by
  have hmodels : s.workspace.models.set s.model (s.currentModel.act action) =
      s.workspace.models.modify s.model (·.act action) := by
    rw [currentModel, List.getD_eq_getElem?_getD, List.getElem?_eq_getElem h.model_lt,
      List.modify_eq_set_getElem?, List.getElem?_eq_getElem h.model_lt]
    rfl
  rw [setModel, Workspace.setModel, hmodels]
  rfl

theorem IsSound.reaches_setModel (h : s.IsSound) (action : AnnotationAction) :
    s.editor.Reaches (s.setModel (s.currentModel.act action)).editor :=
  ⟨[.annotate s.model action], ⟨rfl, trivial⟩, (h.setModel_eq action).symm⟩

theorem IsSound.reaches_edit (h : s.IsSound) (offset length : Nat) (text : Text) (isTracked : Bool) :
    s.editor.Reaches (s.edit offset length text isTracked).1.editor := by
  rw [edit]
  cases hreplace : s.currentDocument.replace offset length text with
  | error error => exact .refl _
  | ok replaced =>
    obtain ⟨d, change⟩ := replaced
    have hedit : s.editor.after (.edit s.document offset length text) =
        FoldingSession.editor { s with workspace := s.workspace.setDocument s.document d } := by
      rw [Editor.after, Editor.editDocument, show s.editor.workspace = s.workspace from rfl,
        h.documents_eq]
      dsimp only
      rw [hreplace]
      rfl
    have hreaches : s.editor.Reaches
        (FoldingSession.editor { s with workspace := s.workspace.setDocument s.document d }) :=
      ⟨[.edit s.document offset length text], ⟨rfl, trivial⟩, hedit⟩
    cases isTracked with
    | false => exact hreaches
    | true =>
      have hsound := h.of_reaches hreaches h.isTimely rfl rfl
      exact hreaches.trans (hsound.reaches_setModel (.follow change))

/-- A session that has let go of its requests. -/
theorem IsSound.letGo (h : s.IsSound) : FoldingSession.IsSound { s with
    reconciler := { s.reconciler with requests := [], superseded := [] } } :=
  h.of_reaches ⟨[.settle], ⟨rfl, trivial⟩, rfl⟩ h.isTimely rfl rfl

/-- An action of the host is a list of events. -/
theorem IsSound.reaches_act (h : s.IsSound) (action : FoldingAction) :
    s.editor.Reaches (s.act action).1.editor := by
  cases action with
  | openNew text uri =>
    have hbind : (s.editor.after (.openDocument text uri)).allows
        (.bind (some s.workspace.documents.length)) := by
      simp [Editor.allows, Editor.after, FoldingSession.editor]
    exact ⟨[.openDocument text uri, .bind (some s.workspace.documents.length)],
      ⟨rfl, hbind, trivial⟩, rfl⟩
  | reopen => exact ⟨[.bind (some s.document)], ⟨decide_eq_true h.document_lt, trivial⟩, rfl⟩
  | close => exact ⟨[.bind none], ⟨rfl, trivial⟩, rfl⟩
  | install isNew =>
    cases isNew with
    | false => exact ⟨[.install s.model], ⟨decide_eq_true h.model_lt, trivial⟩, rfl⟩
    | true =>
      have hinstall : (s.editor.after .openModel).allows
          (.install s.workspace.models.length) := by
        simp [Editor.allows, Editor.after, FoldingSession.editor]
      exact ⟨[.openModel, .install s.workspace.models.length], ⟨rfl, hinstall, trivial⟩, rfl⟩
  | uninstall => exact ⟨[.uninstall], ⟨rfl, trivial⟩, rfl⟩
  | enable => exact ⟨[.enable], ⟨rfl, trivial⟩, rfl⟩
  | disable => exact ⟨[.disable], ⟨rfl, trivial⟩, rfl⟩
  | reconcile trigger => exact ⟨[.reconcile trigger], ⟨rfl, trivial⟩, rfl⟩
  | settle =>
    have hsettle : s.editor.Reaches (s.editor.after .settle) := ⟨[.settle], ⟨rfl, trivial⟩, rfl⟩
    exact hsettle.trans (h.letGo.reaches_advance _)
  | wait time => exact h.reaches_advance _
  | edit offset length text isTracked => exact h.reaches_edit offset length text isTracked
  | addOther kind span => exact h.reaches_setModel (.addOther kind span)
  | collapse id => exact h.reaches_setModel (.collapse id)
  | expand id => exact h.reaches_setModel (.expand id)
  | updateVisibility id pixelHeight lineHeight =>
    exact h.reaches_setModel (.updateVisibility id pixelHeight lineHeight)
  | attach server => exact ⟨[.attach server], ⟨rfl, trivial⟩, rfl⟩
  | detach name => exact ⟨[.detach name], ⟨rfl, trivial⟩, rfl⟩

theorem fst_edit (s : FoldingSession) (offset length : Nat) (text : Text) (isTracked : Bool) :
    (s.edit offset length text isTracked).1.exchange = s.exchange ∧
      (s.edit offset length text isTracked).1.document = s.document ∧
      (s.edit offset length text isTracked).1.model = s.model := by
  rw [edit]
  cases s.currentDocument.replace offset length text with
  | error error => exact ⟨rfl, rfl, rfl⟩
  | ok replaced => cases isTracked <;> exact ⟨rfl, rfl, rfl⟩

/-- Actions keep sessions sound. -/
theorem IsSound.act (h : s.IsSound) (action : FoldingAction) : (s.act action).1.IsSound := by
  have hreaches := h.reaches_act action
  cases action with
  | openNew text uri =>
    exact ⟨h.editor.of_reaches hreaches, h.isTimely, by simp [FoldingSession.act], h.model_lt⟩
  | install isNew =>
    cases isNew with
    | false => exact h.of_reaches hreaches h.isTimely rfl rfl
    | true =>
      exact ⟨h.editor.of_reaches hreaches, h.isTimely, h.document_lt, by simp [FoldingSession.act]⟩
  | uninstall => exact h.of_reaches hreaches (h.isTimely.cancelAll _) rfl rfl
  | reconcile trigger => exact h.of_reaches hreaches (h.isTimely.start _ _ _ _) rfl rfl
  | settle => exact h.letGo.advance _
  | wait time => exact h.advance _
  | edit offset length text isTracked =>
    obtain ⟨hexchange, hdocument, hmodel⟩ := s.fst_edit offset length text isTracked
    exact h.of_reaches hreaches
      (show (s.edit offset length text isTracked).1.exchange.IsTimely from hexchange ▸ h.isTimely)
      hdocument hmodel
  | _ => exact h.of_reaches hreaches h.isTimely rfl rfl

/-! ## Sessions -/

theorem IsSound.step (h : s.IsSound) (action : FoldingAction) : (s.step action).1.IsSound :=
  (h.act action).advance _

theorem IsSound.reaches_step (h : s.IsSound) (action : FoldingAction) :
    s.editor.Reaches (s.step action).1.editor :=
  (h.reaches_act action).trans ((h.act action).reaches_advance _)

/-- The session behind several actions. -/
def run (s : FoldingSession) (actions : List FoldingAction) : FoldingSession :=
  actions.foldl (fun s action => (s.step action).1) s

theorem IsSound.reaches_run (h : s.IsSound) (actions : List FoldingAction) :
    s.editor.Reaches (s.run actions).editor := by
  induction actions generalizing s with
  | nil => exact .refl _
  | cons action actions ih => exact (h.reaches_step action).trans (ih (h.step action))

variable (servers : List RecordedServer) (settings : FoldingSettings) (document : Document)
  (isBare : Bool)

theorem reaches_start : (Editor.blank servers settings document).Reaches
    (start servers settings document isBare).editor := by
  cases isBare with
  | true => exact .refl _
  | false => exact ⟨[.bind (some 0), .install 0], ⟨rfl, rfl, trivial⟩, rfl⟩

theorem isSound_start : (start servers settings document isBare).IsSound where
  editor :=
    (Editor.isFresh_blank ..).isSound.of_reaches (reaches_start servers settings document isBare)
  isTimely _ hr := absurd hr List.not_mem_nil
  document_lt := Nat.one_pos
  model_lt := Nat.one_pos

/-- **Every session is a run of an editor**, which was blank when the session started. -/
theorem reaches_run (actions : List FoldingAction) : (Editor.blank servers settings document).Reaches
    ((start servers settings document isBare).run actions).editor :=
  (reaches_start ..).trans ((isSound_start ..).reaches_run actions)

end FoldingSession

end LanguageClient
