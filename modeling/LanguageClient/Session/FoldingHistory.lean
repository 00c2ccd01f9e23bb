import LanguageClient.Server.History
import LanguageClient.Session.Folding

/-!
# Histories of folding sessions

`FoldingSession.acts` goes through a list of actions, with nothing between them: time passes only
when somebody waits. `FoldingSession.events` says what an action means for the exchange, and
`FoldingSession.received` lists what comes back for requests, in the order in which the reconciler
takes it.
-/

namespace LanguageClient

/-- What it means for the exchange that a cycle is to begin. -/
def Reconciler.startEvents (r : Reconciler) (w : Workspace) (settings : FoldingSettings)
    (trigger : Trigger) : List ExchangeEvent :=
  match r.target? w with
  | none => []
  | some (_, document, uri) =>
    if r.isUpToDate trigger document.stamp then []
    else r.requests.map .cancel ++
      [.dispatch (fun server => Capability.foldingRange.isSupportedBy server.capabilities)
        settings.cancelGrace RequestKind.foldingRange.method
        (RequestParams.foldingRange uri).toJson]

theorem Exchange.run_cancel (x : Exchange) (ids : List RequestId) :
    x.run (ids.map .cancel) = x.cancelAll ids := by
  rw [run, List.foldl_map]
  rfl

theorem Reconciler.snd_start (r : Reconciler) (w : Workspace) (x : Exchange)
    (settings : FoldingSettings) (trigger : Trigger) :
    (r.start w x settings trigger).2 = x.run (r.startEvents w settings trigger) := by
  rw [start, startEvents]
  cases r.target? w with
  | none => rfl
  | some target =>
    obtain ⟨id, document, uri⟩ := target
    cases hstamp : r.isUpToDate trigger document.stamp
    · simp only [hstamp, Bool.false_eq_true, if_false, Exchange.run_append, Exchange.run_cancel]
      rfl
    · simp only [hstamp, if_true]
      rfl

namespace FoldingSession

/-- What an action of the host means for the exchange. -/
def events (s : FoldingSession) : FoldingAction → List ExchangeEvent
  | .uninstall => s.reconciler.requests.map .cancel
  | .reconcile trigger => s.reconciler.startEvents s.workspace s.settings trigger
  | .settle =>
    [.advance (s.exchange.finishTime (s.reconciler.requests ++ s.reconciler.superseded))]
  | .wait time => [.advance (s.exchange.now + time)]
  | .attach server => [.attach server]
  | .detach name => [.detach name]
  | _ => []

/-- The session behind several actions. -/
def acts (s : FoldingSession) (actions : List FoldingAction) : FoldingSession :=
  actions.foldl (fun s action => (s.act action).1) s

/-- What comes back for requests in the course of several actions. -/
def received (s : FoldingSession) : List FoldingAction → List (RequestId × Answer)
  | [] => []
  | action :: actions =>
    s.exchange.reported (s.events action) ++ (s.act action).1.received actions

/-- An edit changes the workspace alone. -/
theorem exists_act_edit_eq (s : FoldingSession) (offset length : Nat) (text : Text)
    (isTracked : Bool) :
    ∃ workspace, (s.act (.edit offset length text isTracked)).1 = { s with workspace } := by
  simp only [act, edit]
  cases s.currentDocument.replace offset length text with
  | error error => exact ⟨_, rfl⟩
  | ok replaced => cases isTracked <;> exact ⟨_, rfl⟩

/-- An action changes the exchange by its events. -/
theorem exchange_act (s : FoldingSession) (action : FoldingAction) :
    (s.act action).1.exchange = s.exchange.run (s.events action) := by
  cases action with
  | uninstall => exact (s.exchange.run_cancel _).symm
  | reconcile trigger => exact s.reconciler.snd_start s.workspace s.exchange s.settings trigger
  | edit offset length text isTracked =>
    obtain ⟨workspace, heq⟩ := s.exists_act_edit_eq offset length text isTracked
    rw [heq]
    rfl
  | install isNew => cases isNew <;> rfl
  | _ => rfl

theorem settings_act (s : FoldingSession) (action : FoldingAction) :
    (s.act action).1.settings = s.settings := by
  cases action with
  | edit offset length text isTracked =>
    obtain ⟨workspace, heq⟩ := s.exists_act_edit_eq offset length text isTracked
    rw [heq]
  | install isNew => cases isNew <;> rfl
  | _ => rfl

theorem settings_acts (s : FoldingSession) (actions : List FoldingAction) :
    (s.acts actions).settings = s.settings := by
  induction actions generalizing s with
  | nil => rfl
  | cons action actions ih => exact (ih _).trans (s.settings_act action)

theorem acts_append (s : FoldingSession) (actions actions' : List FoldingAction) :
    s.acts (actions ++ actions') = (s.acts actions).acts actions' := List.foldl_append

end FoldingSession

end LanguageClient
