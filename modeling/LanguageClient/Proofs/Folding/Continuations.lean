import LanguageClient.Proofs.Folding.Custody
import LanguageClient.Proofs.Folding.Gathering
import LanguageClient.Session.FoldingHistory

/-!
# Continuations of requests

When a request ends, its continuation has the cycle that sent it take the outcome. The cycles of a
session are what these continuations make of blank ones, each run once, in the order in which the
requests end (`FoldingSession.KeepsTrack`). No request is lost on the way: what is open is held by the
reconciler, what is superseded ends with its grace, and nothing is open when the session has settled
(`FoldingSession.requests_in_custody`).
-/

namespace LanguageClient

namespace Reconciler

/-- What the continuations of requests make of cycles, run in order. -/
def recordAll (answers : List (RequestId × Answer)) (cycles : List Cycle) : List Cycle :=
  answers.foldl (fun cycles e =>
    (recordIn e.1 (Outcome.ofAnswer FoldingAnswer.ofJson? "" e.2) cycles).1) cycles

theorem recordAll_append (answers answers' : List (RequestId × Answer)) (cycles : List Cycle) :
    recordAll (answers ++ answers') cycles = recordAll answers' (recordAll answers cycles) :=
  List.foldl_append

theorem fst_receiveAll (r : Reconciler) (w : Workspace) (collapseImports : Bool)
    (answers : List (RequestId × Answer)) :
    (r.receiveAll w collapseImports answers).1 =
      { r with cycles := recordAll answers r.cycles } := by
  induction answers generalizing r w with
  | nil => rfl
  | cons e answers ih =>
    rw [receiveAll, ih, fst_receive]
    rfl

theorem map_recordAll (answers : List (RequestId × Answer)) (cycles : List Cycle) :
    (recordAll answers cycles).map (fun c => (c.document, c.requests)) =
      cycles.map fun c => (c.document, c.requests) := by
  induction answers generalizing cycles with
  | nil => rfl
  | cons e answers ih => exact (ih _).trans (map_fst_recordIn _ _ _)

/-- A cycle that has not sent a request takes no part. -/
theorem recordAll_append_singleton {answers : List (RequestId × Answer)} (cycles : List Cycle)
    {c : Cycle} (h : ∀ e ∈ answers, e.1 ∉ c.requests) :
    recordAll answers (cycles ++ [c]) = recordAll answers cycles ++ [c] := by
  induction answers generalizing cycles with
  | nil => rfl
  | cons e answers ih =>
    obtain ⟨he, h⟩ := List.forall_mem_cons.1 h
    have hrecord (outcome : Outcome FoldingAnswer) :
        (recordIn e.1 outcome (cycles ++ [c])).1 = (recordIn e.1 outcome cycles).1 ++ [c] := by
      induction cycles with
      | nil => simp [recordIn, he]
      | cons b cycles ih =>
        simp only [List.cons_append, recordIn]
        split_ifs
        · rfl
        · simp [ih]
    exact (congrArg (recordAll answers) (hrecord _)).trans (ih _ h)

end Reconciler

/-- A cycle as it began. -/
def Cycle.blank (c : Cycle) : Cycle := { document := c.document, requests := c.requests }

namespace Reconciler

theorem map_blank_recordAll (answers : List (RequestId × Answer)) (cycles : List Cycle) :
    (recordAll answers cycles).map Cycle.blank = cycles.map Cycle.blank := by
  have h := congrArg (List.map fun e : DocumentId × List RequestId =>
    ({ document := e.1, requests := e.2 } : Cycle)) (map_recordAll answers cycles)
  rwa [List.map_map, List.map_map] at h

theorem newest_recordAll (r : Reconciler) (answers : List (RequestId × Answer)) :
    newest { r with cycles := recordAll answers r.cycles } = r.newest := by
  have h := congrArg (fun l => (l.getLast?.map Prod.snd).getD []) (map_recordAll answers r.cycles)
  simpa [newest, List.getLast?_map, Function.comp_def] using h

end Reconciler

/-! ## Sessions -/

namespace FoldingSession

/-- What is known of a session in which `log` has come back for requests. -/
structure KeepsTrack (s : FoldingSession) (log : List (RequestId × Answer)) : Prop where
  consistent : s.exchange.IsConsistent
  graced : s.exchange.IsGraced s.settings.cancelGrace
  holds : s.reconciler.Holds s.exchange
  ended_perm : s.exchange.ended.Perm log
  cycles_eq : s.reconciler.cycles = Reconciler.recordAll log (s.reconciler.cycles.map Cycle.blank)

variable {s : FoldingSession} {log : List (RequestId × Answer)}

theorem keepsTrack_start (servers : List RecordedServer) (settings : FoldingSettings)
    (document : Document) (isBare : Bool) :
    (start servers settings document isBare).KeepsTrack [] where
  consistent := Exchange.isConsistent_ofServers servers
  graced := Exchange.isGraced_ofServers servers _
  holds := by
    have hblank : Reconciler.Holds {} (.ofServers servers) :=
      Reconciler.holds_letGo {} fun _ hq => absurd hq List.not_mem_nil
    cases isBare <;> exact hblank.congr rfl rfl rfl
  ended_perm := .refl []
  cycles_eq := by cases isBare <;> rfl

/-! ## One action -/

theorem grants_events (s : FoldingSession) (action : FoldingAction) :
    ∀ event ∈ s.events action, event.Grants s.settings.cancelGrace := by
  have hcancel (ids : List RequestId) :
      ∀ event ∈ ids.map ExchangeEvent.cancel, event.Grants s.settings.cancelGrace := fun event he => by
    obtain ⟨id, -, rfl⟩ := List.mem_map.1 he
    trivial
  intro event he
  cases action with
  | uninstall => exact hcancel _ event he
  | reconcile trigger =>
    simp only [events, Reconciler.startEvents] at he
    split at he
    · exact absurd he List.not_mem_nil
    · split_ifs at he
      · exact absurd he List.not_mem_nil
      · rcases List.mem_append.1 he with he | he
        · exact hcancel _ event he
        · rw [List.mem_singleton.1 he]
          rfl
  | settle | wait _ | attach _ | detach _ =>
    rw [List.mem_singleton.1 he]
    trivial
  | _ => exact absurd he List.not_mem_nil

theorem reported_cancel (x : Exchange) (ids : List RequestId) :
    x.reported (ids.map .cancel) = [] := by
  induction ids generalizing x with
  | nil => rfl
  | cons id ids ih => exact ih _

/-- Beginning a cycle ends no request. -/
theorem reported_startEvents (x : Exchange) (r : Reconciler) (w : Workspace)
    (settings : FoldingSettings) (trigger : Trigger) :
    x.reported (r.startEvents w settings trigger) = [] := by
  rw [Reconciler.startEvents]
  split
  · rfl
  · split_ifs
    · rfl
    · rw [Exchange.reported_append, reported_cancel]
      rfl

theorem reconciler_advance (s : FoldingSession) (time : Nat) :
    (s.advance time).reconciler = { s.reconciler with
      cycles := Reconciler.recordAll (s.exchange.advance time).2 s.reconciler.cycles } :=
  s.reconciler.fst_receiveAll s.workspace s.settings.collapseImports _

namespace KeepsTrack

variable (h : s.KeepsTrack log) (action : FoldingAction)

include h

/-- Settling waits for every request that is open. -/
theorem isFinished_settle : ∀ q ∈ (s.act .settle).1.exchange.requests, q.isFinished := by
  intro q hq
  obtain ⟨q', hq', rfl⟩ := List.mem_map.1 hq
  rw [Request.isFinished_advance]
  cases hopen : q'.isFinished with
  | true => rfl
  | false =>
    simpa using Exchange.le_finishTime (h.holds.mem q' hq' hopen)
      (Exchange.request?_of_mem h.consistent.numbered.nodup hq') hopen

/-- **No action loses a request.** -/
theorem holds_act : (s.act action).1.reconciler.Holds (s.act action).1.exchange := by
  cases action with
  | uninstall => exact (h.holds.cancelAll s.reconciler.requests).congr rfl rfl rfl
  | reconcile trigger =>
    exact h.holds.start h.consistent.numbered s.workspace s.settings trigger
  | settle =>
    refine (s.reconciler.holds_letGo h.isFinished_settle).congr ?_ ?_ ?_
    all_goals simp only [FoldingSession.act, settle, reconciler_advance]
    exact Reconciler.newest_recordAll _ _
  | wait time =>
    have hadvance := h.holds.perform (.advance (s.exchange.now + time)) rfl
    refine hadvance.congr ?_ ?_ ?_
    all_goals simp only [FoldingSession.act, reconciler_advance]
    exact Reconciler.newest_recordAll _ _
  | edit offset length text isTracked =>
    obtain ⟨workspace, heq⟩ := s.exists_act_edit_eq offset length text isTracked
    rw [heq]
    exact h.holds
  | attach server => exact h.holds.perform (.attach server) rfl
  | detach name => exact h.holds.perform (.detach name) rfl
  | install isNew => cases isNew <;> exact h.holds.congr rfl rfl rfl
  | _ => exact h.holds.congr rfl rfl rfl

/-- What has come back belongs to requests that were sent. -/
theorem id_le_of_mem {e : RequestId × Answer} (he : e ∈ log) : e.1 ≤ s.exchange.requests.length := by
  obtain ⟨q, hq, hended⟩ := List.mem_filterMap.1 (h.ended_perm.mem_iff.2 he)
  obtain ⟨_, -, rfl⟩ := Option.map_eq_some_iff.1 hended
  exact h.consistent.numbered.id_le hq

/-- The cycles behind time that passes. -/
theorem cycles_advance (time : Nat) :
    (s.advance time).reconciler.cycles =
      Reconciler.recordAll (log ++ s.exchange.reported [.advance time])
        ((s.advance time).reconciler.cycles.map Cycle.blank) := by
  have hreported : s.exchange.reported [.advance time] = (s.exchange.advance time).2 :=
    List.append_nil _
  rw [reconciler_advance, Reconciler.map_blank_recordAll, Reconciler.recordAll_append,
    ← h.cycles_eq, hreported]

/-- The cycles behind the beginning of a cycle. -/
theorem cycles_start (trigger : Trigger) :
    (s.act (.reconcile trigger)).1.reconciler.cycles = Reconciler.recordAll log
      ((s.act (.reconcile trigger)).1.reconciler.cycles.map Cycle.blank) := by
  obtain hidle | ⟨id, d, uri, -, -, hbegan⟩ :=
    Reconciler.start_cases s.exchange s.settings s.reconciler s.workspace trigger
  · have hsame : (s.act (.reconcile trigger)).1.reconciler = s.reconciler := congrArg Prod.fst hidle
    rw [hsame]
    exact h.cycles_eq
  · have hcycles : (s.act (.reconcile trigger)).1.reconciler.cycles = s.reconciler.cycles ++
        [{ document := id, requests := (s.act (.reconcile trigger)).1.reconciler.requests }] :=
      hbegan.cycles_eq
    -- nothing has come back yet for the requests of the new cycle
    have hnew : ∀ e ∈ log, e.1 ∉ (s.act (.reconcile trigger)).1.reconciler.requests :=
      fun e he hmem => (hbegan.length_lt hmem).not_ge (h.id_le_of_mem he)
    rw [hcycles, List.map_append, List.map_singleton,
      Reconciler.recordAll_append_singleton _ hnew, ← h.cycles_eq]
    rfl

/-- **The cycles change by continuations alone**, but for those that begin. -/
theorem cycles_act : (s.act action).1.reconciler.cycles =
    Reconciler.recordAll (log ++ s.exchange.reported (s.events action))
      ((s.act action).1.reconciler.cycles.map Cycle.blank) := by
  have hkept : Reconciler.recordAll (log ++ []) (s.reconciler.cycles.map Cycle.blank) =
      s.reconciler.cycles := by rw [List.append_nil, ← h.cycles_eq]
  cases action with
  | uninstall =>
    rw [events, reported_cancel]
    exact hkept.symm
  | reconcile trigger =>
    rw [events, reported_startEvents, List.append_nil]
    exact h.cycles_start trigger
  | settle =>
    have hsettle := h.cycles_advance
      (s.exchange.finishTime (s.reconciler.requests ++ s.reconciler.superseded))
    simp only [reconciler_advance] at hsettle
    simp only [FoldingSession.act, settle, reconciler_advance, events]
    exact hsettle
  | wait time => exact h.cycles_advance (s.exchange.now + time)
  | edit offset length text isTracked =>
    obtain ⟨workspace, heq⟩ := s.exists_act_edit_eq offset length text isTracked
    rw [heq]
    exact hkept.symm
  | install isNew => cases isNew <;> exact hkept.symm
  | _ => exact hkept.symm

theorem act : (s.act action).1.KeepsTrack (log ++ s.exchange.reported (s.events action)) where
  consistent := by
    rw [s.exchange_act]
    exact h.consistent.run _
  graced := by
    rw [s.exchange_act, s.settings_act]
    exact h.graced.run (s.grants_events action)
  holds := h.holds_act action
  ended_perm := by
    rw [s.exchange_act]
    exact (s.exchange.ended_run _).trans (h.ended_perm.append_right _)
  cycles_eq := h.cycles_act action

theorem acts (actions : List FoldingAction) :
    (s.acts actions).KeepsTrack (log ++ s.received actions) := by
  induction actions generalizing s log with
  | nil => rwa [received, List.append_nil]
  | cons action actions ih =>
    rw [received, ← List.append_assoc]
    exact ih (h.act action)

/-- What is open belongs to the newest cycle, or is abandoned. -/
theorem count_held_of_open {q : Request} (hq : q ∈ s.exchange.requests)
    (hopen : q.isFinished = false) :
    (s.reconciler.requests ++ s.reconciler.superseded).count q.id = 1 ∧
      (q.id ∉ s.reconciler.newest → q.isCancelled ∧ q.isTold) := by
  have hmem := h.holds.mem q hq hopen
  refine ⟨List.count_eq_one_of_mem h.holds.nodup hmem, fun hold => ?_⟩
  have hsuperseded := (List.mem_append.1 hmem).resolve_left fun hid => hold (h.holds.newest _ hid)
  obtain ⟨hcancelled, hended⟩ := h.holds.abandons _ hsuperseded q hq rfl
  exact ⟨hcancelled, hended.resolve_left (Bool.eq_false_iff.1 hopen)⟩

/-- Each request that has ended has come back once, with its answer. -/
theorem log_filter {q : Request} (hq : q ∈ s.exchange.requests) :
    log.filter (·.1 == q.id) = (q.ended.map fun e => (q.id, e.2)).toList := by
  have hnodup := h.consistent.numbered.nodup
  have hperm := h.ended_perm.filter (·.1 == q.id)
  rw [Exchange.ended_filter hnodup (Exchange.request?_of_mem hnodup hq)] at hperm
  exact Exchange.eq_toList_of_perm hperm

/-- When a cycle begins, the requests sent before have as long as the grace lasts. -/
theorem expires_of_began {trigger : Trigger}
    (hbegins : (s.act (.reconcile trigger)).1.reconciler.cycles ≠ s.reconciler.cycles) :
    (s.act (.reconcile trigger)).1.exchange.Expires s.exchange.requests.length
      (s.exchange.now + s.settings.cancelGrace) := by
  have h' := h.act (.reconcile trigger)
  obtain hidle | ⟨id, d, uri, -, -, hbegan⟩ :=
    Reconciler.start_cases s.exchange s.settings s.reconciler s.workspace trigger
  · exact absurd (congrArg (·.1.cycles) hidle) hbegins
  · refine ⟨s.exchange_act (.reconcile trigger) ▸ s.exchange.length_le_run _,
      fun q hq hid hopen => ?_⟩
    -- an old request is superseded, so that it has a deadline, which the grace bounds
    have hsuperseded := (List.mem_append.1 (h'.holds.mem q hq hopen)).resolve_left fun hmem =>
      (hbegan.length_lt hmem).not_ge hid
    obtain ⟨-, hended⟩ := h'.holds.abandons q.id hsuperseded q hq rfl
    obtain ⟨deadline, hdeadline⟩ := Option.isSome_iff_exists.1
      (hended.resolve_left (Bool.eq_false_iff.1 hopen))
    have hnow : (s.act (.reconcile trigger)).1.exchange.now = s.exchange.now :=
      s.reconciler.now_start s.workspace s.exchange s.settings trigger
    have hle := h'.graced.deadline_le q hq deadline hdeadline
    rw [hnow, s.settings_act] at hle
    exact ⟨deadline, hdeadline, hle⟩

end KeepsTrack

/-! ## Runs -/

theorem expires_acts {count time : Nat} (h : s.exchange.Expires count time)
    (actions : List FoldingAction) : (s.acts actions).exchange.Expires count time := by
  induction actions generalizing s with
  | nil => exact h
  | cons action actions ih => exact ih (s.exchange_act action ▸ h.run _)

/-- When the grace is over, the first requests have ended. -/
theorem KeepsTrack.isFinished_of_expires (h : s.KeepsTrack log) {count time : Nat}
    (hexpires : s.exchange.Expires count time) {q : Request} (hq : q ∈ s.exchange.requests)
    (hid : q.id ≤ count) :
    (time < s.exchange.now → q.isFinished) ∧
      ∀ delay, time ≤ s.exchange.now + delay →
        (s.act (.wait delay)).1.exchange.isFinished q.id := by
  refine ⟨hexpires.isFinished hq hid h.consistent.timely, fun delay hdelay => ?_⟩
  have hrequest : (s.act (.wait delay)).1.exchange.request? q.id =
      some (q.advance (s.exchange.now + delay)) :=
    Exchange.request?_perform (Exchange.request?_of_mem h.consistent.numbered.nodup hq)
      (.advance (s.exchange.now + delay))
  rw [Exchange.isFinished, hrequest, Option.any_some, Request.isFinished_advance]
  cases hopen : q.isFinished with
  | true => rfl
  | false => simpa using (hexpires.finish_le hq hid hopen).trans hdelay

/-- **No folding request is lost.** In every run, each open request is held once, and it was signalled
unless it is of the newest cycle. A request ends at the latest when the grace is over after a cycle
that began when it was there. The continuation of each request that has ended was run once, with its
answer, and the cycles are what these continuations made of them. When the session has settled, no
request is open. -/
theorem requests_in_custody (servers : List RecordedServer) (settings : FoldingSettings)
    (document : Document) (isBare : Bool) (actions : List FoldingAction) :
    let s₀ := start servers settings document isBare
    let s := s₀.acts actions
    (∀ q ∈ s.exchange.requests, q.isFinished = false →
      (s.reconciler.requests ++ s.reconciler.superseded).count q.id = 1 ∧
        (q.id ∉ s.reconciler.newest → q.isCancelled ∧ q.isTold)) ∧
    (∀ before trigger later, actions = before ++ .reconcile trigger :: later →
      let old := s₀.acts before
      (old.act (.reconcile trigger)).1.reconciler.cycles ≠ old.reconciler.cycles →
      ∀ q ∈ s.exchange.requests, q.id ≤ old.exchange.requests.length →
        (old.exchange.now + settings.cancelGrace < s.exchange.now → q.isFinished) ∧
          ∀ delay, old.exchange.now + settings.cancelGrace ≤ s.exchange.now + delay →
            (s.act (.wait delay)).1.exchange.isFinished q.id) ∧
    (∀ q ∈ s.exchange.requests, (s₀.received actions).filter (·.1 == q.id) =
      (q.ended.map fun e => (q.id, e.2)).toList) ∧
    s.reconciler.cycles =
      Reconciler.recordAll (s₀.received actions) (s.reconciler.cycles.map Cycle.blank) ∧
    ∀ q ∈ (s.act .settle).1.exchange.requests, q.isFinished := by
  intro s₀ s
  have htrack (actions : List FoldingAction) : (s₀.acts actions).KeepsTrack (s₀.received actions) :=
    (keepsTrack_start servers settings document isBare).acts actions
  have h := htrack actions
  refine ⟨fun q => h.count_held_of_open, ?_, fun q => h.log_filter, h.cycles_eq,
    h.isFinished_settle⟩
  rintro before trigger later hactions old hbegins q hq hid
  have hexpires := expires_acts ((htrack before).expires_of_began hbegins) later
  have hrun : s = ((old.act (.reconcile trigger)).1).acts later := by
    change s₀.acts actions = _
    rw [hactions, acts_append]
    rfl
  have hsettings : old.settings = settings := s₀.settings_acts before
  rw [← hrun, hsettings] at hexpires
  exact h.isFinished_of_expires hexpires hq hid

/-- A session with a server that hangs and ignores signals, where each request has a grace of 10
milliseconds. -/
def hung : FoldingSession :=
  let response : RecordedResponse := { delay := 3600000, ignoresCancel := true }
  let server : RecordedServer :=
    { name := "a", capabilities := { folding := true }
      responses := [("textDocument/foldingRange", response)] }
  start [server] { cancelGrace := 10 } { text := ['a', 'b'], uri := some "file:///a" } false

/-- The first request is open and signalled when a second one is sent, and has ended 10 milliseconds
later. The second one has ended when the session has settled. -/
theorem requests_in_custody_of_hung :
    let before : List FoldingAction := [.reconcile .initial, .wait 200, .edit 0 0 ['c'] false]
    let s := hung.acts (before ++ [.reconcile .dirtyRegion])
    s.reconciler.requests = [2] ∧ s.reconciler.superseded = [1] ∧
      s.exchange.requests.map (fun q => (q.id, q.isFinished, q.isTold)) =
        [(1, false, true), (2, false, false)] ∧
      (s.act (.wait 10)).1.exchange.isFinished 1 ∧
      ∀ q ∈ (s.act .settle).1.exchange.requests, q.isFinished := by
  intro before s
  obtain ⟨-, hgrace, -, -, hsettled⟩ :=
    requests_in_custody _ _ _ _ (before ++ [.reconcile .dirtyRegion])
  have hrequests : s.exchange.requests.map (fun q => (q.id, q.isFinished, q.isTold)) =
      [(1, false, true), (2, false, false)] := by cbv
  obtain ⟨q, hq, heq⟩ : ∃ q ∈ s.exchange.requests, (q.id, q.isFinished, q.isTold) = (1, false, true) :=
    List.mem_map.1 (hrequests ▸ List.mem_cons_self)
  have hid : q.id = 1 := congrArg Prod.fst heq
  have hbegins : ((hung.acts before).act (.reconcile .dirtyRegion)).1.reconciler.cycles ≠
      (hung.acts before).reconciler.cycles := fun h => by
    have hlength : ((hung.acts before).act (.reconcile .dirtyRegion)).1.reconciler.cycles.length ≠
      (hung.acts before).reconciler.cycles.length := by cbv
    exact hlength (congrArg List.length h)
  have hended := (hgrace before .dirtyRegion [] rfl hbegins q hq (hid ▸ by cbv)).2 10 (by cbv)
  exact ⟨by cbv, by cbv, hrequests, hid ▸ hended, hsettled⟩

end FoldingSession

end LanguageClient
