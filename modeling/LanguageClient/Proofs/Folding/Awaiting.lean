import LanguageClient.Proofs.Folding.ArrivalOrder
import LanguageClient.Proofs.Folding.Sessions
import Mathlib

/-!
# Asking for folds once

A new session asks all servers that support folding, and somebody waits until all of them have
answered. Such a session awaits its servers (`FoldingSession.Awaits`): to wait is to run through
their answers, in whatever order they come in (`FoldingSession.Awaits.exists_later`). So its folds
are those of all pairs of lines that are reported (`FoldingSession.coe_foldSpans_settle`).
-/

namespace LanguageClient

namespace Editor

/-! ## Runs of waiting -/

theorem answersIn_ending (rs : List Request) (time : Nat) :
    answersIn (ending rs time) = rs.map fun r => (r.id, r.finish.2) := by
  induction rs with
  | nil => rfl
  | cons r rs ih => exact congrArg _ ih

theorem isWaiting_or_answered_of_mem_ending {rs : List Request} {time : Nat} {event : EditorEvent}
    (h : event ∈ ending rs time) : event.isWaiting ∨ event.answered?.isSome := by
  simp only [ending, List.mem_append, List.mem_flatMap, List.mem_cons, List.not_mem_nil, or_false]
    at h
  rcases h with ⟨r, -, rfl | rfl⟩ | rfl
  · exact .inl rfl
  · exact .inr rfl
  · exact .inl rfl

theorem workspace_run_of_isWaiting (e : Editor) {later : List EditorEvent}
    (h : ∀ event ∈ later, event.isWaiting) : (e.run later).workspace = e.workspace := by
  induction later generalizing e with
  | nil => rfl
  | cons event later ih =>
    obtain ⟨hevent, hlater⟩ := List.forall_mem_cons.1 h
    have hafter : (e.after event).workspace = e.workspace := by
      cases event <;> first | rfl | cases hevent
    exact (ih _ hlater).trans hafter

end Editor

/-! ## What servers report -/

namespace RecordedServer

/-- Whether a server is asked for folding ranges. -/
def supportsFolding (server : RecordedServer) : Bool :=
  Capability.foldingRange.isSupportedBy server.capabilities

/-- What a server answers that is asked for folding ranges. -/
def foldingAnswer (server : RecordedServer) : Answer :=
  server.answerTo RequestKind.foldingRange.method

/-- The ranges that a server reports, if it is asked for them. -/
def foldingRanges (server : RecordedServer) : List FoldingRange :=
  if server.supportsFolding then server.foldingAnswer.ranges else []

end RecordedServer

/-- All pairs of lines that servers report. -/
def reportedLinesOf (servers : List RecordedServer) : Finset (Nat × Nat) :=
  ((servers.flatMap (·.foldingRanges)).map (·.lines)).toFinset

theorem mem_reportedLinesOf {servers : List RecordedServer} {lines : Nat × Nat} :
    lines ∈ reportedLinesOf servers ↔
      ∃ server ∈ servers, ∃ r ∈ server.foldingRanges, r.lines = lines := by
  rw [reportedLinesOf, List.mem_toFinset, List.map_flatMap, List.mem_flatMap]
  simp only [List.mem_map]

theorem mem_reportedLinesOf_iff_exists_answer {servers : List RecordedServer} {lines : Nat × Nat} :
    lines ∈ reportedLinesOf servers ↔
      ∃ answer ∈ (servers.filter (·.supportsFolding)).map (·.foldingAnswer),
        lines ∈ answer.ranges.map (·.lines) := by
  rw [mem_reportedLinesOf]
  simp only [List.mem_map, exists_exists_and_eq_and, List.mem_filter]
  constructor
  · rintro ⟨server, hserver, r, hr, hlines⟩
    rw [RecordedServer.foldingRanges] at hr
    split_ifs at hr with hsupported
    · exact ⟨server, ⟨hserver, hsupported⟩, r, hr, hlines⟩
    · cases hr
  · rintro ⟨server, ⟨hserver, hsupported⟩, hlines⟩
    exact ⟨server, hserver, by rwa [RecordedServer.foldingRanges, if_pos hsupported]⟩

theorem Exchange.map_snd_qualifying_ofServers (servers : List RecordedServer)
    (qualifies : RecordedServer → Bool) :
    ((ofServers servers).qualifying qualifies).map (·.2) = servers.filter qualifies := by
  conv_rhs => rw [← List.zipIdx_map_fst 0 servers, List.filter_map, ← List.filterMap_eq_filter,
    List.map_filterMap]
  rw [qualifying, ofServers, List.zipIdx_map, List.filterMap_map, List.map_filterMap]
  refine List.filterMap_congr fun e _ => ?_
  by_cases h : qualifies e.1 <;> simp [h, Option.guard]

namespace FoldingSession

/-! ## Waiting for the answers -/

/-- A session whose requests are open, belong to its newest cycle, and have been sent to those
among some servers that support folding. -/
structure Awaits (s : FoldingSession) (servers : List RecordedServer) : Prop where
  isSound : s.IsSound
  requests_eq : s.reconciler.requests = s.exchange.requests.map (·.id)
  isOpen : ∀ r ∈ s.exchange.requests, r.isFinished = false
  answers_eq : s.exchange.requests.map (·.finish.2) =
    (servers.filter (·.supportsFolding)).map (·.foldingAnswer)

/-- Waiting for the requests of the reconciler is a run through their ends. -/
theorem IsSound.editor_settle {s : FoldingSession} (h : s.IsSound) {time : Nat}
    (htime : time = s.exchange.finishTime (s.reconciler.requests ++ s.reconciler.superseded)) :
    s.settle.editor = s.editor.run (.settle :: Editor.ending (s.exchange.ending time) time) := by
  subst htime
  have hnodup := Exchange.IsNumbered.nodup h.letGo.editor.serves.numbered
  exact (Editor.run_ending_advance hnodup h.letGo.isTimely _).2.symm

namespace Awaits

variable {s : FoldingSession} {servers : List RecordedServer} (h : s.Awaits servers)

include h

theorem reportedBy_eq : reportedBy (s.exchange.requests.map fun r => (r.id, r.finish.2)) =
    reportedLinesOf servers := by
  ext lines
  rw [mem_reportedLinesOf_iff_exists_answer, ← h.answers_eq]
  simp [mem_reportedBy]

/-- Who waits for the requests waits until all of them have ended. -/
theorem ending_perm {time : Nat}
    (htime : time = s.exchange.finishTime (s.reconciler.requests ++ s.reconciler.superseded)) :
    (s.exchange.ending time).Perm s.exchange.requests := by
  have hnodup := Exchange.IsNumbered.nodup h.isSound.editor.serves.numbered
  have hall : s.exchange.requests.filter (·.endsBy time) = s.exchange.requests := by
    refine List.filter_eq_self.2 fun r hr => ?_
    have hmem : r.id ∈ s.reconciler.requests := by
      rw [h.requests_eq]
      exact List.mem_map_of_mem hr
    have hfinish : r.finish.1 ≤ time := htime ▸ Exchange.le_finishTime (List.mem_append_left _ hmem)
      (Exchange.request?_of_mem hnodup hr) (h.isOpen r hr)
    simpa [Request.endsBy, h.isOpen r hr] using hfinish
  rw [Exchange.ending, hall]
  exact List.mergeSort_perm _ _

/-- Waiting brings all that the servers report, and only that. -/
theorem exists_later : ∃ later, s.settle.editor = s.editor.run later ∧
    (∀ event ∈ later, event.isWaiting ∨ event.answered?.isSome) ∧
    ((answersIn later).map (·.1)).Perm s.reconciler.requests ∧
    reportedBy (answersIn later) = reportedLinesOf servers := by
  obtain ⟨time, htime⟩ : ∃ time, time =
    s.exchange.finishTime (s.reconciler.requests ++ s.reconciler.superseded) := ⟨_, rfl⟩
  have hperm := h.ending_perm htime
  have hanswers : answersIn (.settle :: Editor.ending (s.exchange.ending time) time) =
      (s.exchange.ending time).map fun r => (r.id, r.finish.2) := Editor.answersIn_ending ..
  refine ⟨_, h.isSound.editor_settle htime, List.forall_mem_cons.2
    ⟨.inl rfl, fun event => Editor.isWaiting_or_answered_of_mem_ending⟩, ?_, ?_⟩
  · rw [hanswers, List.map_map, h.requests_eq]
    exact hperm.map _
  · rw [hanswers, reportedBy_eq_of_perm (hperm.map _), h.reportedBy_eq]

/-- If nobody has been asked, nothing happens while waiting. -/
theorem workspace_settle (hnone : s.reconciler.requests = []) :
    s.settle.workspace = s.workspace ∧ reportedLinesOf servers = ∅ := by
  obtain ⟨later, hsettle, hlater, hanswered, hreported⟩ := h.exists_later
  rw [hnone, List.perm_nil, List.map_eq_nil_iff] at hanswered
  have hwaiting : ∀ event ∈ later, event.isWaiting := fun event hevent =>
    (hlater event hevent).resolve_right
      (by simp [List.filterMap_eq_nil_iff.1 hanswered event hevent])
  constructor
  · calc
      s.settle.workspace = (s.editor.run later).workspace := congrArg (·.workspace) hsettle
      _ = s.workspace := s.editor.workspace_run_of_isWaiting hwaiting
  · rw [← hreported, hanswered]
    rfl

end Awaits

/-! ## New sessions -/

section Start

variable (servers : List RecordedServer) (settings : FoldingSettings) (d : Document)

/-- A new session in which all servers have been asked. -/
def asking : FoldingSession := ((start servers settings d false).act (.reconcile .initial)).1

variable {d}

theorem target?_start {uri : String} (huri : d.uri = some uri) :
    (start servers settings d false).reconciler.target?
      (start servers settings d false).workspace = some (0, d, uri) :=
  Reconciler.target?_eq_some_iff.2 ⟨rfl, rfl, rfl, rfl, huri⟩

theorem began_asking (huri : d.uri.isSome) :
    (start servers settings d false).reconciler.Began (.ofServers servers) 0 d.stamp
      (asking servers settings d).reconciler (asking servers settings d).exchange := by
  obtain ⟨uri, huri⟩ := Option.isSome_iff_exists.1 huri
  exact Reconciler.began_start _ _ (target?_start servers settings huri)
    (by simp [Reconciler.isUpToDate])

/-- A request has been sent to each server that supports folding. -/
theorem exists_requests_asking (huri : d.uri.isSome) : ∃ params,
    (asking servers settings d).exchange.requests =
      ((Exchange.ofServers servers).qualifying (·.supportsFolding)).zipIdx.map fun e =>
        (Exchange.ofServers servers).requestTo settings.cancelGrace RequestKind.foldingRange.method
          params e.2 e.1 := by
  obtain ⟨uri, huri⟩ := Option.isSome_iff_exists.1 huri
  refine ⟨(RequestParams.foldingRange uri).toJson, ?_⟩
  have hexchange : (asking servers settings d).exchange =
      ((start servers settings d false).reconciler.start (start servers settings d false).workspace
        (.ofServers servers) settings .initial).2 := rfl
  rw [hexchange, Reconciler.start, target?_start servers settings huri]
  exact Exchange.requests_sendAll ..

theorem awaits_asking (huri : d.uri.isSome) : (asking servers settings d).Awaits servers := by
  have hends : (asking servers settings d).exchange.ends =
      (asking servers settings d).reconciler.requests.map (·, none) :=
    (began_asking servers settings huri).ends_eq
  refine ⟨(isSound_start ..).act _, ?_, fun r hr => ?_, ?_⟩
  · rw [← Exchange.map_fst_ends, hends, List.map_map]
    exact (List.map_id _).symm
  · have hmem : (r.id, r.ended) ∈ (asking servers settings d).exchange.ends :=
      List.mem_map.2 ⟨r, hr, rfl⟩
    obtain ⟨id, -, heq⟩ := List.mem_map.1 (hends ▸ hmem)
    rw [Request.isFinished, ← (Prod.mk.inj heq).2]
    rfl
  · obtain ⟨params, hrequests⟩ := exists_requests_asking servers settings huri
    rw [hrequests, ← Exchange.map_snd_qualifying_ofServers, List.map_map, List.map_map]
    conv_rhs => rw [← List.zipIdx_map_fst 0 ((Exchange.ofServers servers).qualifying _),
      List.map_map]
    refine List.map_congr_left fun e _ => ?_
    exact congrArg Prod.snd (Exchange.finish_requestTo ..)

/-- **Once all answers are in, the folds are those of all lines that have been reported.** -/
theorem coe_foldSpans_settle (huri : d.uri.isSome) :
    ((asking servers settings d).settle.currentModel.foldSpans : Multiset Span) =
      d.foldsAt (reportedLinesOf servers) := by
  have hawaits := awaits_asking servers settings huri
  have hbegan := began_asking servers settings huri
  have hmodel : (asking servers settings d).settle.currentModel =
    (asking servers settings d).settle.workspace.models.getD 0 .empty := rfl
  rw [hmodel]
  by_cases hnone : (asking servers settings d).reconciler.requests = []
  · obtain ⟨hworkspace, hreported⟩ := hawaits.workspace_settle hnone
    rw [hworkspace, hreported]
    rfl
  · let c : Cycle := { document := 0, requests := (asking servers settings d).reconciler.requests }
    obtain ⟨mid, d', h⟩ := (isSound_start servers settings d false).editor.isAnswering (c := c)
      hbegan.cycles_eq hnone
    obtain rfl : 0 = mid := Option.some.inj (hbegan.attached_eq.symm.trans h.attached_eq)
    obtain rfl : d = d' := Option.some.inj h.documents_eq
    have hc : c ∈ (asking servers settings d).reconciler.cycles := by
      rw [hbegan.cycles_eq]
      exact List.mem_append_right _ (List.mem_singleton_self c)
    obtain ⟨later, hsettle, hlater, hanswered, hreported⟩ := hawaits.exists_later
    obtain ⟨-, m, hworkspace, hshown, hunchanged⟩ :=
      h.exists_run_eq_setModel (h.isSound.serves.nodup hc) (m := .empty) rfl hlater hanswered
    have hm : (asking servers settings d).settle.workspace.models.getD 0 .empty = m :=
      congrArg (·.models.getD 0 .empty) ((congrArg (·.workspace) hsettle).trans hworkspace)
    rw [hm, ← hreported]
    by_cases hreports : reportedBy (answersIn later) ≠ ∅ ∨ AllSuccessful (answersIn later)
    · exact hshown hreports
    · rw [not_or, not_not] at hreports
      rw [hunchanged hreports.1 hreports.2, hreports.1]
      rfl

end Start

end FoldingSession

end LanguageClient
