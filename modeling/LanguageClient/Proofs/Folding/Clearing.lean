import LanguageClient.Proofs.Folding.Mirroring
import Mathlib

/-!
# When an answer clears the folds

A model with folds has none left behind an answer in two cases (`Editor.foldSpans_cleared_iff`): all
requests of the cycle have succeeded without any range, or there are ranges, but none of them can be
shown. The second case asks nothing of the other requests. One server that reports a range from a
line to an earlier one clears the folds of all while another one has yet to answer
(`Editor.foldSpans_cleared_while_waiting`).
-/

namespace LanguageClient

theorem Document.foldsAt_eq_zero_iff {d : Document} {lines : Finset (Nat × Nat)} :
    d.foldsAt lines = 0 ↔
      ∀ l ∈ lines, l.1 ≤ l.2 → l.2 < d.lineCount → (d.spanOfLines l).isDecayed := by
  rw [foldsAt, Multiset.filter_eq_nil]
  simp only [Multiset.mem_map, Finset.mem_val, Finset.mem_filter]
  constructor
  · intro h l hl hinOrder hwithin
    simpa using h _ ⟨l, ⟨hl, hinOrder, hwithin⟩, rfl⟩
  · rintro h _ ⟨l, ⟨hl, hinOrder, hwithin⟩, rfl⟩
    simpa using h l hl hinOrder hwithin

namespace Editor

namespace IsSound

variable {e : Editor} (h : e.IsSound) {c : Cycle} (hc : c ∈ e.reconciler.cycles) {id : RequestId}
  (hid : id ∈ c.requests) {answer : Answer} (hopen : e.exchange.isOpen id) {mid : ModelId}
  {m : AnnotationModel} (hm : e.workspace.models[mid]? = some m) (hfolds : m.foldSpans ≠ [])

include h hc hid hopen hm hfolds

/-- An answer that clears the folds of a model takes effect on it. -/
theorem takesEffect_of_cleared {m' : AnnotationModel}
    (hm' : (e.after (.answer id answer)).workspace.models[mid]? = some m')
    (hcleared : m'.foldSpans = []) :
    e.TakesEffect c id answer ∧ e.reconciler.attached = some mid := by
  by_cases heffect : e.TakesEffect c id answer
  · refine ⟨heffect, ?_⟩
    obtain ⟨mid', d, m'', hattached, -, -, hworkspace, -⟩ :=
      h.exists_workspace_after_eq_setModel hc hid hopen heffect
    -- another model than the attached one keeps its folds
    by_contra hne
    rw [hattached, Option.some.injEq] at hne
    rw [hworkspace, Workspace.setModel, List.getElem?_set_ne hne, hm] at hm'
    exact hfolds (Option.some.inj hm' ▸ hcleared)
  · rw [h.workspace_after_of_not_takesEffect hc hid hopen heffect, hm] at hm'
    exact absurd (Option.some.inj hm' ▸ hcleared) hfolds

theorem cleared_iff :
    (∃ m', (e.after (.answer id answer)).workspace.models[mid]? = some m' ∧ m'.foldSpans = []) ↔
      e.TakesEffect c id answer ∧ e.reconciler.attached = some mid ∧
        ∃ d, e.workspace.documents[c.document]? = some d ∧
          d.foldsAt ((e.exchange.conclude id answer).reportedLines c.requests) = 0 := by
  have hafter : e.TakesEffect c id answer → e.reconciler.attached = some mid →
      ∃ d m', e.workspace.documents[c.document]? = some d ∧
        (e.after (.answer id answer)).workspace.models[mid]? = some m' ∧
        (m'.foldSpans : Multiset Span) =
          d.foldsAt ((e.exchange.conclude id answer).reportedLines c.requests) := by
    intro heffect hattached
    obtain ⟨mid', d, m', hattached', hlt, hd, hworkspace, hshown⟩ :=
      h.exists_workspace_after_eq_setModel hc hid hopen heffect
    obtain rfl := Option.some.inj (hattached.symm.trans hattached')
    exact ⟨d, m', hd, by rw [hworkspace]; exact List.getElem?_set_self hlt, hshown⟩
  constructor
  · rintro ⟨m', hm', hcleared⟩
    obtain ⟨heffect, hattached⟩ := h.takesEffect_of_cleared hc hid hopen hm hfolds hm' hcleared
    obtain ⟨d, m'', hd, hm'', hshown⟩ := hafter heffect hattached
    obtain rfl := Option.some.inj (hm'.symm.trans hm'')
    exact ⟨heffect, hattached, d, hd, by rw [← hshown, hcleared]; rfl⟩
  · rintro ⟨heffect, hattached, d, hd, hnone⟩
    obtain ⟨d', m', hd', hm', hshown⟩ := hafter heffect hattached
    obtain rfl := Option.some.inj (hd.symm.trans hd')
    exact ⟨m', hm', (Multiset.coe_eq_zero _).1 (hshown.trans hnone)⟩

end IsSound

/-- **When folds are cleared.** In every run, an answer to a cycle leaves a model that had folds with
none if and only if it is a success, the cycle's document is bound, the model is attached, and either
all requests of the cycle have succeeded and nothing has been reported, or something has been
reported, but no range of it is in order, within the document and not empty. -/
theorem foldSpans_cleared_iff {e₀ : Editor} {events : List EditorEvent} (hfresh : e₀.IsFresh)
    (hrun : e₀.CanRun events) {c : Cycle} (hc : c ∈ (e₀.run events).reconciler.cycles)
    {id : RequestId} (hid : id ∈ c.requests) {answer : Answer}
    (hallows : (e₀.run events).allows (.answer id answer)) {mid : ModelId} {m : AnnotationModel}
    (hm : (e₀.run events).workspace.models[mid]? = some m) (hfolds : m.foldSpans ≠ []) :
    let e := e₀.run events
    let e' := e.after (.answer id answer)
    (∃ m', e'.workspace.models[mid]? = some m' ∧ m'.foldSpans = []) ↔
      FoldingAnswer.ofAnswer? answer ≠ none ∧ e.reconciler.document = some c.document ∧
        e.reconciler.attached = some mid ∧
        ((e'.exchange.reportedLines c.requests = ∅ ∧ e'.exchange.AllSucceeded c.requests) ∨
          (e'.exchange.reportedLines c.requests ≠ ∅ ∧
            ∃ d, e.workspace.documents[c.document]? = some d ∧
              ∀ l ∈ e'.exchange.reportedLines c.requests, l.1 ≤ l.2 → l.2 < d.lineCount →
                (d.spanOfLines l).isDecayed)) := by
  intro e e'
  have h : e.IsSound := hfresh.isSound.run hrun
  rw [h.cleared_iff hc hid hallows hm hfolds, TakesEffect, Option.isSome_iff_ne_none]
  simp only [Document.foldsAt_eq_zero_iff]
  constructor
  · rintro ⟨⟨hsome, hdocument, -, heffect⟩, hattached, d, hd, hnone⟩
    refine ⟨hsome, hdocument, hattached, ?_⟩
    by_cases hempty : e'.exchange.reportedLines c.requests = ∅
    · exact .inl ⟨hempty, heffect.resolve_left (absurd hempty)⟩
    · exact .inr ⟨hempty, d, hd, hnone⟩
  · rintro ⟨hsome, hdocument, hattached, ⟨hempty, hall⟩ | ⟨hreported, hnone⟩⟩
    · have hd := List.getElem?_eq_getElem (h.within.document c.document hdocument)
      refine ⟨⟨hsome, hdocument, by rw [hattached]; rfl, .inr hall⟩, hattached, _, hd, fun l hl => ?_⟩
      rw [← exchange_after_answer, hempty] at hl
      exact absurd hl (Finset.notMem_empty l)
    · exact ⟨⟨hsome, hdocument, by rw [hattached]; rfl, .inl hreported⟩, hattached, hnone⟩

/-- Two servers are asked twice, and one of them answers the first time with a range, which is
shown. -/
def askedTwice : List EditorEvent :=
  [.bind (some 0), .install 0, .reconcile .initial, .reconcile .initial,
    .answer 1 (.reporting [(0, 1)])]

/-- The folds go once both have answered the second time that there is none. -/
theorem foldSpans_cleared_of_unanimous :
    let e := (ofServers ["a", "b"]).run (askedTwice ++ [.answer 3 (.reporting [])])
    e.workspace.models.map (·.foldSpans) = [[⟨0, 4⟩]] ∧
    ∃ m, (e.after (.answer 4 (.reporting []))).workspace.models[0]? = some m ∧
      m.foldSpans = [] := by
  have hfolds : ((ofServers ["a", "b"]).run (askedTwice ++
      [.answer 3 (.reporting [])])).workspace.models.map (·.foldSpans) = [[⟨0, 4⟩]] := by cbv
  refine ⟨hfolds, ?_⟩
  obtain ⟨m, hm, hfold⟩ : ∃ m, ((ofServers ["a", "b"]).run (askedTwice ++
      [.answer 3 (.reporting [])])).workspace.models[0]? = some m ∧ m.foldSpans = [⟨0, 4⟩] := by
    rw [← Option.map_eq_some_iff, ← List.getElem?_map, hfolds]
    rfl
  let c : Cycle := { document := 0, requests := [3, 4], succeeded := 1 }
  have hc : c ∈ ((ofServers ["a", "b"]).run (askedTwice ++
      [.answer 3 (.reporting [])])).reconciler.cycles := by decide
  refine (foldSpans_cleared_iff (isFresh_ofServers ["a", "b"]) (by decide) hc (by decide) (by decide)
    hm (by rw [hfold]; decide)).2 ⟨by decide, by decide, by decide, .inl ⟨by decide, by decide⟩⟩

/-- One server reports a range from a line to the one before, and the other one has not answered. -/
theorem foldSpans_cleared_while_waiting :
    let e := (ofServers ["a", "b"]).run askedTwice
    let e' := e.after (.answer 3 (.reporting [(2, 1)]))
    (ofServers ["a", "b"]).IsFresh ∧
      (ofServers ["a", "b"]).CanRun (askedTwice ++ [.answer 3 (.reporting [(2, 1)])]) ∧
      { document := 0, requests := [3, 4] } ∈ e.reconciler.cycles ∧
      e.workspace.models.map (·.foldSpans) = [[⟨0, 4⟩]] ∧
      e'.workspace.models.map (·.foldSpans) = [[]] ∧ e'.exchange.isOpen 4 :=
  ⟨isFresh_ofServers _, by decide, by decide, by cbv, by cbv, by decide⟩

end Editor

end LanguageClient
