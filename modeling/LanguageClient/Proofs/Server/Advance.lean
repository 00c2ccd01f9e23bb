import LanguageClient.Proofs.Server.Ends
import Mathlib

/-!
# Letting time pass

`Exchange.advance` ends all requests that are due in one go. `Editor.run_ending` shows that it comes
to the same if they end one after the other, each at its own time, provided that none of them was due
before (`Exchange.IsTimely`), which nothing that is done with requests can change.
-/

namespace LanguageClient

/-! ## Requests in time -/

/-- No open request is overdue. -/
def Exchange.IsTimely (x : Exchange) : Prop :=
  ∀ r ∈ x.requests, r.isFinished = false → x.now ≤ r.finish.1

/-- A request that has ended as it was to end. -/
def Request.close (r : Request) : Request := { r with ended := some r.finish }

namespace Request

theorem isFinished_signal (now : Nat) (r : Request) :
    (r.signal now).isFinished = r.isFinished := by
  rw [isFinished, isFinished, ended_signal]

/-- A signal puts no end into the past. -/
theorem le_finish_signal {now : Nat} {r : Request} (h : now ≤ r.finish.1) :
    now ≤ (r.signal now).finish.1 := by
  unfold signal
  split_ifs with htold hignores
  · exact h
  · have hdue : r.finish.1 = r.due := by
      rw [finish]
      cases hdeadline : r.deadline with
      | none => rfl
      | some deadline => simp [isTold, hdeadline] at htold
    rw [hdue] at h
    simp only [finish]
    split_ifs
    · exact Nat.le_add_right _ _
    · exact h
  · simp only [finish]
    split_ifs
    · exact Nat.le_add_right _ _
    · exact le_rfl

theorem advance_eq (now : Nat) (r : Request) :
    r.advance now = if r.endsBy now then r.close else r := rfl

end Request

namespace Exchange

namespace IsTimely

variable {x : Exchange} (h : x.IsTimely)

include h

theorem cancel (id : RequestId) : (x.cancel id).IsTimely := by
  unfold Exchange.cancel
  split
  · exact h
  · intro r hr hopen
    obtain ⟨r', hr', rfl⟩ := List.mem_map.1 hr
    change x.now ≤ _
    split_ifs at hopen ⊢
    · rw [Request.isFinished_signal] at hopen
      exact Request.le_finish_signal (h r' hr' hopen)
    · exact h r' hr' hopen

theorem cancelAll (ids : List RequestId) : (x.cancelAll ids).IsTimely := by
  unfold Exchange.cancelAll
  induction ids generalizing x with
  | nil => exact h
  | cons id ids ih => exact ih (h.cancel id)

theorem sendAll (grace : Nat) (method : String) (params : Json)
    (servers : List (Nat × RecordedServer)) :
    (Exchange.sendAll grace method params x servers).IsTimely := by
  induction servers generalizing x with
  | nil => exact h
  | cons s servers ih =>
    refine ih fun r hr hopen => ?_
    rcases List.mem_append.1 hr with hr | hr
    · exact h r hr hopen
    · rw [List.mem_singleton.1 hr, newRequest]
      split
      · exact Nat.le_add_right _ _
      · exact le_rfl

theorem dispatch (qualifies : RecordedServer → Bool) (grace : Nat) (method : String)
    (params : Json) : (x.dispatch qualifies grace method params).1.IsTimely :=
  h.sendAll grace method params _

/-- What is open behind a time ends behind it. -/
theorem advance (time : Nat) : (x.advance time).1.IsTimely := by
  intro r hr hopen
  obtain ⟨r', hr', rfl⟩ := List.mem_map.1 hr
  rw [Request.advance_eq] at hopen ⊢
  split_ifs at hopen ⊢ with hends
  · simp [Request.close, Request.isFinished] at hopen
  · have hlt : time < r'.finish.1 := by simpa [Request.endsBy, hopen] using hends
    exact max_le (h r' hr' hopen) hlt.le

end IsTimely

/-! ## One after the other -/

variable {x : Exchange} (hnodup : (x.requests.map (·.id)).Nodup)

include hnodup

/-- To conclude a request at its time is to close it. -/
theorem conclude_eq_close {r : Request} (hr : r ∈ x.requests) (hnow : x.now = r.finish.1) :
    x.conclude r.id r.finish.2 = { x with
      requests := x.requests.map fun r' => if r'.id = r.id then r'.close else r' } := by
  rw [conclude]
  congr 1
  refine List.map_congr_left fun r' hr' => ?_
  split_ifs with hid
  · rw [List.inj_on_of_nodup_map hnodup hr' hr hid, hnow]
    rfl
  · rfl

end Exchange

namespace Editor

/-- The events by which requests end, each at its time, up to a time. -/
def ending (rs : List Request) (time : Nat) : List EditorEvent :=
  rs.flatMap (fun r => [.pass r.finish.1, .answer r.id r.finish.2]) ++ [.pass time]

/-- The editor behind the end of a request. -/
def afterEnd (e : Editor) (r : Request) : Editor :=
  (e.after (.pass r.finish.1)).after (.answer r.id r.finish.2)

/-- An editor with requests that are closed all at once, and with what the reconciler makes of it. -/
def withEnds (e : Editor) (rs : List Request) (time : Nat) : Editor :=
  let received := e.reconciler.receiveAll e.workspace e.settings.collapseImports
    (rs.map fun r => (r.id, r.finish.2))
  { e with
    exchange := { e.exchange with
      now := max e.exchange.now time
      requests := e.exchange.requests.map fun r => if r.id ∈ rs.map (·.id) then r.close else r }
    reconciler := received.1
    workspace := received.2 }

variable {e : Editor} {r : Request} {rs : List Request} {time : Nat}

section

variable (hnodup : (e.exchange.requests.map (·.id)).Nodup) (hr : r ∈ e.exchange.requests)

include hnodup hr

theorem exchange_afterEnd (hnow : e.exchange.now ≤ r.finish.1) :
    (e.afterEnd r).exchange = { e.exchange with
      now := r.finish.1
      requests := e.exchange.requests.map fun r' => if r'.id = r.id then r'.close else r' } := by
  rw [afterEnd, exchange_after_answer, Editor.after, max_eq_right hnow]
  exact Exchange.conclude_eq_close (x := { e.exchange with now := r.finish.1 }) hnodup hr rfl

theorem withEnds_afterEnd (hnew : r.id ∉ rs.map (·.id)) (hnow : e.exchange.now ≤ r.finish.1)
    (htime : r.finish.1 ≤ time) : (e.afterEnd r).withEnds rs time = e.withEnds (r :: rs) time := by
  have hrequests : ∀ r' : Request,
      (if (if r'.id = r.id then r'.close else r').id ∈ rs.map (·.id) then
          (if r'.id = r.id then r'.close else r').close
        else if r'.id = r.id then r'.close else r') =
      if r'.id ∈ (r :: rs).map (·.id) then r'.close else r' := by
    intro r'
    by_cases hid : r'.id = r.id
    · rw [if_pos hid, if_neg (show r'.close.id ∉ _ from hid ▸ hnew), if_pos (by simp [hid])]
    · simp [hid]
  rw [withEnds, exchange_afterEnd hnodup hr hnow, max_eq_right htime, withEnds,
    max_eq_right (hnow.trans htime), List.map_map]
  simp only [Function.comp_def, hrequests]
  rfl

theorem isOpen_of_mem (hopen : r.isFinished = false) : e.exchange.isOpen r.id := by
  refine Exchange.isOpen_of_mem_ends ?_ ?_
  · rw [Exchange.ends, List.map_map]
    exact hnodup
  · rw [Exchange.ends]
    refine List.mem_map.2 ⟨r, hr, ?_⟩
    rw [Request.isFinished, Option.isSome_eq_false_iff, Option.isNone_iff_eq_none] at hopen
    rw [hopen]

end

/-- **Requests may end one after the other.** -/
theorem run_ending (hnodup : (e.exchange.requests.map (·.id)).Nodup)
    (hrs : ∀ r ∈ rs, r ∈ e.exchange.requests ∧ r.isFinished = false) (hids : (rs.map (·.id)).Nodup)
    (hsorted : rs.Pairwise fun a b => a.finish.1 ≤ b.finish.1)
    (hnow : ∀ r ∈ rs, e.exchange.now ≤ r.finish.1 ∧ r.finish.1 ≤ time) :
    e.CanRun (ending rs time) ∧ e.run (ending rs time) = e.withEnds rs time := by
  induction rs generalizing e with
  | nil => exact ⟨⟨rfl, trivial⟩, by simp [ending, run, Editor.after, withEnds, Reconciler.receiveAll]⟩
  | cons r rs ih =>
    -- behind the end of the first one the clock shows its time, which is not behind the others
    obtain ⟨⟨hr, hopen⟩, hrs⟩ := List.forall_mem_cons.1 hrs
    obtain ⟨hnew, hids⟩ := List.nodup_cons.1 hids
    obtain ⟨hfirst, hsorted⟩ := List.pairwise_cons.1 hsorted
    obtain ⟨⟨hnow, htime⟩, hnows⟩ := List.forall_mem_cons.1 hnow
    have hexchange := exchange_afterEnd hnodup hr hnow
    have hnodup' : ((e.afterEnd r).exchange.requests.map (·.id)).Nodup := by
      rw [hexchange, List.map_map]
      convert hnodup using 2
      funext r'
      by_cases hid : r'.id = r.id <;> simp [hid, Request.close]
    have hrs' : ∀ r' ∈ rs, r' ∈ (e.afterEnd r).exchange.requests ∧ r'.isFinished = false := by
      intro r' hr'
      have hne : r'.id ≠ r.id := fun hid => hnew (List.mem_map.2 ⟨r', hr', hid⟩)
      rw [hexchange]
      exact ⟨List.mem_map.2 ⟨r', (hrs r' hr').1, if_neg hne⟩, (hrs r' hr').2⟩
    have hnow' : ∀ r' ∈ rs, (e.afterEnd r).exchange.now ≤ r'.finish.1 ∧ r'.finish.1 ≤ time := by
      intro r' hr'
      rw [hexchange]
      exact ⟨hfirst r' hr', (hnows r' hr').2⟩
    obtain ⟨hcan, hrun⟩ := ih hnodup' hrs' hids hsorted hnow'
    have hpass : (e.after (.pass r.finish.1)).exchange.isOpen r.id :=
      isOpen_of_mem (e := e.after (.pass r.finish.1)) hnodup hr hopen
    exact ⟨⟨rfl, hpass, hcan⟩, hrun.trans (withEnds_afterEnd hnodup hr hnew hnow htime)⟩

/-- **Time passes by single events.** What `Exchange.advance` does in one go, with the reconciler
receiving all that comes back, is a run of an editor. -/
theorem run_ending_advance (hnodup : (e.exchange.requests.map (·.id)).Nodup)
    (htimely : e.exchange.IsTimely) (time : Nat) :
    e.CanRun (ending (e.exchange.ending time) time) ∧
      e.run (ending (e.exchange.ending time) time) =
        { e with
          exchange := (e.exchange.advance time).1
          reconciler := (e.reconciler.receiveAll e.workspace e.settings.collapseImports
            (e.exchange.advance time).2).1
          workspace := (e.reconciler.receiveAll e.workspace e.settings.collapseImports
            (e.exchange.advance time).2).2 } := by
  have hmem : ∀ r, r ∈ e.exchange.ending time ↔ r ∈ e.exchange.requests ∧ r.endsBy time := fun r => by
    rw [Exchange.ending, List.mem_mergeSort, List.mem_filter]
  have hends : ∀ r ∈ e.exchange.ending time,
      r ∈ e.exchange.requests ∧ r.isFinished = false ∧ r.finish.1 ≤ time := fun r hr => by
    simpa [Request.endsBy] using (hmem r).1 hr
  have hids : ((e.exchange.ending time).map (·.id)).Nodup :=
    ((List.mergeSort_perm _ _).map _).nodup_iff.2 (hnodup.sublist (List.filter_sublist.map _))
  have hsorted : (e.exchange.ending time).Pairwise fun a b => a.finish.1 ≤ b.finish.1 := by
    refine (List.pairwise_mergeSort (fun a b c => ?_) (fun a b => ?_) _).imp of_decide_eq_true
    · simpa using le_trans
    · simpa using le_total _ _
  obtain ⟨hcan, hrun⟩ := run_ending hnodup (fun r hr => ⟨(hends r hr).1, (hends r hr).2.1⟩) hids hsorted
    fun r hr => ⟨htimely r (hends r hr).1 (hends r hr).2.1, (hends r hr).2.2⟩
  refine ⟨hcan, hrun.trans ?_⟩
  have hrequests : (e.exchange.requests.map fun r =>
      if r.id ∈ (e.exchange.ending time).map (·.id) then r.close else r) =
        e.exchange.requests.map (·.advance time) := by
    refine List.map_congr_left fun r hr => ?_
    have hiff : r.id ∈ (e.exchange.ending time).map (·.id) ↔ r.endsBy time := by
      constructor
      · intro hid
        obtain ⟨r', hr', heq⟩ := List.mem_map.1 hid
        obtain ⟨hr', hends'⟩ := (hmem r').1 hr'
        rwa [← List.inj_on_of_nodup_map hnodup hr' hr heq]
      · exact fun hends' => List.mem_map_of_mem ((hmem r).2 ⟨hr, hends'⟩)
    rw [Request.advance_eq]
    simp only [hiff]
  rw [withEnds, hrequests]
  rfl

end Editor

end LanguageClient
