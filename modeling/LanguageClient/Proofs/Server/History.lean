import LanguageClient.Proofs.Server.Advance
import LanguageClient.Proofs.Server.Sending
import LanguageClient.Server.History

/-!
# Requests in the course of time

An event leaves the requests in their places, changes each of them for itself, and may send new ones
behind them (`Exchange.requests_perform`). What all exchanges have in common that begin with servers
and no requests is collected in `Exchange.IsConsistent`. The requests that have ended are those that
were reported, each of them once (`Exchange.ended_run`).
-/

namespace LanguageClient

namespace Request

@[simp]
theorem isTold_advance (time : Nat) (r : Request) : (r.advance time).isTold = r.isTold := by
  rw [advance_eq]
  split_ifs <;> rfl

/-- A request has ended when its time is past. -/
theorem isFinished_advance (time : Nat) (r : Request) :
    (r.advance time).isFinished = (r.isFinished || decide (r.finish.1 ≤ time)) := by
  rw [advance_eq, endsBy]
  cases hopen : r.isFinished <;> by_cases hle : r.finish.1 ≤ time <;>
    simp [hle, hopen, show r.close.isFinished = true from rfl]

/-- A signal to an open request has its server told. -/
theorem isTold_signal (now : Nat) (r : Request) :
    (r.signal now).isTold = (!r.isFinished || r.isTold) := by
  unfold signal
  split_ifs with h hignores
  · change r.isTold = _
    cases hended : r.isFinished <;> simp_all
  all_goals
    simp only [Bool.or_eq_true, not_or, Bool.not_eq_true] at h
    rw [h.1]
    rfl

end Request

/-- What an event makes of a request that was sent before. -/
def ExchangeEvent.effect (now : Nat) (r : Request) : ExchangeEvent → Request
  | .cancel id => if r.id = id then r.signal now else r
  | .advance time => r.advance time
  | .attach _ | .detach _ | .dispatch .. => r

namespace ExchangeEvent

variable (event : ExchangeEvent) (now : Nat) (r : Request)

@[simp]
theorem id_effect : (event.effect now r).id = r.id := by
  cases event <;> simp only [effect]
  · split_ifs <;> simp
  · simp

end ExchangeEvent

namespace Exchange

variable {x : Exchange} {id : RequestId} {r : Request}

theorem id_eq_of_request? (h : x.request? id = some r) : r.id = id := by
  simpa using List.find?_some h

theorem mem_of_request? (h : x.request? id = some r) : r ∈ x.requests := List.mem_of_find?_eq_some h

/-! ## One event -/

/-- The requests that an event sends. -/
def sentBy (x : Exchange) : ExchangeEvent → List Request
  | .dispatch qualifies grace method params =>
    (x.qualifying qualifies).zipIdx.map fun e => x.requestTo grace method params e.2 e.1
  | .attach _ | .detach _ | .cancel _ | .advance _ => []

/-- The requests of which an event has their servers told. -/
def toldBy (x : Exchange) : ExchangeEvent → List RequestId
  | .cancel id => if (x.request? id).any fun r => !(r.isFinished || r.isTold) then [id] else []
  | .attach _ | .detach _ | .dispatch .. | .advance _ => []

/-- A server is told only of an open request that is signalled. -/
theorem eq_cancel_of_mem_toldBy {event : ExchangeEvent} (h : id ∈ x.toldBy event) :
    event = .cancel id ∧ (x.request? id).any fun r => !(r.isFinished || r.isTold) := by
  cases event with
  | cancel id' =>
    rw [toldBy] at h
    split_ifs at h with hopen
    · obtain rfl := List.mem_singleton.1 h
      exact ⟨rfl, hopen⟩
    · exact absurd h List.not_mem_nil
  | _ => exact absurd h List.not_mem_nil

theorem requests_cancel (x : Exchange) (id : RequestId) :
    (x.cancel id).requests = x.requests.map fun r => if r.id = id then r.signal x.now else r := by
  unfold cancel
  cases h : x.request? id with
  | some r => rfl
  | none =>
    have hid : ∀ r ∈ x.requests, r.id ≠ id := fun r hr hid => by
      simpa [hid] using List.find?_eq_none.1 h r hr
    exact ((List.map_congr_left fun r hr => if_neg (hid r hr)).trans (List.map_id' _)).symm

/-- **What an event does to the requests.** -/
theorem requests_perform (x : Exchange) (event : ExchangeEvent) :
    (x.perform event).1.requests = x.requests.map (event.effect x.now) ++ x.sentBy event := by
  cases event with
  | attach server => simp [perform, attach, ExchangeEvent.effect, sentBy]
  | detach name => simp [perform, detach, ExchangeEvent.effect, sentBy]
  | dispatch qualifies grace method params =>
    simpa [perform, dispatch, ExchangeEvent.effect, sentBy] using
      requests_sendAll x grace method params (x.qualifying qualifies)
  | cancel id => simpa [perform, ExchangeEvent.effect, sentBy] using requests_cancel x id
  | advance time => simp [perform, advance, ExchangeEvent.effect, sentBy]

theorem told_perform (x : Exchange) (event : ExchangeEvent) :
    (x.perform event).1.told = x.told ++ x.toldBy event := by
  cases event with
  | attach _ | detach _ | advance _ => exact (List.append_nil _).symm
  | dispatch qualifies grace method params =>
    simpa [perform, dispatch, toldBy] using
      told_sendAll x grace method params (x.qualifying qualifies)
  | cancel id =>
    simp only [perform, cancel, toldBy]
    cases x.request? id with
    | none => exact (List.append_nil _).symm
    | some r => cases hended : r.isFinished <;> cases htold : r.isTold <;> simp [hended, htold]

/-- A request stays the one of its number. -/
theorem request?_perform (h : x.request? id = some r) (event : ExchangeEvent) :
    (x.perform event).1.request? id = some (event.effect x.now r) := by
  have hsame : (x.requests.map (event.effect x.now)).find? (·.id == id) =
      some (event.effect x.now r) := by
    simp only [List.find?_map, Function.comp_def, ExchangeEvent.id_effect]
    exact congrArg _ h
  rw [request?, requests_perform, List.find?_append, hsame]
  rfl

theorem now_cancel (x : Exchange) (id : RequestId) : (x.cancel id).now = x.now := by
  unfold cancel
  split <;> rfl

theorem now_cancelAll (x : Exchange) (ids : List RequestId) : (x.cancelAll ids).now = x.now := by
  induction ids generalizing x with
  | nil => rfl
  | cons id ids ih => exact (ih _).trans (x.now_cancel id)

/-- The clock does not go back. -/
theorem le_now_perform (x : Exchange) (event : ExchangeEvent) : x.now ≤ (x.perform event).1.now := by
  cases event with
  | attach _ | detach _ => exact le_rfl
  | dispatch qualifies grace method params =>
    exact (now_sendAll x grace method params (x.qualifying qualifies)).ge
  | cancel id => exact (now_cancel x id).ge
  | advance time => exact le_max_left _ _

/-! ## Exchanges that begin without requests -/

/-- What holds of every exchange that begins without requests. A server is told once of a request
that was signalled in time, and never of another one. -/
structure IsConsistent (x : Exchange) : Prop where
  numbered : x.IsNumbered
  timely : x.IsTimely
  told (id : RequestId) : x.told.count id = if (x.request? id).any (·.isTold) then 1 else 0

theorem isConsistent_ofServers (servers : List RecordedServer) : (ofServers servers).IsConsistent where
  numbered := isNumbered_ofServers servers
  timely := fun _ hr => absurd hr List.not_mem_nil
  told := fun _ => rfl

/-- A request that is sent has the next numbers, and its server is not told of it yet. -/
theorem request?_perform_of_none (hnone : x.request? id = none) (event : ExchangeEvent) :
    ((x.perform event).1.request? id).any (·.isTold) = false := by
  have hold : (x.requests.map (event.effect x.now)).find? (·.id == id) = none := by
    simp only [List.find?_map, Function.comp_def, ExchangeEvent.id_effect]
    exact congrArg _ hnone
  rw [request?, requests_perform, List.find?_append, hold, Option.none_or]
  cases hfind : (x.sentBy event).find? (·.id == id) with
  | none => rfl
  | some r =>
    have hmem := List.mem_of_find?_eq_some hfind
    cases event with
    | dispatch qualifies grace method params =>
      obtain ⟨e, -, rfl⟩ := List.mem_map.1 hmem
      exact isTold_requestTo x grace method params e.2 e.1
    | _ => exact absurd hmem List.not_mem_nil

namespace IsConsistent

variable (h : x.IsConsistent) (event : ExchangeEvent)

include h

theorem count_told_perform (id : RequestId) : (x.perform event).1.told.count id =
    if ((x.perform event).1.request? id).any (·.isTold) then 1 else 0 := by
  rw [told_perform, List.count_append, h.told id]
  cases hr : x.request? id with
  | none =>
    have htoldBy : (x.toldBy event).count id = 0 := List.count_eq_zero.2 fun hmem => by
      simpa [hr] using (eq_cancel_of_mem_toldBy hmem).2
    simp [request?_perform_of_none hr, htoldBy]
  | some r =>
    have hid := id_eq_of_request? hr
    rw [request?_perform hr]
    -- nothing but a signal to this very request has its server told
    by_cases hevent : event = .cancel id
    · subst hevent
      cases hended : r.isFinished <;> cases htold : r.isTold <;>
        simp [toldBy, ExchangeEvent.effect, hr, hid, Request.isTold_signal, hended, htold]
    · have htoldBy : (x.toldBy event).count id = 0 := List.count_eq_zero.2 fun hmem =>
        hevent (eq_cancel_of_mem_toldBy hmem).1
      have heffect : (event.effect x.now r).isTold = r.isTold := by
        cases event with
        | cancel id' =>
          have hne : r.id ≠ id' := fun h => hevent (by rw [← h, hid])
          rw [ExchangeEvent.effect, if_neg hne]
        | advance time => exact r.isTold_advance time
        | _ => rfl
      simp [htoldBy, heffect]

theorem perform : (x.perform event).1.IsConsistent where
  numbered := match event with
    | .attach server => h.numbered.attach server
    | .detach name => h.numbered.detach name
    | .dispatch qualifies grace method params => h.numbered.dispatch qualifies grace method params
    | .cancel id => h.numbered.cancelAll [id]
    | .advance time => h.numbered.advance time
  timely := match event with
    | .attach _ | .detach _ => h.timely
    | .dispatch qualifies grace method params => h.timely.dispatch qualifies grace method params
    | .cancel id => h.timely.cancel id
    | .advance time => h.timely.advance time
  told := h.count_told_perform event

theorem run (events : List ExchangeEvent) : (x.run events).IsConsistent := by
  induction events generalizing x with
  | nil => exact h
  | cons event events ih => exact ih (h.perform event)

end IsConsistent

/-! ## Reports -/

/-- The requests that have ended, with what came back. -/
def ended (x : Exchange) : List (RequestId × Answer) :=
  x.requests.filterMap fun r => r.ended.map fun e => (r.id, e.2)

theorem ended_eq (x : Exchange) : x.ended = x.ends.filterMap fun e => e.2.map fun a => (e.1, a.2) := by
  rw [ends, List.filterMap_map]
  rfl

theorem ended_advance (x : Exchange) (time : Nat) :
    (x.advance time).1.ended.Perm (x.ended ++ (x.advance time).2) := by
  have hends : ((x.requests.filter (·.endsBy time)).map fun r => (r.id, r.finish.2)).Perm
      (x.advance time).2 := ((List.mergeSort_perm _ _).map _).symm
  refine List.Perm.trans ?_ (hends.append_left _)
  simp only [ended, advance, List.filterMap_map]
  induction x.requests with
  | nil => exact .refl _
  | cons r rs ih =>
    by_cases hr : r.endsBy time
    · -- it was open before, and comes in front of those that are reported with it
      have hopen : r.ended = none := by
        simpa [Request.isFinished] using (Bool.and_eq_true_iff.1 hr).1
      simpa [Request.advance_eq, hr, hopen, Request.close] using
        (ih.cons (r.id, r.finish.2)).trans List.perm_middle.symm
    · cases hended : r.ended with
      | none => simpa [Request.advance_eq, hr, hended] using ih
      | some e => simpa [Request.advance_eq, hr, hended] using ih

/-- What an event reports are the requests that it ends. -/
theorem ended_perform (x : Exchange) (event : ExchangeEvent) :
    (x.perform event).1.ended.Perm (x.ended ++ (x.perform event).2) := by
  cases event with
  | attach _ | detach _ => simp [perform, ended, attach, detach]
  | dispatch qualifies grace method params =>
    simp [perform, ended_eq, ends_dispatch, List.filterMap_append]
  | cancel id => simp [perform, ended_eq, ends_cancel]
  | advance time => exact x.ended_advance time

/-- **Requests end once.** Those that have ended are those that had ended before, and those that were
reported since. -/
theorem ended_run (x : Exchange) (events : List ExchangeEvent) :
    (x.run events).ended.Perm (x.ended ++ x.reported events) := by
  induction events generalizing x with
  | nil => exact .of_eq (List.append_nil _).symm
  | cons event events ih =>
    calc (x.run (event :: events)).ended
      _ |>.Perm ((x.perform event).1.ended ++ (x.perform event).1.reported events) := ih _
      _ |>.Perm (x.ended ++ (x.perform event).2 ++ (x.perform event).1.reported events) :=
        (x.ended_perform event).append_right _
      _ = x.ended ++ x.reported (event :: events) := List.append_assoc ..

/-- A request is at most once among those that have ended. -/
theorem ended_filter (hnodup : (x.requests.map (·.id)).Nodup) (h : x.request? id = some r) :
    x.ended.filter (·.1 == id) = (r.ended.map fun e => (id, e.2)).toList := by
  obtain ⟨before, behind, heq⟩ := List.append_of_mem (mem_of_request? h)
  have hid := id_eq_of_request? h
  have hother (rs : List Request) (hrs : ∀ r' ∈ rs, r'.id ≠ id) :
      (rs.filterMap fun r => r.ended.map fun e => (r.id, e.2)).filter (·.1 == id) = [] := by
    refine List.filter_eq_nil_iff.2 fun e he => ?_
    obtain ⟨r', hr', hended⟩ := List.mem_filterMap.1 he
    obtain ⟨e', -, rfl⟩ := Option.map_eq_some_iff.1 hended
    simpa using hrs r' hr'
  rw [heq, List.map_append, List.map_cons, List.nodup_append, List.nodup_cons, hid] at hnodup
  obtain ⟨-, ⟨hbehind, -⟩, hbefore⟩ := hnodup
  rw [ended, heq, List.filterMap_append, List.filter_append,
    hother before fun r' hr' => hbefore _ (List.mem_map_of_mem hr') _ List.mem_cons_self,
    List.nil_append, List.filterMap_cons]
  have hbehind := hother behind fun r' hr' h => hbehind (h ▸ List.mem_map_of_mem hr')
  cases r.ended with
  | none => exact hbehind
  | some e => simp [hid, hbehind]

theorem eq_toList_of_perm {α : Type*} {o : Option α} {l : List α} (h : o.toList.Perm l) :
    l = o.toList := by
  cases o with
  | none => exact List.perm_nil.1 h.symm
  | some a => exact List.perm_singleton.1 h.symm

/-- **What is reported of an open request** is its end, if it has come. -/
theorem reported_filter (hx : x.IsConsistent) (h : x.request? id = some r) (hopen : r.ended = none)
    {events : List ExchangeEvent} {r' : Request} (h' : (x.run events).request? id = some r') :
    (x.reported events).filter (·.1 == id) = (r'.ended.map fun e => (id, e.2)).toList := by
  have hperm := (x.ended_run events).filter (·.1 == id)
  rw [List.filter_append, ended_filter hx.numbered.nodup h, hopen,
    ended_filter (hx.run events).numbered.nodup h'] at hperm
  exact eq_toList_of_perm hperm

end Exchange

end LanguageClient
