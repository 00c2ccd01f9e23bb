import LanguageClient.Folding.Reconciler
import LanguageClient.Proofs.Server.Grace

/-!
# Requests in the hands of the reconciler

A reconciler holds every open request once, among those of its newest cycle or among the superseded
ones, and nobody waits for the latter (`Reconciler.Holds`). Time and signals do not change this, and
neither does a new cycle: it signals the requests of the one before, and keeps them
(`Reconciler.Holds.start`).
-/

namespace LanguageClient

/-! ## Signals to several requests -/

namespace Exchange

variable {x : Exchange} {id : RequestId}

/-- A request that nobody waits for. Its server was told, unless it had answered. -/
def Abandons (x : Exchange) (id : RequestId) : Prop :=
  ∀ r ∈ x.requests, r.id = id → r.isCancelled ∧ (r.isFinished ∨ r.isTold)

theorem abandons_cancel (x : Exchange) (id : RequestId) : (x.cancel id).Abandons id := by
  intro r hr hid
  rw [requests_cancel] at hr
  obtain ⟨r', -, rfl⟩ := List.mem_map.1 hr
  split_ifs at hid ⊢ with h
  · refine ⟨r'.isCancelled_signal _, ?_⟩
    rw [Request.isFinished_signal, Request.isTold_signal]
    cases r'.isFinished <;> simp
  · exact absurd hid h

theorem Abandons.perform (h : x.Abandons id) (hle : id ≤ x.requests.length) (event : ExchangeEvent) :
    (x.perform event).1.Abandons id := by
  intro r hr hid
  rcases mem_requests_perform.1 hr with ⟨r', hr', rfl⟩ | hr
  · obtain ⟨hcancelled, hended⟩ := h r' hr' (by rwa [event.id_effect] at hid)
    exact ⟨event.isCancelled_effect _ hcancelled,
      hended.imp (event.isFinished_effect _) (event.isTold_effect _)⟩
  · exact absurd (hid ▸ length_lt_of_mem_sentBy hr) hle.not_gt

theorem Abandons.cancelAll (h : x.Abandons id) (hle : id ≤ x.requests.length)
    (ids : List RequestId) : (x.cancelAll ids).Abandons id := by
  induction ids generalizing x with
  | nil => exact h
  | cons id' ids ih =>
    exact ih (h.perform hle (.cancel id')) (hle.trans (x.length_le_perform (.cancel id')))

theorem abandons_cancelAll {ids : List RequestId} (hid : id ∈ ids) (hle : id ≤ x.requests.length) :
    (x.cancelAll ids).Abandons id := by
  induction ids generalizing x with
  | nil => exact absurd hid List.not_mem_nil
  | cons id' ids ih =>
    have hle' := hle.trans (x.length_le_perform (.cancel id'))
    by_cases heq : id = id'
    · exact heq ▸ (x.abandons_cancel id).cancelAll (heq ▸ hle') ids
    · exact ih ((List.mem_cons.1 hid).resolve_left heq) hle'

end Exchange

/-! ## The reconciler -/

namespace Reconciler

/-- The requests of the newest cycle. -/
def newest (r : Reconciler) : List RequestId := (r.cycles.getLast?.map (·.requests)).getD []

/-- Whether a reconciler holds all open requests, each of them once, and has those signalled that are
not of the newest cycle. -/
structure Holds (r : Reconciler) (x : Exchange) : Prop where
  nodup : (r.requests ++ r.superseded).Nodup
  id_le : ∀ id ∈ r.requests ++ r.superseded, id ≤ x.requests.length
  mem : ∀ q ∈ x.requests, q.isFinished = false → q.id ∈ r.requests ++ r.superseded
  abandons : ∀ id ∈ r.superseded, x.Abandons id
  newest : ∀ id ∈ r.requests, id ∈ r.newest

variable {r : Reconciler} {x : Exchange}

/-- A reconciler may let go of its requests when all have ended. -/
theorem holds_letGo (r : Reconciler) (hended : ∀ q ∈ x.requests, q.isFinished) :
    Holds { r with requests := [], superseded := [] } x where
  nodup := List.nodup_nil
  id_le _ hid := absurd hid List.not_mem_nil
  mem q hq hopen := absurd (hended q hq) (Bool.eq_false_iff.1 hopen)
  abandons _ hid := absurd hid List.not_mem_nil
  newest _ hid := absurd hid List.not_mem_nil

namespace Holds

/-- An event that sends nothing takes nothing out of the reconciler's hands. -/
theorem perform (h : r.Holds x) (event : ExchangeEvent) (hsent : x.sentBy event = []) :
    r.Holds (x.perform event).1 where
  nodup := h.nodup
  id_le id hid := (h.id_le id hid).trans (x.length_le_perform event)
  mem q hq hopen := by
    obtain ⟨q', hq', rfl⟩ : ∃ q' ∈ x.requests, event.effect x.now q' = q := by
      simpa [hsent] using Exchange.mem_requests_perform.1 hq
    rw [event.id_effect]
    exact h.mem q' hq' (event.isFinished_of_effect _ hopen)
  abandons id hid :=
    (h.abandons id hid).perform (h.id_le id (List.mem_append_right _ hid)) event
  newest := h.newest

theorem cancelAll (h : r.Holds x) (ids : List RequestId) : r.Holds (x.cancelAll ids) := by
  induction ids generalizing x with
  | nil => exact h
  | cons id ids ih => exact ih (h.perform (.cancel id) rfl)

/-- What is held depends on the lists of requests alone. -/
theorem congr {r' : Reconciler} (h : r.Holds x) (hrequests : r'.requests = r.requests)
    (hsuperseded : r'.superseded = r.superseded) (hnewest : r'.newest = r.newest) : r'.Holds x where
  nodup := by rw [hrequests, hsuperseded]; exact h.nodup
  id_le := by rw [hrequests, hsuperseded]; exact h.id_le
  mem := by rw [hrequests, hsuperseded]; exact h.mem
  abandons := by rw [hsuperseded]; exact h.abandons
  newest := by rw [hrequests, hnewest]; exact h.newest

end Holds

end Reconciler

/-! ## Beginning a cycle -/

namespace Exchange

variable {x : Exchange} {qualifies : RecordedServer → Bool} {grace : Nat} {method : String}
  {params : Json}

theorem nodup_dispatch : ((x.dispatch qualifies grace method params).2.map (·.1)).Nodup := by
  rw [snd_dispatch]
  exact List.nodup_range'

/-- The numbers of new requests are behind those given before, and given now. -/
theorem mem_snd_dispatch {id : Nat}
    (h : id ∈ (x.dispatch qualifies grace method params).2.map (·.1)) :
    x.requests.length < id ∧ id ≤ (x.dispatch qualifies grace method params).1.requests.length := by
  have hlength : (x.dispatch qualifies grace method params).1.requests.length =
      x.requests.length + (x.qualifying qualifies).length := by
    rw [dispatch, requests_sendAll, List.length_append, List.length_map, List.length_zipIdx]
  rw [snd_dispatch, length_ends, List.mem_range'_1] at h
  omega

theorem mem_fst_dispatch {r : Request}
    (h : r ∈ (x.dispatch qualifies grace method params).1.requests) :
    r ∈ x.requests ∨ r.id ∈ (x.dispatch qualifies grace method params).2.map (·.1) := by
  rw [dispatch, requests_sendAll, List.mem_append] at h
  refine h.imp_right fun h => ?_
  obtain ⟨⟨server, i⟩, hmem, rfl⟩ := List.mem_map.1 h
  exact List.mem_map.2 ⟨_, List.mem_map.2 ⟨_, hmem, rfl⟩, rfl⟩

end Exchange

namespace Reconciler

variable {r : Reconciler} {x : Exchange}

/-- When requests are sent, those of the cycle before take their place among the superseded ones, if
they were signalled. -/
theorem Holds.dispatch (h : r.Holds x) (hx : x.IsNumbered)
    (habandons : ∀ id ∈ r.requests, x.Abandons id) (qualifies : RecordedServer → Bool) (grace : Nat)
    (method : String) (params : Json) (lastStamp : Option Nat) (document : DocumentId) :
    Holds { r with
      requests := (x.dispatch qualifies grace method params).2.map (·.1)
      superseded := r.superseded.filter (fun id => !x.isFinished id) ++ r.requests
      lastStamp
      cycles := r.cycles ++
        [{ document, requests := (x.dispatch qualifies grace method params).2.map (·.1) }] }
      (x.dispatch qualifies grace method params).1 := by
  have hheld : ∀ id ∈ r.superseded.filter (fun id => !x.isFinished id) ++ r.requests,
      id ∈ r.requests ++ r.superseded := fun id hid => by
    rcases List.mem_append.1 hid with hid | hid
    · exact List.mem_append_right _ (List.mem_filter.1 hid).1
    · exact List.mem_append_left _ hid
  have hlength := x.length_le_perform (.dispatch qualifies grace method params)
  refine ⟨?nodup, fun id hid => ?id_le, fun q hq hopen => ?mem, fun id hid => ?abandons,
    fun id hid => ?newest⟩
  case nodup =>
    refine List.nodup_append.2 ⟨Exchange.nodup_dispatch, ?_, fun id hid id' hid' => ?_⟩
    · exact (List.nodup_append_comm.1 h.nodup).sublist (List.filter_sublist.append_right _)
    · exact ((h.id_le id' (hheld id' hid')).trans_lt (Exchange.mem_snd_dispatch hid).1).ne'
  case id_le =>
    rcases List.mem_append.1 hid with hid | hid
    · exact (Exchange.mem_snd_dispatch hid).2
    · exact (h.id_le id (hheld id hid)).trans hlength
  case mem =>
    rcases Exchange.mem_fst_dispatch hq with hq | hid
    · -- only requests that have ended are pruned
      have hfinished : x.isFinished q.id = false := by
        rw [Exchange.isFinished, Exchange.request?_of_mem hx.nodup hq, Option.any_some, hopen]
      refine List.mem_append_right _ ?_
      rcases List.mem_append.1 (h.mem q hq hopen) with hid | hid
      · exact List.mem_append_right _ hid
      · exact List.mem_append_left _ (List.mem_filter.2 ⟨hid, by rw [hfinished]; rfl⟩)
    · exact List.mem_append_left _ hid
  case abandons =>
    have habandoned : x.Abandons id := by
      rcases List.mem_append.1 hid with hid | hid
      · exact h.abandons id (List.mem_filter.1 hid).1
      · exact habandons id hid
    exact habandoned.perform (h.id_le id (hheld id hid)) (.dispatch qualifies grace method params)
  case newest => simpa [Reconciler.newest] using hid

/-- **No path that begins a cycle loses a request**, or leaves an old one without a signal. -/
theorem Holds.start (h : r.Holds x) (hx : x.IsNumbered) (w : Workspace) (settings : FoldingSettings)
    (trigger : Trigger) :
    (r.start w x settings trigger).1.Holds (r.start w x settings trigger).2 := by
  rw [Reconciler.start]
  split
  · exact h
  · split_ifs
    · exact h
    · exact (h.cancelAll r.requests).dispatch (hx.cancelAll r.requests)
        (fun id hid => Exchange.abandons_cancelAll hid (h.id_le id (List.mem_append_left _ hid)))
        _ _ _ _ _ _

theorem now_start (r : Reconciler) (w : Workspace) (x : Exchange) (settings : FoldingSettings)
    (trigger : Trigger) : (r.start w x settings trigger).2.now = x.now := by
  rw [Reconciler.start]
  split
  · rfl
  · split_ifs
    · rfl
    · exact (Exchange.now_sendAll _ _ _ _ _).trans (x.now_cancelAll r.requests)

end Reconciler

end LanguageClient
