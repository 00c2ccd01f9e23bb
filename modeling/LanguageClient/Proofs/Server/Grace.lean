import LanguageClient.Proofs.Server.History

/-!
# Waiting out the grace

A request of which its server was told ends by its deadline, and no signal puts this off. So when all
requests are sent with the same grace (`Exchange.IsGraced`), those that are signalled at some time
have ended when the grace is over (`Exchange.Expires`), whatever happens meanwhile.
-/

namespace LanguageClient

/-- Whether an event sends requests only with this grace. -/
def ExchangeEvent.Grants (grace : Nat) : ExchangeEvent → Prop
  | .dispatch _ grace' _ _ => grace' = grace
  | .attach _ | .detach _ | .cancel _ | .advance _ => True

/-! ## One event -/

namespace Request

/-- What was told of has a time by which it ends. -/
theorem finish_le_of_mem_deadline {r : Request} {d : Nat} (h : d ∈ r.deadline) : r.finish.1 ≤ d := by
  rw [finish, Option.mem_def.1 h]
  dsimp only
  split_ifs with hlt
  · exact le_rfl
  · exact Nat.le_of_not_lt hlt

theorem deadline_advance (time : Nat) (r : Request) : (r.advance time).deadline = r.deadline := by
  rw [advance_eq]
  split_ifs <;> rfl

theorem isCancelled_signal (now : Nat) (r : Request) : (r.signal now).isCancelled := by
  unfold signal
  split_ifs <;> rfl

theorem grace_signal (now : Nat) (r : Request) : (r.signal now).grace = r.grace := by
  unfold signal
  split_ifs <;> rfl

/-- A further signal puts nothing off. -/
theorem deadline_signal_of_isTold {r : Request} (h : r.isTold) (now : Nat) :
    (r.signal now).deadline = r.deadline := by
  rw [signal, if_pos (by rw [h, Bool.or_true])]

theorem mem_deadline_signal {now d : Nat} {r : Request} (h : d ∈ (r.signal now).deadline) :
    d ∈ r.deadline ∨ d = now + r.grace := by
  unfold signal at h
  split_ifs at h
  · exact Or.inl h
  all_goals exact Or.inr (Option.some.inj h).symm

end Request

namespace ExchangeEvent

variable (event : ExchangeEvent) (now : Nat) {r : Request}

theorem isFinished_effect (h : r.isFinished) : (event.effect now r).isFinished := by
  cases event with
  | cancel id =>
    rw [effect]
    split_ifs
    · rwa [Request.isFinished_signal]
    · exact h
  | advance time => rw [effect, Request.isFinished_advance, h, Bool.true_or]
  | _ => exact h

/-- What is open behind an event was open before. -/
theorem isFinished_of_effect (h : (event.effect now r).isFinished = false) : r.isFinished = false :=
  Bool.eq_false_iff.2 fun hended => Bool.eq_false_iff.1 h (event.isFinished_effect now hended)

theorem isCancelled_effect (h : r.isCancelled) : (event.effect now r).isCancelled := by
  cases event with
  | cancel id =>
    rw [effect]
    split_ifs
    · exact r.isCancelled_signal now
    · exact h
  | advance time =>
    rw [effect, Request.advance_eq]
    split_ifs <;> exact h
  | _ => exact h

theorem deadline_effect (h : r.isTold) : (event.effect now r).deadline = r.deadline := by
  cases event with
  | cancel id =>
    rw [effect]
    split_ifs
    · exact Request.deadline_signal_of_isTold h now
    · rfl
  | advance time => exact Request.deadline_advance time r
  | _ => rfl

theorem isTold_effect (h : r.isTold) : (event.effect now r).isTold := by
  rwa [Request.isTold, event.deadline_effect now h]

theorem grace_effect (r : Request) : (event.effect now r).grace = r.grace := by
  cases event with
  | cancel id =>
    rw [effect]
    split_ifs
    · exact r.grace_signal now
    · rfl
  | advance time =>
    rw [effect, Request.advance_eq]
    split_ifs <;> rfl
  | _ => rfl

theorem mem_deadline_effect {d : Nat} (h : d ∈ (event.effect now r).deadline) :
    d ∈ r.deadline ∨ d = now + r.grace := by
  cases event with
  | cancel id =>
    rw [effect] at h
    split_ifs at h
    · exact Request.mem_deadline_signal h
    · exact Or.inl h
  | advance time => exact Or.inl (Request.deadline_advance time r ▸ h)
  | _ => exact Or.inl h

end ExchangeEvent

namespace Exchange

variable {x : Exchange} {event : ExchangeEvent}

/-- A request that was there before an event has been changed by it, and another one is new. -/
theorem mem_requests_perform {r : Request} :
    r ∈ (x.perform event).1.requests ↔
      (∃ r' ∈ x.requests, event.effect x.now r' = r) ∨ r ∈ x.sentBy event := by
  rw [requests_perform, List.mem_append, List.mem_map]

/-- New requests have numbers behind those that were given. -/
theorem length_lt_of_mem_sentBy {r : Request} (h : r ∈ x.sentBy event) :
    x.requests.length < r.id := by
  cases event with
  | dispatch qualifies grace method params =>
    obtain ⟨e, -, rfl⟩ := List.mem_map.1 h
    exact Nat.lt_add_right e.2 (Nat.lt_succ_self _)
  | _ => exact absurd h List.not_mem_nil

theorem length_le_perform (x : Exchange) (event : ExchangeEvent) :
    x.requests.length ≤ (x.perform event).1.requests.length := by
  rw [requests_perform, List.length_append, List.length_map]
  exact Nat.le_add_right _ _

theorem length_le_run (x : Exchange) (events : List ExchangeEvent) :
    x.requests.length ≤ (x.run events).requests.length := by
  induction events generalizing x with
  | nil => exact le_rfl
  | cons event events ih => exact (x.length_le_perform event).trans (ih _)

/-! ## One grace for all -/

/-- All requests have the same grace, and none has more of it left. -/
structure IsGraced (x : Exchange) (grace : Nat) : Prop where
  grace_eq : ∀ r ∈ x.requests, r.grace = grace
  deadline_le : ∀ r ∈ x.requests, ∀ d ∈ r.deadline, d ≤ x.now + grace

theorem isGraced_ofServers (servers : List RecordedServer) (grace : Nat) :
    (ofServers servers).IsGraced grace :=
  ⟨fun _ hr => absurd hr List.not_mem_nil, fun _ hr => absurd hr List.not_mem_nil⟩

theorem IsGraced.perform {grace : Nat} (h : x.IsGraced grace) (hgrants : event.Grants grace) :
    (x.perform event).1.IsGraced grace where
  grace_eq r hr := by
    rcases mem_requests_perform.1 hr with ⟨r', hr', rfl⟩ | hr
    · rw [event.grace_effect, h.grace_eq r' hr']
    · cases event with
      | dispatch qualifies grace' method params =>
        obtain ⟨e, -, rfl⟩ := List.mem_map.1 hr
        rw [grace_requestTo]
        exact hgrants
      | _ => exact absurd hr List.not_mem_nil
  deadline_le r hr d hd := by
    have hnow := x.le_now_perform event
    rcases mem_requests_perform.1 hr with ⟨r', hr', rfl⟩ | hr
    · rcases event.mem_deadline_effect x.now hd with hd | hd
      · exact (h.deadline_le r' hr' d hd).trans (Nat.add_le_add_right hnow grace)
      · rw [hd, h.grace_eq r' hr']
        exact Nat.add_le_add_right hnow grace
    · cases event with
      | dispatch qualifies grace' method params =>
        obtain ⟨e, -, rfl⟩ := List.mem_map.1 hr
        have htold := isTold_requestTo x grace' method params e.2 e.1
        rw [Request.isTold, Option.mem_def.1 hd] at htold
        cases htold
      | _ => exact absurd hr List.not_mem_nil

theorem IsGraced.run {grace : Nat} (h : x.IsGraced grace) {events : List ExchangeEvent}
    (hgrants : ∀ event ∈ events, event.Grants grace) : (x.run events).IsGraced grace := by
  induction events generalizing x with
  | nil => exact h
  | cons event events ih =>
    obtain ⟨hevent, hgrants⟩ := List.forall_mem_cons.1 hgrants
    exact ih (h.perform hevent) hgrants

/-! ## The first requests -/

/-- The first requests, `count` in number, end by a time. -/
structure Expires (x : Exchange) (count time : Nat) : Prop where
  count_le : count ≤ x.requests.length
  deadline_le : ∀ r ∈ x.requests, r.id ≤ count → r.isFinished = false → ∃ d ∈ r.deadline, d ≤ time

namespace Expires

variable {count time : Nat} (h : x.Expires count time)

include h

theorem perform (event : ExchangeEvent) : (x.perform event).1.Expires count time where
  count_le := h.count_le.trans (x.length_le_perform event)
  deadline_le r hr hid hopen := by
    rcases mem_requests_perform.1 hr with ⟨r', hr', rfl⟩ | hr
    · rw [event.id_effect] at hid
      obtain ⟨d, hd, hle⟩ := h.deadline_le r' hr' hid (event.isFinished_of_effect _ hopen)
      have htold : r'.isTold := Option.isSome_iff_exists.2 ⟨d, hd⟩
      exact ⟨d, by rwa [event.deadline_effect _ htold], hle⟩
    · exact absurd hid ((h.count_le.trans_lt (length_lt_of_mem_sentBy hr)).not_ge)

theorem run (events : List ExchangeEvent) : (x.run events).Expires count time := by
  induction events generalizing x with
  | nil => exact h
  | cons event events ih => exact ih (h.perform event)

variable {r : Request} (hr : r ∈ x.requests) (hid : r.id ≤ count)

include hr hid

theorem finish_le (hopen : r.isFinished = false) : r.finish.1 ≤ time := by
  obtain ⟨d, hd, hle⟩ := h.deadline_le r hr hid hopen
  exact (Request.finish_le_of_mem_deadline hd).trans hle

/-- When the time is past, the first requests have ended. -/
theorem isFinished (htimely : x.IsTimely) (hlate : time < x.now) : r.isFinished := by
  by_contra hopen
  rw [Bool.not_eq_true] at hopen
  exact absurd ((htimely r hr hopen).trans (h.finish_le hr hid hopen)) hlate.not_ge

end Expires

end Exchange

end LanguageClient
