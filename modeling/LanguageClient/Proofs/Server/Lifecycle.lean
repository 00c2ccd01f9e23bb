import LanguageClient.Proofs.Server.History

/-!
# The life of a request

A request to a recorded server ends once, at a time and with an outcome that depend only on the
response of the server, the grace, and the time of the first signal (`RecordedResponse.fate`). No
other signal, request or server has any influence (`Sending.lifecycle`).

What a request has come to at some time is described by `Request.IsStage`, which every event keeps:
but for its end, the request is the one that was sent, signalled once at the most
(`Request.signalled`).
-/

namespace LanguageClient

/-- When and how a request ends that is sent at time `sent` to a server with this response, if its
first signal comes at the given time. The recorded answer means the outcome `recorded`. -/
def RecordedResponse.fate {α : Type} (response : RecordedResponse) (recorded : Outcome α)
    (sent grace : Nat) : Option Nat → Nat × Outcome α
  | none => (sent + response.delay, recorded)
  | some c =>
    if sent + response.delay < c then (sent + response.delay, recorded)
    else if response.ignoresCancel then
      if sent + response.delay < c + grace then (sent + response.delay, recorded)
      else (c + grace, .cancelled)
    else (c, .cancelled)

/-- No request outlives the grace after its first signal. -/
theorem RecordedResponse.fate_le {α : Type} (response : RecordedResponse) (recorded : Outcome α)
    (sent grace c : Nat) : (response.fate recorded sent grace (some c)).1 ≤ c + grace := by
  simp only [fate]
  split_ifs
  all_goals dsimp only; omega

/-- An answer that comes within the grace is not dropped, if the server goes on. -/
theorem RecordedResponse.fate_of_lt {α : Type} {response : RecordedResponse} (recorded : Outcome α)
    {sent grace c : Nat} (hignores : response.ignoresCancel) (h : sent + response.delay < c + grace) :
    response.fate recorded sent grace (some c) = (sent + response.delay, recorded) := by
  simp only [fate, hignores, h, if_true, ite_self]

namespace Request

/-- A request without what happened to it. -/
def core (r : Request) : Request := { r with isCancelled := false, ended := none }

/-- A new request behind its first signal, which does nothing once the answer is there. -/
def signalled (r : Request) : Option Nat → Request
  | none => r
  | some c => if c < r.due then r.signal c else r

theorem server_signalled (r : Request) (first : Option Nat) :
    (r.signalled first).server = r.server := by
  cases first with
  | none => rfl
  | some c =>
    rw [signalled]
    split_ifs
    · exact server_signal c r
    · rfl

theorem isTold_signalled {r : Request} (hnew : (r.isFinished || r.isTold) = false)
    (first : Option Nat) : (r.signalled first).isTold ↔ ∃ c ∈ first, c < r.due := by
  obtain ⟨hopen, htold⟩ := Bool.or_eq_false_iff.1 hnew
  cases first with
  | none => simp [signalled, htold]
  | some c =>
    rw [signalled]
    split_ifs with hc <;> simp [isTold_signal, hopen, htold, hc]

/-- `r` is what `r₀` has come to at time `now`, having been signalled first at `first`. -/
structure IsStage (r₀ r : Request) (first : Option Nat) (now : Nat) : Prop where
  core : r.core = (r₀.signalled first).core
  ended : r.ended = none ∨ r.ended = some r.finish ∧ r.finish.1 ≤ now
  first : ∀ c ∈ first, c ≤ now

/-- What the end of a request and the signals to it have no part in depends on its core. -/
theorem eq_of_core {α : Type*} {f : Request → α} (hf : ∀ r : Request, f r.core = f r) {r r' : Request}
    (h : r.core = r'.core) : f r = f r' := by
  rw [← hf r, h, hf r']

section

variable {r r' : Request} (h : r.core = r'.core)

include h

theorem finish_eq_of_core : r.finish = r'.finish := eq_of_core (fun _ => rfl) h

theorem isTold_eq_of_core : r.isTold = r'.isTold := eq_of_core (fun _ => rfl) h

theorem server_eq_of_core : r.server = r'.server := eq_of_core (fun _ => rfl) h

end

theorem finish_of_not_told {r : Request} (h : r.isTold = false) : r.finish = (r.due, r.answer) := by
  rw [isTold, Option.isSome_eq_false_iff, Option.isNone_iff_eq_none] at h
  rw [finish, h]

theorem core_advance (time : Nat) (r : Request) : (r.advance time).core = r.core := by
  rw [advance_eq]
  split_ifs <;> rfl

/-- A signal to a request that has ended, or was signalled before, changes nothing. -/
theorem core_signal_of_idle {r : Request} (h : r.isFinished || r.isTold) (now : Nat) :
    (r.signal now).core = r.core := by
  rw [signal, if_pos h]
  rfl

/-- What a signal to an open request does is up to what was sent. -/
theorem core_signal_of_open {r : Request} (h : (r.isFinished || r.isTold) = false) (now : Nat) :
    (r.signal now).core = (r.core.signal now).core := by
  have hcore : (r.core.isFinished || r.core.isTold) = false := (Bool.or_eq_false_iff.1 h).2
  have hignores : r.core.ignoresCancel = r.ignoresCancel := rfl
  rw [signal, signal, h, hcore, hignores, if_neg Bool.false_ne_true, if_neg Bool.false_ne_true]
  split_ifs <;> rfl

namespace IsStage

variable {r₀ r : Request} {first : Option Nat} {now : Nat} (h : IsStage r₀ r first now)

include h

theorem mono {now' : Nat} (hle : now ≤ now') : IsStage r₀ r first now' where
  core := h.core
  ended := h.ended.imp_right (And.imp_right (·.trans hle))
  first := fun c hc => (h.first c hc).trans hle

theorem advance (time : Nat) : IsStage r₀ (r.advance time) first (max now time) where
  core := (core_advance time r).trans h.core
  ended := by
    rw [advance_eq]
    split_ifs with hends
    · have hfinish : r.finish.1 ≤ time := by
        simpa using (Bool.and_eq_true_iff.1 hends).2
      exact Or.inr ⟨rfl, hfinish.trans (le_max_right _ _)⟩
    · exact (h.mono (le_max_left _ _)).ended
  first := (h.mono (le_max_left _ _)).first

section

variable (hnew : (r₀.isFinished || r₀.isTold) = false)

include hnew

/-- As long as no signal has come in time, the request ends as it was sent. -/
theorem finish_eq (hlate : ∀ c ∈ first, ¬ c < r₀.due) :
    r.core = r₀.core ∧ r.isTold = false ∧ r.finish.1 = r₀.due := by
  have hsignalled : r₀.signalled first = r₀ := by
    cases first with
    | none => rfl
    | some c => exact if_neg (hlate c rfl)
  have hcore : r.core = r₀.core := h.core.trans (congrArg Request.core hsignalled)
  have htold : r₀.isTold = false := (Bool.or_eq_false_iff.1 hnew).2
  refine ⟨hcore, (isTold_eq_of_core hcore).trans htold, ?_⟩
  rw [finish_eq_of_core hcore, finish_of_not_told htold]

/-- A signal to a request that has ended, or was signalled before, has no place in its life. -/
theorem signalled_of_idle (hidle : r.isFinished || r.isTold) :
    r₀.signalled (first.or (some now)) = r₀.signalled first := by
  cases first with
  | some c => rfl
  | none =>
    obtain ⟨-, htold, hfinish⟩ := h.finish_eq hnew fun c hc => absurd hc (Option.not_mem_none c)
    have hfinished : r.ended ≠ none := by
      simpa [htold, isFinished, Option.isSome_iff_ne_none] using hidle
    have hdue : r₀.due ≤ now := hfinish ▸ (h.ended.resolve_left hfinished).2
    exact if_neg hdue.not_gt

/-- A signal to an open request is its first one. -/
theorem first_eq_none (hopen : (r.isFinished || r.isTold) = false) (htimely : now ≤ r.finish.1)
    (hmoment : ∀ c ∈ first, c ≠ r₀.due) : first = none := by
  cases hfirst : first with
  | none => rfl
  | some c =>
    subst hfirst
    -- the server was told of a signal in time, and had answered before a late one
    by_cases hc : c < r₀.due
    · have hsignalled : r₀.signalled (some c) = r₀.signal c := if_pos hc
      have htold : r.isTold := by
        rw [isTold_eq_of_core h.core, hsignalled, isTold_signal, (Bool.or_eq_false_iff.1 hnew).1]
        rfl
      rw [htold, Bool.or_true] at hopen
      exact absurd hopen.symm Bool.false_ne_true
    · obtain ⟨-, -, hfinish⟩ := h.finish_eq hnew fun c' hc' => Option.mem_some.1 hc' ▸ hc
      have hle := h.first c rfl
      have hne := hmoment c rfl
      omega

/-- A signal leads to the next stage, unless it comes just when the answer is due. -/
theorem signal (htimely : r.isFinished = false → now ≤ r.finish.1)
    (hmoment : ∀ c ∈ first.or (some now), c ≠ r₀.due) :
    IsStage r₀ (r.signal now) (first.or (some now)) now where
  core := by
    -- only the first signal to an open request counts, and it comes in time
    cases hidle : r.isFinished || r.isTold with
    | true => rw [core_signal_of_idle hidle, h.signalled_of_idle hnew hidle, h.core]
    | false =>
      have hle := htimely (Bool.or_eq_false_iff.1 hidle).1
      obtain rfl : first = none := h.first_eq_none hnew hidle hle fun c hc =>
        hmoment c (by rw [Option.mem_def.1 hc]; rfl)
      obtain ⟨hcore, -, hfinish⟩ := h.finish_eq hnew fun c hc => absurd hc (Option.not_mem_none c)
      have hlt : now < r₀.due := lt_of_le_of_ne (hfinish ▸ hle) (hmoment now rfl)
      rw [Option.none_or, signalled, if_pos hlt, core_signal_of_open hidle, hcore,
        ← core_signal_of_open hnew]
  ended := by
    rw [ended_signal]
    refine h.ended.imp_right fun hend => ?_
    obtain ⟨hended, hfinish⟩ := hend
    have hidle : r.isFinished || r.isTold := by simp [isFinished, hended]
    rw [finish_eq_of_core (core_signal_of_idle hidle now)]
    exact ⟨hended, hfinish⟩
  first := by
    cases first with
    | none => simp
    | some c => exact h.first

end

end IsStage

/-- How a request ends that was signalled first at `first`, with no two things at the same moment. -/
theorem finish_signalled {α : Type} (read : Json → Option α) (mismatch : String) {r : Request}
    {response : RecordedResponse} {sent : Nat} (hnew : (r.isFinished || r.isTold) = false)
    (hdue : r.due = sent + response.delay) (hignores : r.ignoresCancel = response.ignoresCancel)
    {first : Option Nat}
    (hmoments : ∀ c ∈ first, c ≠ r.due ∧ (r.ignoresCancel → c + r.grace ≠ r.due)) :
    ((r.signalled first).finish.1, Outcome.ofAnswer read mismatch (r.signalled first).finish.2) =
      response.fate (Outcome.ofAnswer read mismatch r.answer) sent r.grace first := by
  have hfinish := finish_of_not_told (Bool.or_eq_false_iff.1 hnew).2
  cases first with
  | none => rw [signalled, hfinish, RecordedResponse.fate, ← hdue]
  | some c =>
    obtain ⟨hne, hgrace⟩ := hmoments c rfl
    rw [RecordedResponse.fate, ← hdue, ← hignores, signalled]
    by_cases hlate : c < r.due
    · rw [if_pos hlate, if_neg hlate.not_gt, signal, hnew, if_neg Bool.false_ne_true]
      cases hr : r.ignoresCancel with
      | false =>
        have hdeadline : ¬ c + r.grace < c := by omega
        simp only [Bool.false_eq_true, if_false, finish, hdeadline]
        rfl
      | true =>
        simp only [if_true, finish]
        rcases lt_or_gt_of_ne (hgrace hr) with hlt | hlt
        · rw [if_pos hlt, if_neg hlt.not_gt]
          rfl
        · rw [if_neg hlt.not_gt, if_pos hlt]
    · have hlt : r.due < c := by omega
      rw [if_neg hlate, if_pos hlt, hfinish]

end Request

namespace Exchange

/-! ## In the course of time -/

variable {x : Exchange} {id : RequestId} {r₀ r : Request} {first : Option Nat}

/-- An event leads to the same stage or to the next one. -/
theorem isStage_perform (hx : x.IsConsistent) (hr : x.request? id = some r)
    (hnew : (r₀.isFinished || r₀.isTold) = false) (h : r₀.IsStage r first x.now)
    (event : ExchangeEvent)
    (hmoment : ∀ c ∈ first.or (x.signals id [event]).head?, c ≠ r₀.due) :
    r₀.IsStage (event.effect x.now r) (first.or (x.signals id [event]).head?)
      (x.perform event).1.now := by
  cases event with
  | attach _ | detach _ => simpa [signals, ExchangeEvent.effect] using h.mono (x.le_now_perform _)
  | dispatch qualifies grace method params =>
    simpa [signals, ExchangeEvent.effect] using h.mono (x.le_now_perform _)
  | advance time =>
    simpa [signals, ExchangeEvent.effect, perform, Exchange.advance] using h.advance time
  | cancel id' =>
    have hid := id_eq_of_request? hr
    have hnow : (x.perform (.cancel id')).1.now = x.now := now_cancel x id'
    rw [hnow, ExchangeEvent.effect, hid]
    by_cases heq : id' = id
    · subst heq
      simp only [signals, if_true, List.head?_cons] at hmoment ⊢
      exact h.signal hnew (hx.timely r (mem_of_request? hr)) hmoment
    · rw [if_neg (Ne.symm heq)]
      simpa [signals, heq] using h

/-- **A request goes through the stages of its life**, whatever happens besides. -/
theorem exists_isStage_run (hx : x.IsConsistent) (hr : x.request? id = some r)
    (hnew : (r₀.isFinished || r₀.isTold) = false) (h : r₀.IsStage r first x.now)
    (events : List ExchangeEvent)
    (hmoment : ∀ c ∈ first.or (x.signals id events).head?, c ≠ r₀.due) :
    ∃ r', (x.run events).request? id = some r' ∧
      r₀.IsStage r' (first.or (x.signals id events).head?) (x.run events).now := by
  induction events generalizing x r first with
  | nil => exact ⟨r, hr, by simpa [signals, run] using h⟩
  | cons event events ih =>
    have hsignals := x.signals_append id [event] events
    rw [List.singleton_append] at hsignals
    rw [hsignals, List.head?_append, ← Option.or_assoc] at hmoment ⊢
    refine ih (hx.perform event) (request?_perform hr event)
      (isStage_perform hx hr hnew h event fun c hc => hmoment c ?_) hmoment
    rw [Option.mem_def.1 hc]
    rfl

end Exchange

/-! ## Requests that are sent to recorded servers -/

/-- A request that is sent at any time. Among the servers that qualify, the one looked at is
`server`, which comes `order` places behind the first and has a response to the request. -/
structure Sending where
  servers : List RecordedServer
  before : List ExchangeEvent
  qualifies : RecordedServer → Bool
  grace : Nat
  method : String
  params : Json
  order : Nat
  place : Nat
  server : RecordedServer
  response : RecordedResponse
  qualifying : (((Exchange.ofServers servers).run before).qualifying qualifies)[order]? =
    some (place, server)
  recorded : server.response? method = some response

namespace Sending

variable (s : Sending)

/-- The exchange in which the request is sent. -/
def exchange : Exchange := (Exchange.ofServers s.servers).run s.before

/-- The numbers of the new requests, with the names of their servers, and the exchange behind. -/
def dispatched : Exchange × List (RequestId × String) :=
  s.exchange.dispatch s.qualifies s.grace s.method s.params

/-- The number of the request. -/
def id : RequestId := s.exchange.requests.length + 1 + s.order

/-- The time at which the recorded answer is due. -/
def due : Nat := s.exchange.now + s.response.delay

/-- The request as it is sent. -/
def request : Request :=
  s.exchange.requestTo s.grace s.method s.params s.order (s.place, s.server)

/-- The time of the first signal to the request. -/
def firstSignal? (later : List ExchangeEvent) : Option Nat :=
  (s.dispatched.1.signals s.id later).head?

/-- The outcomes of the request that are reported. -/
def outcomes {α : Type} (read : Json → Option α) (mismatch : String) (later : List ExchangeEvent) :
    List (Outcome α) :=
  ((s.dispatched.1.reported later).filter (·.1 == s.id)).map fun e => Outcome.ofAnswer read mismatch e.2

/-- When and how the request is to end. -/
def fate {α : Type} (read : Json → Option α) (mismatch : String) (later : List ExchangeEvent) :
    Nat × Outcome α :=
  s.response.fate (Outcome.ofAnswer read mismatch (s.response.answer s.server.name)) s.exchange.now
    s.grace (s.firstSignal? later)

theorem isConsistent_exchange : s.exchange.IsConsistent :=
  (Exchange.isConsistent_ofServers s.servers).run s.before

theorem isConsistent_dispatched : s.dispatched.1.IsConsistent :=
  s.isConsistent_exchange.perform (.dispatch s.qualifies s.grace s.method s.params)

theorem request_eq : s.request =
    { id := s.id, server := s.place, method := s.method, params := s.params, due := s.due
      answer := s.response.answer s.server.name, ignoresCancel := s.response.ignoresCancel
      grace := s.grace } := by
  rw [request, Exchange.requestTo, Exchange.newRequest, s.recorded]
  rfl

theorem request?_dispatched : s.dispatched.1.request? s.id = some s.request := by
  have hmem : s.request ∈ s.dispatched.1.requests := by
    have hserver : ((s.place, s.server), s.order) ∈ (s.exchange.qualifying s.qualifies).zipIdx :=
      List.mk_mem_zipIdx_iff_getElem?.2 s.qualifying
    have hrequests := s.exchange.requests_perform (.dispatch s.qualifies s.grace s.method s.params)
    exact hrequests ▸ List.mem_append_right _ (List.mem_map.2 ⟨_, hserver, rfl⟩)
  have h := Exchange.request?_of_mem s.isConsistent_dispatched.numbered.nodup hmem
  rwa [request_eq] at h ⊢

/-- No signal comes at the moment at which the answer is due, or at which it is given up. -/
def Undisputed (later : List ExchangeEvent) : Prop :=
  ∀ c ∈ s.firstSignal? later, c ≠ s.due ∧ (s.response.ignoresCancel → c + s.grace ≠ s.due)

variable {s} {later : List ExchangeEvent}

theorem getElem?_dispatched : s.dispatched.2[s.order]? = some (s.id, s.server.name) := by
  have h : (s.exchange.qualifying s.qualifies)[s.order]? = some (s.place, s.server) := s.qualifying
  simp [dispatched, Exchange.dispatch, id, h]

theorem due_request : s.request.due = s.due := by rw [request_eq]

theorem isIdle_request : (s.request.isFinished || s.request.isTold) = false := by
  rw [request_eq]
  rfl

theorem moments_request (h : s.Undisputed later) : ∀ c ∈ s.firstSignal? later,
    c ≠ s.request.due ∧ (s.request.ignoresCancel → c + s.request.grace ≠ s.request.due) := by
  rw [request_eq]
  exact h

/-- The request is in some stage of its life. -/
theorem exists_isStage (h : s.Undisputed later) :
    ∃ r, (s.dispatched.1.run later).request? s.id = some r ∧
      s.request.IsStage r (s.firstSignal? later) (s.dispatched.1.run later).now := by
  have hstart : s.request.IsStage s.request none s.dispatched.1.now :=
    ⟨rfl, Or.inl (by rw [request_eq]), fun c hc => absurd hc (Option.not_mem_none c)⟩
  simpa [firstSignal?] using Exchange.exists_isStage_run s.isConsistent_dispatched s.request?_dispatched
    isIdle_request hstart later fun c hc => (moments_request h c hc).1

/-- In each stage it is settled when and how the request ends. -/
theorem finish_eq_fate (h : s.Undisputed later) {r : Request} {now : Nat}
    (hstage : s.request.IsStage r (s.firstSignal? later) now) {α : Type} (read : Json → Option α)
    (mismatch : String) :
    (r.finish.1, Outcome.ofAnswer read mismatch r.finish.2) = s.fate read mismatch later := by
  have hignores : s.request.ignoresCancel = s.response.ignoresCancel := by rw [request_eq]
  rw [Request.finish_eq_of_core hstage.core]
  refine (Request.finish_signalled read mismatch isIdle_request due_request hignores
    (moments_request h)).trans ?_
  rw [request_eq]
  rfl

/-- What is reported of the request is its outcome, once it has ended. -/
theorem outcomes_eq (h : s.Undisputed later) {α : Type} (read : Json → Option α)
    (mismatch : String) : s.outcomes read mismatch later =
      if (s.dispatched.1.run later).isFinished s.id then [(s.fate read mismatch later).2] else [] := by
  obtain ⟨r, hr, hstage⟩ := exists_isStage h
  have hopen : s.request.ended = none := by rw [request_eq]
  rw [outcomes, Exchange.reported_filter s.isConsistent_dispatched s.request?_dispatched hopen hr,
    Exchange.isFinished, hr, ← finish_eq_fate h hstage]
  obtain hended | ⟨hended, -⟩ := hstage.ended <;> simp [hended, Request.isFinished]

theorem firstSignal?_append_advance (later : List ExchangeEvent) (time : Nat) :
    s.firstSignal? (later ++ [.advance time]) = s.firstSignal? later := by
  rw [firstSignal?, Exchange.signals_append]
  exact congrArg _ (List.append_nil _)

/-- Once its time has come, the request has ended. -/
theorem isFinished_append_advance (h : s.Undisputed later) {α : Type} (read : Json → Option α)
    (mismatch : String) {time : Nat} (htime : (s.fate read mismatch later).1 ≤ time) :
    (s.dispatched.1.run (later ++ [.advance time])).isFinished s.id := by
  obtain ⟨r, hr, hstage⟩ := exists_isStage h
  have hle : r.finish.1 ≤ time :=
    (congrArg Prod.fst (finish_eq_fate h hstage read mismatch)).trans_le htime
  have hadvance : (s.dispatched.1.run (later ++ [.advance time])).request? s.id =
      some (r.advance time) := by
    rw [Exchange.run_append]
    exact Exchange.request?_perform hr (.advance time)
  simp [Exchange.isFinished, hadvance, Request.isFinished_advance, hle]

/-- The request ends at its time. -/
theorem ended_eq_fate (h : s.Undisputed later) {α : Type} (read : Json → Option α)
    (mismatch : String) : ∀ e ∈ ((s.dispatched.1.run later).request? s.id).bind (·.ended),
      e.1 = (s.fate read mismatch later).1 ∧ e.1 ≤ (s.dispatched.1.run later).now := by
  intro e he
  obtain ⟨r, hr, hstage⟩ := exists_isStage h
  have hended : r.ended = some e := by simpa [hr] using he
  obtain hopen | ⟨heq, hle⟩ := hstage.ended
  · rw [hopen] at hended
    cases hended
  · obtain rfl := Option.some.inj (hended.symm.trans heq)
    exact ⟨congrArg Prod.fst (finish_eq_fate h hstage read mismatch), hle⟩

/-- The request is not open behind its time. -/
theorem isFinished_of_lt (h : s.Undisputed later) {α : Type} (read : Json → Option α)
    (mismatch : String) (hlate : (s.fate read mismatch later).1 < (s.dispatched.1.run later).now) :
    (s.dispatched.1.run later).isFinished s.id := by
  obtain ⟨r, hr, hstage⟩ := exists_isStage h
  rw [Exchange.isFinished, hr, Option.any_some]
  by_contra hopen
  have hle := (s.isConsistent_dispatched.run later).timely r (Exchange.mem_of_request? hr)
    (Bool.eq_false_iff.2 hopen)
  rw [← finish_eq_fate h hstage] at hlate
  exact absurd hle hlate.not_ge

/-- Once its time has come, the request has ended with its outcome. -/
theorem outcomes_append_advance (h : s.Undisputed later) {α : Type} (read : Json → Option α)
    (mismatch : String) {time : Nat} (htime : (s.fate read mismatch later).1 ≤ time) :
    s.outcomes read mismatch (later ++ [.advance time]) = [(s.fate read mismatch later).2] := by
  have hsame := s.firstSignal?_append_advance later time
  have hfate : s.fate read mismatch (later ++ [.advance time]) = s.fate read mismatch later := by
    rw [fate, fate, hsame]
  have h' : s.Undisputed (later ++ [.advance time]) := by
    rwa [Undisputed, hsame]
  rw [outcomes_eq h', if_pos (isFinished_append_advance h read mismatch htime), hfate]

/-- What becomes of a request that was signalled. -/
theorem fate_of_signal {α : Type} (read : Json → Option α) (mismatch : String) {c : Nat}
    (hc : c ∈ s.firstSignal? later) : (s.fate read mismatch later).1 ≤ c + s.grace ∧
      (s.response.ignoresCancel → s.due < c + s.grace → s.fate read mismatch later =
        (s.due, Outcome.ofAnswer read mismatch (s.response.answer s.server.name))) := by
  rw [fate, Option.mem_def.1 hc]
  exact ⟨RecordedResponse.fate_le _ _ _ _ c, RecordedResponse.fate_of_lt _⟩

/-- The server is told once of the first signal, if this comes before the answer. -/
theorem count_toldTo (h : s.Undisputed later) (place : Nat) :
    ((s.dispatched.1.run later).toldTo place).count s.id =
      if place = s.place ∧ ∃ c ∈ s.firstSignal? later, c < s.due then 1 else 0 := by
  obtain ⟨r, hr, hstage⟩ := exists_isStage h
  have hplace : r.server = s.place := by
    rw [Request.server_eq_of_core hstage.core, Request.server_signalled, request_eq]
  have htold : r.isTold ↔ ∃ c ∈ s.firstSignal? later, c < s.due := by
    rw [Request.isTold_eq_of_core hstage.core, ← due_request]
    exact Request.isTold_signalled isIdle_request _
  have hcount := (s.isConsistent_dispatched.run later).told s.id
  simp only [hr, Option.any_some, htold] at hcount
  rw [Exchange.toldTo]
  by_cases heq : place = s.place
  · rw [List.count_filter (by simp [hr, hplace, heq]), hcount]
    simp only [heq, true_and]
  · rw [if_neg fun h => heq h.1]
    refine List.count_eq_zero.2 fun hmem => heq ?_
    have hserver : r.server = place := by simpa [hr] using (List.mem_filter.1 hmem).2
    rw [← hserver, hplace]

/-- **The life of a request.** It ends once, at its time and with its outcome, and its server is
told once of the first signal, if this comes before the answer. -/
theorem lifecycle (h : s.Undisputed later) {α : Type} (read : Json → Option α) (mismatch : String) :
    let x := s.dispatched.1.run later
    let fate := s.fate read mismatch later
    s.dispatched.2[s.order]? = some (s.id, s.server.name) ∧
      s.outcomes read mismatch later = (if x.isFinished s.id then [fate.2] else []) ∧
      (∀ e ∈ (x.request? s.id).bind (·.ended), e.1 = fate.1 ∧ e.1 ≤ x.now) ∧
      (fate.1 < x.now → x.isFinished s.id) ∧
      (∀ time ≥ fate.1, s.outcomes read mismatch (later ++ [.advance time]) = [fate.2]) ∧
      (∀ place, (x.toldTo place).count s.id =
        if place = s.place ∧ ∃ c ∈ s.firstSignal? later, c < s.due then 1 else 0) ∧
      ∀ c ∈ s.firstSignal? later, fate.1 ≤ c + s.grace ∧
        (s.response.ignoresCancel → s.due < c + s.grace → fate =
          (s.due, Outcome.ofAnswer read mismatch (s.response.answer s.server.name))) := by
  intro x fate
  exact ⟨getElem?_dispatched, outcomes_eq h read mismatch, ended_eq_fate h read mismatch,
    isFinished_of_lt h read mismatch, fun time => outcomes_append_advance h read mismatch,
    count_toldTo h, fun c hc => fate_of_signal read mismatch hc⟩

/-- A folding request to a server that answers after 300 milliseconds and ignores signals, with a grace
of 100 milliseconds. It is the second request to the server. -/
def stubborn : Sending :=
  let method := "textDocument/foldingRange"
  let response : RecordedResponse := { result := .array [], delay := 300, ignoresCancel := true }
  let server : RecordedServer := { name := "slow", responses := [(method, response)] }
  { servers := [server]
    before := [.dispatch (fun _ => true) 100 method .null, .advance 50]
    qualifies := fun _ => true
    grace := 100
    method := method
    params := .null
    order := 0
    place := 0
    server := server
    response := response
    qualifying := rfl
    recorded := rfl }

/-- The request is given up 100 milliseconds after the first of two signals. Its server is told once,
and its answer comes to nothing. -/
theorem lifecycle_stubborn :
    let later : List ExchangeEvent :=
      [.advance 120, .cancel 2, .detach "slow", .advance 170, .cancel 2]
    stubborn.Undisputed later ∧
      stubborn.fate some "" later = (220, .cancelled) ∧
      stubborn.outcomes some "" later = [] ∧
      stubborn.outcomes some "" (later ++ [.advance 1000]) = [.cancelled] ∧
      ((stubborn.dispatched.1.run later).toldTo 0).count 2 = 1 := by
  intro later
  have hmoments : stubborn.Undisputed later := by
    intro c hc
    obtain rfl : 120 = c := Option.some.inj hc
    exact ⟨by decide, by decide⟩
  obtain ⟨-, houtcomes, -, -, hlater, htold, -⟩ := lifecycle hmoments some ""
  exact ⟨hmoments, rfl, houtcomes, hlater 1000 (by decide), htold 0⟩

end Sending

end LanguageClient
