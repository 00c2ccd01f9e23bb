import LanguageClient.Session.Editor
import Mathlib

/-!
# The ends of requests

`Exchange.ends` lists which requests were sent and how they ended. Nothing else of an exchange
says what came back (`answer?_eq`), and only two things change it: sending adds requests without
an end, numbered on from the last one (`ends_dispatch`), and `conclude` ends one of them
(`answer?_conclude`). A request that is cancelled has not ended for that.
-/

namespace LanguageClient

/-- What is looked up by its own key is found, if no other one has that key. -/
theorem find?_key_of_mem {α β : Type*} [DecidableEq β] {key : α → β} {l : List α}
    (h : (l.map key).Nodup) {a : α} (ha : a ∈ l) : l.find? (key · == key a) = some a := by
  cases hfind : l.find? (key · == key a) with
  | none => simpa using List.find?_eq_none.1 hfind a ha
  | some b =>
    have hkey : key b = key a := by simpa using List.find?_some hfind
    rw [List.inj_on_of_nodup_map h (List.mem_of_find?_eq_some hfind) ha hkey]

@[simp]
theorem Request.id_signal (now : Nat) (r : Request) : (r.signal now).id = r.id := by
  unfold signal
  split_ifs <;> rfl

@[simp]
theorem Request.id_advance (time : Nat) (r : Request) : (r.advance time).id = r.id := by
  unfold advance
  split_ifs <;> rfl

@[simp]
theorem Request.server_signal (now : Nat) (r : Request) : (r.signal now).server = r.server := by
  unfold signal
  split_ifs <;> rfl

@[simp]
theorem Request.ended_signal (now : Nat) (r : Request) : (r.signal now).ended = r.ended := by
  unfold signal
  split_ifs <;> rfl

namespace Exchange

variable (x : Exchange)

/-- The numbers of all requests, with their ends. -/
def ends : List (RequestId × Option (Nat × Answer)) := x.requests.map fun r => (r.id, r.ended)

theorem map_fst_ends : x.ends.map (·.1) = x.requests.map (·.id) := List.map_map

theorem length_ends : x.ends.length = x.requests.length := List.length_map _

theorem find?_ends (id : RequestId) :
    x.ends.find? (·.1 == id) = (x.request? id).map fun r => (r.id, r.ended) := by
  rw [ends, List.find?_map]
  rfl

theorem answer?_eq (id : RequestId) :
    x.answer? id = (x.ends.find? (·.1 == id)).bind fun e => e.2.map (·.2) := by
  rw [find?_ends, answer?]
  cases x.request? id <;> rfl

theorem answer?_congr {x x' : Exchange} (h : x'.ends = x.ends) (id : RequestId) :
    x'.answer? id = x.answer? id := by
  rw [answer?_eq, answer?_eq, h]

theorem isOpen_iff {id : RequestId} :
    x.isOpen id ↔ x.ends.find? (·.1 == id) = some (id, none) := by
  rw [find?_ends, isOpen]
  cases h : x.request? id with
  | none => simp
  | some r =>
    have hid : r.id = id := by simpa using List.find?_some h
    simp [hid, Request.isFinished]

theorem answer?_eq_none_of_isOpen {id : RequestId} (h : x.isOpen id) : x.answer? id = none := by
  rw [answer?_eq, x.isOpen_iff.1 h]
  rfl

/-! ## Signals -/

theorem ends_cancel (id : RequestId) : (x.cancel id).ends = x.ends := by
  unfold cancel
  split
  · rfl
  · rw [ends, ends, List.map_map]
    refine List.map_congr_left fun r _ => ?_
    by_cases h : r.id = id <;> simp [h]

theorem ends_cancelAll (ids : List RequestId) : (x.cancelAll ids).ends = x.ends := by
  unfold cancelAll
  induction ids generalizing x with
  | nil => rfl
  | cons id ids ih => rw [List.foldl_cons, ih, ends_cancel]

/-! ## Sending -/

theorem ends_sendAll (grace : Nat) (method : String) (params : Json)
    (servers : List (Nat × RecordedServer)) :
    (sendAll grace method params x servers).ends =
      x.ends ++ (List.range' (x.ends.length + 1) servers.length).map (·, none) := by
  induction servers generalizing x with
  | nil => simp [sendAll]
  | cons s servers ih =>
    have hnew : (x.newRequest grace method params s.1 s.2).id = x.ends.length + 1 ∧
        (x.newRequest grace method params s.1 s.2).ended = none := by
      rw [length_ends, newRequest]
      split <;> exact ⟨rfl, rfl⟩
    have hends : ({ x with
        requests := x.requests ++ [x.newRequest grace method params s.1 s.2] } : Exchange).ends =
          x.ends ++ [(x.ends.length + 1, none)] := by
      rw [ends, List.map_append, List.map_singleton, hnew.1, hnew.2, ends]
    rw [sendAll, ih, hends, List.append_assoc, List.length_append, List.length_singleton,
      List.length_cons, List.range'_succ]
    rfl

variable (qualifies : RecordedServer → Bool) (grace : Nat) (method : String) (params : Json)

theorem snd_dispatch : (x.dispatch qualifies grace method params).2.map (·.1) =
    List.range' (x.ends.length + 1) (x.qualifying qualifies).length := by
  rw [dispatch, length_ends, List.map_map]
  refine List.ext_getElem (by simp) fun i _ _ => ?_
  simp

/-- New requests take the numbers behind the last one. -/
theorem ends_dispatch : (x.dispatch qualifies grace method params).1.ends =
    x.ends ++ ((x.dispatch qualifies grace method params).2.map (·.1)).map (·, none) := by
  rw [snd_dispatch]
  exact ends_sendAll x grace method params _

theorem answer?_of_ends_eq_append {x x' : Exchange} {ids : List RequestId}
    (h : x'.ends = x.ends ++ ids.map (·, none)) (id : RequestId) : x'.answer? id = x.answer? id := by
  rw [answer?_eq, answer?_eq, h, List.find?_append]
  cases x.ends.find? (·.1 == id) with
  | some e => rfl
  | none =>
    rw [Option.none_or, List.find?_map]
    cases ids.find? _ <;> rfl

/-! ## Answers -/

variable {x} {id : RequestId}

theorem ends_conclude (answer : Answer) : (x.conclude id answer).ends =
    x.ends.map fun e => if e.1 = id then (e.1, some (x.now, answer)) else e := by
  rw [conclude, ends, ends, List.map_map, List.map_map]
  refine List.map_congr_left fun r _ => ?_
  by_cases h : r.id = id <;> simp [h]

theorem map_fst_ends_conclude (answer : Answer) :
    (x.conclude id answer).ends.map (·.1) = x.ends.map (·.1) := by
  rw [ends_conclude, List.map_map]
  refine List.map_congr_left fun e _ => ?_
  by_cases h : e.1 = id <;> simp [h]

theorem find?_ends_conclude (answer : Answer) (id' : RequestId) :
    (x.conclude id answer).ends.find? (·.1 == id') =
      (x.ends.find? (·.1 == id')).map fun e =>
        if e.1 = id then (e.1, some (x.now, answer)) else e := by
  rw [ends_conclude, List.find?_map]
  congr 2
  funext e
  by_cases h : e.1 = id <;> simp [h]

/-- An answer is the answer to its request, and to no other one. -/
theorem answer?_conclude (h : x.isOpen id) (answer : Answer) (id' : RequestId) :
    (x.conclude id answer).answer? id' = if id' = id then some answer else x.answer? id' := by
  rw [answer?_eq, answer?_eq, find?_ends_conclude]
  by_cases hid : id' = id
  · rw [hid, x.isOpen_iff.1 h]
    simp
  · rw [if_neg hid]
    cases hfind : x.ends.find? (·.1 == id') with
    | none => rfl
    | some e =>
      have he : e.1 = id' := by simpa using List.find?_some hfind
      simp [he, hid]

/-- The other requests stay open. -/
theorem isOpen_conclude {id' : RequestId} (h : x.isOpen id') (hne : id' ≠ id) (answer : Answer) :
    (x.conclude id answer).isOpen id' := by
  rw [isOpen_iff] at h ⊢
  rw [find?_ends_conclude, h]
  simp [hne]

/-- What was sent without an end is open. -/
theorem isOpen_of_mem_ends (hnodup : (x.ends.map (·.1)).Nodup) (h : (id, none) ∈ x.ends) :
    x.isOpen id :=
  x.isOpen_iff.2 (find?_key_of_mem hnodup h)

end Exchange

end LanguageClient
