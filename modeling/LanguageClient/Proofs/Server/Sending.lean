import LanguageClient.Proofs.Server.Ends
import Mathlib

/-!
# Sending to several servers

The requests of an exchange are numbered in the order of sending (`Exchange.IsNumbered`). When a
request is sent to several servers, each of them gets one with the next number, which ends after the
delay of its server and with its answer (`Exchange.requests_dispatch`, `Exchange.finish_requestTo`).
Whoever waits as long as `Exchange.finishTime` says has waited for each of them (`le_finishTime`).
-/

namespace LanguageClient

namespace RecordedServer

variable (server : RecordedServer) (method : String)

/-- How long a server takes to answer a method. One without a response to it refuses it at once. -/
def delayOf : Nat := (server.response? method).elim 0 (·.delay)

/-- What a server answers to a method. -/
def answerTo : Answer :=
  (server.response? method).elim (.error (.rpc .methodNotFound)) (·.answer server.name)

end RecordedServer

namespace Exchange

variable {x : Exchange}

/-! ## Numbers -/

/-- The requests are numbered from 1 on. -/
def IsNumbered (x : Exchange) : Prop := x.ends.map (·.1) = List.range' 1 x.ends.length

theorem isNumbered_ofServers (servers : List RecordedServer) : (ofServers servers).IsNumbered := rfl

namespace IsNumbered

variable (h : x.IsNumbered)

include h

theorem nodup : (x.requests.map (·.id)).Nodup := by
  rw [← map_fst_ends, h]
  exact List.nodup_range'

theorem id_le {r : Request} (hr : r ∈ x.requests) : r.id ≤ x.requests.length := by
  have hmem : r.id ∈ x.ends.map (·.1) := map_fst_ends x ▸ List.mem_map_of_mem hr
  rw [h, List.mem_range'_1, length_ends] at hmem
  exact Nat.lt_one_add_iff.1 hmem.2

theorem dispatch (qualifies : RecordedServer → Bool) (grace : Nat) (method : String)
    (params : Json) : (x.dispatch qualifies grace method params).1.IsNumbered := by
  rw [IsNumbered, ends_dispatch, snd_dispatch, List.map_append, h, List.map_map, List.length_append,
    List.length_map, List.length_range', ← List.range'_append_1, Nat.add_comm 1]
  simp [Function.comp_def]

theorem cancelAll (ids : List RequestId) : (x.cancelAll ids).IsNumbered := by
  rwa [IsNumbered, ends_cancelAll]

theorem advance (time : Nat) : (x.advance time).1.IsNumbered := by
  have hids : (x.advance time).1.ends.map (·.1) = x.ends.map (·.1) := by
    simp [map_fst_ends, Exchange.advance]
  rw [IsNumbered, hids, h, length_ends, length_ends, Exchange.advance, List.length_map]

theorem attach (server : RecordedServer) : (x.attach server).IsNumbered := h

theorem detach (name : String) : (x.detach name).IsNumbered := h

end IsNumbered

/-! ## New requests -/

variable (x) (grace : Nat) (method : String) (params : Json)

/-- The request to a server to which `i` others are sent before. -/
def requestTo (i : Nat) (server : Nat × RecordedServer) : Request :=
  { x.newRequest grace method params server.1 server.2 with id := x.requests.length + 1 + i }

theorem finish_requestTo (i : Nat) (server : Nat × RecordedServer) :
    (x.requestTo grace method params i server).finish =
      (x.now + server.2.delayOf method, server.2.answerTo method) := by
  unfold requestTo newRequest RecordedServer.delayOf RecordedServer.answerTo
  cases server.2.response? method <;> rfl

theorem isFinished_requestTo (i : Nat) (server : Nat × RecordedServer) :
    (x.requestTo grace method params i server).isFinished = false := by
  unfold requestTo newRequest
  cases server.2.response? method <;> rfl

theorem isTold_requestTo (i : Nat) (server : Nat × RecordedServer) :
    (x.requestTo grace method params i server).isTold = false := by
  unfold requestTo newRequest
  cases server.2.response? method <;> rfl

theorem grace_requestTo (i : Nat) (server : Nat × RecordedServer) :
    (x.requestTo grace method params i server).grace = grace := by
  unfold requestTo newRequest
  cases server.2.response? method <;> rfl

/-- Sending one request leaves the others as they would have been, one place further. -/
theorem requestTo_append (r : Request) (i : Nat) (server : Nat × RecordedServer) :
    requestTo { x with requests := x.requests ++ [r] } grace method params i server =
      x.requestTo grace method params (i + 1) server := by
  have hid : x.requests.length + 1 + 1 + i = x.requests.length + 1 + (i + 1) := by omega
  unfold requestTo newRequest
  cases server.2.response? method <;> simp only [List.length_append, List.length_singleton, hid]

theorem requests_sendAll (servers : List (Nat × RecordedServer)) :
    (sendAll grace method params x servers).requests = x.requests ++
      servers.zipIdx.map fun e => x.requestTo grace method params e.2 e.1 := by
  induction servers generalizing x with
  | nil => simp [sendAll]
  | cons server servers ih =>
    have hnew : x.newRequest grace method params server.1 server.2 =
        x.requestTo grace method params 0 server := by
      unfold requestTo newRequest
      cases server.2.response? method <;> rfl
    rw [sendAll, ih, hnew, List.zipIdx_cons, List.map_cons, List.zipIdx_succ, List.map_map,
      List.append_assoc, List.singleton_append]
    simp only [requestTo_append]
    rfl

theorem now_sendAll (servers : List (Nat × RecordedServer)) :
    (sendAll grace method params x servers).now = x.now := by
  induction servers generalizing x with
  | nil => rfl
  | cons server servers ih => rw [sendAll, ih]

theorem told_sendAll (servers : List (Nat × RecordedServer)) :
    (sendAll grace method params x servers).told = x.told := by
  induction servers generalizing x with
  | nil => rfl
  | cons server servers ih => rw [sendAll, ih]

/-! ## Waiting -/

variable {x}

theorem request?_of_mem (h : (x.requests.map (·.id)).Nodup) {r : Request} (hr : r ∈ x.requests) :
    x.request? r.id = some r := find?_key_of_mem h hr

theorem le_foldl {α : Type*} {f : Nat → α → Nat} (hf : ∀ n a, n ≤ f n a) (l : List α) (n : Nat) :
    n ≤ l.foldl f n := by
  induction l generalizing n with
  | nil => exact le_rfl
  | cons a l ih => exact (hf n a).trans (ih _)

theorem le_foldl_of_mem {α : Type*} {f : Nat → α → Nat} (hf : ∀ n a, n ≤ f n a) {l : List α} {a : α}
    (ha : a ∈ l) {m : Nat} (hm : ∀ n, m ≤ f n a) (n : Nat) : m ≤ l.foldl f n := by
  obtain ⟨before, after, rfl⟩ := List.append_of_mem ha
  rw [List.foldl_append, List.foldl_cons]
  exact (hm _).trans (le_foldl hf after _)

/-- Waiting is over only when the requests waited for have ended. -/
theorem le_finishTime {ids : List RequestId} {r : Request} (hid : r.id ∈ ids)
    (hr : x.request? r.id = some r) (hopen : r.isFinished = false) :
    r.finish.1 ≤ x.finishTime ids := by
  refine le_foldl_of_mem (fun time id => ?_) hid (fun time => ?_) _
  · split
    · split_ifs
      · exact le_rfl
      · exact le_max_left _ _
    · exact le_rfl
  · simp [hr, hopen]

end Exchange

end LanguageClient
