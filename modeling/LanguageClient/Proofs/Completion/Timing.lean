import LanguageClient.Proofs.Completion.Gathering
import LanguageClient.Session.Completion
import Mathlib

/-!
# Completions do not depend on timing

What arrives at a session that asks for completions are the answers of those servers that answer by
the deadline (`CompletionSession.exists_arrived_compute`). The proposals are thus those that the
servers offer, whatever the order in which they answer (`CompletionSession.proposals_compute`).
Answers find back to their servers because requests are numbered, which is so in every session that
comes about (`CompletionSession.Reachable.isNumbered`).
-/

namespace LanguageClient.CompletionSession

/-! ## Whose answer it is -/

theorem place?_eq_none {sent : List (RequestId × String)} {id : RequestId}
    (h : id ∉ sent.map (·.1)) : place? sent id = none := by
  have hfind : sent.zipIdx.find? (·.1.1 == id) = none := by
    refine List.find?_eq_none.2 fun e he hid => h ?_
    rw [← beq_iff_eq.1 hid]
    exact List.mem_map_of_mem (List.fst_mem_of_mem_zipIdx he)
  rw [place?, hfind]
  rfl

theorem place?_of_mem {sent : List (RequestId × String)} (h : (sent.map (·.1)).Nodup)
    {id : RequestId} {server : String} {order : Nat} (hmem : ((id, server), order) ∈ sent.zipIdx) :
    place? sent id = some (order, server) := by
  have hkeys : (sent.zipIdx.map (·.1.1)).Nodup := by
    rw [← List.zipIdx_map_fst 0 sent, List.map_map] at h
    exact h
  rw [place?, find?_key_of_mem hkeys hmem]
  rfl

/-! ## What arrives -/

section Dispatch

variable {x x' : Exchange} {qualifies : RecordedServer → Bool} {grace : Nat} {params : Json}
  {sent : List (RequestId × String)}
  (h : x.IsNumbered)
  (hsent : x.dispatch qualifies grace RequestKind.completion.method params = (x', sent))

include hsent

theorem ids_sent :
    sent.map (·.1) = List.range' (x.ends.length + 1) (x.qualifying qualifies).length := by
  rw [← x.snd_dispatch qualifies grace RequestKind.completion.method params, hsent]

theorem now_sent : x'.now = x.now := by
  rw [Exchange.dispatch, Prod.mk.injEq] at hsent
  rw [← hsent.1, Exchange.now_sendAll]

theorem requests_sent : x'.requests =
    x.requests ++ (x.qualifying qualifies).zipIdx.map fun e =>
      x.requestTo grace RequestKind.completion.method params e.2 e.1 := by
  rw [Exchange.dispatch, Prod.mk.injEq] at hsent
  rw [← hsent.1, Exchange.requests_sendAll]

theorem mem_sent {server : Nat × RecordedServer} {i : Nat}
    (hmem : (server, i) ∈ (x.qualifying qualifies).zipIdx) :
    (((x.requestTo grace RequestKind.completion.method params i server).id, server.2.name), i) ∈
      sent.zipIdx := by
  rw [Exchange.dispatch, Prod.mk.injEq] at hsent
  rw [← hsent.2]
  rw [List.mem_zipIdx_iff_getElem?] at hmem ⊢
  simp [Exchange.requestTo, hmem]

theorem length_sent : sent.length = (x.qualifying qualifies).length := by
  have := congrArg List.length (ids_sent hsent)
  simpa using this

include h

theorem place?_of_mem_requests {r : Request} (hr : r ∈ x.requests) : place? sent r.id = none := by
  refine place?_eq_none fun hmem => ?_
  rw [ids_sent hsent, List.mem_range'_1, Exchange.length_ends] at hmem
  exact absurd (h.id_le hr) (Nat.not_le_of_lt hmem.1)

/-- The answers that arrive are those that are due by then, in some order. -/
theorem answers_perm (time : Nat) : (answers sent (x'.advance time).2).Perm
    ((x.qualifying qualifies).zipIdx.filterMap fun e =>
      if x.now + e.1.2.delayOf RequestKind.completion.method ≤ time then
        some (e.1.2.answered e.2) else none) := by
  let answerOf? : Request → Option Answered := fun r =>
    (place? sent r.id).map fun place =>
      ⟨place.1, place.2, .ofAnswer CompletionAnswer.ofJson? CompletionAnswer.mismatch r.finish.2⟩
  have hanswers : answers sent (x'.advance time).2 = (x'.ending time).filterMap answerOf? := by
    simp only [answers, Exchange.advance, List.filterMap_map]
    rfl
  have hold : (x.requests.filter (·.endsBy time)).filterMap answerOf? = [] := by
    refine List.filterMap_eq_nil_iff.2 fun r hr => ?_
    simp only [answerOf?, place?_of_mem_requests h hsent (List.mem_of_mem_filter hr),
      Option.map_none]
  have hperm := (List.mergeSort_perm (x'.requests.filter (·.endsBy time))
    fun a b => a.finish.1 ≤ b.finish.1).filterMap answerOf?
  rw [hanswers]
  refine hperm.trans (List.Perm.of_eq ?_)
  rw [requests_sent hsent, List.filter_append, List.filterMap_append, hold, List.nil_append,
    List.filterMap_filter, List.filterMap_map]
  refine List.filterMap_congr fun e he => ?_
  obtain ⟨server, order⟩ := e
  have hnodup : (sent.map (·.1)).Nodup := ids_sent hsent ▸ List.nodup_range'
  simp only [Function.comp, Request.endsBy, answerOf?, x.isFinished_requestTo, x.finish_requestTo,
    place?_of_mem hnodup (mem_sent hsent he)]
  simp [RecordedServer.answered]

/-- Whoever waits until the deadline, or until no answer is missing, has waited for all that is due
by the deadline. -/
theorem le_min_finishTime_iff {server : Nat × RecordedServer} {i : Nat}
    (hmem : (server, i) ∈ (x.qualifying qualifies).zipIdx) (deadline : Nat) :
    x.now + server.2.delayOf RequestKind.completion.method ≤
        min (x'.finishTime (sent.map (·.1))) deadline ↔
      x.now + server.2.delayOf RequestKind.completion.method ≤ deadline := by
  let r := x.requestTo grace RequestKind.completion.method params i server
  have hr : r ∈ x'.requests := by
    rw [requests_sent hsent]
    exact List.mem_append_right _ (List.mem_map.2 ⟨(server, i), hmem, rfl⟩)
  have hid : r.id ∈ sent.map (·.1) :=
    List.mem_map_of_mem (List.fst_mem_of_mem_zipIdx (mem_sent hsent hmem))
  have hnumbered : x'.IsNumbered := by
    have := h.dispatch qualifies grace RequestKind.completion.method params
    rwa [hsent] at this
  have hfinish := Exchange.le_finishTime hid (Exchange.request?_of_mem hnumbered.nodup hr)
    (x.isFinished_requestTo grace RequestKind.completion.method params i server)
  rw [x.finish_requestTo] at hfinish
  rw [le_min_iff]
  exact and_iff_right hfinish

/-- What arrives are the answers that come by the deadline, and nothing of them is missing. -/
theorem exists_arrived_await (timeout : Nat) :
    ∃ early : List Answered, (await x' timeout sent).2 = early.map .answer ++ [.deadline] ∧
      early.Perm (answersInTime (timeout + 1) ((x.qualifying qualifies).map (·.2))) := by
  refine ⟨_, rfl, (answers_perm h hsent _).trans (List.Perm.of_eq ?_)⟩
  rw [answersInTime, List.zipIdx_map, List.filterMap_map]
  refine List.filterMap_congr fun e he => ?_
  obtain ⟨server, order⟩ := e
  have hdue : x.now + server.2.delayOf RequestKind.completion.method ≤
      min (x'.finishTime (sent.map (·.1))) (x'.now + timeout) ↔
        server.2.delayOf RequestKind.completion.method < timeout + 1 := by
    rw [le_min_finishTime_iff h hsent he, now_sent hsent]
    omega
  simp only [hdue]
  rfl

end Dispatch

/-! ## Sessions that come about -/

/-- The sessions that come about: some servers are there at the beginning, others come and go, the
document is edited, and the session is used. -/
inductive Reachable : CompletionSession → Prop
  | start (servers : List RecordedServer) (settings : CompletionSettings) (document : Document) :
    Reachable { exchange := .ofServers servers, settings, document }
  | attach {s : CompletionSession} (h : s.Reachable) (server : RecordedServer) :
    Reachable { s with exchange := s.exchange.attach server }
  | detach {s : CompletionSession} (h : s.Reachable) (name : String) :
    Reachable { s with exchange := s.exchange.detach name }
  | edit {s : CompletionSession} (h : s.Reachable) (document : Document) :
    Reachable { s with document }
  | compute {s : CompletionSession} (h : s.Reachable) (offset : Nat) : Reachable (s.compute offset)
  | afterPause {s : CompletionSession} (h : s.Reachable) : Reachable s.afterPause
  | wait {s : CompletionSession} (h : s.Reachable) (time : Nat) : Reachable (s.wait time)
  | resolve {s s' : CompletionSession} {index : Nat} {p : Option CompletionProposal}
    (h : s.Reachable) (hresolve : s.resolve index = .ok (s', p)) : Reachable s'

section Numbered

variable {s : CompletionSession} (h : s.exchange.IsNumbered)

include h

theorem isNumbered_compute (offset : Nat) : (s.compute offset).exchange.IsNumbered := by
  unfold compute
  split
  · rename_i uri position _ _
    have hdispatch := h.dispatch
      (fun server => Capability.completion.isSupportedBy server.capabilities) s.settings.cancelGrace
      RequestKind.completion.method
      (RequestParams.completion uri position (some .invoked)).toJson
    dsimp only [await]
    split_ifs
    · exact hdispatch.advance _
    · exact (hdispatch.advance _).cancelAll _
  · exact h

theorem isNumbered_resolveWith (p : CompletionProposal) :
    (s.resolveWith p).1.exchange.IsNumbered := by
  have hdispatch := h.dispatch
    (fun server => server.name == p.candidate.server &&
      Capability.completionResolve.isSupportedBy server.capabilities)
    s.settings.cancelGrace RequestKind.resolve.method p.candidate.item.toJson
  unfold resolveWith
  split_ifs
  · exact h
  · dsimp only
    split
    · exact hdispatch
    · exact hdispatch.advance _

theorem isNumbered_resolve {s' : CompletionSession} {index : Nat} {p : Option CompletionProposal}
    (hresolve : s.resolve index = .ok (s', p)) : s'.exchange.IsNumbered := by
  unfold resolve at hresolve
  split at hresolve
  · cases hresolve
  · split at hresolve
    · cases hresolve
    · cases hresolve
      exact isNumbered_resolveWith h _

end Numbered

/-- Nothing that is done with a session disturbs the numbers of its requests. -/
theorem Reachable.isNumbered {s : CompletionSession} (h : s.Reachable) :
    s.exchange.IsNumbered := by
  induction h with
  | start servers => exact Exchange.isNumbered_ofServers servers
  | attach _ server ih => exact ih.attach server
  | detach _ name ih => exact ih.detach name
  | edit _ _ ih => exact ih
  | compute _ offset ih => exact isNumbered_compute ih offset
  | afterPause _ ih => exact ih.advance _
  | wait _ _ ih => exact ih.advance _
  | resolve _ hresolve ih => exact isNumbered_resolve ih hresolve

/-! ## Proposals -/

/-- The servers that are asked for completions, in the order in which they are asked. -/
def asked (s : CompletionSession) : List RecordedServer :=
  (s.exchange.qualifying fun server => Capability.completion.isSupportedBy server.capabilities).map
    (·.2)

/-- The document that proposals belong to. -/
def snapshot (s : CompletionSession) : Document := { s.document with stamp := 0 }

/-- The contributions of the servers asked. -/
def contributions (s : CompletionSession) : List (String × Contribution) :=
  s.asked.map (·.named s.settings.timeout)

/-- A session that can ask for completions at an offset, where no answer comes just at the
deadline. -/
structure CanAsk (s : CompletionSession) (offset : Nat) : Prop where
  reachable : s.Reachable
  hasUri : s.document.uri.isSome
  offset_le : offset ≤ s.document.length
  untied : ∀ server ∈ s.asked, server.delayOf RequestKind.completion.method ≠ s.settings.timeout

variable {s : CompletionSession} {offset : Nat}

/-- The proposals are made of the answers that come by the deadline. -/
theorem exists_arrived_compute (h : s.Reachable) (huri : s.document.uri.isSome)
    (hoffset : offset ≤ s.document.length) :
    ∃ early : List Answered, early.Perm (answersInTime (s.settings.timeout + 1) s.asked) ∧
      (s.compute offset).proposals = (Gathered.ofAnswered (Arrival.answered s.asked.length
        (early.map .answer ++ [.deadline]))).proposals s.settings s.snapshot offset := by
  obtain ⟨uri, huri⟩ := Option.isSome_iff_exists.1 huri
  obtain ⟨position, hposition⟩ := Document.exists_offsetToPosition_eq_ok hoffset
  rcases hsent : s.exchange.dispatch
    (fun server => Capability.completion.isSupportedBy server.capabilities) s.settings.cancelGrace
    RequestKind.completion.method
    (RequestParams.completion uri position (some .invoked)).toJson with ⟨x', sent⟩
  have hcompute : (s.compute offset).proposals =
      (Gathered.ofAnswered (Arrival.answered sent.length
        (await x' s.settings.timeout sent).2)).proposals s.settings s.snapshot offset := by
    simp only [compute, snapshot, huri, hposition, hsent]
  obtain ⟨early, harrived, hearly⟩ := exists_arrived_await h.isNumbered hsent s.settings.timeout
  have hlength : sent.length = s.asked.length := by
    rw [length_sent hsent, asked, List.length_map]
  rw [harrived, hlength] at hcompute
  exact ⟨early, hearly, hcompute⟩

theorem CanAsk.proposals_eq (h : s.CanAsk offset) : (s.compute offset).proposals =
    offered s.settings s.snapshot offset s.contributions := by
  obtain ⟨early, hearly, hcompute⟩ := exists_arrived_compute h.reachable h.hasUri h.offset_le
  rw [answersInTime_succ_of_untied h.untied] at hearly
  rw [hcompute]
  exact proposals_of_bringsInTime ⟨early, [], rfl, hearly⟩ s.settings s.snapshot offset

/-- **Completions do not depend on timing.** The proposals are those that the contributions of the
servers make up. Any other order in which the answers arrive leads to the same list, and so does any
other session about the same document in which the servers contribute the same. -/
theorem proposals_compute (h : s.CanAsk offset) :
    (s.compute offset).proposals = offered s.settings s.snapshot offset s.contributions ∧
    (∀ arrived, BringsInTime s.settings.timeout s.asked arrived →
      (Gathered.ofAnswered (Arrival.answered s.asked.length arrived)).proposals s.settings
        s.snapshot offset = (s.compute offset).proposals) ∧
    ∀ s' : CompletionSession, s'.CanAsk offset → s'.document = s.document →
      s'.settings = s.settings → s'.contributions = s.contributions →
        (s'.compute offset).proposals = (s.compute offset).proposals := by
  refine ⟨h.proposals_eq, fun arrived harrived => ?_, fun s' h' hdocument hsettings hsame => ?_⟩
  · rw [h.proposals_eq]
    exact proposals_of_bringsInTime harrived s.settings s.snapshot offset
  · rw [h.proposals_eq, h'.proposals_eq, hsettings, hsame, snapshot, snapshot, hdocument]

/-- Six servers. The first one takes longer than the second one, whose list is incomplete; the
third one fails, the fourth one disconnects, the document has changed for the fifth one, and the
sixth one is late. -/
def racingServers : List RecordedServer :=
  let item (label : String) : Json := .object [("label", .string label)]
  let server (name : String) (response : RecordedResponse) : RecordedServer :=
    { name, capabilities := { completion := some {} },
      responses := [(RequestKind.completion.method, response)] }
  let firstOf (items : List Json) : Json :=
    .object [("isIncomplete", .bool true), ("items", .array items)]
  [server "slow" { result := .array [item "print"], delay := 9 },
    server "quick" { result := firstOf [item "pr"], delay := 1 },
    server "broken" { error := some ⟨-32603, "no", none⟩, delay := 5 },
    server "gone" { disconnect := true },
    server "stale" { error := some ⟨-32801, "old", none⟩ },
    server "late" { result := .array [item "prefix"], delay := 11 }]

/-- A session that waits for ten milliseconds. -/
def racingSession : CompletionSession where
  exchange := .ofServers racingServers
  settings := { timeout := 10, errorsAsProposals := true, incompleteAsProposal := true }
  document := { text := ['p', 'r'], uri := some "file:///a" }

theorem contributions_racingSession : racingSession.contributions =
    [("slow", .items (.items [{ label := "print" }])),
      ("quick", .items (.list true [{ label := "pr" }])),
      ("broken", .failure "JSON-RPC error: Internal error: no"), ("gone", .nothing),
      ("stale", .nothing), ("late", .nothing)] := rfl

theorem proposals_compute_racing : racingSession.CanAsk 2 ∧
    ((racingSession.compute 2).proposals.filterMap (·.completion?)).map (·.candidate.label) =
      ["print", "pr"] ∧
    (racingSession.compute 2).proposals.drop 2 =
      [.serverError "broken" "JSON-RPC error: Internal error: no", .continueTyping] := by
  have h : racingSession.CanAsk 2 := {
    reachable := .start _ _ _
    hasUri := rfl
    offset_le := by decide
    untied := by decide }
  rw [(proposals_compute h).1, contributions_racingSession]
  exact ⟨h, by cbv, by cbv⟩

end LanguageClient.CompletionSession
