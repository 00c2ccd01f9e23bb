import LanguageClient.Completion.Gathering
import LanguageClient.Proofs.Server.Sending
import LanguageClient.Proofs.StableSort
import LanguageClient.Protocol.RequestParams
import Mathlib

/-!
# What servers contribute

Each server that is asked for completions makes one contribution, which depends on nothing but the
server and the time it is given (`RecordedServer.contribution`), and the proposals are made of the
contributions in the order of the servers (`offered`). This is so whatever the order in which the
answers arrive (`proposals_of_bringsInTime`).
-/

namespace LanguageClient

/-! ## Contributions -/

/-- What a server adds to the proposals. -/
inductive Contribution
  | nothing
  | items (answer : CompletionAnswer)
  | failure (message : String)
  deriving Repr

namespace Contribution

/-- The contribution that an outcome is. -/
def ofOutcome : Outcome CompletionAnswer → Contribution
  | .resolved answer => items answer
  | .cancelled => nothing
  | .failed error => failure error.message

/-- The items of a contribution, tagged with the place of their server and their own. -/
def candidates (order : Nat) (server : String) : Contribution → List Candidate
  | items answer => answer.allItems.zipIdx.map fun (item, index) => ⟨item, server, ⟨order, index⟩⟩
  | _ => []

/-- The failure of a server. -/
def errors (server : String) : Contribution → List (String × String)
  | failure message => [(server, message)]
  | _ => []

/-- Whether a contribution says that typing on may bring more items. -/
def isIncomplete : Contribution → Bool
  | items answer => answer.isIncomplete
  | _ => false

end Contribution

namespace RecordedServer

variable (timeout : Nat) (server : RecordedServer)

/-- The contribution of a server that is given some time. One that takes longer, disconnects, or
answers that the request was cancelled or its document modified has nothing to contribute. -/
def contribution : Contribution :=
  if timeout ≤ server.delayOf RequestKind.completion.method then .nothing
  else match server.response? RequestKind.completion.method with
    | none => .failure (ServerError.rpc .methodNotFound).message
    | some response =>
      if response.disconnect then .nothing
      else match response.error with
        | some error =>
          if error.code = RpcError.cancelledCode ∨ error.code = RpcError.contentModifiedCode then
            .nothing
          else .failure (ServerError.rpc error).message
        | none =>
          match CompletionAnswer.ofJson? response.result with
          | some answer => .items answer
          | none => .failure (ServerError.invalidResponse CompletionAnswer.mismatch).message

/-- The contribution of a server, with its name. -/
def named : String × Contribution := (server.name, server.contribution timeout)

/-- The answer of a server at its place, once it comes. -/
def answered (order : Nat) : Answered :=
  ⟨order, server.name, .ofAnswer CompletionAnswer.ofJson? CompletionAnswer.mismatch
    (server.answerTo RequestKind.completion.method)⟩

end RecordedServer

/-- The proposals made of the contributions of servers. -/
def offered (settings : CompletionSettings) (snapshot : Document) (invocation : Nat)
    (contributions : List (String × Contribution)) : List Proposal :=
  let policy := if settings.caseSensitive then CasePolicy.sensitive else .insensitive
  let candidates := contributions.zipIdx.flatMap fun ((server, c), order) =>
    c.candidates order server
  let errors := contributions.flatMap fun (server, c) => c.errors server
  (rank policy snapshot invocation candidates).map
      (fun r => .completion (.ofRanked r snapshot invocation)) ++
    (if settings.errorsAsProposals then
      errors.map fun (server, message) => .serverError server message else []) ++
    (if settings.incompleteAsProposal ∧ ∃ c ∈ contributions, c.2.isIncomplete then
      [.continueTyping] else [])

theorem RecordedServer.contribution_of_lt {timeout : Nat} {server : RecordedServer}
    (h : server.delayOf RequestKind.completion.method < timeout) (order : Nat) :
    server.contribution timeout = .ofOutcome (server.answered order).outcome := by
  rw [contribution, if_neg h.not_ge, answered, answerTo]
  cases server.response? RequestKind.completion.method with
  | none => rfl
  | some response =>
    obtain ⟨result, error, delay, disconnect, ignoresCancel⟩ := response
    cases disconnect with
    | true => rfl
    | false =>
      cases error with
      | some error =>
        by_cases hcode : error.code = RpcError.cancelledCode ∨
            error.code = RpcError.contentModifiedCode <;>
          simp [RecordedResponse.answer, Outcome.ofAnswer, ServerError.isCancellation, hcode,
            Contribution.ofOutcome]
      | none =>
        cases hread : CompletionAnswer.ofJson? result <;>
          simp [RecordedResponse.answer, Outcome.ofAnswer, hread, Contribution.ofOutcome]

/-! ## Taking contributions -/

namespace Gathered

/-- Takes a contribution. -/
def add (g : Gathered) (order : Nat) (server : String) (c : Contribution) : Gathered where
  candidates := g.candidates ++ c.candidates order server
  errors := g.errors ++ c.errors server
  isIncomplete := g.isIncomplete || c.isIncomplete

variable (g : Gathered)

theorem add_nothing (order : Nat) (server : String) : g.add order server .nothing = g := by
  simp [add, Contribution.candidates, Contribution.errors, Contribution.isIncomplete]

theorem record_eq_add (a : Answered) :
    g.record a = g.add a.order a.server (.ofOutcome a.outcome) := by
  rw [record]
  cases a.outcome <;> simp [add, Contribution.ofOutcome, Contribution.candidates,
    Contribution.errors, Contribution.isIncomplete]

theorem foldl_add (contributions : List (String × Contribution)) (k : Nat) :
    (contributions.zipIdx k).foldl (fun g ((server, c), order) => g.add order server c) g =
      { candidates := g.candidates ++ (contributions.zipIdx k).flatMap fun ((server, c), order) =>
          c.candidates order server
        errors := g.errors ++ contributions.flatMap fun (server, c) => c.errors server
        isIncomplete := g.isIncomplete || contributions.any fun (_, c) => c.isIncomplete } := by
  induction contributions generalizing g k with
  | nil => simp
  | cons c contributions ih =>
    rw [List.zipIdx_cons, List.foldl_cons, ih]
    simp [add, Bool.or_assoc]

end Gathered

/-! ## Any order of arrival -/

/-- The answers of those servers that answer in time, in the order of the servers. -/
def answersInTime (timeout : Nat) (servers : List RecordedServer) : List Answered :=
  servers.zipIdx.filterMap fun (server, order) =>
    if server.delayOf RequestKind.completion.method < timeout then some (server.answered order)
    else none

/-- Whether the answers that arrive before the deadline are those of the servers that answer in
time, in whatever order. Anything may arrive behind it. -/
def BringsInTime (timeout : Nat) (servers : List RecordedServer) (arrived : List Arrival) : Prop :=
  ∃ (early : List Answered) (late : List Arrival),
    arrived = early.map .answer ++ .deadline :: late ∧ early.Perm (answersInTime timeout servers)

variable {timeout : Nat} {servers : List RecordedServer}

theorem length_answersInTime_le (timeout : Nat) (servers : List RecordedServer) :
    (answersInTime timeout servers).length ≤ servers.length :=
  (List.length_filterMap_le _ _).trans_eq List.length_zipIdx

theorem pairwise_answersInTime (timeout : Nat) (servers : List RecordedServer) :
    (answersInTime timeout servers).Pairwise (·.order < ·.order) := by
  have hplaces : servers.zipIdx.Pairwise (·.2 < ·.2) := by
    refine List.pairwise_map.1 ?_
    rw [List.zipIdx_map_snd]
    exact List.pairwise_lt_range'
  refine hplaces.filterMap _ fun a b hab c hc d hd => ?_
  simp only [Option.ite_none_right_eq_some, Option.some.injEq] at hc hd
  rw [← hc.2, ← hd.2]
  exact hab

theorem mem_answersInTime {a : Answered} : a ∈ answersInTime timeout servers ↔
    ∃ server, servers[a.order]? = some server ∧
      server.delayOf RequestKind.completion.method < timeout ∧ server.answered a.order = a := by
  simp only [answersInTime, List.mem_filterMap, Prod.exists, List.mem_zipIdx_iff_getElem?,
    Option.ite_none_right_eq_some, Option.some.injEq]
  constructor
  · rintro ⟨server, order, hserver, hdelay, rfl⟩
    exact ⟨server, hserver, hdelay, rfl⟩
  · rintro ⟨server, hserver, hdelay, heq⟩
    exact ⟨server, a.order, hserver, hdelay, heq⟩

/-- Where no answer comes just at the deadline, it does not matter whether it would be taken. -/
theorem answersInTime_succ_of_untied
    (h : ∀ server ∈ servers, server.delayOf RequestKind.completion.method ≠ timeout) :
    answersInTime (timeout + 1) servers = answersInTime timeout servers := by
  refine List.filterMap_congr fun e he => ?_
  have hne := h e.1 (List.fst_mem_of_mem_zipIdx he)
  simp only [Nat.lt_succ_iff_lt_or_eq, hne, or_false]

/-- All answers are taken that arrive before the deadline, and nothing else. -/
theorem answered_of_early {early : List Answered} (late : List Arrival) {awaited : Nat}
    (h : early.length ≤ awaited) :
    Arrival.answered awaited (early.map .answer ++ .deadline :: late) = early := by
  induction early generalizing awaited with
  | nil => cases awaited <;> rfl
  | cons a early ih =>
    obtain ⟨awaited, rfl⟩ : ∃ k, awaited = k + 1 := ⟨awaited - 1, by simp at h; omega⟩
    rw [List.map_cons, List.cons_append, Arrival.answered, ih (by simpa using h)]

theorem ofAnswered_of_perm {early : List Answered} (h : early.Perm (answersInTime timeout servers)) :
    Gathered.ofAnswered early = (answersInTime timeout servers).foldl Gathered.record {} := by
  rw [Gathered.ofAnswered, StableSort.mergeSort_key_eq_of_perm h (pairwise_answersInTime _ _)]

/-- Servers that are late count as little as those that contribute nothing. -/
theorem foldl_record_answersInTime (timeout : Nat) (servers : List RecordedServer) :
    (answersInTime timeout servers).foldl Gathered.record {} =
      ((servers.map (·.named timeout)).zipIdx).foldl
        (fun g ((server, c), order) => g.add order server c) {} := by
  rw [answersInTime, List.foldl_filterMap, List.zipIdx_map, List.foldl_map]
  congr 1
  funext g ⟨server, order⟩
  simp only [Prod.map, RecordedServer.named, id_eq]
  by_cases h : server.delayOf RequestKind.completion.method < timeout
  · rw [if_pos h, RecordedServer.contribution_of_lt h order]
    exact g.record_eq_add (server.answered order)
  · rw [if_neg h, RecordedServer.contribution, if_pos (not_lt.1 h), Gathered.add_nothing]

/-- **The order of arrival does not matter.** -/
theorem proposals_of_bringsInTime {arrived : List Arrival} (h : BringsInTime timeout servers arrived)
    (settings : CompletionSettings) (snapshot : Document) (invocation : Nat) :
    (Gathered.ofAnswered (Arrival.answered servers.length arrived)).proposals settings snapshot
        invocation =
      offered settings snapshot invocation (servers.map (·.named timeout)) := by
  obtain ⟨early, late, rfl, hearly⟩ := h
  rw [answered_of_early late (hearly.length_eq.trans_le (length_answersInTime_le _ _)),
    ofAnswered_of_perm hearly, foldl_record_answersInTime, Gathered.foldl_add]
  simp only [Gathered.proposals, offered, List.nil_append, Bool.false_or, Bool.and_eq_true,
    List.any_eq_true, and_comm (a := settings.incompleteAsProposal)]

end LanguageClient
