import LanguageClient.Proofs.Completion.Ranking
import LanguageClient.Proofs.Completion.Timing
import Mathlib

/-!
# Servers do not interfere

The items of all servers are ranked together, and yet each server's share in the proposals is its
own: no other server adds to it, takes from it or changes a proposal in it
(`CompletionSession.proposalsFrom_of_runs`). All that others can do is to make sort texts count, by
declaring one, and so to change the order.

What is gathered from a server are the candidates of its own answer, if that is taken
(`filter_candidates_ofAnswered`), and ranking more candidates with them moves none of them past
another (`filter_rank`). The deadline decides which answers are taken
(`CompletionSession.MayTake`), and a request for completions goes one of the ways that this leaves
open (`CompletionSession.Run`).
-/

namespace LanguageClient

/-- The case policy that some settings ask for. -/
def CompletionSettings.casePolicy (settings : CompletionSettings) : CasePolicy :=
  if settings.caseSensitive then .sensitive else .insensitive

/-! ## What an answer brings -/

namespace Answered

/-- The candidates of an answer. -/
def candidates (a : Answered) : List Candidate :=
  (Contribution.ofOutcome a.outcome).candidates a.order a.server

/-- What an answer alone makes: a proposal for each of its items that matches. -/
def proposals (a : Answered) (settings : CompletionSettings) (snapshot : Document)
    (invocation : Nat) : List CompletionProposal :=
  (a.candidates.filterMap (Ranked.ofCandidate? settings.casePolicy snapshot invocation)).map
    (.ofRanked · snapshot invocation)

/-- Whether an item of an answer declares a text to sort by. -/
def declaresSortText (a : Answered) : Bool := a.candidates.any (·.hasSortText)

theorem server_of_mem_candidates {a : Answered} {c : Candidate} (h : c ∈ a.candidates) :
    c.position.server = a.order := by
  rw [candidates] at h
  cases hcontribution : Contribution.ofOutcome a.outcome with
  | items answer =>
    rw [hcontribution] at h
    obtain ⟨e, -, rfl⟩ := List.mem_map.1 h
    rfl
  | nothing => simp [hcontribution, Contribution.candidates] at h
  | failure message => simp [hcontribution, Contribution.candidates] at h

theorem nodup_position_candidates (a : Answered) : (a.candidates.map (·.position)).Nodup := by
  rw [candidates]
  cases Contribution.ofOutcome a.outcome with
  | items answer =>
    have hplaces : (answer.allItems.zipIdx.map (·.2)).Nodup := by
      rw [List.zipIdx_map_snd]
      exact List.nodup_range'
    rw [Contribution.candidates, List.map_map]
    refine List.Nodup.of_map ItemPosition.item ?_
    rwa [List.map_map]
  | nothing => exact .nil
  | failure message => exact .nil

theorem nodup_position_flatMap {answers : List Answered} (h : answers.length ≤ 1) :
    ((answers.flatMap (·.candidates)).map (·.position)).Nodup :=
  match answers, h with
  | [], _ => .nil
  | [a], _ => by simpa using a.nodup_position_candidates

end Answered

/-- The completion proposals that come from the server at some place among those asked. -/
def proposalsFrom (place : Nat) (proposals : List Proposal) : List CompletionProposal :=
  (proposals.filterMap (·.completion?)).filter (·.candidate.position.server == place)

/-! ## What is gathered -/

namespace Gathered

theorem candidates_foldl_record (answers : List Answered) (g : Gathered) :
    (answers.foldl record g).candidates = g.candidates ++ answers.flatMap (·.candidates) := by
  induction answers generalizing g with
  | nil => simp
  | cons a answers ih =>
    rw [List.foldl_cons, ih, record_eq_add]
    simp [add, Answered.candidates]

theorem filter_flatMap_candidates (answers : List Answered) (place : Nat) :
    (answers.flatMap (·.candidates)).filter (·.position.server == place) =
      (answers.filter (·.order == place)).flatMap (·.candidates) := by
  induction answers with
  | nil => rfl
  | cons a answers ih =>
    rw [List.flatMap_cons, List.filter_append, ih]
    -- all candidates of an answer are of one server, so they stay or go together
    by_cases hplace : a.order = place
    · have hown : a.candidates.filter (·.position.server == place) = a.candidates :=
        List.filter_eq_self.2 fun c hc => by simp [Answered.server_of_mem_candidates hc, hplace]
      rw [hown, List.filter_cons_of_pos (by simpa using hplace), List.flatMap_cons]
    · have hother : a.candidates.filter (·.position.server == place) = [] :=
        List.filter_eq_nil_iff.2 fun c hc => by simp [Answered.server_of_mem_candidates hc, hplace]
      rw [hother, List.filter_cons_of_neg (by simpa using hplace), List.nil_append]

/-- From each server its own answers are gathered, and nothing else. -/
theorem filter_candidates_ofAnswered (answers : List Answered) (place : Nat) :
    (ofAnswered answers).candidates.filter (·.position.server == place) =
      (answers.filter (·.order == place)).flatMap (·.candidates) := by
  rw [ofAnswered, candidates_foldl_record, List.nil_append, filter_flatMap_candidates,
    StableSort.filter_key_mergeSort]

theorem any_hasSortText_ofAnswered (answers : List Answered) :
    (ofAnswered answers).candidates.any (·.hasSortText) =
      answers.any (·.declaresSortText) := by
  rw [ofAnswered, candidates_foldl_record, List.nil_append, List.any_flatMap]
  exact (List.mergeSort_perm answers _).any_eq

/-- The completion proposals among all, which come first, are those that are ranked. -/
theorem proposalsFrom_proposals (g : Gathered) (settings : CompletionSettings) (snapshot : Document)
    (invocation place : Nat) :
    proposalsFrom place (g.proposals settings snapshot invocation) =
      ((rank settings.casePolicy snapshot invocation g.candidates).filter
        (·.candidate.position.server == place)).map (.ofRanked · snapshot invocation) := by
  have hcompletions : (g.proposals settings snapshot invocation).filterMap (·.completion?) =
      (rank settings.casePolicy snapshot invocation g.candidates).map
        (.ofRanked · snapshot invocation) := by
    rw [proposals, CompletionSettings.casePolicy]
    split_ifs <;> simp [Proposal.completion?]
  rw [proposalsFrom, hcompletions, List.filter_map]
  rfl

variable {answers answers' : List Answered} {place : Nat}

/-- A server's share in the proposals is what its own answers make. -/
theorem proposalsFrom_ofAnswered_perm (settings : CompletionSettings) (snapshot : Document)
    (invocation : Nat) :
    (proposalsFrom place ((ofAnswered answers).proposals settings snapshot invocation)).Perm
      ((answers.filter (·.order == place)).flatMap (·.proposals settings snapshot invocation)) := by
  rw [proposalsFrom_proposals]
  refine ((filter_rank_perm (·.position.server == place)).map _).trans (List.Perm.of_eq ?_)
  rw [filter_candidates_ofAnswered, List.filterMap_flatMap, List.map_flatMap]
  rfl

/-- Its order depends on the others only as they declare sort texts or not. -/
theorem proposalsFrom_ofAnswered_congr
    (hown : answers.filter (·.order == place) = answers'.filter (·.order == place))
    (hlength : (answers.filter (·.order == place)).length ≤ 1)
    (hsort : answers.any (·.declaresSortText) = answers'.any (·.declaresSortText))
    (settings : CompletionSettings) (snapshot : Document) (invocation : Nat) :
    proposalsFrom place ((ofAnswered answers).proposals settings snapshot invocation) =
      proposalsFrom place ((ofAnswered answers').proposals settings snapshot invocation) := by
  have hpositions := Answered.nodup_position_flatMap hlength
  have hcandidates := filter_candidates_ofAnswered answers place
  have hcandidates' := filter_candidates_ofAnswered answers' place
  rw [← hown] at hcandidates'
  rw [proposalsFrom_proposals, proposalsFrom_proposals,
    filter_rank (·.position.server == place) (hcandidates ▸ hpositions),
    filter_rank (·.position.server == place) (hcandidates' ▸ hpositions), hcandidates,
    hcandidates', any_hasSortText_ofAnswered, any_hasSortText_ofAnswered, hsort]

end Gathered

/-! ## Which answers are taken -/

namespace CompletionSession

/-- The answers that may be taken when servers are given some time: all of those that come before
the deadline, and some or all of those that come just at it, in any order. -/
structure MayTake (timeout : Nat) (servers : List RecordedServer) (answers : List Answered) :
    Prop where
  nodup : (answers.map (·.order)).Nodup
  answered : ∀ a ∈ answers, ∃ server : RecordedServer, servers[a.order]? = some server ∧
    server.delayOf RequestKind.completion.method ≤ timeout ∧ server.answered a.order = a
  inTime : ∀ (place : Nat) (server : RecordedServer), servers[place]? = some server →
    server.delayOf RequestKind.completion.method < timeout → server.answered place ∈ answers

/-- The ways in which a request for completions may go: the answers taken and the proposals that are
made. Anything may arrive behind the deadline. -/
inductive Run (s : CompletionSession) (offset : Nat) : List Answered → List Proposal → Prop
  | refused (h : s.document.uri = none ∨ s.document.length < offset) : Run s offset [] []
  | asked {early : List Answered} {late : List Arrival} (huri : s.document.uri.isSome)
    (hoffset : offset ≤ s.document.length) (hearly : MayTake s.settings.timeout s.asked early) :
    Run s offset early
      ((Gathered.ofAnswered (Arrival.answered s.asked.length
        (early.map .answer ++ .deadline :: late))).proposals s.settings s.snapshot offset)

namespace MayTake

variable {timeout : Nat} {servers : List RecordedServer} {answers : List Answered}
  (h : MayTake timeout servers answers)

include h

theorem order_lt {a : Answered} (ha : a ∈ answers) : a.order < servers.length := by
  obtain ⟨server, hserver, -⟩ := h.answered a ha
  exact (List.getElem?_eq_some_iff.1 hserver).1

theorem length_le : answers.length ≤ servers.length := by
  have hsubset : answers.map (·.order) ⊆ List.range servers.length := fun place hplace => by
    obtain ⟨a, ha, rfl⟩ := List.mem_map.1 hplace
    exact List.mem_range.2 (h.order_lt ha)
  simpa using (h.nodup.subperm hsubset).length_le

variable {place : Nat} {server : RecordedServer} (hserver : servers[place]? = some server)

include hserver

theorem eq_answered {a : Answered} (ha : a ∈ answers) (hplace : a.order = place) :
    a = server.answered place := by
  obtain ⟨server', hserver', -, heq⟩ := h.answered a ha
  subst hplace
  obtain rfl := Option.some.inj (hserver.symm.trans hserver')
  exact heq.symm

/-- Of one server at most its own answer is taken. -/
theorem filter_order_eq_singleton (hmem : server.answered place ∈ answers) :
    answers.filter (·.order == place) = [server.answered place] := by
  have hnodup := (List.Nodup.of_map _ h.nodup).filter (·.order == place)
  refine List.perm_singleton.1 ((List.perm_ext_iff_of_nodup hnodup (List.nodup_singleton _)).2 ?_)
  intro a
  rw [List.mem_filter, List.mem_singleton, beq_iff_eq]
  refine ⟨fun ha => h.eq_answered hserver ha.1 ha.2, ?_⟩
  rintro rfl
  exact ⟨hmem, rfl⟩

theorem filter_order_eq_nil (hmem : server.answered place ∉ answers) :
    answers.filter (·.order == place) = [] := by
  refine List.filter_eq_nil_iff.2 fun a ha hplace => hmem ?_
  rwa [← h.eq_answered hserver ha (beq_iff_eq.1 hplace)]

end MayTake

theorem mayTake_of_perm {timeout : Nat} {servers : List RecordedServer} {answers : List Answered}
    (h : answers.Perm (answersInTime (timeout + 1) servers)) : MayTake timeout servers answers where
  nodup := by
    rw [(h.map _).nodup_iff]
    exact (List.pairwise_map.2 (pairwise_answersInTime _ _)).imp ne_of_lt
  answered a ha := by
    obtain ⟨server, hserver, hdelay, heq⟩ := mem_answersInTime.1 (h.mem_iff.1 ha)
    exact ⟨server, hserver, Nat.le_of_lt_succ hdelay, heq⟩
  inTime place server hserver hdelay :=
    h.mem_iff.2 (mem_answersInTime.2 ⟨server, hserver, Nat.lt_succ_of_lt hdelay, rfl⟩)

/-! ## Runs -/

section Run

variable {s s' : CompletionSession} {offset place : Nat} {server : RecordedServer}
  {answers answers' : List Answered} {proposals proposals' : List Proposal}

theorem proposals_compute_of_refused
    (hrefused : s.document.uri = none ∨ s.document.length < offset) :
    (s.compute offset).proposals = [] := by
  unfold compute
  split
  · rename_i uri position huri hposition
    have hle := Document.le_of_offsetToPosition_eq_ok hposition
    rcases hrefused with hnone | hlt
    · cases huri.symm.trans hnone
    · exact absurd hlt hle.not_gt
  · rfl

/-- What the program does is one of the ways in which a request may go. It takes an answer that comes
just at the deadline. -/
theorem exists_run_compute (h : s.Reachable) (offset : Nat) :
    ∃ answers, s.Run offset answers (s.compute offset).proposals ∧
      ∀ (place : Nat) (server : RecordedServer), s.asked[place]? = some server →
        (server.answered place ∈ answers ↔ s.document.uri.isSome ∧ offset ≤ s.document.length ∧
          server.delayOf RequestKind.completion.method ≤ s.settings.timeout) := by
  by_cases hasks : s.document.uri.isSome ∧ offset ≤ s.document.length
  · obtain ⟨early, hearly, hcompute⟩ := exists_arrived_compute h hasks.1 hasks.2
    refine ⟨early, ?_, fun place server hserver => ?_⟩
    · rw [hcompute]
      exact .asked hasks.1 hasks.2 (mayTake_of_perm hearly)
    · rw [hearly.mem_iff, mem_answersInTime, RecordedServer.answered]
      simp [hasks, hserver, RecordedServer.answered]
  · have hrefused : s.document.uri = none ∨ s.document.length < offset := by
      simpa [Decidable.not_and_iff_or_not, -not_and] using hasks
    refine ⟨[], ?_, fun place server _ => ?_⟩
    · rw [proposals_compute_of_refused hrefused]
      exact .refused hrefused
    · simp only [List.not_mem_nil, false_iff]
      exact fun hasks' => hasks ⟨hasks'.1, hasks'.2.1⟩

theorem Run.proposals_eq (hrun : s.Run offset answers proposals) :
    proposals = (Gathered.ofAnswered answers).proposals s.settings s.snapshot offset := by
  cases hrun with
  | refused h => simp [Gathered.ofAnswered, Gathered.proposals, rank]
  | @asked early late huri hoffset hearly => rw [answered_of_early late hearly.length_le]

theorem Run.exists_answered (hrun : s.Run offset answers proposals) {a : Answered}
    (ha : a ∈ answers) : ∃ server : RecordedServer, s.asked[a.order]? = some server ∧
      server.answered a.order = a := by
  cases hrun with
  | refused h => cases ha
  | asked huri hoffset hearly =>
    obtain ⟨server, hserver, -, heq⟩ := hearly.answered a ha
    exact ⟨server, hserver, heq⟩

/-- A server's share in the proposals is what its own answers among those taken make. -/
theorem Run.proposalsFrom_perm (hrun : s.Run offset answers proposals) (place : Nat) :
    (proposalsFrom place proposals).Perm ((answers.filter (·.order == place)).flatMap
      (·.proposals s.settings s.snapshot offset)) := by
  rw [hrun.proposals_eq]
  exact Gathered.proposalsFrom_ofAnswered_perm s.settings s.snapshot offset

theorem Run.filter_order_eq_singleton (hrun : s.Run offset answers proposals)
    (hserver : s.asked[place]? = some server) (hmem : server.answered place ∈ answers) :
    answers.filter (·.order == place) = [server.answered place] := by
  cases hrun with
  | refused h => cases hmem
  | asked huri hoffset hearly => exact hearly.filter_order_eq_singleton hserver hmem

theorem Run.filter_order_eq_nil (hrun : s.Run offset answers proposals)
    (hserver : s.asked[place]? = some server) (hmem : server.answered place ∉ answers) :
    answers.filter (·.order == place) = [] := by
  cases hrun with
  | refused h => rfl
  | asked huri hoffset hearly => exact hearly.filter_order_eq_nil hserver hmem

theorem Run.filter_order_congr (hrun : s.Run offset answers proposals)
    (hrun' : s'.Run offset answers' proposals') (hserver : s.asked[place]? = some server)
    (hserver' : s'.asked[place]? = some server)
    (hsame : server.answered place ∈ answers ↔ server.answered place ∈ answers') :
    answers.filter (·.order == place) = answers'.filter (·.order == place) ∧
      (answers.filter (·.order == place)).length ≤ 1 := by
  by_cases hmem : server.answered place ∈ answers
  · rw [hrun.filter_order_eq_singleton hserver hmem,
      hrun'.filter_order_eq_singleton hserver' (hsame.1 hmem)]
    exact ⟨rfl, le_rfl⟩
  · rw [hrun.filter_order_eq_nil hserver hmem, hrun'.filter_order_eq_nil hserver' (hsame.not.1 hmem)]
    exact ⟨rfl, Nat.zero_le _⟩

/-- **Servers do not interfere with each other's proposals.** Let the same server stand at the same
place among those that two sessions about the same document ask, whatever the others are, answer or
do not answer. If its answer is taken in a run, its proposals are those that its answer alone makes,
and otherwise there are none, so that two runs that both take its answer or both do without it make
the same of it. They also offer its proposals in the same order, unless an item declares a sort text
in one of them and none does in the other. What the program does is such a run, and it takes the
server's answer in both sessions or in none. -/
theorem proposalsFrom_of_runs (h : s.Reachable) (h' : s'.Reachable)
    (hdocument : s'.document = s.document) (hsettings : s'.settings = s.settings)
    (hserver : s.asked[place]? = some server) (hserver' : s'.asked[place]? = some server) :
    (∀ answers proposals, s.Run offset answers proposals →
      (server.answered place ∈ answers → (proposalsFrom place proposals).Perm
        ((server.answered place).proposals s.settings s.snapshot offset)) ∧
      (server.answered place ∉ answers → proposalsFrom place proposals = [])) ∧
    (∀ answers proposals answers' proposals',
      s.Run offset answers proposals → s'.Run offset answers' proposals' →
      (server.answered place ∈ answers ↔ server.answered place ∈ answers') →
        (proposalsFrom place proposals).Perm (proposalsFrom place proposals') ∧
        (answers.any (·.declaresSortText) = answers'.any (·.declaresSortText) →
          proposalsFrom place proposals = proposalsFrom place proposals')) ∧
    ∃ answers answers', s.Run offset answers (s.compute offset).proposals ∧
      s'.Run offset answers' (s'.compute offset).proposals ∧
      (server.answered place ∈ answers ↔ server.answered place ∈ answers') := by
  have hsnapshot : s'.snapshot = s.snapshot := by rw [snapshot, snapshot, hdocument]
  refine ⟨fun answers proposals hrun => ⟨fun hmem => ?_, fun hmem => ?_⟩,
    fun answers proposals answers' proposals' hrun hrun' hsame => ⟨?_, fun hsort => ?_⟩, ?_⟩
  · have hperm := hrun.proposalsFrom_perm place
    rwa [hrun.filter_order_eq_singleton hserver hmem, List.flatMap_singleton] at hperm
  · have hperm := hrun.proposalsFrom_perm place
    rw [hrun.filter_order_eq_nil hserver hmem] at hperm
    exact hperm.eq_nil
  · obtain ⟨hown, -⟩ := hrun.filter_order_congr hrun' hserver hserver' hsame
    have hperm := hrun'.proposalsFrom_perm place
    rw [hsettings, hsnapshot, ← hown] at hperm
    exact (hrun.proposalsFrom_perm place).trans hperm.symm
  · obtain ⟨hown, hlength⟩ := hrun.filter_order_congr hrun' hserver hserver' hsame
    rw [hrun.proposals_eq, hrun'.proposals_eq, hsettings, hsnapshot]
    exact Gathered.proposalsFrom_ofAnswered_congr hown hlength hsort s.settings s.snapshot offset
  · obtain ⟨answers, hrun, htaken⟩ := exists_run_compute h offset
    obtain ⟨answers', hrun', htaken'⟩ := exists_run_compute h' offset
    refine ⟨answers, answers', hrun, hrun', ?_⟩
    rw [htaken place server hserver, htaken' place server hserver', hdocument, hsettings]

/-- A server that answers with items that have no sort texts. -/
def answering (name : String) (labels : List String) : RecordedServer where
  name
  capabilities := { completion := some {} }
  responses := [(RequestKind.completion.method,
    { result := .array (labels.map fun label => .object [("label", .string label)]) })]

/-- A server that fails. -/
def failing (name : String) : RecordedServer where
  name
  capabilities := { completion := some {} }
  responses := [(RequestKind.completion.method, { error := some ⟨-32603, "no", none⟩ })]

/-- A server that answers with two items. -/
def steady : RecordedServer := answering "steady" ["expr", "print"]

/-- A session with another server in front of the steady one. -/
def beside (other : RecordedServer) : CompletionSession where
  exchange := .ofServers [other, steady]
  settings := {}
  document := { text := ['p', 'r'], uri := some "file:///a" }

theorem any_declaresSortText_beside (other : RecordedServer)
    (hasked : (beside other).asked = [other, steady])
    (hother : ∀ place, (other.answered place).declaresSortText = false)
    (hrun : (beside other).Run offset answers proposals) :
    answers.any (·.declaresSortText) = false := by
  refine List.any_eq_false.2 fun a ha => Bool.not_eq_true _ ▸ ?_
  obtain ⟨server, hserver, heq⟩ := hrun.exists_answered ha
  rw [← heq]
  rcases List.mem_pair.1 (hasked ▸ List.mem_of_getElem? hserver) with rfl | rfl
  · exact hother _
  · rfl

/-- It makes no difference to the steady server whether the other one fails or answers. -/
theorem proposalsFrom_of_runs_beside :
    let s := beside (failing "other")
    let s' := beside (answering "other" ["pr"])
    s.Reachable ∧ s'.Reachable ∧ s.asked[1]? = some steady ∧ s'.asked[1]? = some steady ∧
    ((proposalsFrom 1 (s.compute 2).proposals).map (·.candidate.label)).Perm ["expr", "print"] ∧
    proposalsFrom 1 (s.compute 2).proposals = proposalsFrom 1 (s'.compute 2).proposals := by
  intro s s'
  have h : s.Reachable := .start _ _ _
  have h' : s'.Reachable := .start _ _ _
  have hserver : s.asked[1]? = some steady := rfl
  have hserver' : s'.asked[1]? = some steady := rfl
  obtain ⟨hown, hsame, -⟩ := @proposalsFrom_of_runs s s' 2 1 steady h h' rfl rfl hserver hserver'
  obtain ⟨answers, hrun, htaken⟩ := exists_run_compute h 2
  obtain ⟨answers', hrun', htaken'⟩ := exists_run_compute h' 2
  have hmem : steady.answered 1 ∈ answers := (htaken 1 steady hserver).2 (by decide)
  have hmem' : steady.answered 1 ∈ answers' := (htaken' 1 steady hserver').2 (by decide)
  have hperm := (hown answers _ hrun).1 hmem
  have hlabels : ((steady.answered 1).proposals s.settings s.snapshot 2).map (·.candidate.label) =
    ["expr", "print"] := by cbv
  have hnone := any_declaresSortText_beside (failing "other") rfl (fun _ => rfl) hrun
  have hnone' := any_declaresSortText_beside (answering "other" ["pr"]) rfl (fun _ => rfl) hrun'
  refine ⟨h, h', hserver, hserver', hlabels ▸ hperm.map _, ?_⟩
  exact (hsame answers _ answers' _ hrun hrun' (iff_of_true hmem hmem')).2 (hnone.trans hnone'.symm)

end Run

end CompletionSession

end LanguageClient
