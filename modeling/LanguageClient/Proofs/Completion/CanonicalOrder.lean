import LanguageClient.Proofs.Completion.Ranking
import Mathlib

/-!
# The canonical order of candidates

`Ranked.Precedes` says which of two candidates that match is offered first, key by key. It is what
`Ranked.compare` decides (`Ranked.compare_eq_lt_iff`), and no candidate precedes itself or one that
precedes it. So candidates can be put into one such order at most, and `rank` finds it whatever the
order of its input is (`rank_canonical`).
-/

namespace LanguageClient

theorem MatchClass.rank_inj {a b : MatchClass} : a.rank = b.rank ↔ a = b := by
  cases a <;> cases b <;> decide

/-- Strings are compared scalar value by scalar value. -/
theorem compare_string_eq_lt_iff {s t : String} :
    compare s t = .lt ↔ s.toList < t.toList := by
  rw [← String.lt_iff_toList_lt]
  exact compareOfLessAndEq_eq_lt

/-- Whether a place in the answers comes before another one: first by server, then by item. -/
def ItemPosition.Precedes (a b : ItemPosition) : Prop :=
  a.server < b.server ∨ a.server = b.server ∧ a.item < b.item

namespace Ranked

/-- Whether a candidate precedes another one: by class, the best first; among those of one class by
sort text, scalar value by scalar value, if sort texts count; and then by place. -/
def Precedes (useSortText : Prop) (a b : Ranked) : Prop :=
  a.matchClass.rank < b.matchClass.rank ∨
    a.matchClass = b.matchClass ∧
      (useSortText ∧ a.candidate.sortText.toList < b.candidate.sortText.toList ∨
        (useSortText → a.candidate.sortText = b.candidate.sortText) ∧
          a.candidate.position.Precedes b.candidate.position)

section Compare

variable {useSortText : Bool} {a b : Ranked}

theorem compare_eq_lt_iff : compare useSortText a b = .lt ↔ Precedes useSortText a b := by
  unfold compare Precedes ItemPosition.Precedes
  cases useSortText <;> simp [Ordering.then_eq_lt, Nat.compare_eq_lt, MatchClass.rank_inj,
    compare_string_eq_lt_iff]

/-- In a list in the order of candidates, each precedes all behind it if no two are in one place. -/
theorem pairwise_precedes {l : List Ranked}
    (h : l.Pairwise fun a b => (compare useSortText a b).isLE)
    (hpositions : (l.map (·.candidate.position)).Nodup) : l.Pairwise (Precedes useSortText) := by
  have hne : l.Pairwise fun a b => a.candidate.position ≠ b.candidate.position :=
    List.pairwise_map.1 hpositions
  refine (h.and hne).imp fun {a b} ⟨hle, hne⟩ => compare_eq_lt_iff.1 ?_
  cases hcompare : compare useSortText a b with
  | lt => rfl
  | eq => exact absurd (position_eq_of_compare_eq hcompare) hne
  | gt => simp [hcompare] at hle

instance : Std.Irrefl (Precedes useSortText) where
  irrefl a h := by
    have hself : compare useSortText a a = .eq := Std.ReflCmp.compare_self
    rw [compare_eq_lt_iff.2 h] at hself
    cases hself

instance : Std.Antisymm (Precedes useSortText) where
  antisymm a b hab hba := by
    have hswap : compare useSortText a b = (compare useSortText b a).swap :=
      Std.OrientedCmp.eq_swap
    rw [compare_eq_lt_iff.2 hab, compare_eq_lt_iff.2 hba] at hswap
    cases hswap

/-- **Candidates can be put into one order at most.** -/
theorem eq_of_pairwise_precedes {l l' : List Ranked} (h : l.Pairwise (Precedes useSortText))
    (h' : l'.Pairwise (Precedes useSortText)) (hmem : ∀ r, r ∈ l ↔ r ∈ l') : l = l' :=
  h.eq_of_mem_iff h' hmem

end Compare

end Ranked

section Rank

variable {policy : CasePolicy} {d : Document} {invocation : Nat} {candidates : List Candidate}

theorem nodup_position_rank (hpositions : (candidates.map (·.position)).Nodup) :
    ((rank policy d invocation candidates).map (·.candidate.position)).Nodup := by
  have hperm : (rank policy d invocation candidates).Perm
      (candidates.filterMap (Ranked.ofCandidate? policy d invocation)) := List.mergeSort_perm _ _
  refine (hperm.map (·.candidate.position)).nodup_iff.2 ?_
  refine List.pairwise_map.2 (List.pairwise_filterMap.2 ?_)
  refine (List.pairwise_map.1 hpositions).imp fun {c c'} hne r hr r' hr' => ?_
  rwa [Ranked.candidate_of_ofCandidate?_eq_some hr, Ranked.candidate_of_ofCandidate?_eq_some hr']

theorem pairwise_precedes_rank (hpositions : (candidates.map (·.position)).Nodup) :
    (rank policy d invocation candidates).Pairwise
      (Ranked.Precedes (candidates.any (·.hasSortText))) :=
  Ranked.pairwise_precedes (List.pairwise_mergeSort Ranked.isLE_trans Ranked.isLE_total _)
    (nodup_position_rank hpositions)

/-- The order in which candidates come does not matter. -/
theorem rank_eq_of_perm {candidates' : List Candidate}
    (hpositions : (candidates.map (·.position)).Nodup) (hperm : candidates'.Perm candidates) :
    rank policy d invocation candidates' = rank policy d invocation candidates := by
  have hpositions' : (candidates'.map (·.position)).Nodup :=
    (hperm.map (·.position)).nodup_iff.2 hpositions
  have hsort : candidates'.any (·.hasSortText) = candidates.any (·.hasSortText) := hperm.any_eq
  have hordered' : (rank policy d invocation candidates').Pairwise
      (Ranked.Precedes (candidates'.any (·.hasSortText))) := pairwise_precedes_rank hpositions'
  rw [hsort] at hordered'
  refine Ranked.eq_of_pairwise_precedes hordered' (pairwise_precedes_rank hpositions) fun r => ?_
  simp only [mem_rank, hperm.mem_iff]

theorem any_hasSortText_iff : candidates.any (·.hasSortText) ↔
    ∃ c ∈ candidates, ∃ sortText, c.item.sortText = some sortText := by
  simp [Candidate.hasSortText, Option.isSome_iff_exists]

/-- **Ranking is the canonical sort of the candidates that match.** The candidates stand in
different places. Those that come out are those whose range can be found and whose filter text
matches what stands between the start of that range and the invocation, of which there is nothing if
the start is not in front of the invocation or the invocation is behind the end of the document.
Each of them comes out once, in front of all that it precedes; sort texts count if any candidate
gives one, be it among those that match or not. Candidates in another order come out the same. -/
theorem rank_canonical (policy : CasePolicy) (d : Document) (invocation : Nat)
    {candidates : List Candidate} (hpositions : (candidates.map (·.position)).Nodup) :
    (∀ r, r ∈ rank policy d invocation candidates ↔
      r.candidate ∈ candidates ∧ r.candidate.replaceRange d invocation = .ok r.replace ∧
        matchClass policy r.candidate.filterText.toList
          (if r.replace.start < invocation ∧ invocation ≤ d.length then
            d.text.slice r.replace.start invocation
          else []) = some r.matchClass) ∧
    ((rank policy d invocation candidates).map (·.candidate.position)).Nodup ∧
    (rank policy d invocation candidates).Pairwise
      (Ranked.Precedes (∃ c ∈ candidates, ∃ sortText, c.item.sortText = some sortText)) ∧
    ∀ candidates', candidates'.Perm candidates →
      rank policy d invocation candidates' = rank policy d invocation candidates := by
  refine ⟨fun r => ?_, nodup_position_rank hpositions, ?_, fun candidates' hperm =>
    rank_eq_of_perm hpositions hperm⟩
  · rw [mem_rank, ← Ranked.typed_eq]
    constructor
    · rintro ⟨c, hc, hranked⟩
      obtain ⟨rfl, hreplace, hmatch⟩ := Ranked.ofCandidate?_eq_some_iff.1 hranked
      exact ⟨hc, hreplace, hmatch⟩
    · rintro ⟨hc, hreplace, hmatch⟩
      exact ⟨r.candidate, hc, Ranked.ofCandidate?_eq_some_iff.2 ⟨rfl, hreplace, hmatch⟩⟩
  · rw [← any_hasSortText_iff]
    exact pairwise_precedes_rank hpositions

/-- A candidate that has nothing but a label and a place, and perhaps a text to sort by. -/
def plainCandidate (label : String) (sortText : Option String) (position : ItemPosition) :
    Candidate where
  item := { label, sortText }
  server := "server"
  position

/-- A candidate that does not match decides that the others are sorted by their labels. -/
theorem rank_canonical_of_hidden_sortText :
    let getB := plainCandidate "getB" none ⟨0, 0⟩
    let hidden := plainCandidate "set" (some "0") ⟨1, 0⟩
    let getA := plainCandidate "getA" none ⟨2, 0⟩
    let d : Document := { text := "ge".toList }
    ([getB, hidden, getA].map (·.position)).Nodup ∧
    rank .sensitive d 2 [getB, hidden, getA] =
      [⟨getA, .exactPrefix, ⟨0, 2⟩⟩, ⟨getB, .exactPrefix, ⟨0, 2⟩⟩] ∧
    Ranked.Precedes (∃ c ∈ [getB, hidden, getA], ∃ sortText, c.item.sortText = some sortText)
      ⟨getA, .exactPrefix, ⟨0, 2⟩⟩ ⟨getB, .exactPrefix, ⟨0, 2⟩⟩ ∧
    rank .sensitive d 2 [getA, getB, hidden] = rank .sensitive d 2 [getB, hidden, getA] := by
  intro getB hidden getA d
  have hpositions : ([getB, hidden, getA].map (·.position)).Nodup := by decide
  have hrank : rank .sensitive d 2 [getB, hidden, getA] =
      [⟨getA, .exactPrefix, ⟨0, 2⟩⟩, ⟨getB, .exactPrefix, ⟨0, 2⟩⟩] := by cbv
  obtain ⟨-, -, hordered, hperm⟩ := rank_canonical .sensitive d 2 hpositions
  rw [hrank] at hordered
  have hrotated : ([getA] ++ [getB, hidden]).Perm ([getB, hidden] ++ [getA]) :=
    List.perm_append_comm
  exact ⟨hpositions, hrank, List.rel_of_pairwise_cons hordered (by simp), hperm _ hrotated⟩

end Rank

end LanguageClient
