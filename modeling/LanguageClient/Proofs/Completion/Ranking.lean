import LanguageClient.Completion.Ranking
import LanguageClient.Proofs.StableSort
import Mathlib

/-!
# The order of candidates

`Ranked.compare` is a linear order of places, refined by classes and sort texts
(`Ranked.position_eq_of_compare_eq`), so that candidates in different places are never tied. What
`rank` makes of some of the candidates is what it makes of these alone, once it is settled whether
sort texts count (`filter_rank`).
-/

namespace LanguageClient

namespace Ranked

variable {useSortText : Bool} {a b : Ranked}

/-- The order of candidates, key by key. Without sort texts all of them count as equal. -/
theorem compare_eq_compareLex (useSortText : Bool) : compare useSortText =
    compareLex (compareOn (·.matchClass.rank)) (compareLex
      (compareOn fun r => if useSortText then r.candidate.sortText else "") (compareLex
        (compareOn (·.candidate.position.server)) (compareOn (·.candidate.position.item)))) := by
  cases useSortText <;> rfl

instance : Std.TransCmp (compare useSortText) := by
  rw [compare_eq_compareLex]
  infer_instance

theorem position_eq_of_compare_eq (h : compare useSortText a b = .eq) :
    a.candidate.position = b.candidate.position := by
  obtain ⟨-, -, hserver, hitem⟩ : _ ∧ _ ∧ _ ∧ _ := by
    simpa only [compare, Ordering.then_eq_eq, Std.compare_eq_iff_eq] using h
  exact congrArg₂ ItemPosition.mk hserver hitem

section OfCandidate

variable {policy : CasePolicy} {d : Document} {invocation : Nat} {c : Candidate} {r : Ranked}

/-- A candidate is ranked if its range can be found and it matches what was typed there. -/
theorem ofCandidate?_eq_some_iff : ofCandidate? policy d invocation c = some r ↔
    r.candidate = c ∧ c.replaceRange d invocation = .ok r.replace ∧
      LanguageClient.matchClass policy c.filterText.toList (typed d invocation r.replace) =
        some r.matchClass := by
  obtain ⟨candidate, cls, replace⟩ := r
  simp only [ofCandidate?, Option.bind_eq_bind, Option.bind_eq_some_iff, Option.pure_def,
    Option.some.injEq, mk.injEq]
  constructor
  · rintro ⟨replace, hreplace, cls, hmatch, rfl, rfl, rfl⟩
    refine ⟨rfl, ?_, hmatch⟩
    cases hrange : c.replaceRange d invocation with
    | error cause => simp [hrange, Except.toOption] at hreplace
    | ok replace' => simpa [hrange, Except.toOption] using hreplace
  · rintro ⟨rfl, hrange, hmatch⟩
    exact ⟨replace, by rw [hrange]; rfl, cls, hmatch, rfl, rfl, rfl⟩

theorem candidate_of_ofCandidate?_eq_some (h : ofCandidate? policy d invocation c = some r) :
    r.candidate = c :=
  (ofCandidate?_eq_some_iff.1 h).1

theorem replaceRange_of_ofCandidate?_eq_some (h : ofCandidate? policy d invocation c = some r) :
    c.replaceRange d invocation = .ok r.replace :=
  (ofCandidate?_eq_some_iff.1 h).2.1

/-- What is typed is what stands between the start and the invocation. -/
theorem typed_eq (d : Document) (invocation : Nat) (replace : ReplaceRange) :
    typed d invocation replace =
      if replace.start < invocation ∧ invocation ≤ d.length then
        d.text.slice replace.start invocation
      else [] := by
  unfold typed
  by_cases hstart : replace.start < invocation
  · by_cases hinvocation : invocation ≤ d.length
    · rw [if_pos hstart, if_pos ⟨hstart, hinvocation⟩, Document.slice_of_le hstart.le hinvocation]
      rfl
    · rw [if_pos hstart, if_neg fun h => hinvocation h.2, Document.slice_of_length_lt (by omega)]
      rfl
  · rw [if_neg hstart, if_neg fun h => hstart h.1]

theorem typed_of_le (h : invocation ≤ d.length) (replace : ReplaceRange) :
    typed d invocation replace = d.text.slice replace.start invocation := by
  rw [typed_eq]
  split_ifs with hstart
  · rfl
  · have hempty : invocation - replace.start = 0 := by omega
    rw [Text.slice, hempty, List.take_zero]

end OfCandidate

theorem isLE_trans (a b c : Ranked) (hab : (compare useSortText a b).isLE)
    (hbc : (compare useSortText b c).isLE) : (compare useSortText a c).isLE :=
  Std.TransCmp.isLE_trans hab hbc

theorem isLE_total (a b : Ranked) :
    (compare useSortText a b).isLE || (compare useSortText b a).isLE := by
  have hswap : compare useSortText b a = (compare useSortText a b).swap :=
    Std.OrientedCmp.eq_swap
  rw [hswap]
  cases compare useSortText a b <;> rfl

end Ranked

section Rank

variable {policy : CasePolicy} {d : Document} {invocation : Nat} {candidates : List Candidate}

theorem mem_rank {r : Ranked} : r ∈ rank policy d invocation candidates ↔
    ∃ c ∈ candidates, Ranked.ofCandidate? policy d invocation c = some r := by
  rw [rank, List.mem_mergeSort, List.mem_filterMap]

/-- Candidates that match in different places are not tied. -/
theorem eq_of_isLE_of_isLE (hpositions : (candidates.map (·.position)).Nodup) {useSortText : Bool}
    {a b : Ranked} (ha : a ∈ candidates.filterMap (Ranked.ofCandidate? policy d invocation))
    (hb : b ∈ candidates.filterMap (Ranked.ofCandidate? policy d invocation))
    (hab : (Ranked.compare useSortText a b).isLE) (hba : (Ranked.compare useSortText b a).isLE) :
    a = b := by
  obtain ⟨c, hc, hrank⟩ := List.mem_filterMap.1 ha
  obtain ⟨c', hc', hrank'⟩ := List.mem_filterMap.1 hb
  have hposition := Ranked.position_eq_of_compare_eq (Std.OrientedCmp.isLE_antisymm hab hba)
  rw [Ranked.candidate_of_ofCandidate?_eq_some hrank,
    Ranked.candidate_of_ofCandidate?_eq_some hrank'] at hposition
  obtain rfl := List.inj_on_of_nodup_map hpositions hc hc' hposition
  exact Option.some.inj (hrank.symm.trans hrank')

theorem filter_filterMap_ofCandidate? (p : Candidate → Bool) :
    (candidates.filterMap (Ranked.ofCandidate? policy d invocation)).filter (p ·.candidate) =
      (candidates.filter p).filterMap (Ranked.ofCandidate? policy d invocation) := by
  rw [List.filter_filterMap, List.filterMap_filter]
  refine List.filterMap_congr fun c _ => ?_
  cases hrank : Ranked.ofCandidate? policy d invocation c with
  | none => simp
  | some r => simp [Option.filter, Ranked.candidate_of_ofCandidate?_eq_some hrank]

/-- Whatever candidates there are beside them, some of them come out as those of them that match. -/
theorem filter_rank_perm (p : Candidate → Bool) :
    ((rank policy d invocation candidates).filter (p ·.candidate)).Perm
      ((candidates.filter p).filterMap (Ranked.ofCandidate? policy d invocation)) := by
  rw [← filter_filterMap_ofCandidate?]
  exact (List.mergeSort_perm _ _).filter _

/-- The candidates beside them move some candidates in different places only by making sort texts
count. -/
theorem filter_rank (p : Candidate → Bool)
    (hpositions : ((candidates.filter p).map (·.position)).Nodup) :
    (rank policy d invocation candidates).filter (p ·.candidate) =
      ((candidates.filter p).filterMap (Ranked.ofCandidate? policy d invocation)).mergeSort
        fun a b => (Ranked.compare (candidates.any (·.hasSortText)) a b).isLE := by
  rw [rank, StableSort.filter_mergeSort Ranked.isLE_trans Ranked.isLE_total,
    filter_filterMap_ofCandidate?]
  rw [filter_filterMap_ofCandidate?]
  exact fun a ha b hb => eq_of_isLE_of_isLE hpositions ha hb

end Rank

end LanguageClient
