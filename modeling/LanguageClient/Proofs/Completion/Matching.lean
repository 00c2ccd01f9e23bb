import LanguageClient.Proofs.Completion.Ranking
import LanguageClient.Proofs.Edit.Substitution
import Mathlib

/-!
# How matching depends on what was typed

A class of matches asks the filter text to begin with what was typed, to begin with it but for the
case of letters, or to hold it anywhere (`MatchClass.Asks`). Each class asks for less than the one
before it, and a filter text is put into the first class whose demand it meets
(`exists_matchClass_iff`). Less is asked, class by class, for the beginning of what was typed, and
if the case of letters does not count. So typing on only removes or demotes candidates, and no
candidate is lost or demoted when case ceases to count (`matching_monotone`).
-/

namespace LanguageClient

/-! ## Occurrences -/

namespace Text

variable {same same' : Char → Char → Bool} {needle t : Text}

theorem startsWith_of_append {p q : Text} (h : startsWith same (p ++ q) t) :
    startsWith same p t := by
  induction p generalizing t with
  | nil => rw [startsWith]
  | cons n p ih =>
    cases t with
    | nil => cases h
    | cons c t =>
      rw [List.cons_append, startsWith, Bool.and_eq_true] at h
      rw [startsWith, Bool.and_eq_true]
      exact ⟨h.1, ih h.2⟩

theorem startsWith_mono (hsame : ∀ a b, same a b → same' a b) (h : startsWith same needle t) :
    startsWith same' needle t := by
  induction needle generalizing t with
  | nil => rw [startsWith]
  | cons n needle ih =>
    cases t with
    | nil => cases h
    | cons c t =>
      rw [startsWith, Bool.and_eq_true] at h ⊢
      exact ⟨hsame _ _ h.1, ih h.2⟩

/-- Where characters count as one only if they are the same, a text starts with its prefixes. -/
theorem startsWith_sensitive_iff :
    startsWith CasePolicy.sensitive.same needle t ↔ needle <+: t := by
  induction needle generalizing t with
  | nil => simp [startsWith]
  | cons n needle ih =>
    cases t with
    | nil => simp [startsWith]
    | cons c t =>
      rw [startsWith, Bool.and_eq_true, ih, List.cons_prefix_cons, CasePolicy.same, beq_iff_eq,
        eq_comm]

theorem find?_eq_zero_iff : find? same needle t = some 0 ↔ startsWith same needle t := by
  cases t with
  | nil => cases needle <;> simp [find?, startsWith]
  | cons c t =>
    rw [find?]
    split_ifs with h
    · simp [h]
    · simp [h]

/-- A text is found where some end of the other one starts with it. -/
theorem exists_find?_iff :
    (∃ offset, find? same needle t = some offset) ↔
      ∃ rest, rest <:+ t ∧ startsWith same needle rest := by
  induction t with
  | nil =>
    simp only [List.suffix_nil, exists_eq_left]
    cases needle <;> simp [find?, startsWith]
  | cons c t ih =>
    simp only [List.suffix_cons_iff, or_and_right, exists_or, exists_eq_left]
    rw [← ih, find?]
    split_ifs with h
    · simp [h]
    · simp [h]

end Text

/-! ## What classes ask for -/

theorem CasePolicy.same_of_sensitive {policy : CasePolicy} {a b : Char}
    (h : CasePolicy.sensitive.same a b) : policy.same a b := by
  obtain rfl : a = b := by simpa [CasePolicy.same] using h
  cases policy <;> simp [CasePolicy.same]

/-- What a class asks of a filter text, given what was typed. -/
def MatchClass.Asks (policy : CasePolicy) (filter typed : Text) : MatchClass → Prop
  | exactPrefix => typed <+: filter
  | foldedPrefix => Text.startsWith policy.same typed filter
  | contains => ∃ rest, rest <:+ filter ∧ Text.startsWith policy.same typed rest

section Asks

variable {policy : CasePolicy} {filter typed : Text} {cls : MatchClass}

theorem asks_of_matchClass (h : matchClass policy filter typed = some cls) :
    cls.Asks policy filter typed := by
  unfold matchClass at h
  split_ifs at h with hprefix
  · cases h
    exact List.isPrefixOf_iff_prefix.1 hprefix
  · split at h <;> rename_i hfind
    · cases h
      exact Text.find?_eq_zero_iff.1 hfind
    · cases h
      exact Text.exists_find?_iff.1 ⟨_, hfind⟩
    · cases h

theorem matchClass_eq_exactPrefix (h : typed <+: filter) :
    matchClass policy filter typed = some .exactPrefix :=
  if_pos (List.isPrefixOf_iff_prefix.2 h)

theorem rank_matchClass_of_startsWith (h : Text.startsWith policy.same typed filter) :
    ∃ cls, matchClass policy filter typed = some cls ∧ cls.rank ≤ MatchClass.foldedPrefix.rank := by
  unfold matchClass
  split_ifs
  · exact ⟨.exactPrefix, rfl, by decide⟩
  · rw [Text.find?_eq_zero_iff.2 h]
    exact ⟨.foldedPrefix, rfl, le_rfl⟩

theorem exists_matchClass_of_suffix {rest : Text} (h : rest <:+ filter)
    (hstart : Text.startsWith policy.same typed rest) :
    ∃ cls, matchClass policy filter typed = some cls := by
  obtain ⟨offset, hfind⟩ := Text.exists_find?_iff.2 ⟨rest, h, hstart⟩
  unfold matchClass
  rw [hfind]
  split_ifs
  · exact ⟨_, rfl⟩
  · cases offset <;> exact ⟨_, rfl⟩

/-- **A filter text is put into the first class whose demand it meets**, if it meets any. -/
theorem exists_matchClass_of_asks (h : cls.Asks policy filter typed) :
    ∃ cls', matchClass policy filter typed = some cls' ∧ cls'.rank ≤ cls.rank := by
  cases cls with
  | exactPrefix => exact ⟨_, matchClass_eq_exactPrefix h, le_rfl⟩
  | foldedPrefix => exact rank_matchClass_of_startsWith h
  | contains =>
    obtain ⟨rest, hsuffix, hstart⟩ := h
    obtain ⟨cls', hmatch⟩ := exists_matchClass_of_suffix hsuffix hstart
    refine ⟨cls', hmatch, ?_⟩
    cases cls' <;> decide

/-- Less is asked for the beginning of what was typed. -/
theorem MatchClass.Asks.of_append {p q : Text} (h : cls.Asks policy filter (p ++ q)) :
    cls.Asks policy filter p := by
  cases cls with
  | exactPrefix => exact (List.prefix_append p q).trans h
  | foldedPrefix => exact Text.startsWith_of_append h
  | contains =>
    obtain ⟨rest, hsuffix, hstart⟩ := h
    exact ⟨rest, hsuffix, Text.startsWith_of_append hstart⟩

/-- No policy asks for more than the one for which case counts. -/
theorem MatchClass.Asks.of_sensitive (h : cls.Asks .sensitive filter typed) :
    cls.Asks policy filter typed := by
  have hsame (rest : Text) : Text.startsWith CasePolicy.sensitive.same typed rest →
      Text.startsWith policy.same typed rest :=
    Text.startsWith_mono fun _ _ => CasePolicy.same_of_sensitive
  cases cls with
  | exactPrefix => exact h
  | foldedPrefix => exact hsame filter h
  | contains =>
    obtain ⟨rest, hsuffix, hstart⟩ := h
    exact ⟨rest, hsuffix, hsame rest hstart⟩

/-- Where case counts, what begins with the typed text does so exactly. -/
theorem matchClass_sensitive_ne_foldedPrefix :
    matchClass .sensitive filter typed ≠ some .foldedPrefix := by
  intro hmatch
  have hprefix : typed <+: filter := Text.startsWith_sensitive_iff.1 (asks_of_matchClass hmatch)
  rw [matchClass_eq_exactPrefix hprefix] at hmatch
  cases hmatch

end Asks

/-! ## Ranked candidates -/

namespace Ranked

variable {policy : CasePolicy} {d d' : Document} {invocation : Nat} {c : Candidate} {r : Ranked}

/-- Typing on only adds to what has been typed for a part that still begins where it did. -/
theorem exists_typed_of_typing {q : Text} {replace replace' : ReplaceRange}
    (hd' : d'.text = d.text.splice invocation invocation q) (heq : replace'.start = replace.start) :
    ∃ more, typed d' (invocation + q.length) replace' = typed d invocation replace ++ more := by
  by_cases hbefore : replace.start < invocation ∧ invocation ≤ d.length
  · obtain ⟨hstart, hinvocation⟩ := hbefore
    have hlength : invocation + q.length ≤ d'.length := by
      rw [Document.length, hd', Text.length_splice_self q hinvocation]
      exact Nat.add_le_add_right hinvocation _
    refine ⟨q, ?_⟩
    rw [typed_of_le hlength, typed_of_le hinvocation, hd', heq,
      Text.slice_splice_self hstart.le hinvocation]
  · rw [typed_eq d, if_neg hbefore]
    exact ⟨_, rfl⟩

/-- A candidate that still matches after typing on matched before, and no worse. -/
theorem exists_ofCandidate?_of_typing {q : Text} {replace : ReplaceRange}
    (hd' : d'.text = d.text.splice invocation invocation q)
    (h : ofCandidate? policy d' (invocation + q.length) c = some r)
    (hreplace : c.replaceRange d invocation = .ok replace)
    (heq : r.replace.start = replace.start) :
    ∃ cls, ofCandidate? policy d invocation c = some ⟨c, cls, replace⟩ ∧
      cls.rank ≤ r.matchClass.rank := by
  obtain ⟨rfl, -, hmatch⟩ := ofCandidate?_eq_some_iff.1 h
  obtain ⟨more, hmore⟩ := exists_typed_of_typing hd' heq
  rw [hmore] at hmatch
  obtain ⟨cls, hmatch', hle⟩ := exists_matchClass_of_asks (asks_of_matchClass hmatch).of_append
  exact ⟨cls, ofCandidate?_eq_some_iff.2 ⟨rfl, hreplace, hmatch'⟩, hle⟩

/-- A candidate that matches where case counts matches under every policy, and no worse. -/
theorem exists_ofCandidate?_of_sensitive (h : ofCandidate? .sensitive d invocation c = some r) :
    ∃ cls, ofCandidate? policy d invocation c = some ⟨c, cls, r.replace⟩ ∧
      cls.rank ≤ r.matchClass.rank := by
  obtain ⟨rfl, hreplace, hmatch⟩ := ofCandidate?_eq_some_iff.1 h
  obtain ⟨cls, hmatch', hle⟩ := exists_matchClass_of_asks (asks_of_matchClass hmatch).of_sensitive
  exact ⟨cls, ofCandidate?_eq_some_iff.2 ⟨rfl, hreplace, hmatch'⟩, hle⟩

end Ranked

/-- **Matching is monotone in what was typed and in the case policy.** A text that matches what was
typed matches the beginning of it, and matches it without regard to case, each time in a class at
least as good; where case counts, no match is a folded one. So relaxing the policy loses no
candidate of a request and demotes none. And of the candidates whose replaced part still begins
where it did, typing on adds none to those offered and promotes none. -/
theorem matching_monotone (policy : CasePolicy) (filter p q : Text) :
    (∀ cls, matchClass policy filter (p ++ q) = some cls →
      ∃ cls', matchClass policy filter p = some cls' ∧ cls'.rank ≤ cls.rank) ∧
    (∀ cls, matchClass .sensitive filter p = some cls →
      ∃ cls', matchClass .insensitive filter p = some cls' ∧ cls'.rank ≤ cls.rank) ∧
    matchClass .sensitive filter p ≠ some .foldedPrefix ∧
    (∀ d invocation candidates, ∀ r ∈ rank .sensitive d invocation candidates,
      ∃ cls, ⟨r.candidate, cls, r.replace⟩ ∈ rank .insensitive d invocation candidates ∧
        cls.rank ≤ r.matchClass.rank) ∧
    ∀ (d d' : Document) invocation candidates,
      d'.text = d.text.splice invocation invocation q →
      ∀ r ∈ rank policy d' (invocation + q.length) candidates,
      ∀ replace, r.candidate.replaceRange d invocation = .ok replace →
        r.replace.start = replace.start →
        ∃ cls, ⟨r.candidate, cls, replace⟩ ∈ rank policy d invocation candidates ∧
          cls.rank ≤ r.matchClass.rank := by
  refine ⟨fun cls hmatch => ?_, fun cls hmatch => ?_, matchClass_sensitive_ne_foldedPrefix, ?_, ?_⟩
  · exact exists_matchClass_of_asks (asks_of_matchClass hmatch).of_append
  · exact exists_matchClass_of_asks (asks_of_matchClass hmatch).of_sensitive
  · intro d invocation candidates r hr
    obtain ⟨c, hc, hranked⟩ := mem_rank.1 hr
    obtain rfl := Ranked.candidate_of_ofCandidate?_eq_some hranked
    obtain ⟨cls, hranked', hle⟩ := Ranked.exists_ofCandidate?_of_sensitive hranked
    exact ⟨cls, mem_rank.2 ⟨_, hc, hranked'⟩, hle⟩
  · intro d d' invocation candidates hd' r hr replace hreplace heq
    obtain ⟨c, hc, hranked⟩ := mem_rank.1 hr
    obtain rfl := Ranked.candidate_of_ofCandidate?_eq_some hranked
    obtain ⟨cls, hranked', hle⟩ := Ranked.exists_ofCandidate?_of_typing hd' hranked hreplace heq
    exact ⟨cls, mem_rank.2 ⟨_, hc, hranked'⟩, hle⟩

/-- A candidate whose label holds one letter twice, first in small and then in capital form. -/
def repeatedLetter : Candidate where
  item := { label := "aXAb" }
  server := "server"
  position := ⟨0, 0⟩

/-- Typing on moves the match to a later place of the label, and the candidate to a later class. -/
theorem matching_monotone_repeatedLetter :
    matchClass .insensitive "aXAb".toList "ab".toList = some .contains ∧
    (∃ cls, matchClass .insensitive "aXAb".toList "a".toList = some cls ∧
      cls.rank ≤ MatchClass.contains.rank) ∧
    matchClass .sensitive "aXAb".toList "a".toList = some .exactPrefix ∧
    (∃ cls, matchClass .insensitive "aXAb".toList "a".toList = some cls ∧
      cls.rank ≤ MatchClass.exactPrefix.rank) ∧
    ∃ cls, ⟨repeatedLetter, cls, ⟨0, 1⟩⟩ ∈
        rank .insensitive { text := "a".toList } 1 [repeatedLetter] ∧
      cls.rank ≤ MatchClass.contains.rank := by
  have hcontains : matchClass .insensitive "aXAb".toList "ab".toList = some .contains := by cbv
  have hexact : matchClass .sensitive "aXAb".toList "a".toList = some .exactPrefix := by cbv
  have hoffered : Ranked.ofCandidate? .insensitive { text := "ab".toList, stamp := 1 } 2
      repeatedLetter = some ⟨repeatedLetter, .contains, ⟨0, 2⟩⟩ := by cbv
  obtain ⟨hlonger, hrelaxed, -, -, htyping⟩ :=
    matching_monotone .insensitive "aXAb".toList "a".toList "b".toList
  refine ⟨hcontains, hlonger _ hcontains, hexact, hrelaxed _ hexact, ?_⟩
  exact htyping { text := "a".toList } { text := "ab".toList, stamp := 1 } 1 [repeatedLetter]
    (by decide) _ (mem_rank.2 ⟨repeatedLetter, by simp, hoffered⟩) ⟨0, 1⟩ (by cbv) rfl

end LanguageClient
