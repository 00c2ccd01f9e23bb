import LanguageClient.Snippet.Resolve
import Mathlib

/-!
# Reading a snippet without counting steps

The reader of snippets counts its steps, of which there are enough if there are as many as
characters to be read. `Resolver.read` is the reader with just so many. What it does is told by
one equation for each way in which the rest of a snippet can begin (`read_nil`, `read_escaped`,
`read_dollar`, `read_close`, `read_plain`), none of which speaks of steps.

This rests on what a construct can do at all (`braced_cases`, `dollar_cases`). It uses the reader of
its default only on less than it has before itself (`AgreeBelow.dollar_eq`), and what has been read
is gone (`Advances.lt_of_dollar`, `advances_text`). What has been emitted stays (`appends_text`), so
that what a default emitted can be cut off again, and a construct that is malformed is as if it had
not been read (`Appends.snd_dollar_of_false`).
-/

namespace LanguageClient.Snippet.Resolver

variable {s s' : Resolver}

/-! ## What operations leave to be read -/

/-- The reader in front of another text. -/
def before (rest : Text) (s : Resolver) : Resolver := { s with rest }

@[simp]
theorem rest_before (rest : Text) (s : Resolver) : (s.before rest).rest = rest := rfl

@[simp]
theorem rest_push (c : Char) (s : Resolver) : (s.push c).rest = s.rest := rfl

@[simp]
theorem rest_skip (n : Nat) (s : Resolver) : (s.skip n).rest = s.rest.drop n := rfl

@[simp]
theorem rest_markCursor (s : Resolver) : s.markCursor.rest = s.rest := by
  unfold markCursor
  split <;> rfl

@[simp]
theorem rest_markStop (index : Nat) (s : Resolver) : (s.markStop index).rest = s.rest := by
  unfold markStop
  split_ifs <;> simp

@[simp]
theorem emitted_markCursor (s : Resolver) : s.markCursor.emitted = s.emitted := by
  unfold markCursor
  split <;> rfl

@[simp]
theorem emitted_markStop (index : Nat) (s : Resolver) : (s.markStop index).emitted = s.emitted := by
  unfold markStop
  split_ifs <;> simp

theorem pushAll_cons (c : Char) (t : Text) (s : Resolver) :
    s.pushAll (c :: t) = (s.push c).pushAll t := rfl

@[simp]
theorem rest_pushAll (t : Text) (s : Resolver) : (s.pushAll t).rest = s.rest := by
  induction t generalizing s with
  | nil => rfl
  | cons c t ih => rw [pushAll_cons, ih, rest_push]

theorem suffix_emitted_pushAll (t : Text) (s : Resolver) : s.emitted <:+ (s.pushAll t).emitted := by
  induction t generalizing s with
  | nil => exact List.suffix_rfl
  | cons c t ih => exact (List.suffix_cons c s.emitted).trans (ih (s.push c))

theorem suffix_of_choice {first : Text} {inFirst : Bool} {t chosen rest : Text}
    (h : choice first inFirst t = some (chosen, rest)) : rest <:+ t := by
  fun_induction choice first inFirst t with
  | case1 => cases h
  | case2 => cases h
  | case3 _ _ c t ih => exact (ih h).trans (List.suffix_append ['\\', c] t)
  | case4 _ _ t =>
    cases h
    exact List.suffix_append ['|', '\x7d'] _
  | case5 _ _ t ih => exact (ih h).trans (List.suffix_cons _ t)
  | case6 _ _ c t _ _ _ _ ih => exact (ih h).trans (List.suffix_cons c t)

theorem suffix_of_transform {depth : Nat} {t rest : Text} (h : transform depth t = some rest) :
    rest <:+ t := by
  fun_induction transform depth t with
  | case1 => cases h
  | case2 => cases h
  | case3 _ c t ih => exact (ih h).trans (List.suffix_append ['\\', c] t)
  | case4 _ t ih => exact (ih h).trans (List.suffix_cons _ t)
  | case5 t =>
    cases h
    exact List.suffix_cons _ _
  | case6 _ t _ ih => exact (ih h).trans (List.suffix_cons _ t)
  | case7 _ c t _ _ _ _ ih => exact (ih h).trans (List.suffix_cons c t)

/-! ## All that a construct can do -/

/-- Whether a state differs from an earlier one at most in what remains to be read. -/
structure SameOutput (s s' : Resolver) : Prop where
  emitted_eq : s'.emitted = s.emitted
  count_eq : s'.count = s.count
  cursor_eq : s'.cursor = s.cursor

namespace SameOutput

theorem refl (s : Resolver) : SameOutput s s := ⟨rfl, rfl, rfl⟩

theorem trans {s₁ s₂ s₃ : Resolver} (h : SameOutput s₁ s₂) (h' : SameOutput s₂ s₃) :
    SameOutput s₁ s₃ where
  emitted_eq := h'.emitted_eq.trans h.emitted_eq
  count_eq := h'.count_eq.trans h.count_eq
  cursor_eq := h'.cursor_eq.trans h.cursor_eq

/-- With its characters back, the state is the earlier one. -/
theorem before_rest (h : SameOutput s s') : s'.before s.rest = s := by
  obtain ⟨rest, emitted, count, cursor⟩ := s
  obtain ⟨rfl, rfl, rfl⟩ := h
  rfl

theorem eq_before (h : SameOutput s s') : s' = s.before s'.rest := by
  obtain ⟨rest, emitted, count, cursor⟩ := s'
  obtain ⟨rfl, rfl, rfl⟩ := h
  rfl

end SameOutput

/-- Whether a state has passed over some characters and done nothing else. -/
structure Passed (s s' : Resolver) : Prop extends SameOutput s s' where
  suffix : s'.rest <:+ s.rest

namespace Passed

theorem length_le (h : Passed s s') : s'.rest.length ≤ s.rest.length := h.suffix.length_le

theorem refl (s : Resolver) : Passed s s := ⟨.refl s, List.suffix_rfl⟩

theorem trans {s₁ s₂ s₃ : Resolver} (h : Passed s₁ s₂) (h' : Passed s₂ s₃) : Passed s₁ s₃ :=
  ⟨h.toSameOutput.trans h'.toSameOutput, h'.suffix.trans h.suffix⟩

theorem skip (n : Nat) (s : Resolver) : Passed s (s.skip n) :=
  ⟨⟨rfl, rfl, rfl⟩, List.drop_suffix n s.rest⟩

theorem number (s : Resolver) : Passed s s.number.2 := skip _ s

theorem name (s : Resolver) : Passed s s.name.2 := by
  unfold Resolver.name
  split_ifs
  · exact skip _ s
  · exact refl s

end Passed

/-- Behind the brace comes what belongs to a number or to a name, or nothing. -/
theorem braced_cases (s : Resolver) :
    (∃ index s', Passed s s' ∧ ∀ nested, braced nested s = stopBody nested index s') ∨
      (∃ s', Passed s s' ∧ ∀ nested, braced nested s = variableBody nested s') ∨
      ∃ s', Passed s s' ∧ ∀ nested, braced nested s = (false, s') := by
  have hnumber := Passed.number s
  rcases hn : s.number with ⟨_ | index, s₁⟩
  · rw [hn] at hnumber
    have hname := Passed.name s₁
    rcases hv : s₁.name with ⟨_ | _, s₂⟩
    · rw [hv] at hname
      exact .inr (.inr ⟨s₂, hnumber.trans hname, fun nested => by simp [braced, hn, hv]⟩)
    · rw [hv] at hname
      exact .inr (.inl ⟨s₂, hnumber.trans hname, fun nested => by simp [braced, hn, hv]⟩)
  · rw [hn] at hnumber
    exact .inl ⟨index, s₁, hnumber, fun nested => by simp [braced, hn]⟩

/-- Behind the dollar sign comes a number, a name or a brace. What is none of them, or malformed
behind its brace, is not read at all. -/
theorem dollar_cases (s : Resolver) :
    (∃ index s', Passed (s.skip 1) s' ∧ ∀ nested, dollar nested s = (true, s'.markStop index)) ∨
      (∃ s', Passed (s.skip 1) s' ∧ ∀ nested, dollar nested s = (true, s')) ∨
      (∃ s', Passed (s.skip 1) s' ∧ 0 < s'.rest.length ∧ ∀ nested, dollar nested s =
        ((braced nested (s'.skip 1)).1, if (braced nested (s'.skip 1)).1 then
          (braced nested (s'.skip 1)).2 else (braced nested (s'.skip 1)).2.before s.rest)) ∨
      ∀ nested, dollar nested s = (false, s) := by
  have hnumber := Passed.number (s.skip 1)
  rcases hn : (s.skip 1).number with ⟨_ | index, s₁⟩
  · rw [hn] at hnumber
    have hname := Passed.name s₁
    rcases hv : s₁.name with ⟨_ | _, s₂⟩
    · rw [hv] at hname
      have hpassed := hnumber.trans hname
      by_cases hbrace : s₂.rest.head? = some '\x7b'
      · refine .inr (.inr (.inl ⟨s₂, hpassed, ?_, fun nested => ?_⟩))
        · obtain ⟨rest, hrest⟩ := List.head?_eq_some_iff.1 hbrace
          simp [hrest]
        · rcases hb : braced nested (s₂.skip 1) with ⟨_ | _, s₃⟩ <;>
            simp [dollar, hn, hv, hbrace, hb, before]
      · refine .inr (.inr (.inr fun nested => ?_))
        have hsame := (Passed.skip 1 s).trans hpassed
        have hback := hsame.before_rest
        simp only [dollar, hn, hv, if_neg hbrace]
        exact congrArg (false, ·) hback
    · rw [hv] at hname
      exact .inr (.inl ⟨s₂, hnumber.trans hname, fun nested => by simp [dollar, hn, hv]⟩)
  · rw [hn] at hnumber
    exact .inl ⟨index, s₁, hnumber, fun nested => by simp [dollar, hn]⟩

/-! ## Constructs leave less -/

/-- A default leaves what its reader leaves, closed or not. -/
theorem rest_defaultText (nested : Resolver → Bool × Resolver) (isFinal : Bool) (s : Resolver) :
    (defaultText nested isFinal s).2.rest =
      (nested (if isFinal then s.markCursor else s)).2.rest := by
  unfold defaultText
  split
  · rename_i s' heq
    rw [heq]
  · rename_i s' heq
    rw [heq]
    rfl

/-- A reader that leaves the end of what it has before itself, and never goes back. -/
def Advances (read : Resolver → Bool × Resolver) : Prop := ∀ s, (read s).2.rest <:+ s.rest

namespace Advances

variable {nested : Resolver → Bool × Resolver} (h : Advances nested)

include h

theorem defaultText (isFinal : Bool) : Advances (defaultText nested isFinal) := by
  intro s
  have hs := h (if isFinal then s.markCursor else s)
  have hrest : (if isFinal then s.markCursor else s).rest = s.rest := by split_ifs <;> simp
  rwa [hrest, ← rest_defaultText] at hs

theorem stopBody (index : Nat) : Advances (stopBody nested index) := by
  intro s
  unfold Resolver.stopBody
  split
  · simpa using List.drop_suffix 1 s.rest
  · exact (h.defaultText _ _).trans (Passed.skip 1 s).suffix
  · rename_i options heq
    split
    · rename_i first rest hchoice
      have hoptions := (suffix_of_choice hchoice).trans (List.suffix_cons '|' options)
      simpa [heq] using hoptions
    · exact List.nil_suffix
  · exact List.suffix_rfl

theorem variableBody : Advances (variableBody nested) := by
  intro s
  unfold Resolver.variableBody
  split
  · exact (Passed.skip 1 s).suffix
  · exact (h.defaultText _ _).trans (Passed.skip 1 s).suffix
  · rename_i body heq
    split
    · rename_i rest htransform
      have hbody := (suffix_of_transform htransform).trans (List.suffix_cons '/' body)
      simpa [heq] using hbody
    · exact List.nil_suffix
  · exact List.suffix_rfl

theorem braced : Advances (braced nested) := by
  intro s
  obtain ⟨index, s', hpassed, hbraced⟩ | ⟨s', hpassed, hbraced⟩ | ⟨s', hpassed, hbraced⟩ :=
    braced_cases s
  · rw [hbraced]
    exact (h.stopBody index s').trans hpassed.suffix
  · rw [hbraced]
    exact (h.variableBody s').trans hpassed.suffix
  · rw [hbraced]
    exact hpassed.suffix

/-- What a construct that is well formed leaves is behind its dollar sign. -/
theorem suffix_of_dollar (hdollar : (dollar nested s).1 = true) :
    (dollar nested s).2.rest <:+ s.rest.drop 1 := by
  obtain ⟨index, s', hpassed, heq⟩ | ⟨s', hpassed, heq⟩ | ⟨s', hpassed, -, heq⟩ | heq :=
    dollar_cases s
  · rw [heq, rest_markStop]
    exact hpassed.suffix
  · rw [heq]
    exact hpassed.suffix
  · rw [heq] at hdollar ⊢
    rw [if_pos hdollar]
    exact ((h.braced (s'.skip 1)).trans (Passed.skip 1 s').suffix).trans hpassed.suffix
  · rw [heq] at hdollar
    cases hdollar

/-- A construct that is well formed has been read. -/
theorem lt_of_dollar (hdollar : (dollar nested s).1 = true) :
    (dollar nested s).2.rest.length < s.rest.length := by
  have hne : s.rest ≠ [] := fun hnil => by simp [dollar, number, name, hnil] at hdollar
  have hpos := List.length_pos_iff.2 hne
  have hle := (h.suffix_of_dollar hdollar).length_le
  rw [List.length_drop] at hle
  omega

end Advances

/-! ## Malformed constructs leave no trace -/

/-- A reader that takes back nothing of what was emitted before. -/
def Appends (read : Resolver → Bool × Resolver) : Prop := ∀ s, s.emitted <:+ (read s).2.emitted

namespace Appends

variable {nested : Resolver → Bool × Resolver} (h : Appends nested)

include h

/-- Of a default that is not closed nothing remains but that it has been read: cutting off what was
emitted behind the length of before leaves what was emitted before. -/
theorem sameOutput_defaultText {isFinal : Bool} (hfalse : (defaultText nested isFinal s).1 = false) :
    SameOutput s (Resolver.defaultText nested isFinal s).2 := by
  have hemitted : (if isFinal then s.markCursor else s).emitted = s.emitted := by
    split_ifs <;> simp
  have hsuffix := h (if isFinal then s.markCursor else s)
  unfold Resolver.defaultText at hfalse ⊢
  split at hfalse
  · cases hfalse
  · rename_i s' heq
    rw [heq, hemitted] at hsuffix
    exact ⟨(List.suffix_iff_eq_drop.1 hsuffix).symm, rfl, rfl⟩

theorem sameOutput_stopBody {index : Nat} (hfalse : (stopBody nested index s).1 = false) :
    SameOutput s (Resolver.stopBody nested index s).2 := by
  unfold Resolver.stopBody at hfalse ⊢
  split at hfalse
  · cases hfalse
  · exact (Passed.skip 1 s).toSameOutput.trans (h.sameOutput_defaultText hfalse)
  · split at hfalse
    · cases hfalse
    · exact ⟨rfl, rfl, rfl⟩
  · exact .refl s

theorem sameOutput_variableBody (hfalse : (variableBody nested s).1 = false) :
    SameOutput s (Resolver.variableBody nested s).2 := by
  unfold Resolver.variableBody at hfalse ⊢
  split at hfalse
  · cases hfalse
  · exact (Passed.skip 1 s).toSameOutput.trans (h.sameOutput_defaultText hfalse)
  · split at hfalse
    · cases hfalse
    · exact ⟨rfl, rfl, rfl⟩
  · exact .refl s

theorem sameOutput_braced (hfalse : (braced nested s).1 = false) :
    SameOutput s (Resolver.braced nested s).2 := by
  obtain ⟨index, s', hpassed, hbraced⟩ | ⟨s', hpassed, hbraced⟩ | ⟨s', hpassed, hbraced⟩ :=
    braced_cases s
  · rw [hbraced] at hfalse ⊢
    exact hpassed.toSameOutput.trans (h.sameOutput_stopBody hfalse)
  · rw [hbraced] at hfalse ⊢
    exact hpassed.toSameOutput.trans (h.sameOutput_variableBody hfalse)
  · rw [hbraced]
    exact hpassed.toSameOutput

/-- **A malformed construct leaves no trace**, whatever has been read and emitted in it. -/
theorem snd_dollar_of_false (hfalse : (dollar nested s).1 = false) : (dollar nested s).2 = s := by
  obtain ⟨index, s', -, heq⟩ | ⟨s', -, heq⟩ | ⟨s', hpassed, -, heq⟩ | heq := dollar_cases s
  · rw [heq] at hfalse
    cases hfalse
  · rw [heq] at hfalse
    cases hfalse
  · rw [heq] at hfalse ⊢
    have hpassed' := ((Passed.skip 1 s).trans hpassed).trans (Passed.skip 1 s')
    have hsame := hpassed'.toSameOutput.trans (h.sameOutput_braced hfalse)
    rw [if_neg (by simpa using hfalse), hsame.before_rest]
  · rw [heq]

theorem eq_of_dollar_eq_false (hfalse : dollar nested s = (false, s')) : s' = s := by
  have hsame := h.snd_dollar_of_false (s := s) (by rw [hfalse])
  rwa [hfalse] at hsame

/-! ## What has been emitted stays -/

theorem defaultText (isFinal : Bool) : Appends (defaultText nested isFinal) := by
  intro s
  cases hclosed : (Resolver.defaultText nested isFinal s).1 with
  | false => rw [(h.sameOutput_defaultText hclosed).emitted_eq]
  | true =>
    have hsuffix := h (if isFinal then s.markCursor else s)
    have hemitted : (if isFinal then s.markCursor else s).emitted = s.emitted := by
      split_ifs <;> simp
    rw [hemitted] at hsuffix
    unfold Resolver.defaultText at hclosed ⊢
    split at hclosed
    · rename_i s' heq
      rwa [heq] at hsuffix
    · cases hclosed

theorem stopBody (index : Nat) : Appends (stopBody nested index) := by
  intro s
  unfold Resolver.stopBody
  split
  · rw [emitted_markStop]
    exact List.suffix_rfl
  · exact h.defaultText _ (s.skip 1)
  · split
    · rename_i first rest _
      have hpush := suffix_emitted_pushAll first ((s.before rest).markStop index)
      rwa [emitted_markStop] at hpush
    · exact List.suffix_rfl
  · exact List.suffix_rfl

theorem variableBody : Appends (variableBody nested) := by
  intro s
  unfold Resolver.variableBody
  split
  · exact List.suffix_rfl
  · exact h.defaultText _ (s.skip 1)
  · split <;> exact List.suffix_rfl
  · exact List.suffix_rfl

theorem braced : Appends (braced nested) := by
  intro s
  obtain ⟨index, s', hpassed, hbraced⟩ | ⟨s', hpassed, hbraced⟩ | ⟨s', hpassed, hbraced⟩ :=
    braced_cases s
  · rw [hbraced, ← hpassed.emitted_eq]
    exact h.stopBody index s'
  · rw [hbraced, ← hpassed.emitted_eq]
    exact h.variableBody s'
  · rw [hbraced, hpassed.emitted_eq]

theorem dollar : Appends (dollar nested) := by
  intro s
  cases hread : (Resolver.dollar nested s).1 with
  | false => rw [h.snd_dollar_of_false hread]
  | true =>
    obtain ⟨index, s', hpassed, heq⟩ | ⟨s', hpassed, heq⟩ | ⟨s', hpassed, -, heq⟩ | heq :=
      dollar_cases s
    · rw [heq, emitted_markStop, hpassed.emitted_eq]
      exact List.suffix_rfl
    · rw [heq, hpassed.emitted_eq]
      exact List.suffix_rfl
    · rw [heq] at hread ⊢
      rw [if_pos hread]
      have hbraced := h.braced (s'.skip 1)
      rwa [show (s'.skip 1).emitted = s.emitted from hpassed.emitted_eq] at hbraced
    · rw [heq]

end Appends

/-- **What the reader has emitted stays.** -/
theorem appends_text (steps : Nat) (isNested : Bool) : Appends (text steps isNested) := by
  induction steps generalizing isNested with
  | zero => exact fun s => List.suffix_rfl
  | succ steps ih =>
    intro s
    have hpush (n : Nat) (c : Char) :
        s.emitted <:+ (text steps isNested ((s.skip n).push c)).2.emitted :=
      (List.suffix_cons c s.emitted).trans (ih isNested ((s.skip n).push c))
    unfold text
    split
    · exact List.suffix_rfl
    · exact hpush 2 '$'
    · exact hpush 2 '\x7d'
    · exact hpush 2 '\\'
    · have hdollar := (ih true).dollar s
      split <;> rename_i s' heq <;> rw [heq] at hdollar
      · exact hdollar.trans (ih isNested s')
      · exact hdollar.trans
          ((List.suffix_cons '$' s'.emitted).trans (ih isNested ((s'.skip 1).push '$')))
    · rename_i c _ _ _ _ _ _
      split_ifs
      · exact List.suffix_rfl
      · exact hpush 1 c

/-! ## Constructs look only at less -/

/-- Whether two readers do the same with anything shorter than `bound` characters. -/
def AgreeBelow (bound : Nat) (nested nested' : Resolver → Bool × Resolver) : Prop :=
  ∀ s, s.rest.length < bound → nested s = nested' s

namespace AgreeBelow

variable {bound : Nat} {nested nested' : Resolver → Bool × Resolver}
  (h : AgreeBelow bound nested nested')

include h

section

variable (hs : s.rest.length < bound)

include hs

theorem defaultText_eq (isFinal : Bool) :
    defaultText nested isFinal s = defaultText nested' isFinal s := by
  have hrest : (if isFinal then s.markCursor else s).rest = s.rest := by split_ifs <;> simp
  rw [defaultText, defaultText, h _ (hrest ▸ hs)]

theorem stopBody_eq (index : Nat) : stopBody nested index s = stopBody nested' index s := by
  simp only [stopBody, h.defaultText_eq ((Passed.skip 1 s).length_le.trans_lt hs)]

theorem variableBody_eq : variableBody nested s = variableBody nested' s := by
  simp only [variableBody, h.defaultText_eq ((Passed.skip 1 s).length_le.trans_lt hs)]

theorem braced_eq : braced nested s = braced nested' s := by
  obtain ⟨index, s', hpassed, hbraced⟩ | ⟨s', hpassed, hbraced⟩ | ⟨s', -, hbraced⟩ :=
    braced_cases s
  · rw [hbraced, hbraced, h.stopBody_eq (hpassed.length_le.trans_lt hs)]
  · rw [hbraced, hbraced, h.variableBody_eq (hpassed.length_le.trans_lt hs)]
  · rw [hbraced, hbraced]

end

/-- A construct leaves its dollar sign behind before it reads a default. -/
theorem dollar_eq (hs : s.rest.length ≤ bound) : dollar nested s = dollar nested' s := by
  obtain ⟨index, s', -, heq⟩ | ⟨s', -, heq⟩ | ⟨s', hpassed, hpos, heq⟩ | heq := dollar_cases s
  · rw [heq, heq]
  · rw [heq, heq]
  · have hlength := hpassed.length_le
    have hlt : (s'.skip 1).rest.length < bound := by
      simp only [rest_skip, List.length_drop] at hlength ⊢
      omega
    rw [heq, heq, h.braced_eq hlt]
  · rw [heq, heq]

end AgreeBelow

/-! ## One step -/

section Step

variable (rest : Text) (s : Resolver) (steps : Nat) (isNested : Bool)

theorem text_succ_escaped {c : Char} (hc : c = '$' ∨ c = '\x7d' ∨ c = '\\') :
    text (steps + 1) isNested (s.before ('\\' :: c :: rest)) =
      text steps isNested ((s.before rest).push c) := by
  rcases hc with rfl | rfl | rfl <;> rfl

theorem text_succ_close :
    text (steps + 1) true (s.before ('\x7d' :: rest)) = (true, s.before rest) := rfl

theorem text_succ_plain {c : Char} (hdollar : c ≠ '$') (hclose : isNested = true → c ≠ '\x7d')
    (hescape : c = '\\' → ∀ c' ∈ rest.head?, c' ≠ '$' ∧ c' ≠ '\x7d' ∧ c' ≠ '\\') :
    text (steps + 1) isNested (s.before (c :: rest)) =
      text steps isNested ((s.before rest).push c) := by
  rw [text]
  grind [before, skip]

variable {s} in
theorem text_succ_dollar (h : s.rest.head? = some '$') : text (steps + 1) isNested s =
    if (dollar (text steps true) s).1 then text steps isNested (dollar (text steps true) s).2
    else text steps isNested ((s.skip 1).push '$') := by
  obtain ⟨rest, hrest⟩ := List.head?_eq_some_iff.1 h
  have hfalse := (appends_text steps true).snd_dollar_of_false (s := s)
  rw [text]
  simp only [hrest]
  rcases hread : dollar (text steps true) s with ⟨_ | _, s'⟩
  · obtain rfl : s' = s := by simpa [hread] using hfalse
    rfl
  · rfl

end Step

/-- **All that one step can do.** The reader stops at the end or behind a closing brace, emits one
character for what it passes over, or reads a construct. -/
theorem text_succ_cases (isNested : Bool) (s : Resolver) :
    (s.rest = [] ∧ ∀ steps, text steps isNested s = (false, s)) ∨
      (∃ rest, s.rest = '\x7d' :: rest ∧
        ∀ steps, text (steps + 1) isNested s = (true, s.before rest)) ∨
      (∃ n c, (c :: s.rest.drop n).Sublist s.rest ∧
        ∀ steps, text (steps + 1) isNested s = text steps isNested ((s.skip n).push c)) ∨
      s.rest.head? = some '$' := by
  obtain ⟨rest, s, rfl⟩ : ∃ rest s', s = before rest s' := ⟨s.rest, s, rfl⟩
  rcases rest with - | ⟨c, rest⟩
  · exact .inl ⟨rfl, fun steps => by cases steps <;> rfl⟩
  refine .inr ?_
  by_cases hdollar : c = '$'
  · exact .inr (.inr (by simp [hdollar]))
  by_cases hclose : isNested = true ∧ c = '\x7d'
  · obtain ⟨rfl, rfl⟩ := hclose
    exact .inl ⟨rest, rfl, text_succ_close rest s⟩
  refine .inr (.inl ?_)
  by_cases hescaped : c = '\\' ∧ ∃ c' ∈ rest.head?, c' = '$' ∨ c' = '\x7d' ∨ c' = '\\'
  · obtain ⟨rfl, c', hc', hspecial⟩ := hescaped
    obtain ⟨rest, rfl⟩ := List.head?_eq_some_iff.1 hc'
    exact ⟨2, c', by simp, fun steps => text_succ_escaped rest s steps _ hspecial⟩
  · refine ⟨1, c, by simp, fun steps => ?_⟩
    refine text_succ_plain rest s steps _ hdollar (fun hnested hc => hclose ⟨hnested, hc⟩) ?_
    intro hc c' hc'
    by_contra hspecial
    exact hescaped ⟨hc, c', hc', by tauto⟩

/-! ## As many steps as characters -/

theorem advances_text (steps : Nat) (isNested : Bool) : Advances (text steps isNested) := by
  induction steps generalizing isNested with
  | zero => exact fun s => List.suffix_rfl
  | succ steps ih =>
    intro s
    obtain ⟨-, hend⟩ | ⟨rest, hrest, hclose⟩ | ⟨n, c, -, hchar⟩ | hdollar :=
      text_succ_cases isNested s
    · rw [hend]
    · rw [hclose, hrest]
      exact List.suffix_cons _ _
    · rw [hchar]
      exact (ih isNested _).trans (List.drop_suffix n s.rest)
    · rw [text_succ_dollar _ _ hdollar]
      split_ifs with hread
      · have hsuffix := ((ih true).suffix_of_dollar hread).trans (List.drop_suffix 1 s.rest)
        exact (ih isNested _).trans hsuffix
      · exact (ih isNested _).trans (List.drop_suffix 1 s.rest)

theorem lt_of_dollar_text {steps : Nat} (h : (dollar (text steps true) s).1 = true) :
    (dollar (text steps true) s).2.rest.length < s.rest.length :=
  (advances_text steps true).lt_of_dollar h

/-- Reading with one step more than there are characters changes nothing. -/
theorem text_succ_of_length_le {steps : Nat} {isNested : Bool} (h : s.rest.length ≤ steps) :
    text (steps + 1) isNested s = text steps isNested s := by
  induction steps using Nat.strong_induction_on generalizing isNested s with
  | _ steps ih =>
    obtain ⟨-, hend⟩ | ⟨rest, hrest, hclose⟩ | ⟨n, c, hkept, hchar⟩ | hdollar :=
      text_succ_cases isNested s
    · rw [hend, hend]
    · obtain ⟨steps, rfl⟩ : ∃ k, steps = k + 1 := ⟨steps - 1, by simp [hrest] at h; omega⟩
      rw [hclose, hclose]
    · have hlength := hkept.length_le
      rw [List.length_cons] at hlength
      obtain ⟨steps, rfl⟩ : ∃ k, steps = k + 1 := ⟨steps - 1, by omega⟩
      rw [hchar, hchar, ih steps (by omega)]
      simp only [rest_push, rest_skip]
      omega
    · have hpos : 0 < s.rest.length := by
        rw [List.length_pos_iff]
        rintro hnil
        simp [hnil] at hdollar
      obtain ⟨steps, rfl⟩ : ∃ k, steps = k + 1 := ⟨steps - 1, by omega⟩
      have hagree : AgreeBelow (steps + 1) (text (steps + 1) true) (text steps true) :=
        fun s' hs' => ih steps (by omega) (by omega)
      rw [text_succ_dollar _ _ hdollar, text_succ_dollar _ _ hdollar, hagree.dollar_eq h]
      split_ifs with hread
      · have hlt := lt_of_dollar_text hread
        exact ih steps (by omega) (by omega)
      · refine ih steps (by omega) ?_
        simp
        omega

theorem text_eq_of_length_le {steps : Nat} {isNested : Bool} (h : s.rest.length ≤ steps) :
    text steps isNested s = text s.rest.length isNested s := by
  induction steps, h using Nat.le_induction with
  | base => rfl
  | succ steps h ih => rw [text_succ_of_length_le h, ih]

/-! ## Reading -/

/-- Reads text with as many steps as there are characters. -/
def read (isNested : Bool) (s : Resolver) : Bool × Resolver := text s.rest.length isNested s

theorem advances_read (isNested : Bool) : Advances (read isNested) :=
  fun s => advances_text s.rest.length isNested s

theorem appends_read (isNested : Bool) : Appends (read isNested) :=
  fun s => appends_text s.rest.length isNested s

section Read

variable (rest : Text) (s : Resolver) (isNested : Bool)

theorem read_nil : read isNested (s.before []) = (false, s.before []) := rfl

theorem read_escaped {c : Char} (hc : c = '$' ∨ c = '\x7d' ∨ c = '\\') :
    read isNested (s.before ('\\' :: c :: rest)) = read isNested ((s.before rest).push c) :=
  (text_succ_escaped rest s _ isNested hc).trans (text_succ_of_length_le le_rfl)

theorem read_close : read true (s.before ('\x7d' :: rest)) = (true, s.before rest) := rfl

theorem read_plain {c : Char} (hdollar : c ≠ '$') (hclose : isNested = true → c ≠ '\x7d')
    (hescape : c = '\\' → ∀ c' ∈ rest.head?, c' ≠ '$' ∧ c' ≠ '\x7d' ∧ c' ≠ '\\') :
    read isNested (s.before (c :: rest)) = read isNested ((s.before rest).push c) :=
  text_succ_plain rest s _ isNested hdollar hclose hescape

variable {s} in
/-- A construct is read with the reader itself for its default. What is none begins with a plain
dollar sign. -/
theorem read_dollar (h : s.rest.head? = some '$') : read isNested s =
    if (dollar (read true) s).1 then read isNested (dollar (read true) s).2
    else read isNested ((s.skip 1).push '$') := by
  obtain ⟨rest, hrest⟩ := List.head?_eq_some_iff.1 h
  have hlength : s.rest.length = rest.length + 1 := by simp [hrest]
  have hagree : AgreeBelow (rest.length + 1) (text rest.length true) (read true) :=
    fun s' hs' => text_eq_of_length_le (by omega)
  rw [read, hlength, text_succ_dollar _ _ h, hagree.dollar_eq hlength.le]
  split_ifs with hread
  · have hlt := lt_of_dollar_text (hagree.dollar_eq hlength.le ▸ hread)
    rw [hagree.dollar_eq hlength.le] at hlt
    exact text_eq_of_length_le (by omega)
  · refine text_eq_of_length_le ?_
    simp
    omega

end Read

theorem resolve_eq_read (snippet : Text) : resolve snippet =
    ⟨(read false (start snippet)).2.emitted.reverse, (read false (start snippet)).2.cursor⟩ := rfl

end LanguageClient.Snippet.Resolver
