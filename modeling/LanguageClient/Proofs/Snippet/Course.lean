import LanguageClient.Proofs.Snippet.Output
import Mathlib

/-!
# The course of reading

On its way through a snippet the reader stands in many states, also inside defaults that turn out
to be malformed and are taken back (`Resolver.Visits`). A construct calls the reader of its default
in one state at most, the one in which the default begins (`Resolver.defaultStart?`,
`Resolver.dollar_eq_of_defaultStart?`). Whatever the snippet, the account that the reader keeps is
right in each of these states: the count is the number of characters emitted, these and those still
to be read are characters of the snippet in their order, and the cursor is not behind those emitted
(`Resolver.Visits.emits`, `Resolver.Emits.of_start`). The last of these states is the result
(`resolve_accounts`).
-/

namespace LanguageClient.Snippet

namespace Resolver

variable {s s' s₁ : Resolver} {isNested : Bool}

/-! ## Where a default begins -/

/-- The state in which the default of the construct here begins, if it has one. Of two readers of
which one closes every default at once and the other none, only a construct with a default can tell
the difference; and the first one leaves off where it was called. -/
def defaultStart? (s : Resolver) : Option Resolver :=
  if (dollar (fun s => (true, s)) s).1 && !(dollar (fun s => (false, s)) s).1 then
    some (dollar (fun s => (true, s)) s).2
  else none

/-- A part of the reader, which is given the reader of its default. -/
abbrev Part : Type := (Resolver → Bool × Resolver) → Resolver → Bool × Resolver

/-- Whether a part of the reader has a text read from the state `s₁` on, and leaves it to this text
whether it is well formed and where reading goes on. -/
def Defers (part : Part) (s s₁ : Resolver) : Prop :=
  ∀ nested, (part nested s).1 = (nested s₁).1 ∧ ((nested s₁).1 = true → part nested s = nested s₁)

/-- Whether a part of the reader does the same whatever reads its default, or has a default. -/
def IsSettled (part : Part) (s : Resolver) : Prop :=
  (∃ result, ∀ nested, part nested s = result) ∨ ∃ s₁, Defers part s s₁

theorem IsSettled.defaultText {part : Part} (isFinal : Bool) (s' : Resolver)
    (h : ∀ nested, part nested s = defaultText nested isFinal s') : IsSettled part s := by
  refine .inr ⟨if isFinal then s'.markCursor else s', fun nested => ?_⟩
  rw [h, Resolver.defaultText]
  rcases nested (if isFinal then s'.markCursor else s') with ⟨_ | _, s₁⟩ <;> simp

theorem isSettled_stopBody (index : Nat) (s : Resolver) :
    IsSettled (fun nested => stopBody nested index) s := by
  by_cases hcolon : s.rest.head? = some ':'
  · obtain ⟨rest, hrest⟩ := List.head?_eq_some_iff.1 hcolon
    exact .defaultText (index = 0) (s.skip 1) fun nested => by simp only [stopBody, hrest]
  · refine .inl ⟨stopBody (fun s => (false, s)) index s, fun nested => ?_⟩
    unfold stopBody
    split <;> simp_all

theorem isSettled_variableBody (s : Resolver) : IsSettled variableBody s := by
  by_cases hcolon : s.rest.head? = some ':'
  · obtain ⟨rest, hrest⟩ := List.head?_eq_some_iff.1 hcolon
    exact .defaultText false (s.skip 1) fun nested => by simp only [variableBody, hrest]
  · refine .inl ⟨variableBody (fun s => (false, s)) s, fun nested => ?_⟩
    unfold variableBody
    split <;> simp_all

theorem isSettled_braced (s : Resolver) : IsSettled braced s := by
  obtain ⟨index, s', -, heq⟩ | ⟨s', -, heq⟩ | ⟨s', -, heq⟩ := braced_cases s
  · simp only [IsSettled, Defers, heq]
    exact isSettled_stopBody index s'
  · simp only [IsSettled, Defers, heq]
    exact isSettled_variableBody s'
  · exact .inl ⟨_, heq⟩

theorem isSettled_dollar (s : Resolver) : IsSettled dollar s := by
  obtain ⟨index, s', -, heq⟩ | ⟨s', -, heq⟩ | ⟨s', -, -, heq⟩ | heq := dollar_cases s
  · exact .inl ⟨_, heq⟩
  · exact .inl ⟨_, heq⟩
  · obtain ⟨result, hresult⟩ | ⟨s₁, hdefers⟩ := isSettled_braced (s'.skip 1)
    · exact .inl ⟨_, fun nested => by rw [heq, hresult nested]⟩
    · refine .inr ⟨s₁, fun nested => ?_⟩
      obtain ⟨hfst, hsame⟩ := hdefers nested
      rw [heq]
      refine ⟨hfst, fun hclosed => ?_⟩
      rw [← hsame hclosed, if_pos (hfst.trans hclosed)]
  · exact .inl ⟨_, heq⟩

/-- **A construct with a default is what comes of reading the default**, and no construct if the
default does not end. -/
theorem dollar_eq_of_defaultStart? (h : s.defaultStart? = some s₁)
    {nested : Resolver → Bool × Resolver} (hnested : Appends nested) :
    dollar nested s = if (nested s₁).1 then nested s₁ else (false, s) := by
  obtain ⟨result, hresult⟩ | ⟨s₂, hdefers⟩ := isSettled_dollar s
  · simp [defaultStart?, hresult] at h
  · obtain ⟨hopen, hstart⟩ := hdefers fun s => (true, s)
    obtain rfl : s₂ = s₁ := by
      simpa [defaultStart?, hopen, (hdefers fun s => (false, s)).1, hstart] using h
    obtain ⟨hfst, hsame⟩ := hdefers nested
    split_ifs with hclosed
    · exact hsame hclosed
    · have hfalse : (dollar nested s).1 = false := hfst.trans (by simpa using hclosed)
      exact Prod.ext hfalse (hnested.snd_dollar_of_false hfalse)

/-! ## The states on the way -/

/-- The states in which the reader stands when it reads from one state on, at the beginning of each
of its steps and at its end, also inside defaults and whatever becomes of these. -/
inductive Visits : Bool → Resolver → Resolver → Prop
  | here (isNested : Bool) (s : Resolver) : Visits isNested s s
  /-- Behind the closing brace. -/
  | closed {isNested : Bool} {s s' : Resolver} (h : text 1 isNested s = (true, s')) :
      Visits isNested s s'
  /-- Behind a character that has been emitted. -/
  | onward {isNested : Bool} {s s₁ s' : Resolver} (hplain : s.rest.head? ≠ some '$')
      (hstep : text 1 isNested s = (false, s₁)) (h : Visits isNested s₁ s') : Visits isNested s s'
  /-- In the default of a construct, well formed or not. -/
  | inside {isNested : Bool} {s s₁ s' : Resolver} (hdollar : s.rest.head? = some '$')
      (hstart : s.defaultStart? = some s₁) (h : Visits true s₁ s') : Visits isNested s s'
  /-- Behind a construct. -/
  | behind {isNested : Bool} {s s₁ s' : Resolver} (hdollar : s.rest.head? = some '$')
      (hread : dollar (read true) s = (true, s₁)) (h : Visits isNested s₁ s') : Visits isNested s s'
  /-- Behind a dollar sign that begins no construct. -/
  | literal {isNested : Bool} {s s₁ s' : Resolver} (hdollar : s.rest.head? = some '$')
      (hread : dollar (read true) s = (false, s₁))
      (h : Visits isNested ((s₁.skip 1).push '$') s') : Visits isNested s s'

theorem emitting_read (isNested : Bool) : Emitting (read isNested) :=
  fun s => emitting_text s.rest.length isNested s

/-- A default begins with what is emitted in front of it. -/
theorem emits_of_defaultStart? (h : s.defaultStart? = some s₁) : Emits s s₁ := by
  have hread : Emitting fun s => (true, s) := Emits.refl
  unfold defaultStart? at h
  split_ifs at h
  obtain rfl := Option.some.inj h
  exact hread.dollar s

/-- **In every state on the way**, what has been emitted and what remains to be read are characters
that were to be read. -/
theorem Visits.emits (h : Visits isNested s s') : Emits s s' := by
  induction h with
  | here _ s => exact .refl s
  | @closed isNested s s' h =>
    have hstep := emitting_text 1 isNested s
    rwa [h] at hstep
  | @onward isNested s s₁ s' _ hstep _ ih =>
    have hemits := emitting_text 1 isNested s
    rw [hstep] at hemits
    exact hemits.trans ih
  | inside _ hstart _ ih => exact (emits_of_defaultStart? hstart).trans ih
  | @behind isNested s s₁ s' _ hread _ ih =>
    have hemits := (emitting_read true).dollar s
    rw [hread] at hemits
    exact hemits.trans ih
  | @literal isNested s s₁ s' hdollar hread _ ih =>
    obtain rfl := (appends_read true).eq_of_dollar_eq_false hread
    obtain ⟨rest, hrest⟩ := List.head?_eq_some_iff.1 hdollar
    have hpush : Emits s₁ ((s₁.skip 1).push '$') := .pushAll ['$'] _ (by simp [hrest])
    exact hpush.trans ih

/-- **The reader ends in a state on its way.** -/
theorem visits_read (isNested : Bool) (s : Resolver) : Visits isNested s (read isNested s).2 := by
  induction hlength : s.rest.length using Nat.strong_induction_on generalizing s with
  | _ length ih =>
    subst hlength
    by_cases hdollar : s.rest.head? = some '$'
    · rw [read_dollar isNested hdollar]
      rcases hread : dollar (read true) s with ⟨_ | _, s₁⟩
      · obtain rfl := (appends_read true).eq_of_dollar_eq_false hread
        obtain ⟨rest, hrest⟩ := List.head?_eq_some_iff.1 hdollar
        exact .literal hdollar hread (ih _ (by simp [hrest]) _ rfl)
      · have hlt := (advances_read true).lt_of_dollar (s := s) (by rw [hread])
        rw [hread] at hlt
        exact .behind hdollar hread (ih _ hlt _ rfl)
    · obtain ⟨-, hend⟩ | ⟨rest, hrest, hclose⟩ | ⟨n, c, hkept, hchar⟩ | hdollar' :=
        text_succ_cases isNested s
      · rw [read, hend]
        exact .here isNested s
      · rw [read, hrest, List.length_cons, hclose]
        exact .closed (hclose 0)
      · have hlt : ((s.skip n).push c).rest.length < s.rest.length := hkept.length_le
        have hread : read isNested s = read isNested ((s.skip n).push c) := by
          obtain ⟨k, hk⟩ := Nat.exists_eq_add_one_of_ne_zero (Nat.ne_zero_of_lt hlt)
          rw [read, hk, hchar]
          exact text_eq_of_length_le (by omega)
        rw [hread]
        exact .onward hdollar (hchar 0) (ih _ hlt _ rfl)
      · exact absurd hdollar' hdollar

/-- What an account of a snippet read from its beginning says. -/
theorem Emits.of_start {snippet : Text} (h : Emits (start snippet) s) :
    s.count = s.emitted.length ∧ (s.emitted.reverse ++ s.rest).Sublist snippet ∧
      ∀ offset ∈ s.cursor, offset ≤ s.count := by
  obtain ⟨t, mark, rest, hmark, hkept⟩ := h
  simpa [pass, before, start] using ⟨hkept, hmark⟩

end Resolver

/-- **Resolving a snippet invents nothing and puts the cursor into its text.** Whatever the snippet,
its text is made of its characters, in their order, and its cursor, if any, is not behind the end of
that text. The reader ends in a state on its way. In each state on its way, also in defaults that
are taken back, its count is the number of characters emitted, these and the characters still to be
read are characters of the snippet in their order, and the cursor is not behind what was emitted. -/
theorem resolve_accounts (snippet : Text) :
    (resolve snippet).text.Sublist snippet ∧
    (∀ offset ∈ (resolve snippet).cursor, offset ≤ (resolve snippet).text.length) ∧
    (∃ s, Resolver.Visits false (.start snippet) s ∧
      resolve snippet = ⟨s.emitted.reverse, s.cursor⟩) ∧
    ∀ s, Resolver.Visits false (.start snippet) s →
      s.count = s.emitted.length ∧ (s.emitted.reverse ++ s.rest).Sublist snippet ∧
        ∀ offset ∈ s.cursor, offset ≤ s.count := by
  obtain ⟨hkept, hcursor⟩ := resolve_within snippet
  exact ⟨hkept, hcursor, ⟨_, Resolver.visits_read false (.start snippet),
    Resolver.resolve_eq_read snippet⟩, fun s hvisits => hvisits.emits.of_start⟩

/-- The brace is missing, so that the stop in the default is read twice. Its first cursor is taken
back, but as long as it was there the account was right. -/
theorem resolve_accounts_of_unterminated :
    let snippet := "$\x7b1:a$0".toList
    let inDefault : Resolver := ⟨[], ['a'], 1, some 1⟩
    Resolver.Visits false (.start snippet) inDefault ∧
    (inDefault.count = inDefault.emitted.length ∧
      (inDefault.emitted.reverse ++ inDefault.rest).Sublist snippet ∧
      ∀ offset ∈ inDefault.cursor, offset ≤ inDefault.count) ∧
    resolve snippet = ⟨"$\x7b1:a".toList, some 5⟩ ∧ (resolve snippet).text.Sublist snippet := by
  intro snippet inDefault
  have hdefault : (Resolver.start snippet).defaultStart? = some ⟨"a$0".toList, [], 0, none⟩ := by
    decide
  have hletter : Resolver.text 1 true ⟨"a$0".toList, [], 0, none⟩ =
      (false, ⟨"$0".toList, ['a'], 1, none⟩) := by decide
  have hstop : Resolver.dollar (Resolver.read true) ⟨"$0".toList, ['a'], 1, none⟩ =
      (true, inDefault) := by decide
  have hvisits : Resolver.Visits false (.start snippet) inDefault :=
    .inside rfl hdefault (.onward (by decide) hletter (.behind rfl hstop (.here true inDefault)))
  obtain ⟨hkept, -, -, haccounts⟩ := resolve_accounts snippet
  exact ⟨hvisits, haccounts _ hvisits, by decide, hkept⟩

end LanguageClient.Snippet
