import LanguageClient.Proofs.Snippet.RoundTrip
import Mathlib

/-!
# Malformed constructs

A construct that turns out to be malformed leaves the reader as it was, and any other one leaves it
further on (`malformed_leaves_no_trace`). So the dollar sign of a malformed construct may as well
have been escaped, wherever it stands. This is seen by reading both snippets side by side: they are
the same but for one backslash (`Resolver.Alike`), and whatever part of the reader has them before
itself, it does the same with both (`Resolver.Twins`, `Resolver.read_twins`) until it comes to the
dollar sign itself.
-/

namespace LanguageClient.Snippet

/-- Whether a text does not escape what stands behind it: read from the front, each backslash has a
character to go with. -/
def endsUnescaped : Text → Bool
  | [] => true
  | ['\\'] => false
  | '\\' :: _ :: rest => endsUnescaped rest
  | _ :: rest => endsUnescaped rest

namespace Resolver

/-! ## Texts that are alike -/

/-- Texts that are the same but for at most one backslash, which the second one has in front of a
dollar sign. What stands behind that dollar sign satisfies `P`. -/
inductive Alike (P : Text → Prop) : Text → Text → Prop
  | nil : Alike P [] []
  | lone : Alike P ['\\'] ['\\']
  | escaped {tail : Text} (h : P tail) : Alike P ('$' :: tail) ('\\' :: '$' :: tail)
  | cons {c : Char} {t t' : Text} (hc : c ≠ '\\') (h : Alike P t t') : Alike P (c :: t) (c :: t')
  | pair (c : Char) {t t' : Text} (h : Alike P t t') : Alike P ('\\' :: c :: t) ('\\' :: c :: t')

namespace Alike

variable {P : Text → Prop} {t t' : Text}

/-- A backslash that is not the last character has one to go with. -/
theorem ne_of_not_escape {c : Char} {rest : Text} (hlone : c = '\\' → rest = [] → False)
    (hpair : ∀ c' rest', c = '\\' → rest = c' :: rest' → False) : c ≠ '\\' := by
  rintro rfl
  cases rest with
  | nil => exact hlone rfl rfl
  | cons c rest => exact hpair c rest rfl rfl

theorem refl (t : Text) : Alike P t t := by
  fun_induction endsUnescaped t with
  | case1 => exact nil
  | case2 => exact lone
  | case3 c rest ih => exact pair c ih
  | case4 c rest hlone hpair ih => exact cons (ne_of_not_escape hlone hpair) ih

theorem of_endsUnescaped {before tail : Text} (hbefore : endsUnescaped before = true)
    (h : P tail) : Alike P (before ++ '$' :: tail) (before ++ '\\' :: '$' :: tail) := by
  fun_induction endsUnescaped before with
  | case1 => exact escaped h
  | case2 => cases hbefore
  | case3 c rest ih => exact pair c (ih hbefore)
  | case4 c rest hlone hpair ih => exact cons (ne_of_not_escape hlone hpair) (ih hbefore)

/-- A row of characters at the front that are neither dollar signs nor backslashes. -/
theorem takeWhile {p : Char → Bool} (hdollar : p '$' = false) (hescape : p '\\' = false)
    (h : Alike P t t') : t.takeWhile p = t'.takeWhile p ∧
      Alike P (t.drop (t.takeWhile p).length) (t'.drop (t.takeWhile p).length) := by
  induction h with
  | nil => exact ⟨rfl, nil⟩
  | lone => simpa [hescape] using lone
  | escaped h => simpa [hdollar, hescape] using escaped h
  | @cons c t t' hc h ih =>
    by_cases hp : p c = true
    · simpa [hp] using ih
    · simpa [hp] using cons hc h
  | pair c h => simpa [hescape] using pair c h

/-- Alike texts begin alike. -/
theorem cases_head (h : Alike P t t') :
    (t = [] ∧ t' = []) ∨
    (∃ c u u', t = c :: u ∧ t' = c :: u' ∧ (c ≠ '\\' → Alike P u u')) ∨
      ∃ u, t = '$' :: u ∧ t' = '\\' :: '$' :: u := by
  cases h with
  | nil => exact .inl ⟨rfl, rfl⟩
  | lone => exact .inr (.inl ⟨_, _, _, rfl, rfl, fun hne => absurd rfl hne⟩)
  | escaped h => exact .inr (.inr ⟨_, rfl, rfl⟩)
  | cons hc h => exact .inr (.inl ⟨_, _, _, rfl, rfl, fun _ => h⟩)
  | pair c h => exact .inr (.inl ⟨_, _, _, rfl, rfl, fun hne => absurd rfl hne⟩)

/-- Alike texts go on alike behind a character that is neither a dollar sign nor a backslash. -/
theorem of_head {c : Char} {u : Text} (h : Alike P (c :: u) t') (hdollar : c ≠ '$')
    (hescape : c ≠ '\\') : ∃ u', t' = c :: u' ∧ Alike P u u' := by
  cases h with
  | lone => exact absurd rfl hescape
  | escaped => exact absurd rfl hdollar
  | cons _ h => exact ⟨_, rfl, h⟩
  | pair => exact absurd rfl hescape

theorem head?_eq_iff {c : Char} (h : Alike P t t') (hdollar : c ≠ '$') (hescape : c ≠ '\\') :
    t.head? = some c ↔ t'.head? = some c := by
  cases h with
  | nil => rfl
  | lone => rfl
  | escaped => simp [hdollar.symm, hescape.symm]
  | cons => rfl
  | pair => rfl

end Alike

/-! ## Choices and transforms -/

theorem choice_cons {c : Char} (hc : c ≠ '\\') (first : Text) (inFirst : Bool) (t : Text) :
    choice first inFirst (c :: t) =
      if c = '|' ∧ t.head? = some '\x7d' then some (first.reverse, t.tail)
      else if c = ',' then choice first false t
      else choice (if inFirst then c :: first else first) inFirst t := by
  by_cases hclose : c = '|' ∧ t.head? = some '\x7d'
  · obtain ⟨rfl, hhead⟩ := hclose
    obtain ⟨u, rfl⟩ := List.head?_eq_some_iff.1 hhead
    rfl
  by_cases hcomma : c = ','
  · subst hcomma
    rfl
  rw [if_neg hclose, if_neg hcomma, choice]
  · exact fun h _ => hc h
  · exact fun c' t' h _ => hc h
  · exact fun u h h' => hclose ⟨h, h' ▸ rfl⟩
  · exact hcomma

theorem transform_cons {c : Char} (hc : c ≠ '\\') (depth : Nat) (t : Text) :
    transform depth (c :: t) =
      if c = '\x7b' then transform (depth + 1) t
      else if c = '\x7d' then (if depth = 0 then some t else transform (depth - 1) t)
      else transform depth t := by
  by_cases hopen : c = '\x7b'
  · subst hopen
    rfl
  by_cases hclose : c = '\x7d'
  · subst hclose
    rfl
  rw [if_neg hopen, if_neg hclose, transform]
  · exact fun h _ => hc h
  · exact fun c' t' h _ => hc h
  · exact hopen
  · exact hclose

namespace Alike

variable {P : Text → Prop} {t t' : Text}

theorem choice_rel (h : Alike P t t') (first : Text) (inFirst : Bool) :
    Option.Rel (fun r r' => r.1 = r'.1 ∧ Alike P r.2 r'.2) (choice first inFirst t)
      (choice first inFirst t') := by
  have hrefl : ∀ o : Option (Text × Text),
      Option.Rel (fun r r' => r.1 = r'.1 ∧ Alike P r.2 r'.2) o o := by
    rintro (_ | r)
    · exact .none
    · exact .some ⟨rfl, .refl _⟩
  induction h generalizing first inFirst with
  | nil => exact hrefl _
  | lone => exact hrefl _
  | escaped => exact hrefl _
  | @cons c t t' hc h ih =>
    have hhead := h.head?_eq_iff (c := '\x7d') (by decide) (by decide)
    simp only [choice_cons hc, ← hhead]
    split_ifs with hclose hcomma
    · obtain ⟨u, rfl⟩ := List.head?_eq_some_iff.1 hclose.2
      obtain ⟨u', rfl, hu⟩ := h.of_head (by decide) (by decide)
      exact .some ⟨rfl, hu⟩
    all_goals exact ih _ _
  | pair c h ih => exact ih _ _

theorem transform_rel (h : Alike P t t') (depth : Nat) :
    Option.Rel (Alike P) (transform depth t) (transform depth t') := by
  have hrefl : ∀ o : Option Text, Option.Rel (Alike P) o o := by
    rintro (_ | r)
    · exact .none
    · exact .some (.refl _)
  induction h generalizing depth with
  | nil => exact hrefl _
  | lone => exact hrefl _
  | escaped => exact hrefl _
  | @cons c t t' hc h ih =>
    rw [transform_cons hc, transform_cons hc]
    split_ifs
    · exact ih _
    · exact .some h
    · exact ih _
    · exact ih _
  | pair c h ih => exact ih _

end Alike

/-! ## Readers side by side -/

/-- Two states of the reader in front of alike texts. If `keeps` is asked for, they have emitted the
same and have the same cursor. -/
structure Twins (P : Text → Prop) (keeps : Prop) (s s' : Resolver) : Prop where
  alike : Alike P s.rest s'.rest
  output : keeps → SameOutput s s'

/-- Whether two results tell the same and leave the reader in twin states. -/
structure Agree {α : Type} (P : Text → Prop) (keeps : Prop) (r r' : α × Resolver) : Prop where
  fst_eq : r.1 = r'.1
  twins : Twins P keeps r.2 r'.2

variable {P : Text → Prop} {keeps : Prop} {s s' : Resolver}

theorem Agree.exists_eq {α : Type} {r r' : α × Resolver} (h : Agree P keeps r r') :
    ∃ a s s', r = (a, s) ∧ r' = (a, s') ∧ Twins P keeps s s' :=
  ⟨r.1, r.2, r'.2, rfl, Prod.ext h.fst_eq.symm rfl, h.twins⟩

namespace Twins

variable (h : Twins P keeps s s')

include h

/-- The states may go on to any alike texts. -/
theorem before {rest rest' : Text} (hrest : Alike P rest rest') :
    Twins P keeps (s.before rest) (s'.before rest') :=
  ⟨hrest, fun hkeeps => ⟨(h.output hkeeps).1, (h.output hkeeps).2, (h.output hkeeps).3⟩⟩

theorem pass (t : Text) (mark : Option Nat) : Twins P keeps (s.pass t mark) (s'.pass t mark) := by
  refine ⟨h.alike, fun hkeeps => ?_⟩
  obtain ⟨hemitted, hcount, hcursor⟩ := h.output hkeeps
  exact ⟨by simp [Resolver.pass, hemitted], by simp [Resolver.pass, hcount],
    by simp [Resolver.pass, hcount, hcursor]⟩

theorem push (c : Char) : Twins P keeps (s.push c) (s'.push c) := by
  rw [push_eq_pass, push_eq_pass]
  exact h.pass _ _

theorem pushAll (t : Text) : Twins P keeps (s.pushAll t) (s'.pushAll t) := by
  rw [pushAll_eq_pass, pushAll_eq_pass]
  exact h.pass _ _

theorem markStop (index : Nat) : Twins P keeps (s.markStop index) (s'.markStop index) := by
  rw [markStop_eq_pass, markStop_eq_pass]
  exact h.pass _ _

theorem number : Agree P keeps s.number s'.number := by
  obtain ⟨hdigits, hrest⟩ := h.alike.takeWhile (p := isDigit) (by decide) (by decide)
  unfold Resolver.number
  rw [← hdigits]
  exact ⟨rfl, h.before hrest⟩

theorem name : Agree P keeps s.name s'.name := by
  obtain ⟨hname, hrest⟩ := h.alike.takeWhile (p := fun c => isLetter c || isDigit c) (by decide)
    (by decide)
  have hhead : s.rest.head?.any isLetter = s'.rest.head?.any isLetter := by
    obtain ⟨hs, hs'⟩ | ⟨c, u, u', hs, hs', -⟩ | ⟨u, hs, hs'⟩ := h.alike.cases_head
    · rw [hs, hs']
    · rw [hs, hs']
      rfl
    · rw [hs, hs']
      rfl
  unfold Resolver.name
  rw [← hname, hhead]
  split_ifs
  · exact ⟨rfl, h.before hrest⟩
  · exact ⟨rfl, h⟩

/-- Behind a character that is neither a dollar sign nor a backslash, twins stay twins. -/
theorem exists_eq_cons {c : Char} (hhead : s.rest.head? = some c) (hdollar : c ≠ '$')
    (hescape : c ≠ '\\') : ∃ u u', s.rest = c :: u ∧ s'.rest = c :: u' ∧ Alike P u u' ∧
      Twins P keeps (s.skip 1) (s'.skip 1) := by
  obtain ⟨u, hu⟩ := List.head?_eq_some_iff.1 hhead
  obtain ⟨u', hu', halike⟩ := (hu ▸ h.alike).of_head hdollar hescape
  have hskip := h.before halike
  refine ⟨u, u', hu, hu', halike, ?_⟩
  rwa [skip, skip, hu, hu']

theorem head?_ne {c : Char} (hc : s.rest.head? ≠ some c) (hdollar : c ≠ '$')
    (hescape : c ≠ '\\') : s'.rest.head? ≠ some c := fun hhead =>
  hc ((h.alike.head?_eq_iff hdollar hescape).2 hhead)

end Twins

section Other

variable {nested : Resolver → Bool × Resolver}

theorem stopBody_of_head? {index : Nat} (hclose : s.rest.head? ≠ some '\x7d')
    (hcolon : s.rest.head? ≠ some ':') (hpipe : s.rest.head? ≠ some '|') :
    stopBody nested index s = (false, s) := by
  unfold stopBody
  split <;> simp_all

theorem variableBody_of_head? (hclose : s.rest.head? ≠ some '\x7d')
    (hcolon : s.rest.head? ≠ some ':') (hslash : s.rest.head? ≠ some '/') :
    variableBody nested s = (false, s) := by
  unfold variableBody
  split <;> simp_all

end Other

/-- Whether a reader does the same in twin states in front of less than `bound` characters. -/
def TreatsAlike (P : Text → Prop) (keeps : Prop) (bound : Nat)
    (nested : Resolver → Bool × Resolver) : Prop :=
  ∀ s s', s.rest.length < bound → Twins P keeps s s' → Agree P keeps (nested s) (nested s')

namespace TreatsAlike

variable {bound : Nat} {nested : Resolver → Bool × Resolver}
  (hnested : TreatsAlike P keeps bound nested) (hs : s.rest.length < bound)
  (h : Twins P keeps s s')

include hnested hs h

theorem defaultText (isFinal : Bool) :
    Agree P keeps (defaultText nested isFinal s) (defaultText nested isFinal s') := by
  have hstart : Twins P keeps (if isFinal then s.markCursor else s)
      (if isFinal then s'.markCursor else s') := by
    split_ifs
    · exact h.markStop 0
    · exact h
  have hrest : (if isFinal then s.markCursor else s).rest = s.rest := by split_ifs <;> simp
  obtain ⟨isClosed, s₁, s₁', hread, hread', htwins⟩ :=
    (hnested _ _ (hrest ▸ hs) hstart).exists_eq
  unfold Resolver.defaultText
  rw [hread, hread']
  cases isClosed with
  | false =>
    -- what was emitted before is as long in both states
    refine ⟨rfl, htwins.alike, fun hkeeps => ?_⟩
    have hemitted := (htwins.output hkeeps).emitted_eq
    obtain ⟨hbefore, hcount, hcursor⟩ := h.output hkeeps
    exact ⟨by simp only [truncate, hemitted, hbefore], hcount, hcursor⟩
  | true => exact ⟨rfl, htwins⟩

theorem stopBody (index : Nat) :
    Agree P keeps (stopBody nested index s) (stopBody nested index s') := by
  by_cases hclose : s.rest.head? = some '\x7d'
  · obtain ⟨u, u', hu, hu', -, hskip⟩ := h.exists_eq_cons hclose (by decide) (by decide)
    simp only [Resolver.stopBody, hu, hu']
    exact ⟨rfl, hskip.markStop index⟩
  by_cases hcolon : s.rest.head? = some ':'
  · obtain ⟨u, u', hu, hu', -, hskip⟩ := h.exists_eq_cons hcolon (by decide) (by decide)
    simp only [Resolver.stopBody, hu, hu']
    exact hnested.defaultText ((Passed.skip 1 s).length_le.trans_lt hs) hskip _
  by_cases hpipe : s.rest.head? = some '|'
  · obtain ⟨u, u', hu, hu', halike, -⟩ := h.exists_eq_cons hpipe (by decide) (by decide)
    simp only [Resolver.stopBody, hu, hu']
    have hchoice := halike.choice_rel [] true
    generalize choice [] true u = o, choice [] true u' = o' at hchoice ⊢
    cases hchoice with
    | none => exact ⟨rfl, h.before .nil⟩
    | @some r r' hr =>
      obtain ⟨first, rest⟩ := r
      obtain ⟨first', rest'⟩ := r'
      obtain ⟨rfl, hrest⟩ := hr
      exact ⟨rfl, ((h.before hrest).markStop index).pushAll first⟩
  · rw [stopBody_of_head? hclose hcolon hpipe,
      stopBody_of_head? (h.head?_ne hclose (by decide) (by decide))
        (h.head?_ne hcolon (by decide) (by decide)) (h.head?_ne hpipe (by decide) (by decide))]
    exact ⟨rfl, h⟩

theorem variableBody : Agree P keeps (variableBody nested s) (variableBody nested s') := by
  by_cases hclose : s.rest.head? = some '\x7d'
  · obtain ⟨u, u', hu, hu', -, hskip⟩ := h.exists_eq_cons hclose (by decide) (by decide)
    simp only [Resolver.variableBody, hu, hu']
    exact ⟨rfl, hskip⟩
  by_cases hcolon : s.rest.head? = some ':'
  · obtain ⟨u, u', hu, hu', -, hskip⟩ := h.exists_eq_cons hcolon (by decide) (by decide)
    simp only [Resolver.variableBody, hu, hu']
    exact hnested.defaultText ((Passed.skip 1 s).length_le.trans_lt hs) hskip _
  by_cases hslash : s.rest.head? = some '/'
  · obtain ⟨u, u', hu, hu', halike, -⟩ := h.exists_eq_cons hslash (by decide) (by decide)
    simp only [Resolver.variableBody, hu, hu']
    have htransform := halike.transform_rel 0
    generalize transform 0 u = o, transform 0 u' = o' at htransform ⊢
    cases htransform with
    | none => exact ⟨rfl, h.before .nil⟩
    | some hrest => exact ⟨rfl, h.before hrest⟩
  · rw [variableBody_of_head? hclose hcolon hslash,
      variableBody_of_head? (h.head?_ne hclose (by decide) (by decide))
        (h.head?_ne hcolon (by decide) (by decide)) (h.head?_ne hslash (by decide) (by decide))]
    exact ⟨rfl, h⟩

theorem braced : Agree P keeps (braced nested s) (braced nested s') := by
  obtain ⟨index?, s₁, s₁', hnumber, hnumber', h₁⟩ := h.number.exists_eq
  have hpassed := Passed.number s
  rw [hnumber] at hpassed
  simp only [Resolver.braced, hnumber, hnumber']
  have hs₁ := hpassed.length_le.trans_lt hs
  cases index? with
  | some index => exact hnested.stopBody hs₁ h₁ index
  | none =>
    obtain ⟨isName, s₂, s₂', hname, hname', h₂⟩ := h₁.name.exists_eq
    have hpassed' := Passed.name s₁
    rw [hname] at hpassed'
    simp only [hname, hname']
    cases isName with
    | true => exact hnested.variableBody (hpassed'.length_le.trans_lt hs₁) h₂
    | false => exact ⟨rfl, h₂⟩

omit hs in
/-- Two constructs that begin alike are read alike. -/
theorem dollar (hs : s.rest.length ≤ bound) (hpos : 0 < s.rest.length)
    (hskip : Twins P keeps (s.skip 1) (s'.skip 1)) :
    Agree P keeps (dollar nested s) (dollar nested s') := by
  obtain ⟨index?, s₁, s₁', hnumber, hnumber', h₁⟩ := hskip.number.exists_eq
  have hpassed := Passed.number (s.skip 1)
  rw [hnumber] at hpassed
  simp only [Resolver.dollar, hnumber, hnumber']
  cases index? with
  | some index => exact ⟨rfl, h₁.markStop index⟩
  | none =>
    obtain ⟨isName, s₂, s₂', hname, hname', h₂⟩ := h₁.name.exists_eq
    have hpassed' := hpassed.trans (hname ▸ Passed.name s₁)
    simp only [hname, hname']
    cases isName with
    | true => exact ⟨rfl, h₂⟩
    | false =>
      have hhead := h₂.alike.head?_eq_iff (c := '\x7b') (by decide) (by decide)
      simp only [← hhead]
      split_ifs with hbrace
      · obtain ⟨u, u', hu, hu', -, h₃⟩ := h₂.exists_eq_cons hbrace (by decide) (by decide)
        have hlt : (s₂.skip 1).rest.length < bound := by
          have hle := (hpassed'.trans (Passed.skip 1 s₂)).length_le
          rw [rest_skip 1 s, List.length_drop] at hle
          omega
        obtain ⟨isWellFormed, s₃, s₃', hbraced, hbraced', h₄⟩ :=
          (hnested.braced hlt h₃).exists_eq
        simp only [hbraced, hbraced']
        cases isWellFormed with
        | true => exact ⟨rfl, h₄⟩
        | false => exact ⟨rfl, h₄.before h.alike⟩
      · exact ⟨rfl, h₂.before h.alike⟩

end TreatsAlike

/-- What begins alike with a dollar sign is read alike if what is shorter is. -/
theorem TreatsAlike.read_dollar
    (hread : ∀ isNested, TreatsAlike P keeps s.rest.length (read isNested)) (isNested : Bool)
    (h : Twins P keeps s s') {t t' : Text} (hrest : s.rest = '$' :: t)
    (hrest' : s'.rest = '$' :: t') (hskip : Twins P keeps (s.skip 1) (s'.skip 1)) :
    Agree P keeps (read isNested s) (read isNested s') := by
  have hlt : (s.skip 1).rest.length < s.rest.length := by simp [hrest]
  obtain ⟨isWellFormed, s₁, s₁', hdollar, hdollar', h₁⟩ :=
    ((hread true).dollar h le_rfl (by simp [hrest]) hskip).exists_eq
  have hhead : s.rest.head? = some '$' := by rw [hrest]; rfl
  have hhead' : s'.rest.head? = some '$' := by rw [hrest']; rfl
  rw [Resolver.read_dollar isNested hhead, Resolver.read_dollar isNested hhead', hdollar, hdollar']
  cases isWellFormed with
  | false => exact hread isNested _ _ hlt (hskip.push '$')
  | true =>
    have hlt' := (advances_read true).lt_of_dollar (s := s) (by rw [hdollar])
    rw [hdollar] at hlt'
    exact hread isNested _ _ hlt' h₁

/-- **Twins stay twins.** Where one of two alike texts has a dollar sign that begins no construct,
and the other one has it escaped, both readers emit the dollar sign; everywhere else they have
the same characters before themselves. -/
theorem read_twins (hP : ∀ tail, P tail → ∀ s : Resolver, s.rest = '$' :: tail →
    (dollar (read true) s).1 = false) (isNested : Bool) (h : Twins P keeps s s') :
    Agree P keeps (read isNested s) (read isNested s') := by
  induction hlength : s.rest.length using Nat.strong_induction_on generalizing isNested s s' with
  | _ length ih =>
    subst hlength
    have hread (isNested : Bool) : TreatsAlike P keeps s.rest.length (read isNested) :=
      fun s₁ s₁' hlt h₁ => ih _ hlt isNested h₁ rfl
    have halike := h.alike
    generalize hrest : s.rest = t, hrest' : s'.rest = t' at halike
    have hs : s = s.before t := hrest ▸ rfl
    have hs' : s' = s'.before t' := hrest' ▸ rfl
    rw [hrest] at ih
    cases halike with
    | nil =>
      rw [hs, hs', read_nil, read_nil]
      exact ⟨rfl, h.before .nil⟩
    | lone =>
      rw [hs, hs', read_plain, read_plain]
      · exact ih _ Nat.one_pos isNested ((h.before .nil).push _) rfl
      all_goals simp
    | @escaped tail htail =>
      have hfalse := hP tail htail s hrest
      rw [read_dollar isNested (by simp [hrest]), if_neg (by simp [hfalse]), hs', read_escaped]
      · have hskip : s.skip 1 = s.before tail := by rw [hs]; rfl
        rw [hskip]
        exact ih _ (Nat.lt_succ_self _) isNested ((h.before (.refl tail)).push '$') rfl
      · exact .inl rfl
    | @cons c t t' hc halike =>
      have hnext := h.before halike
      by_cases hdollar : c = '$'
      · subst hdollar
        refine TreatsAlike.read_dollar hread isNested h hrest hrest' ?_
        rwa [skip, skip, hrest, hrest']
      by_cases hclose : isNested = true ∧ c = '\x7d'
      · obtain ⟨rfl, rfl⟩ := hclose
        rw [hs, hs', read_close, read_close]
        exact ⟨rfl, hnext⟩
      · have hopen : isNested = true → c ≠ '\x7d' := fun hn hc => hclose ⟨hn, hc⟩
        rw [hs, hs', read_plain _ _ _ hdollar hopen fun h => absurd h hc,
          read_plain _ _ _ hdollar hopen fun h => absurd h hc]
        exact ih _ (Nat.lt_succ_self _) isNested (hnext.push c) rfl
    | @pair c t t' halike =>
      by_cases hspecial : c = '$' ∨ c = '\x7d' ∨ c = '\\'
      · rw [hs, hs', read_escaped _ _ _ hspecial, read_escaped _ _ _ hspecial]
        exact ih _ (by simp) isNested ((h.before halike).push c) rfl
      · have hplain : ∀ u : Text, '\\' = '\\' → ∀ c' ∈ (c :: u).head?,
            c' ≠ '$' ∧ c' ≠ '\x7d' ∧ c' ≠ '\\' := by
          rintro u - _ ⟨⟩
          push Not at hspecial
          exact hspecial
        rw [hs, hs', read_plain _ _ _ (by decide) (fun _ => by decide) (hplain t),
          read_plain _ _ _ (by decide) (fun _ => by decide) (hplain t')]
        have hc : c ≠ '\\' := fun h => hspecial (.inr (.inr h))
        exact ih _ (Nat.lt_succ_self _) isNested ((h.before (.cons hc halike)).push '\\') rfl

/-! ## What is well formed -/

section WellFormed

variable (hrest : s.rest = s'.rest)

include hrest

/-- Whether a default is closed depends on the characters to be read alone. -/
theorem fst_read_congr (isNested : Bool) : (read isNested s).1 = (read isNested s').1 := by
  have htwins : Twins (fun _ => False) False s s' := ⟨hrest ▸ .refl _, False.elim⟩
  exact (read_twins nofun isNested htwins).fst_eq

/-- Whether a construct is well formed depends on the characters to be read alone. -/
theorem fst_dollar_congr (hpos : 0 < s.rest.length) :
    (dollar (read true) s).1 = (dollar (read true) s').1 := by
  have htwins : Twins (fun _ => False) False s s' := ⟨hrest ▸ .refl _, False.elim⟩
  have hskip : Twins (fun _ => False) False (s.skip 1) (s'.skip 1) :=
    ⟨by rw [rest_skip, rest_skip, hrest]; exact .refl _, False.elim⟩
  have hread : TreatsAlike (fun _ => False) False s.rest.length (read true) :=
    fun s₁ s₁' _ h₁ => read_twins nofun true h₁
  exact (hread.dollar htwins le_rfl hpos hskip).fst_eq

end WellFormed

theorem fst_defaultText (isFinal : Bool) (s : Resolver) :
    (defaultText (read true) isFinal s).1 = (read true s).1 := by
  have hrest : (if isFinal then s.markCursor else s).rest = s.rest := by split_ifs <;> simp
  rw [← fst_read_congr hrest]
  unfold defaultText
  split <;> simp_all

/-- A number or a name in front of a colon makes a construct only if the default behind is closed. -/
theorem fst_braced_before {opening body : Text} (s : Resolver)
    (hopening : (∀ c ∈ opening, isDigit c = true) ∨ Node.isIdentifier opening = true)
    (h : (read true (start body)).1 = false) :
    (braced (read true) (s.before (opening ++ ':' :: body))).1 = false := by
  have hbody (isFinal : Bool) : (defaultText (read true) isFinal (s.before body)).1 = false := by
    have hrest : (s.before body).rest = (start body).rest := rfl
    rw [fst_defaultText, fst_read_congr hrest, h]
  obtain hdigits | hname := hopening
  · have hcolon : ∀ c ∈ (':' :: body).head?, isDigit c = false := by simp; decide
    rw [braced, number_before hdigits hcolon]
    cases (if opening.isEmpty then none else number? opening) with
    | some index => exact hbody _
    | none =>
      have hcolon : ∀ c ∈ (':' :: body).head?, isLetter c = false := by simp; decide
      simp only [name_before_of_head hcolon]
  · rw [braced_before_identifier hname (by simp; decide), variableBody_default]
    exact hbody false

/-- In front of a malformed construct, the dollar sign may as well be escaped. -/
theorem read_of_malformed (hhead : s.rest.head? = some '$')
    (h : (dollar (read true) s).1 = false) (isNested : Bool) :
    read isNested s = read isNested (s.before ('\\' :: s.rest)) := by
  obtain ⟨rest, hrest⟩ := List.head?_eq_some_iff.1 hhead
  rw [read_dollar isNested hhead, if_neg (by simp [h]), hrest, read_escaped rest s isNested (.inl rfl)]
  rw [skip, hrest]
  rfl

end Resolver

/-- The dollar sign of a malformed construct may as well be escaped, wherever it stands. -/
theorem resolve_of_malformed {before tail : Text} (hbefore : endsUnescaped before = true)
    (h : (Resolver.dollar (Resolver.read true) (.start ('$' :: tail))).1 = false) :
    resolve (before ++ '$' :: tail) = resolve (before ++ '\\' :: '$' :: tail) := by
  have hP : ∀ u, (Resolver.dollar (Resolver.read true) (.start ('$' :: u))).1 = false →
      ∀ s : Resolver, s.rest = '$' :: u → (Resolver.dollar (Resolver.read true) s).1 = false := by
    intro u hu s hs
    rw [Resolver.fst_dollar_congr (hs.trans rfl : s.rest = (Resolver.start ('$' :: u)).rest)
      (by simp [hs]), hu]
  have htwins : Resolver.Twins
      (fun u => (Resolver.dollar (Resolver.read true) (.start ('$' :: u))).1 = false) True
      (.start (before ++ '$' :: tail)) (.start (before ++ '\\' :: '$' :: tail)) :=
    ⟨.of_endsUnescaped hbefore h, fun _ => ⟨rfl, rfl, rfl⟩⟩
  obtain ⟨hemitted, -, hcursor⟩ := (Resolver.read_twins hP false htwins).twins.output trivial
  rw [Resolver.resolve_eq_read, Resolver.resolve_eq_read, hemitted, hcursor]

/-- **A malformed construct leaves no trace.** Whatever has been read, emitted and marked inside, the
reader stands where it stood, in the state that it had, and so it does with any other reader of
defaults that leaves alone what was emitted before; any other construct takes it on in the same text. From a malformed construct it goes on as if the dollar
sign had been escaped, inside a default or outside. So a snippet resolves as it does with this dollar
sign escaped, wherever it stands, unless it is escaped already. In particular this is so where a
number or a name in braces has a default that is not closed. -/
theorem malformed_leaves_no_trace :
    (∀ s s' : Resolver, Resolver.dollar (Resolver.read true) s = (false, s') → s' = s) ∧
    (∀ nested : Resolver → Bool × Resolver, Resolver.Appends nested → ∀ s s' : Resolver,
      Resolver.dollar nested s = (false, s') → s' = s) ∧
    (∀ s s' : Resolver, Resolver.dollar (Resolver.read true) s = (true, s') →
      ∃ n, 0 < n ∧ n ≤ s.rest.length ∧ s'.rest = s.rest.drop n) ∧
    (∀ (s : Resolver) (isNested : Bool), s.rest.head? = some '$' →
      (Resolver.dollar (Resolver.read true) s).1 = false →
      Resolver.read isNested s = Resolver.read isNested (s.before ('\\' :: s.rest))) ∧
    (∀ before tail, endsUnescaped before = true →
      (Resolver.dollar (Resolver.read true) (.start ('$' :: tail))).1 = false →
      resolve (before ++ '$' :: tail) = resolve (before ++ '\\' :: '$' :: tail)) ∧
    ∀ before opening body, endsUnescaped before = true →
      (∀ c ∈ opening, isDigit c = true) ∨ Node.isIdentifier opening = true →
      (Resolver.read true (.start body)).1 = false →
      resolve (before ++ '$' :: '\x7b' :: (opening ++ ':' :: body)) =
        resolve (before ++ '\\' :: '$' :: '\x7b' :: (opening ++ ':' :: body)) := by
  refine ⟨fun s s' => (Resolver.appends_read true).eq_of_dollar_eq_false,
    fun nested hnested s s' => hnested.eq_of_dollar_eq_false, fun s s' h => ?_,
    fun s isNested hhead h => ?_, fun before tail => resolve_of_malformed,
    fun before opening body hbefore hopening h => ?_⟩
  · have hsuffix := (Resolver.advances_read true).suffix_of_dollar (s := s) (by rw [h])
    have hlt := (Resolver.advances_read true).lt_of_dollar (s := s) (by rw [h])
    rw [h] at hsuffix hlt
    refine ⟨s.rest.length - s'.rest.length, Nat.sub_pos_of_lt hlt, Nat.sub_le _ _, ?_⟩
    exact List.suffix_iff_eq_drop.1 (hsuffix.trans (List.drop_suffix 1 s.rest))
  · exact Resolver.read_of_malformed hhead h isNested
  · refine resolve_of_malformed hbefore ?_
    have hbraced := Resolver.fst_braced_before (.start []) hopening h
    have hdollar := Resolver.dollar_before_brace (opening ++ ':' :: body) (.start [])
    rw [hbraced] at hdollar
    exact congrArg Prod.fst hdollar

/-- A default with a stop in it, which is read, marked and taken back, inside another one. Both are
left open, so that both dollar signs may as well be escaped. -/
theorem malformed_leaves_no_trace_of_nested :
    Resolver.dollar (Resolver.read true) (.start "$\x7b0:a$\x7bx:b$0c".toList) =
        (false, .start "$\x7b0:a$\x7bx:b$0c".toList) ∧
      resolve "$\x7b0:a$\x7bx:b$0c".toList = resolve "\\$\x7b0:a$\x7bx:b$0c".toList ∧
      resolve "$\x7b0:a$\x7bx:b$0c".toList = resolve "$\x7b0:a\\$\x7bx:b$0c".toList ∧
      resolve "$\x7b0:a$\x7bx:b$0c".toList = ⟨"$\x7b0:a$\x7bx:bc".toList, some 10⟩ := by
  obtain ⟨hback, -, -, -, -, hescape⟩ := malformed_leaves_no_trace
  have hfailed : (Resolver.dollar (Resolver.read true) (.start "$\x7b0:a$\x7bx:b$0c".toList)).1 =
      false := by decide
  have houter : "$\x7b0:a$\x7bx:b$0c".toList =
      [] ++ '$' :: '\x7b' :: (['0'] ++ ':' :: "a$\x7bx:b$0c".toList) := by decide
  have hinner : "$\x7b0:a$\x7bx:b$0c".toList =
      "$\x7b0:a".toList ++ '$' :: '\x7b' :: (['x'] ++ ':' :: "b$0c".toList) := by decide
  have hdigit : ∀ c ∈ ['0'], isDigit c = true := by simp; decide
  have hname : Node.isIdentifier ['x'] = true := by cbv
  refine ⟨Prod.ext hfailed (hback _ _ (Prod.ext hfailed rfl)), ?_, ?_, by cbv⟩
  · rw [houter, hescape [] ['0'] "a$\x7bx:b$0c".toList rfl (.inl hdigit) (by decide)]
    rfl
  · rw [hinner, hescape "$\x7b0:a".toList ['x'] "b$0c".toList rfl (.inr hname) (by decide)]
    rfl

end LanguageClient.Snippet
