import LanguageClient.Proofs.Snippet.Reader
import LanguageClient.Snippet.Tree
import Mathlib

/-!
# Resolving what was written

A snippet tree that is written as a snippet and resolved gives back its meaning
(`Node.resolve_renderAll`). Nodes nest, and a default is read while the texts around it have
already been emitted and the cursor may have its place; so the statement that goes through the
induction is about any state of the reader. In front of a written node, this state reads on as the
state that has passed over the meaning of the node (`Resolver.pass`, `Node.readsAs_render`).
-/

namespace LanguageClient.Snippet

namespace Resolver

/-! ## Passing over a meaning -/

/-- The state in which a text has been emitted that has its cursor, if any, at the offset `mark`.
The first cursor is kept. -/
def pass (t : Text) (mark : Option Nat) (s : Resolver) : Resolver :=
  { s with
    emitted := t.reverse ++ s.emitted
    count := s.count + t.length
    cursor := s.cursor.or (mark.map (s.count + ·)) }

theorem before_pass (t rest : Text) (mark : Option Nat) (s : Resolver) :
    (s.pass t mark).before rest = (s.before rest).pass t mark := rfl

@[simp]
theorem pass_nil_none (s : Resolver) : s.pass [] none = s := by simp [pass]

theorem pass_pass (t t' : Text) (mark mark' : Option Nat) (s : Resolver) :
    (s.pass t mark).pass t' mark' = s.pass (t ++ t') (mark.or (mark'.map (· + t.length))) := by
  cases mark with
  | none => cases mark' <;> simp [pass, add_assoc, add_comm t.length]
  | some offset => simp [pass, add_assoc]

theorem push_eq_pass (c : Char) (s : Resolver) : s.push c = s.pass [c] none := by
  simp [push, pass]

theorem pushAll_eq_pass (t : Text) (s : Resolver) : s.pushAll t = s.pass t none := by
  induction t generalizing s with
  | nil => exact (pass_nil_none s).symm
  | cons c t ih => simp [pushAll_cons, ih, push_eq_pass, pass_pass]

theorem markCursor_eq_pass (s : Resolver) : s.markCursor = s.pass [] (some 0) := by
  obtain ⟨rest, emitted, count, cursor⟩ := s
  cases cursor <;> simp [markCursor, pass]

/-- The stop numbered 0 has its cursor where it begins. -/
def stopMark (index : Nat) : Option Nat := if index = 0 then some 0 else none

theorem markStop_eq_pass (index : Nat) (s : Resolver) :
    s.markStop index = s.pass [] (stopMark index) := by
  unfold markStop stopMark
  split_ifs
  · exact markCursor_eq_pass s
  · rw [pass_nil_none]

/-- Whether a part of a snippet is read as a text with its cursor, wherever it stands. -/
def ReadsAs (written t : Text) (mark : Option Nat) : Prop :=
  ∀ (isNested : Bool) (tail : Text) (s : Resolver), read isNested (s.before (written ++ tail)) =
    read isNested ((s.pass t mark).before tail)

namespace ReadsAs

theorem nil : ReadsAs [] [] none := by
  intro isNested tail s
  rw [pass_nil_none]
  rfl

theorem append {written written' t t' : Text} {mark mark' : Option Nat}
    (h : ReadsAs written t mark) (h' : ReadsAs written' t' mark') :
    ReadsAs (written ++ written') (t ++ t') (mark.or (mark'.map (· + t.length))) := by
  intro isNested tail s
  rw [List.append_assoc, h, h', pass_pass]

theorem escape (t : Text) : ReadsAs (escape ['$', '\x7d', '\\'] t) t none := by
  induction t with
  | nil => exact nil
  | cons c t ih =>
    have hchar : ReadsAs (Snippet.escape ['$', '\x7d', '\\'] [c]) [c] none := by
      intro isNested tail s
      rw [before_pass, ← push_eq_pass]
      by_cases hc : c = '$' ∨ c = '\x7d' ∨ c = '\\'
      · simpa [Snippet.escape, hc] using read_escaped tail s isNested hc
      · push Not at hc
        simpa [Snippet.escape, hc] using
          read_plain tail s isNested hc.1 (fun _ => hc.2.1) fun h => absurd h hc.2.2
    simpa [Snippet.escape] using hchar.append ih

end ReadsAs

/-! ## Numbers and names -/

theorem takeWhile_append_of_head {p : Char → Bool} {t rest : Text} (ht : ∀ c ∈ t, p c = true)
    (hrest : ∀ c ∈ rest.head?, p c = false) : (t ++ rest).takeWhile p = t := by
  rw [List.takeWhile_append_of_pos ht]
  cases rest with
  | nil => simp
  | cons c rest => simp [hrest c rfl]

theorem number_before {digits rest : Text} (hdigits : ∀ c ∈ digits, isDigit c = true)
    (hrest : ∀ c ∈ rest.head?, isDigit c = false) (s : Resolver) :
    (s.before (digits ++ rest)).number =
      (if digits.isEmpty then none else number? digits, s.before rest) := by
  simp [number, takeWhile_append_of_head hdigits hrest, before, skip]

theorem number_before_of_head {rest : Text} (hrest : ∀ c ∈ rest.head?, isDigit c = false)
    (s : Resolver) : (s.before rest).number = (none, s.before rest) := by
  have hempty : ∀ c ∈ ([] : Text), isDigit c = true := nofun
  exact number_before hempty hrest s

theorem isDigit_of_mem_digits {n : Nat} {c : Char} (hc : c ∈ digits n) : isDigit c = true :=
  Nat.isDigit_of_mem_toDigits (by decide) le_rfl hc

theorem number?_digits {n : Nat} (h : n < numberBound) : number? (digits n) = some n := by
  have hfold : (digits n).foldl (fun n c => 10 * n + (c.toNat - '0'.toNat)) 0 = n :=
    Nat.ofDigitChars_toDigits (by decide) le_rfl
  rw [number?, hfold, if_pos h]

theorem number_before_digits {n : Nat} (h : n < numberBound) {rest : Text}
    (hrest : ∀ c ∈ rest.head?, isDigit c = false) (s : Resolver) :
    (s.before (digits n ++ rest)).number = (some n, s.before rest) := by
  have hne : (digits n).isEmpty = false := by
    simp [digits, Nat.toDigits_ne_nil]
  rw [number_before (fun c => isDigit_of_mem_digits) hrest, hne, number?_digits h]
  rfl

theorem name_before_of_head {rest : Text} (hrest : ∀ c ∈ rest.head?, isLetter c = false)
    (s : Resolver) : (s.before rest).name = (false, s.before rest) := by
  have hany : rest.head?.any isLetter = false := by
    cases rest with
    | nil => rfl
    | cons c rest => simpa using hrest c rfl
  simp [name, hany]

theorem isLetter_eq (c : Char) : isLetter c = (c.isAlpha || c == '_') := by
  rw [isLetter, Char.isAlpha, Bool.or_comm c.isUpper, Char.isUpper, Bool.decide_and]
  rfl

theorem isDigit_of_isLetter {c : Char} (h : isLetter c = true) : isDigit c = false := by
  rw [isLetter, Bool.or_eq_true, beq_iff_eq] at h
  obtain h | rfl := h
  · simp only [isDigit, Char.le_def] at h ⊢
    grind
  · rfl

theorem isIdentifier_iff {name : Text} : Node.isIdentifier name = true ↔
    (∃ c ∈ name.head?, isLetter c = true) ∧ ∀ c ∈ name, (isLetter c || isDigit c) = true := by
  have hdigit (c : Char) : isDigit c = c.isDigit := rfl
  cases name with
  | nil => simp [Node.isIdentifier]
  | cons c rest =>
    simp [Node.isIdentifier, isLetter_eq, hdigit, Char.isAlphanum]
    grind

theorem name_before_identifier {name rest : Text} (h : Node.isIdentifier name = true)
    (hrest : ∀ c ∈ rest.head?, (isLetter c || isDigit c) = false) (s : Resolver) :
    (s.before (name ++ rest)).name = (true, s.before rest) := by
  obtain ⟨⟨c, hc, hletter⟩, hall⟩ := isIdentifier_iff.1 h
  have hany : (name ++ rest).head?.any isLetter = true := by
    simp [List.head?_append, Option.mem_def.1 hc, hletter]
  rw [Resolver.name, rest_before, if_pos hany, takeWhile_append_of_head hall hrest]
  simp [skip, before]

/-! ## Constructs in braces -/

section Construct

variable {nested : Resolver → Bool × Resolver} {s s' : Resolver}

/-- Between the dollar sign and the brace stands neither a number nor a name. -/
theorem dollar_before_brace (body : Text) (s : Resolver) :
    dollar (read true) (s.before ('$' :: '\x7b' :: body)) =
      if (braced (read true) (s.before body)).1 then braced (read true) (s.before body)
      else (false, s.before ('$' :: '\x7b' :: body)) := by
  have hskip : (s.before ('$' :: '\x7b' :: body)).skip 1 = s.before ('\x7b' :: body) := rfl
  have hskip' : (s.before ('\x7b' :: body)).skip 1 = s.before body := rfl
  have hnumber : (s.before ('\x7b' :: body)).number = (none, s.before ('\x7b' :: body)) :=
    number_before_of_head (by simp; decide) s
  have hname : (s.before ('\x7b' :: body)).name = (false, s.before ('\x7b' :: body)) :=
    name_before_of_head (by simp; decide) s
  rcases hbraced : braced (read true) (s.before body) with ⟨_ | _, s'⟩
  · have hfalse : (dollar (read true) (s.before ('$' :: '\x7b' :: body))).1 = false := by
      simp [dollar, hskip, hnumber, hname, hskip', hbraced]
    exact Prod.ext hfalse ((appends_read true).snd_dollar_of_false hfalse)
  · simp [dollar, hskip, hnumber, hname, hskip', hbraced]

theorem ReadsAs.of_braced {body t : Text} {mark : Option Nat}
    (h : ∀ (tail : Text) (s : Resolver), braced (read true) (s.before (body ++ tail)) =
      (true, (s.pass t mark).before tail)) : ReadsAs (['$', '\x7b'] ++ body) t mark := by
  intro isNested tail s
  have hread := read_dollar (s := s.before ('$' :: '\x7b' :: (body ++ tail))) isNested rfl
  rwa [dollar_before_brace, h tail s, if_pos rfl, if_pos rfl] at hread

theorem braced_before_digits {n : Nat} (h : n < numberBound) {rest : Text}
    (hrest : ∀ c ∈ rest.head?, isDigit c = false) :
    braced nested (s.before (digits n ++ rest)) = stopBody nested n (s.before rest) := by
  rw [braced, number_before_digits h hrest]

theorem braced_before_identifier {name rest : Text} (h : Node.isIdentifier name = true)
    (hrest : ∀ c ∈ rest.head?, (isLetter c || isDigit c) = false) :
    braced nested (s.before (name ++ rest)) = variableBody nested (s.before rest) := by
  have hhead : ∀ c ∈ (name ++ rest).head?, isDigit c = false := by
    obtain ⟨⟨c, hc, hletter⟩, -⟩ := isIdentifier_iff.1 h
    simpa [List.head?_append, Option.mem_def.1 hc] using isDigit_of_isLetter hletter
  rw [braced, number_before_of_head hhead]
  simp only [name_before_identifier h hrest]

/-! ## Choices -/

/-- A written option is read as the option, which counts only if it is the first one. -/
theorem choice_escapeOption (first : Text) (inFirst : Bool) (t rest : Text) :
    choice first inFirst (escapeOption t ++ rest) =
      choice (if inFirst then t.reverse ++ first else first) inFirst rest := by
  induction t generalizing first with
  | nil => cases inFirst <;> rfl
  | cons c t ih =>
    by_cases hc : c = '\\' ∨ c = ',' ∨ c = '|'
    · have hescape : escapeOption (c :: t) = '\\' :: c :: escapeOption t := by
        simp [escapeOption, escape, hc]
      rw [hescape, List.cons_append, List.cons_append, choice, ih]
      cases inFirst <;> simp
    · have hescape : escapeOption (c :: t) = c :: escapeOption t := by
        simp [escapeOption, escape, hc]
      rw [hescape, List.cons_append, choice, ih]
      · cases inFirst <;> simp
      all_goals grind

theorem choice_others (first : Text) (inFirst : Bool) (others : List Text) (rest : Text) :
    choice first inFirst (others.flatMap (fun option => ',' :: escapeOption option) ++
      '|' :: '\x7d' :: rest) = some (first.reverse, rest) := by
  induction others generalizing inFirst with
  | nil => rfl
  | cons option others ih =>
    rw [List.flatMap_cons, List.append_assoc, List.cons_append, choice, choice_escapeOption]
    exact ih false

/-! ## What stands behind a number or a name -/

theorem stopBody_close (index : Nat) (rest : Text) :
    stopBody nested index (s.before ('\x7d' :: rest)) =
      (true, (s.pass [] (stopMark index)).before rest) := by
  rw [before_pass, ← markStop_eq_pass]
  rfl

theorem stopBody_default (index : Nat) (rest : Text) :
    stopBody nested index (s.before (':' :: rest)) =
      defaultText nested (index = 0) (s.before rest) := rfl

theorem stopBody_choice {index : Nat} {options first rest : Text}
    (h : choice [] true options = some (first, rest)) :
    stopBody nested index (s.before ('|' :: options)) =
      (true, (s.pass first (stopMark index)).before rest) := by
  have hbody : stopBody nested index (s.before ('|' :: options)) =
      (true, ((s.before rest).markStop index).pushAll first) := by
    unfold stopBody
    simp only [rest_before, h]
    rfl
  rw [hbody, markStop_eq_pass, pushAll_eq_pass, pass_pass]
  simp [before_pass]

theorem variableBody_close (rest : Text) :
    variableBody nested (s.before ('\x7d' :: rest)) = (true, s.before rest) := rfl

theorem variableBody_default (rest : Text) :
    variableBody nested (s.before (':' :: rest)) = defaultText nested false (s.before rest) := rfl

end Construct

/-! ## Defaults -/

/-- A default stands for its nodes, but the stop numbered 0 has its cursor in front of them. -/
theorem ReadsAs.defaultText_eq {content t : Text} {mark : Option Nat} (h : ReadsAs content t mark)
    (isFinal : Bool) (tail : Text) (s : Resolver) :
    defaultText (read true) isFinal (s.before (content ++ '\x7d' :: tail)) =
      (true, (s.pass t (if isFinal then some 0 else mark)).before tail) := by
  have hread (s : Resolver) : read true (s.before (content ++ '\x7d' :: tail)) =
      (true, (s.pass t mark).before tail) := (h true _ s).trans (read_close _ _)
  cases isFinal with
  | false => simp [defaultText, hread]
  | true =>
    have hmark : (s.before (content ++ '\x7d' :: tail)).markCursor =
        (s.pass [] (some 0)).before (content ++ '\x7d' :: tail) := markCursor_eq_pass _
    simp [defaultText, hmark, hread, pass_pass]

end Resolver

namespace Node

open Resolver

/-! ## Nodes -/

section

variable {index : Nat} (h : index < numberBound)

include h

theorem readsAs_stop : ReadsAs (render (.stop index)) [] (stopMark index) := by
  have hbraced : ReadsAs (['$', '\x7b'] ++ (digits index ++ ['\x7d'])) [] (stopMark index) := by
    refine .of_braced fun tail s => ?_
    rw [List.append_assoc, braced_before_digits h (by simp; decide)]
    exact stopBody_close index tail
  simpa [render] using hbraced

theorem readsAs_placeholder {content : List Node} {t : Text} {mark : Option Nat}
    (hcontent : ReadsAs (renderAll content) t mark) :
    ReadsAs (render (.placeholder index content)) t (if index = 0 then some 0 else mark) := by
  have hbraced : ReadsAs (['$', '\x7b'] ++ (digits index ++ ':' :: (renderAll content ++ ['\x7d'])))
      t (if index = 0 then some 0 else mark) := by
    refine .of_braced fun tail s => ?_
    rw [List.append_assoc, braced_before_digits h (by simp; decide), List.cons_append,
      stopBody_default]
    simpa using hcontent.defaultText_eq (decide (index = 0)) tail s
  simpa [render] using hbraced

theorem readsAs_choice (first : Text) (others : List Text) :
    ReadsAs (render (.choice index first others)) first (stopMark index) := by
  have hbraced : ReadsAs (['$', '\x7b'] ++ (digits index ++ '|' :: (escapeOption first ++
      (others.flatMap (fun option => ',' :: escapeOption option) ++ ['|', '\x7d']))))
      first (stopMark index) := by
    refine .of_braced fun tail s => ?_
    have hchoice := (choice_escapeOption [] true first _).trans (choice_others _ true others tail)
    rw [List.append_assoc, braced_before_digits h (by simp; decide), List.cons_append]
    exact stopBody_choice (by simpa using hchoice)
  simpa [render] using hbraced

end

theorem readsAs_named {name : Text} (h : isIdentifier name = true) :
    ReadsAs (render (.named name)) [] none := by
  have hbraced : ReadsAs (['$', '\x7b'] ++ (name ++ ['\x7d'])) [] none := by
    refine .of_braced fun tail s => ?_
    rw [List.append_assoc, braced_before_identifier h (by simp; decide), pass_nil_none]
    exact variableBody_close tail
  simpa [render] using hbraced

theorem readsAs_namedOr {name : Text} (h : isIdentifier name = true) {content : List Node}
    {t : Text} {mark : Option Nat} (hcontent : ReadsAs (renderAll content) t mark) :
    ReadsAs (render (.namedOr name content)) t mark := by
  have hbraced : ReadsAs (['$', '\x7b'] ++ (name ++ ':' :: (renderAll content ++ ['\x7d'])))
      t mark := by
    refine .of_braced fun tail s => ?_
    rw [List.append_assoc, braced_before_identifier h (by simp; decide), List.cons_append,
      variableBody_default]
    simpa using hcontent.defaultText_eq false tail s
  simpa [render] using hbraced

-- Each kind of node has its lemma above; a default is a row of nodes again.
mutual

theorem readsAs_render : (node : Node) → isWellFormed node = true →
    ReadsAs (render node) (text node) (cursor node)
  | .literal t, _ => by simpa [render, text, cursor] using ReadsAs.escape t
  | .stop index, h => by
    rw [isWellFormed, decide_eq_true_eq] at h
    exact readsAs_stop h
  | .placeholder index content, h => by
    rw [isWellFormed, Bool.and_eq_true, decide_eq_true_eq] at h
    exact readsAs_placeholder h.1 (readsAs_renderAll content h.2)
  | .choice index first others, h => by
    rw [isWellFormed, decide_eq_true_eq] at h
    exact readsAs_choice h first others
  | .named name, h => readsAs_named h
  | .namedOr name content, h => by
    rw [isWellFormed, Bool.and_eq_true] at h
    exact readsAs_namedOr h.1 (readsAs_renderAll content h.2)

theorem readsAs_renderAll : (nodes : List Node) → areWellFormed nodes = true →
    ReadsAs (renderAll nodes) (textAll nodes) (cursorAll nodes)
  | [], _ => .nil
  | node :: rest, h => by
    rw [areWellFormed, Bool.and_eq_true] at h
    exact (readsAs_render node h.1).append (readsAs_renderAll rest h.2)

end

/-- **Resolving a written snippet gives its meaning.** -/
theorem resolve_renderAll {nodes : List Node} (h : areWellFormed nodes = true) :
    resolve (renderAll nodes) = meaning nodes := by
  have hread : read false (start (renderAll nodes)) =
      (false, (start []).pass (textAll nodes) (cursorAll nodes)) := by
    have hnodes := readsAs_renderAll nodes h false [] (start [])
    rw [List.append_nil, read_nil] at hnodes
    exact hnodes
  rw [resolve_eq_read, hread]
  simp [Resolver.pass, start, meaning]

theorem resolve_renderAll_of_nested :
    let nodes : List Node :=
      [.literal ['a', '$'],
        .placeholder 1
          [.choice 2 ['b', ','] [['c', '|'], []],
            .placeholder 0 [.literal ['\x7d', '\\'], .stop 0],
            .namedOr ['T', '_', '1'] [.literal ['d']], .named ['T']]]
    areWellFormed nodes = true ∧ resolve (renderAll nodes) = meaning nodes ∧
      meaning nodes = ⟨['a', '$', 'b', ',', '\x7d', '\\', 'd'], some 4⟩ := by
  intro nodes
  have h : areWellFormed nodes = true := by decide
  exact ⟨h, resolve_renderAll h, by decide⟩

end Node

end LanguageClient.Snippet
