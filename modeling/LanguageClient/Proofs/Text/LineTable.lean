import LanguageClient.Text.Lines
import Mathlib

/-!
# The line table of a text

Three things tell the lines of a text (`IsLineTable`): each but the last one is plain but for the
break at its end, the last one is plain altogether, and no CR at the end of a line stands in front
of an LF at the start of the next one. Every list of texts with these is the list of the lines of
the text that it joins to (`lines_eq_iff`). So lines are taken out (`lines_splice_remove`) and put in
(`lines_splice_insert`) as one expects, as long as no CR meets an LF.

An offset lies on the line `lineAt` that begins at or in front of it and ends behind it, if it is
not the last one (`lineAt_lineStart_add`, `exists_eq_lineStart_add`).
-/

namespace LanguageClient.Text

/-! ## Lines and their breaks -/

/-- A text that holds no line break. -/
def IsPlain (t : Text) : Prop := ∀ c ∈ t, isLineBreak c = false

/-- A text that is a single line break. -/
inductive IsBreak : Text → Prop
  | crlf : IsBreak ['\r', '\n']
  | single {c : Char} (h : isLineBreak c) : IsBreak [c]

/-- A line with its break. -/
def IsComplete (line : Text) : Prop :=
  ∃ body ending, IsPlain body ∧ IsBreak ending ∧ line = body ++ ending

/-- Whether a CR at the end of a text and an LF at the start of the next one make one break. -/
def Joins (t u : Text) : Prop := t.getLast? = some '\r' ∧ u.head? = some '\n'

instance (t u : Text) : Decidable (Joins t u) :=
  inferInstanceAs (Decidable (t.getLast? = some '\r' ∧ u.head? = some '\n'))

theorem isPlain_nil : IsPlain [] := nofun

theorem isPlain_cons {c : Char} {t : Text} :
    IsPlain (c :: t) ↔ isLineBreak c = false ∧ IsPlain t := by
  simp [IsPlain]

theorem IsBreak.ne_nil {t : Text} (h : IsBreak t) : t ≠ [] := by
  cases h <;> simp

theorem IsComplete.ne_nil {line : Text} (h : IsComplete line) : line ≠ [] := by
  obtain ⟨body, ending, -, hending, rfl⟩ := h
  simp [hending.ne_nil]

theorem IsComplete.not_isPlain {line : Text} (h : IsComplete line) : ¬ IsPlain line := by
  obtain ⟨body, ending, -, hending, rfl⟩ := h
  intro hplain
  cases hending with
  | crlf => exact absurd (hplain '\r' (by simp)) (by decide)
  | @single c hc => exact absurd (hplain c (by simp)) (by simp [hc])

theorem not_joins_nil_left (u : Text) : ¬ Joins [] u := by
  simp [Joins]

theorem joins_cons {c : Char} {t u : Text} (h : t ≠ []) : Joins (c :: t) u ↔ Joins t u := by
  obtain ⟨c', t, rfl⟩ := List.exists_cons_of_ne_nil h
  simp [Joins, List.getLast?_cons_cons]

theorem joins_append_left {t u v : Text} (h : u ≠ []) : Joins (t ++ u) v ↔ Joins u v := by
  simp [Joins, List.getLast?_append, List.getLast?_eq_some_getLast h]

theorem joins_append_right {t u v : Text} (h : u ≠ []) : Joins t (u ++ v) ↔ Joins t u := by
  simp [Joins, List.head?_append, List.head?_eq_some_head h]

/-! ## Cutting off one line -/

theorem lines_of_isPlain {t : Text} (h : IsPlain t) : t.lines = [t] := by
  induction t with
  | nil => rfl
  | cons c t ih =>
    obtain ⟨hc, ht⟩ := isPlain_cons.1 h
    rw [lines, ih ht]
    · simp [hc]
    · rintro rest rfl rfl
      simp [isLineBreak] at hc

/-- A line with its break is cut off a text, unless its break goes on there. -/
theorem lines_append_of_isComplete {line rest : Text} (h : IsComplete line)
    (hjoin : ¬ Joins line rest) : (line ++ rest).lines = line :: rest.lines := by
  obtain ⟨body, ending, hbody, hending, rfl⟩ := h
  induction body with
  | nil =>
    cases hending with
    | crlf => rfl
    | single hc =>
      rw [List.nil_append, List.singleton_append, lines, if_pos hc]
      rintro rest' rfl rfl
      exact hjoin ⟨rfl, rfl⟩
  | cons c body ih =>
    obtain ⟨hc, hbody⟩ := isPlain_cons.1 hbody
    have hne : body ++ ending ≠ [] := by simp [hending.ne_nil]
    rw [List.cons_append, joins_cons hne] at hjoin
    have htail := ih hbody hjoin
    rw [List.cons_append, List.cons_append, lines, htail]
    · simp [hc]
    · rintro rest' rfl -
      simp [isLineBreak] at hc

/-! ## Line tables -/

/-- A list of lines: each with its break, but for a last one without, such that no break of a line
goes on behind it. -/
inductive IsLineTable : List Text → Prop
  | last {line : Text} (h : IsPlain line) : IsLineTable [line]
  | cons {line : Text} {ls : List Text} (hline : IsComplete line)
    (hjoin : ¬ Joins line ls.flatten) (h : IsLineTable ls) : IsLineTable (line :: ls)

theorem isLineTable_lines (t : Text) : IsLineTable t.lines := by
  fun_induction lines t with
  | case1 => exact .last isPlain_nil
  | case2 rest ih => exact .cons ⟨[], _, isPlain_nil, .crlf, rfl⟩ (by simp [Joins]) ih
  | case3 c rest hcrlf hc ih =>
    refine .cons ⟨[], _, isPlain_nil, .single hc, rfl⟩ ?_ ih
    rw [flatten_lines]
    rintro ⟨hcr, hlf⟩
    obtain ⟨rest', rfl⟩ := List.head?_eq_some_iff.1 hlf
    exact hcrlf rest' (by simpa using hcr) rfl
  | case4 c rest _ _ hnil => exact absurd hnil (lines_ne_nil rest)
  | case5 c rest _ hc line more hlines ih =>
    have hc : isLineBreak c = false := by simpa using hc
    rw [hlines] at ih
    cases ih with
    | last hplain => exact .last (isPlain_cons.2 ⟨hc, hplain⟩)
    | cons hline hjoin h =>
      rw [← joins_cons hline.ne_nil (c := c)] at hjoin
      obtain ⟨body, ending, hbody, hending, rfl⟩ := hline
      exact .cons ⟨c :: body, ending, isPlain_cons.2 ⟨hc, hbody⟩, hending, rfl⟩ hjoin h

theorem isLineTable_cons_iff {line : Text} {ls : List Text} (hne : ls ≠ []) :
    IsLineTable (line :: ls) ↔ IsComplete line ∧ ¬ Joins line ls.flatten ∧ IsLineTable ls := by
  refine ⟨fun h => ?_, fun ⟨hline, hjoin, h⟩ => .cons hline hjoin h⟩
  cases h with
  | last => exact absurd rfl hne
  | cons hline hjoin h => exact ⟨hline, hjoin, h⟩

namespace IsLineTable

variable {ls before after : List Text}

theorem ne_nil (h : IsLineTable ls) : ls ≠ [] := by
  cases h <;> simp

theorem lines_flatten (h : IsLineTable ls) : lines ls.flatten = ls := by
  induction h with
  | last h => simpa using lines_of_isPlain h
  | cons hline hjoin _ ih => rw [List.flatten_cons, lines_append_of_isComplete hline hjoin, ih]

section Append

variable (h : IsLineTable (before ++ after)) (hne : after ≠ [])

include h hne

theorem of_append : IsLineTable after := by
  induction before with
  | nil => exact h
  | cons line before ih =>
    exact ih ((isLineTable_cons_iff (List.append_ne_nil_of_right_ne_nil _ hne)).1 h).2.2

/-- Lines that are not the last one have breaks. -/
theorem isComplete_of_mem {line : Text} (hmem : line ∈ before) : IsComplete line := by
  induction before with
  | nil => cases hmem
  | cons line' before ih =>
    obtain ⟨hline, -, h⟩ :=
      (isLineTable_cons_iff (List.append_ne_nil_of_right_ne_nil _ hne)).1 h
    rcases List.mem_cons.1 hmem with rfl | hmem
    · exact hline
    · exact ih h hmem

theorem flatten_ne_nil (hne' : before ≠ []) : before.flatten ≠ [] := by
  obtain ⟨line, before, rfl⟩ := List.exists_cons_of_ne_nil hne'
  have := (h.isComplete_of_mem hne List.mem_cons_self).ne_nil
  simp [this]

theorem not_joins : ¬ Joins before.flatten after.flatten := by
  induction before with
  | nil => exact not_joins_nil_left _
  | cons line before ih =>
    obtain ⟨-, hjoin, h⟩ := (isLineTable_cons_iff (List.append_ne_nil_of_right_ne_nil _ hne)).1 h
    rcases eq_or_ne before [] with rfl | hne'
    · simpa using hjoin
    · rw [List.flatten_cons, joins_append_left (h.flatten_ne_nil hne hne')]
      exact ih h

/-- Other lines can take the place of the last ones, if no break goes on there. -/
theorem append_of_append {after' : List Text} (h' : IsLineTable after')
    (hjoin : ¬ Joins before.flatten after'.flatten) : IsLineTable (before ++ after') := by
  induction before with
  | nil => exact h'
  | cons line before ih =>
    obtain ⟨hline, hjoin', h⟩ :=
      (isLineTable_cons_iff (List.append_ne_nil_of_right_ne_nil _ hne)).1 h
    rcases eq_or_ne before [] with rfl | hne'
    · exact .cons hline (by simpa using hjoin) h'
    · have hfull := h.flatten_ne_nil hne hne'
      rw [List.flatten_append, joins_append_right hfull] at hjoin'
      rw [List.flatten_cons, joins_append_left hfull] at hjoin
      refine .cons hline ?_ (ih h hjoin)
      rwa [List.append_eq, List.flatten_append, joins_append_right hfull]

end Append

variable (h : IsLineTable ls) {l : Nat}

include h

theorem isComplete_getD (hl : l + 1 < ls.length) : IsComplete (ls.getD l []) := by
  rw [← List.take_append_drop (l + 1) ls] at h
  refine h.isComplete_of_mem (by simpa using hl) ?_
  rw [List.getD_eq_getElem _ _ (by omega)]
  exact List.mem_take_iff_getElem.2 ⟨l, by omega, rfl⟩

theorem isPlain_getD (hl : l + 1 = ls.length) : IsPlain (ls.getD l []) := by
  have hlast : ls.drop l = [ls.getD l []] := by
    rw [List.drop_eq_getElem_cons (by omega), List.drop_of_length_le (by omega),
      List.getD_eq_getElem _ _ (by omega)]
  rw [← List.take_append_drop l ls, hlast] at h
  cases h.of_append (by simp) with
  | last h => exact h
  | cons _ _ h => exact absurd rfl h.ne_nil

end IsLineTable

/-- **The lines of a text are the one line table that joins to it.** -/
theorem lines_eq_iff {t : Text} {ls : List Text} :
    t.lines = ls ↔ IsLineTable ls ∧ ls.flatten = t := by
  constructor
  · rintro rfl
    exact ⟨isLineTable_lines t, flatten_lines t⟩
  · rintro ⟨h, rfl⟩
    exact h.lines_flatten

/-! ## Where lines start -/

section LineStart

variable (ls : List Text)

theorem lineStart_add (l k : Nat) :
    lineStart ls (l + k) = lineStart ls l + lineStart (ls.drop l) k := by
  rw [lineStart, List.take_add, List.flatten_append, List.length_append, lineStart, lineStart]

theorem lineStart_take_append_of_le (more : List Text) {l k : Nat} (hl : l ≤ ls.length)
    (hk : k ≤ l) : lineStart (ls.take l ++ more) k = lineStart ls k := by
  rw [lineStart, lineStart, List.take_append_of_le_length (by simp; omega), List.take_take,
    min_eq_left hk]

theorem lineStart_take_append_add (more : List Text) {l : Nat} (hl : l ≤ ls.length) (k : Nat) :
    lineStart (ls.take l ++ more) (l + k) = lineStart ls l + lineStart more k := by
  rw [lineStart_add, lineStart_take_append_of_le ls more hl le_rfl,
    List.drop_left' (List.length_take_of_le hl)]

theorem lineStart_append_add (more : List Text) (k : Nat) :
    lineStart (ls ++ more) (ls.length + k) = ls.flatten.length + lineStart more k := by
  rw [lineStart_add, List.drop_left, lineStart, List.take_left]

theorem flatten_take_eq (l : Nat) : (ls.take l).flatten = ls.flatten.take (lineStart ls l) := by
  conv_rhs => rw [← List.take_append_drop l ls, List.flatten_append, List.take_append_drop]
  rw [lineStart, List.take_left]

theorem flatten_drop_eq (l : Nat) : (ls.drop l).flatten = ls.flatten.drop (lineStart ls l) := by
  conv_rhs => rw [← List.take_append_drop l ls, List.flatten_append, List.take_append_drop]
  rw [lineStart, List.drop_left]

theorem lineStart_cons (line : Text) (l : Nat) :
    lineStart (line :: ls) (l + 1) = line.length + lineStart ls l := by
  simp [lineStart]

theorem lineAt_cons (line : Text) (hne : ls ≠ []) (o : Nat) :
    lineAt (line :: ls) o = if o < line.length then 0 else lineAt ls (o - line.length) + 1 := by
  cases ls with
  | nil => exact absurd rfl hne
  | cons next more => rfl

variable {ls}

/-- A line other than the last one is not empty. -/
theorem lineStart_lt_lineStart (h : IsLineTable ls) {l l' : Nat} (hlt : l < l')
    (hl' : l' < ls.length) : lineStart ls l < lineStart ls l' := by
  have hpos := List.length_pos_iff.2 (h.isComplete_getD (by omega : l + 1 < ls.length)).ne_nil
  have hle := lineStart_le_lineStart ls hlt
  rw [Nat.succ_eq_add_one, lineStart_succ] at hle
  omega

/-- Offsets on a line lead to it, and so does the end of the last line. -/
theorem lineAt_lineStart_add {l k : Nat} (hl : l < ls.length)
    (hk : k < (ls.getD l []).length ∨ l + 1 = ls.length) : lineAt ls (lineStart ls l + k) = l := by
  induction ls generalizing l with
  | nil => cases hl
  | cons line ls ih =>
    rcases eq_or_ne ls [] with rfl | hne
    · obtain rfl : l = 0 := by simpa using hl
      rfl
    · rw [lineAt_cons ls line hne]
      cases l with
      | zero =>
        have hk : k < line.length := by simpa [hne] using hk
        rw [show lineStart (line :: ls) 0 = 0 from rfl, if_pos (by omega)]
      | succ l =>
        rw [lineStart_cons, if_neg (by omega), show line.length + lineStart ls l + k - line.length =
          lineStart ls l + k by omega, ih (by simpa using hl) (by simpa using hk)]

/-- Every offset within a text is a place on a line. -/
theorem exists_eq_lineStart_add (hne : ls ≠ []) {o : Nat} (ho : o ≤ ls.flatten.length) :
    ∃ l k, o = lineStart ls l + k ∧ l < ls.length ∧ k ≤ (ls.getD l []).length ∧
      (k < (ls.getD l []).length ∨ l + 1 = ls.length) := by
  induction ls generalizing o with
  | nil => exact absurd rfl hne
  | cons line ls ih =>
    rcases eq_or_ne ls [] with rfl | hne
    · exact ⟨0, o, (Nat.zero_add o).symm, Nat.one_pos, by simpa using ho, .inr rfl⟩
    · rcases lt_or_ge o line.length with h | h
      · exact ⟨0, o, (Nat.zero_add o).symm, Nat.succ_pos _, h.le, .inl h⟩
      · rw [List.flatten_cons, List.length_append] at ho
        obtain ⟨l, k, ho', hl, hk, hend⟩ := ih hne (o := o - line.length) (by omega)
        refine ⟨l + 1, k, ?_, Nat.succ_lt_succ hl, hk, hend.imp_right (congrArg Nat.succ)⟩
        rw [lineStart_cons]
        omega

theorem lineAt_lt_length (hne : ls ≠ []) {o : Nat} (ho : o ≤ ls.flatten.length) :
    lineAt ls o < ls.length := by
  obtain ⟨l, k, rfl, hl, -, hend⟩ := exists_eq_lineStart_add hne ho
  rwa [lineAt_lineStart_add hl hend]

end LineStart

/-! ## Lines put in and taken out -/

section Edit

variable (t : Text) {l : Nat}

/-- The lines of a text but for the one at its end that has no break. -/
def completeLines : List Text := t.lines.dropLast

theorem take_lineStart (l : Nat) : t.take (lineStart t.lines l) = (t.lines.take l).flatten := by
  rw [flatten_take_eq, flatten_lines]

theorem drop_lineStart (l : Nat) : t.drop (lineStart t.lines l) = (t.lines.drop l).flatten := by
  rw [flatten_drop_eq, flatten_lines]

/-- A text that ends in an LF has nothing behind its complete lines. -/
theorem completeLines_append {new : Text} (h : new.getLast? = some '\n') :
    new.completeLines ++ [[]] = new.lines := by
  have hlines := List.dropLast_append_getLast (lines_ne_nil new)
  have hplain : IsPlain (new.lines.getLast (lines_ne_nil new)) := by
    rw [List.getLast_eq_getElem, ← List.getD_eq_getElem _ []]
    have hpos := List.length_pos_iff.2 (lines_ne_nil new)
    exact (isLineTable_lines new).isPlain_getD (by omega)
  rcases eq_or_ne (new.lines.getLast (lines_ne_nil new)) [] with hnil | hne
  · rw [completeLines, ← hnil, hlines]
  · have hlast : new.getLast? = (new.lines.getLast (lines_ne_nil new)).getLast? := by
      conv_lhs => rw [← flatten_lines new, ← hlines, List.flatten_append, List.flatten_singleton]
      simp [List.getLast?_append, List.getLast?_eq_some_getLast hne]
    rw [hlast] at h
    exact absurd (hplain '\n' (List.mem_of_getLast? h)) (by decide)

theorem flatten_completeLines {new : Text} (h : new.getLast? = some '\n') :
    new.completeLines.flatten = new := by
  conv_rhs => rw [← flatten_lines new, ← completeLines_append h]
  simp

theorem lineStart_lines_le (l : Nat) : lineStart t.lines l ≤ t.length := by
  conv_rhs => rw [← flatten_lines t]
  exact lineStart_le _ _

theorem lineStart_lines_of_le (h : t.lines.length ≤ l) : lineStart t.lines l = t.length := by
  rw [lineStart, List.take_of_length_le h, flatten_lines]

theorem lineAt_lines_lt {o : Nat} (ho : o ≤ t.length) : lineAt t.lines o < t.lines.length :=
  lineAt_lt_length (lines_ne_nil t) (by rwa [flatten_lines])

/-- There is text on a line in front of the end. -/
theorem lineStart_lt_lineStart_succ (hfull : lineStart t.lines l < t.length) :
    lineStart t.lines l < lineStart t.lines (l + 1) := by
  rcases Nat.lt_or_ge (l + 1) t.lines.length with hlt | hge
  · exact lineStart_lt_lineStart (isLineTable_lines t) l.lt_succ_self hlt
  · rwa [lineStart_lines_of_le t hge]

/-- Lines that are put in front of a line stand there. -/
theorem lines_splice_insert {new : Text} (hl : l < t.lines.length)
    (hnew : new.getLast? = some '\n') (hjoin : ¬ Joins (t.take (lineStart t.lines l)) new) :
    (t.splice (lineStart t.lines l) (lineStart t.lines l) new).lines =
      t.lines.take l ++ (new.completeLines ++ t.lines.drop l) := by
  have htable := isLineTable_lines t
  rw [← List.take_append_drop l t.lines] at htable
  have hne : t.lines.drop l ≠ [] := by simpa using hl
  have hflatten := flatten_completeLines hnew
  have htable' : IsLineTable (new.completeLines ++ t.lines.drop l) := by
    have hnew' := isLineTable_lines new
    rw [← completeLines_append hnew] at hnew'
    refine hnew'.append_of_append (by simp) (htable.of_append hne) ?_
    rw [hflatten]
    simp [Joins, hnew]
  refine lines_eq_iff.2 ⟨htable.append_of_append hne htable' ?_, ?_⟩
  · have hne' : new ≠ [] := by
      rintro rfl
      cases hnew
    rwa [List.flatten_append, hflatten, joins_append_right hne', ← take_lineStart]
  · rw [splice, take_lineStart, drop_lineStart, List.flatten_append, List.flatten_append, hflatten]

/-- Lines that are taken out are gone. -/
theorem lines_splice_remove {a b : Nat} (hb : b < t.lines.length)
    (hjoin : ¬ Joins (t.take (lineStart t.lines a)) (t.drop (lineStart t.lines b))) (hab : a ≤ b) :
    (t.splice (lineStart t.lines a) (lineStart t.lines b) []).lines =
      t.lines.take a ++ t.lines.drop b := by
  have hne : t.lines.drop b ≠ [] := by simpa using hb
  have htable := isLineTable_lines t
  have htable' : IsLineTable (t.lines.drop b) := by
    rw [← List.take_append_drop b t.lines] at htable
    exact htable.of_append hne
  rw [← List.take_append_drop a t.lines] at htable
  refine lines_eq_iff.2 ⟨htable.append_of_append (by simp; omega) htable' ?_, ?_⟩
  · rwa [← take_lineStart, ← drop_lineStart]
  · rw [splice, take_lineStart, drop_lineStart, List.flatten_append, List.nil_append]

end Edit

end LanguageClient.Text
