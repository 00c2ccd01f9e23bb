import LanguageClient.Proofs.Document.Changes
import LanguageClient.Proofs.Document.Positions
import Mathlib

/-!
# The partition into lines

The lines of a document are a partition of its text, whatever replacements have been made
(`Document.isPartitioned_run`): they follow one another from the start to the end, each offset is on
one of them, and each but the last one ends in its only break.

Lines start where breaks end, which the two characters around an offset decide (`Text.EndsBreak`,
`Document.startsLine_iff`). Away from a replacement, the starts of lines therefore move with the text
(`Document.startsLine_replace_iff`). At its ends, a CR may come to stand in front of an LF, which
makes one break of two, or be parted from it, which makes two of one.
-/

namespace LanguageClient

namespace Text

/-! ## Where breaks end -/

/-- Whether a text ends in a break that does not go on in the next text. -/
def EndsBreak (t u : Text) : Prop := t.getLast?.any isLineBreak ∧ ¬ Joins t u

theorem endsBreak_congr {t t' u u' : Text} (hlast : t.getLast? = t'.getLast?)
    (hhead : u.head? = u'.head?) : EndsBreak t u ↔ EndsBreak t' u' := by
  rw [EndsBreak, EndsBreak, Joins, Joins, hlast, hhead]

theorem IsPlain.not_endsBreak {t : Text} (h : IsPlain t) (u : Text) : ¬ EndsBreak t u := by
  rintro ⟨hlast, -⟩
  obtain ⟨c, hc, hbreak⟩ := (Option.any_eq_true _ _).1 hlast
  exact getLast?_ne_of_isPlain h hbreak hc

theorem IsComplete.any_getLast? {line : Text} (h : IsComplete line) :
    line.getLast?.any isLineBreak := by
  obtain ⟨body, ending, -, hending, rfl⟩ := h
  cases hending with
  | crlf => simp [List.getLast?_append, isLineBreak]
  | single hc => simpa using hc

/-- No break ends inside a line. -/
theorem IsLine.not_endsBreak {line : Text} (h : IsLine line) {k : Nat}
    (hend : k < line.length ∨ IsPlain line) : ¬ EndsBreak (line.take k) (line.drop k) := by
  rcases h with ⟨body, ending, hbody, hending, rfl⟩ | hplain
  · have hinside : k < (body ++ ending).length := hend.resolve_right
      (IsComplete.not_isPlain ⟨body, ending, hbody, hending, rfl⟩)
    rcases Nat.lt_or_ge body.length k with hbehind | hwithin
    · -- inside a break there is only the place between a CR and its LF
      cases hending with
      | single => simp at hinside; omega
      | crlf =>
        obtain rfl : k = body.length + 1 := by simp at hinside; omega
        intro hends
        exact hends.2 (by simp [Joins, List.take_append, List.drop_append])
    · rw [List.take_append_of_le_length hwithin]
      exact (hbody.take k).not_endsBreak _
  · exact (hplain.take k).not_endsBreak _

section Lines

variable (t : Text) {l : Nat}

/-- A break ends where a line other than the first one starts. -/
theorem endsBreak_lineStart (hl : l + 1 < t.lines.length) :
    EndsBreak (t.take (lineStart t.lines (l + 1))) (t.drop (lineStart t.lines (l + 1))) := by
  have htable := isLineTable_lines t
  have hline := htable.isComplete_getD hl
  constructor
  · rw [lineStart_succ, take_lineStart_add t (Nat.lt_of_succ_lt hl) le_rfl, List.take_length,
      List.getLast?_append_of_ne_nil _ hline.ne_nil]
    exact hline.any_getLast?
  · rw [take_lineStart, drop_lineStart]
    rw [← List.take_append_drop (l + 1) t.lines] at htable
    exact htable.not_joins (by simpa using hl)

variable (hl : l < t.lines.length)

include hl

theorem not_endsBreak_lineStart_add {k : Nat} (hpos : 0 < k) (hk : k ≤ (t.lines.getD l []).length)
    (hend : k < (t.lines.getD l []).length ∨ l + 1 = t.lines.length) :
    ¬ EndsBreak (t.take (lineStart t.lines l + k)) (t.drop (lineStart t.lines l + k)) := by
  have htable := isLineTable_lines t
  have hline := (htable.isLine_getD hl).not_endsBreak (hend.imp_right htable.isPlain_getD)
  rintro ⟨hlast, hjoin⟩
  rw [take_lineStart_add t hl hk, List.getLast?_append_of_ne_nil _ (take_ne_nil hpos hk)] at hlast
  exact hline ⟨hlast, fun h => hjoin ((joins_lineStart_add_iff t hl hk hend).2 h)⟩

/-- The line at an offset starts at it or in front of it and, if it is not the last one, ends behind
it. -/
theorem lineAt_eq_iff {o : Nat} (ho : o ≤ t.length) : lineAt t.lines o = l ↔
    lineStart t.lines l ≤ o ∧ (l + 1 < t.lines.length → o < lineStart t.lines (l + 1)) := by
  rw [lineStart_succ]
  constructor
  · obtain ⟨l', k, rfl, hl', -, hend⟩ := exists_eq_lineStart_add (lines_ne_nil t) (o := o)
      (by rwa [flatten_lines])
    rw [lineAt_lineStart_add hl' hend]
    rintro rfl
    exact ⟨Nat.le_add_right _ _, fun hnext => Nat.add_lt_add_left (hend.resolve_right hnext.ne) _⟩
  · rintro ⟨hle, hlt⟩
    obtain ⟨k, rfl⟩ := Nat.exists_eq_add_of_le hle
    refine lineAt_lineStart_add hl ?_
    rcases (Nat.succ_le_of_lt hl).lt_or_eq with hnext | hlast
    · exact .inl (Nat.lt_of_add_lt_add_left (hlt hnext))
    · exact .inr hlast

end Lines

theorem getLast?_take_succ {t : Text} {k : Nat} {c : Char} (h : t[k]? = some c) :
    (t.take (k + 1)).getLast? = some c := by
  rw [List.take_add_one, h, Option.toList_some, List.getLast?_concat]

end Text

namespace Document

/-! ## Lines of a document -/

section Definitions

variable (d : Document)

/-- Whether a line starts at an offset. -/
def StartsLine (offset : Nat) : Prop := ∃ l, d.lineOffset l = .ok offset

/-- Whether an offset is on a line: from its start on, and in front of its end, if there is a line
behind it. -/
def IsOnLine (l offset : Nat) : Prop :=
  ∃ start stop, d.lineOffset l = .ok start ∧ d.lineEndOffset l = .ok stop ∧
    start ≤ offset ∧ (l + 1 < d.lineCount → offset < stop)

/-- Whether the lines that a document gives are a partition of its text. -/
structure IsPartitioned : Prop where
  /-- The first line starts with the document. -/
  first : d.lineOffset 0 = .ok 0
  /-- A line ends where the next one starts. -/
  next : ∀ l, l + 1 < d.lineCount →
    ∃ stop, d.lineEndOffset l = .ok stop ∧ d.lineOffset (l + 1) = .ok stop
  /-- The last line ends with the document. -/
  last : ∀ l, l + 1 = d.lineCount → d.lineEndOffset l = .ok d.length
  /-- A line is found at its start. -/
  found : ∀ l < d.lineCount, ∃ start, d.lineOffset l = .ok start ∧ d.offsetToLine start = .ok l
  /-- A line is found at each offset. -/
  total : ∀ offset ≤ d.length, ∃ l < d.lineCount, d.offsetToLine offset = .ok l
  /-- What is found at an offset is the one line that it is on. -/
  unique : ∀ offset ≤ d.length, ∀ l, d.offsetToLine offset = .ok l ↔ d.IsOnLine l offset
  /-- A line ends in its only break, and the last one has none. -/
  closed : ∀ l < d.lineCount, ∃ start stop line, d.lineOffset l = .ok start ∧
    d.lineEndOffset l = .ok stop ∧ d.slice start stop = .ok line ∧
    if l + 1 < d.lineCount then Text.IsComplete line else Text.IsPlain line
  /-- Lines other than the first one start where breaks end. -/
  starts : ∀ offset ≤ d.length, d.StartsLine offset ↔
    offset = 0 ∨ Text.EndsBreak (d.text.take offset) (d.text.drop offset)

end Definitions

variable {d : Document} {l offset : Nat}

theorem startsLine_iff (h : offset ≤ d.length) : d.StartsLine offset ↔
    offset = 0 ∨ Text.EndsBreak (d.text.take offset) (d.text.drop offset) := by
  constructor
  · rintro ⟨l, hstart⟩
    obtain ⟨hlt, rfl⟩ := lineOffset_eq_ok_iff.1 hstart
    cases l with
    | zero => exact .inl rfl
    | succ l => exact .inr (d.text.endsBreak_lineStart hlt)
  · obtain ⟨l, k, rfl, hl, hk, hend⟩ :=
      Text.exists_eq_lineStart_add (Text.lines_ne_nil d.text) (o := offset)
        (by rwa [Text.flatten_lines])
    rcases Nat.eq_zero_or_pos k with rfl | hpos
    · exact fun _ => ⟨l, lineOffset_of_lt hl⟩
    · rintro (hzero | hends)
      · omega
      · exact absurd hends (d.text.not_endsBreak_lineStart_add hl hpos hk hend)

theorem offsetToLine_eq_ok_iff (h : offset ≤ d.length) :
    d.offsetToLine offset = .ok l ↔ d.IsOnLine l offset := by
  rw [offsetToLine_of_le h, Except.ok.injEq]
  constructor
  · intro hline
    have hl : l < d.lineCount := hline ▸ d.text.lineAt_lines_lt h
    obtain ⟨hle, hlt⟩ := (d.text.lineAt_eq_iff hl h).1 hline
    exact ⟨_, _, lineOffset_of_lt hl, lineEndOffset_of_lt hl, hle, hlt⟩
  · rintro ⟨start, stop, hstart, hstop, hle, hlt⟩
    obtain ⟨hl, rfl⟩ := lineOffset_eq_ok_iff.1 hstart
    obtain rfl := Except.ok.inj ((lineEndOffset_of_lt hl).symm.trans hstop)
    exact (d.text.lineAt_eq_iff hl h).2 ⟨hle, hlt⟩

/-- Between the start and the end of a line stands the line. -/
theorem slice_lineText (hl : l < d.lineCount) :
    d.slice (Text.lineStart d.text.lines l) (Text.lineStart d.text.lines (l + 1)) =
      .ok (d.lineText l) := by
  rw [slice_of_le (Text.lineStart_le_lineStart _ l.le_succ) (d.text.lineStart_lines_le _),
    Text.lineStart_succ, Text.slice_lineStart_add d.text hl le_rfl, List.take_length]

/-- A line ends in its only break, and the last one has none. -/
theorem isComplete_or_isPlain_lineText (hl : l < d.lineCount) :
    if l + 1 < d.lineCount then Text.IsComplete (d.lineText l) else Text.IsPlain (d.lineText l) := by
  have htable := Text.isLineTable_lines d.text
  split_ifs with hnext
  · exact htable.isComplete_getD hnext
  · exact htable.isPlain_getD (Nat.le_antisymm hl (Nat.not_lt.1 hnext))

/-! ## Replacements in a row -/

/-- Characters to be replaced, and what is to stand in their place. -/
structure Replacement where
  offset : Nat
  removed : Nat
  new : Text
  deriving DecidableEq, Repr

/-- The document behind a replacement. One that is refused changes nothing. -/
def after (d : Document) (r : Replacement) : Document :=
  match d.replace r.offset r.removed r.new with
  | .error _ => d
  | .ok (document, _) => document

/-- The document behind several replacements. -/
def run (d : Document) (replacements : List Replacement) : Document := replacements.foldl after d

/-- **The lines of a document are a partition of its text**, whatever replacements have been made. -/
theorem isPartitioned_run (d : Document) (replacements : List Replacement) :
    (d.run replacements).IsPartitioned where
  first := lineOffset_of_lt (List.length_pos_iff.2 (Text.lines_ne_nil _))
  next l h := ⟨_, lineEndOffset_of_lt (Nat.lt_of_succ_lt h), lineOffset_of_lt h⟩
  last l h := by
    have hl : l < (d.run replacements).lineCount := h ▸ l.lt_succ_self
    rw [lineEndOffset_of_lt hl, Text.lineStart_lines_of_le _ h.ge, length]
  found l h := ⟨_, lineOffset_of_lt h, offsetToLine_lineStart h⟩
  total offset h := ⟨_, Text.lineAt_lines_lt _ h, offsetToLine_of_le h⟩
  unique offset h l := offsetToLine_eq_ok_iff h
  closed l h := ⟨_, _, _, lineOffset_of_lt h, lineEndOffset_of_lt h, slice_lineText h,
    isComplete_or_isPlain_lineText h⟩
  starts offset h := startsLine_iff h

/-- Parting a CR from its LF makes one line more, which is gone when they meet again. -/
example : ((run { text := ['a', '\r', '\n'] } [⟨2, 0, ['b']⟩]).text.lines =
      [['a', '\r'], ['b', '\n'], []]) ∧
    (run { text := ['a', '\r', '\n'] } [⟨2, 0, ['b']⟩, ⟨2, 1, []⟩]).text.lines =
      [['a', '\r', '\n'], []] := by
  decide

end Document

/-! ## Lines around a replacement -/

/-- Characters that stand side by side in front of a change or behind it do so afterwards. -/
theorem TextChange.place_succ {c : TextChange} {k : Nat}
    (h : k + 1 < c.offset ∨ c.offset + c.removed < k + 1) : c.place (k + 1) = c.place k + 1 := by
  rcases h with hfront | hbehind
  · rw [place_of_lt c hfront, place_of_lt c (Nat.lt_of_succ_lt hfront)]
  · rw [place_of_le c hbehind.le, place_of_le c (Nat.le_of_lt_succ hbehind)]
    omega

/-- **Away from a replacement, the starts of lines move with the text.** -/
theorem Document.startsLine_replace_iff {d d' : Document} {c : TextChange} {offset removed k : Nat}
    {new : Text} (h : d.replace offset removed new = .ok (d', c)) (hk : k ≤ d.length)
    (haway : k < c.offset ∨ c.offset + c.removed < k) :
    d'.StartsLine (c.place k) ↔ d.StartsLine k := by
  cases k with
  | zero =>
    have hfront : 0 < c.offset := haway.resolve_right (Nat.not_lt_zero _)
    rw [TextChange.place_of_lt c hfront, startsLine_iff (Nat.zero_le _),
      startsLine_iff (Nat.zero_le _)]
    exact iff_of_true (.inl rfl) (.inl rfl)
  | succ k =>
    -- the characters on both sides of the offset stay, and nothing comes between them
    have hkeeps : c.Keeps k := haway.imp Nat.lt_of_succ_lt Nat.le_of_lt_succ
    have hkeeps' : c.Keeps (k + 1) := haway.imp_right Nat.le_of_lt
    have hplace := TextChange.place_succ haway
    have hchar : d.text[k]? = some d.text[k] := List.getElem?_eq_getElem hk
    have hchar' := (getElem?_replace h hkeeps).trans hchar
    have hends : Text.EndsBreak (d'.text.take (c.place k + 1)) (d'.text.drop (c.place k + 1)) ↔
        Text.EndsBreak (d.text.take (k + 1)) (d.text.drop (k + 1)) := by
      refine Text.endsBreak_congr ?_ ?_
      · rw [Text.getLast?_take_succ hchar, Text.getLast?_take_succ hchar']
      · rw [List.head?_drop, List.head?_drop, ← hplace, getElem?_replace h hkeeps']
    have hk' : c.place k + 1 ≤ d'.length := (List.getElem?_eq_some_iff.1 hchar').1
    rw [hplace, startsLine_iff hk', startsLine_iff hk, hends]
    exact or_congr_left (iff_of_false (Nat.succ_ne_zero _) (Nat.succ_ne_zero _))

end LanguageClient
