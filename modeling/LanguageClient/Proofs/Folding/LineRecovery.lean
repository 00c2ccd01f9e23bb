import LanguageClient.Proofs.Document.Positions
import LanguageClient.Proofs.Folding.LineEdits
import Mathlib

/-!
# Ranges recovered from folds

A range is given by lines, its fold covers characters, and what is shown of a fold are lines again:
that of its first character and that of its last one. They are the lines of the range, with a single
exception (`FoldingRange.lines_lineSpan`). There is no character on an empty last line, so a fold
that goes down to it is shown to end on the line above (`Document.lastShown`). A fold of this line
alone covers nothing, and no other fold of a range does (`FoldingRange.isDecayed_lineSpan_iff`).
-/

namespace LanguageClient

namespace Document

variable (d : Document)

/-- Whether a line is the last one and empty: it is there because the document is empty or ends with
a line break. -/
def IsEmptyLast (l : Nat) : Prop := l + 1 = d.lineCount ∧ d.lineText l = []

instance (l : Nat) : Decidable (d.IsEmptyLast l) := inferInstanceAs (Decidable (_ ∧ _))

/-- The last line that is shown for a range down to line `l`. -/
def lastShown (l : Nat) : Nat := if d.IsEmptyLast l then l - 1 else l

variable {d} {l : Nat} (hl : l < d.lineCount)

include hl

theorem length_lineText_pos (h : ¬ d.IsEmptyLast l) : 0 < (d.lineText l).length := by
  refine List.length_pos_iff.2 ?_
  rcases (Nat.succ_le_of_lt hl).lt_or_eq with hlt | hlast
  · exact ((Text.isLineTable_lines d.text).isComplete_getD hlt).ne_nil
  · exact fun hnil => h ⟨hlast, hnil⟩

/-- The last character in front of the end of a line is on this line, if there is any. -/
theorem offsetToLine_lineStart_succ_sub_one (h : ¬ d.IsEmptyLast l) :
    d.offsetToLine (Text.lineStart d.text.lines (l + 1) - 1) = .ok l := by
  have hpos := length_lineText_pos hl h
  have hlast : (d.lineText l).length - 1 < (d.lineText l).length := Nat.sub_one_lt_of_lt hpos
  rw [Text.lineStart_succ, Nat.add_sub_assoc hpos]
  exact offsetToLine_lineStart_add hlast.le hl (.inl hlast)

omit hl in
theorem lineStart_succ_of_isEmptyLast (h : d.IsEmptyLast l) :
    Text.lineStart d.text.lines (l + 1) = Text.lineStart d.text.lines l := by
  have hlength : (d.lineText l).length = 0 := by rw [h.2, List.length_nil]
  rw [Text.lineStart_succ, hlength, Nat.add_zero]

end Document

namespace FoldingRange

variable {r : FoldingRange} {d : Document} (h : r.isWithin d.lineCount)

include h

theorem isDecayed_lineSpan_iff : (r.lineSpan d).isDecayed ↔ d.IsEmptyLast r.startLine := by
  obtain ⟨hle, hlt⟩ := isWithin_iff.1 h
  have hdecayed : (r.lineSpan d).isDecayed ↔
      Text.lineStart d.text.lines (r.endLine + 1) ≤ Text.lineStart d.text.lines r.startLine := by
    rw [Span.isDecayed, beq_iff_eq, lineSpan, Nat.sub_eq_zero_iff_le]
  rw [hdecayed]
  constructor
  · intro hempty
    by_contra hfull
    have hpos := Document.length_lineText_pos (hle.trans_lt hlt) hfull
    have hline := (Text.lineStart_le_lineStart d.text.lines (Nat.succ_le_succ hle)).trans hempty
    rw [Text.lineStart_succ] at hline
    exact absurd hline (Nat.not_le_of_lt (Nat.lt_add_of_pos_right hpos))
  · intro hempty
    have hsame : r.endLine = r.startLine := by have := hempty.1; omega
    rw [hsame, Document.lineStart_succ_of_isEmptyLast hempty]

/-- Above an empty last line, a fold that goes down to it covers something. -/
theorem startLine_lt_of_isEmptyLast (hlive : (r.lineSpan d).isDecayed = false)
    (hempty : d.IsEmptyLast r.endLine) : r.startLine < r.endLine := by
  refine (isWithin_iff.1 h).1.lt_of_ne fun hsame => ?_
  rw [← hsame, ← isDecayed_lineSpan_iff h, hlive] at hempty
  cases hempty

/-- **The lines of a range come back from its fold**, unless the range goes down to an empty last
line. -/
theorem lines_lineSpan (hlive : (r.lineSpan d).isDecayed = false) :
    (r.lineSpan d).lines d = .ok (r.startLine, d.lastShown r.endLine) := by
  obtain ⟨hle, hlt⟩ := isWithin_iff.1 h
  have hfirst : d.offsetToLine (r.lineSpan d).offset = .ok r.startLine :=
    Document.offsetToLine_lineStart (hle.trans_lt hlt)
  have hlast : d.offsetToLine (r.lineSpan d).lastOffset = .ok (d.lastShown r.endLine) := by
    have hpos : 0 < (r.lineSpan d).length :=
      Nat.pos_of_ne_zero (by simpa [Span.isDecayed] using hlive)
    rw [Span.lastOffset_eq hpos, ← Span.stop, stop_lineSpan h, Document.lastShown]
    split_ifs with hempty
    -- the fold ends where the empty line starts, which is where the line above ends
    · obtain ⟨l, hl⟩ := Nat.exists_eq_add_one.2 (startLine_lt_of_isEmptyLast h hlive hempty).pos
      have hfull : ¬ d.IsEmptyLast l := fun habove => by have := habove.1; have := hempty.1; omega
      rw [Document.lineStart_succ_of_isEmptyLast hempty, hl, Nat.add_sub_cancel]
      exact Document.offsetToLine_lineStart_succ_sub_one (by omega) hfull
    · exact Document.offsetToLine_lineStart_succ_sub_one hlt hempty
  rw [Span.lines, hfirst, hlast]
  rfl

end FoldingRange

end LanguageClient
