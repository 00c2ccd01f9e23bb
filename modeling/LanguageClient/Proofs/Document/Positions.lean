import LanguageClient.Document
import LanguageClient.Proofs.Text.Content
import Mathlib

/-!
# Positions and offsets

A position names the offset behind as many whole characters of its line as fit into its code units,
none of the line's break among them (`Document.namedOffset`). This offset is on the position's line,
and it is what the position is taken for, unless the line ends in a break that counts as content and
the position lies behind the start of that: such a position overruns its line and stands for the
start of the next one (`Document.positionToOffset_eq_namedOffset_iff`).

Every offset comes back from its position, but for those between a CR and its LF, which come back as
the offset of the CR (`Document.positionToOffset_offsetToPosition`).
-/

namespace LanguageClient

namespace Document

variable (d : Document)

/-- A line of a document with its break. -/
abbrev lineText (l : Nat) : Text := d.text.lines.getD l []

/-- The offset that a position names: from its line's start on, as many characters as fit into its
code units, but none of the line's break. -/
def namedOffset (p : Position) : Nat :=
  let body := Text.withoutBreak (d.lineText p.line)
  let units := min p.character (Text.utf16Length body)
  Text.lineStart d.text.lines p.line +
    Nat.findGreatest (fun k => Text.utf16Length (body.take k) ≤ units) body.length

/-- Whether a position lies behind the start of a break that counts as content. -/
def Overruns (p : Position) : Prop :=
  Text.breakIsContent (d.lineText p.line) ∧
    Text.utf16Length (Text.withoutBreak (d.lineText p.line)) < p.character

instance (p : Position) : Decidable (d.Overruns p) :=
  inferInstanceAs (Decidable (_ ∧ _))

variable {d}

/-! ## Places on lines -/

section Place

variable {l k : Nat}

theorem lineStart_add_le (hk : k ≤ (d.lineText l).length) :
    Text.lineStart d.text.lines l + k ≤ d.length := calc
  _ ≤ Text.lineStart d.text.lines l + (d.lineText l).length := by omega
  _ = Text.lineStart d.text.lines (l + 1) := (Text.lineStart_succ _ _).symm
  _ ≤ d.length := d.text.lineStart_lines_le (l + 1)

variable (hk : k ≤ (d.lineText l).length) (hl : l < d.lineCount)

include hk hl

/-- Back on the line, a place behind the content is the end of the content. -/
theorem positionToOffset_lineStart_add :
    d.positionToOffset ⟨l, Text.utf16Length ((d.lineText l).take k)⟩ =
      .ok (Text.lineStart d.text.lines l + min (Text.contentLength (d.lineText l)) k) := by
  rw [positionToOffset_of_lt hl, Text.content,
    Text.charsWithin_take _ (Text.contentLength_le _) hk]

variable (hend : k < (d.lineText l).length ∨ l + 1 = d.lineCount)

include hend

/-- A place on a line leads to this line, but for the end of a line with a break. -/
theorem offsetToLine_lineStart_add :
    d.offsetToLine (Text.lineStart d.text.lines l + k) = .ok l := by
  rw [offsetToLine_of_le (lineStart_add_le hk), Text.lineAt_lineStart_add hl hend]

theorem offsetToPosition_lineStart_add :
    d.offsetToPosition (Text.lineStart d.text.lines l + k) =
      .ok ⟨l, Text.utf16Length ((d.lineText l).take k)⟩ := by
  rw [offsetToPosition_of_le (lineStart_add_le hk), Text.lineAt_lineStart_add hl hend,
    Text.slice_lineStart_add d.text hl hk]

end Place

/-- A line is found at its start, since there is nothing on it only if it is the last one. -/
theorem offsetToLine_lineStart {l : Nat} (hl : l < d.lineCount) :
    d.offsetToLine (Text.lineStart d.text.lines l) = .ok l := by
  have hend : 0 < (d.lineText l).length ∨ l + 1 = d.lineCount := by
    rcases (Nat.succ_le_of_lt hl).lt_or_eq with hlt | hlast
    · have hline := (Text.isLineTable_lines d.text).isComplete_getD hlt
      exact .inl (List.length_pos_iff.2 hline.ne_nil)
    · exact .inr hlast
  exact offsetToLine_lineStart_add (Nat.zero_le _) hl hend

/-! ## From positions to offsets -/

section Position

variable {p : Position} (h : p.line < d.lineCount)

include h

theorem isLine_lineText : Text.IsLine (d.lineText p.line) :=
  (Text.isLineTable_lines d.text).isLine_getD h

omit h in
theorem namedOffset_eq (p : Position) : d.namedOffset p = Text.lineStart d.text.lines p.line +
    Text.charsWithin (Text.withoutBreak (d.lineText p.line)) p.character := by
  rw [namedOffset, Text.findGreatest_utf16Length_take, Text.charsWithin_min]

theorem offsetToLine_namedOffset : d.offsetToLine (d.namedOffset p) = .ok p.line := by
  have htable := Text.isLineTable_lines d.text
  have hnamed := Text.charsWithin_le (Text.withoutBreak (d.lineText p.line)) p.character
  rw [namedOffset_eq]
  rcases (Nat.succ_le_of_lt h).lt_or_eq with hlt | hlast
  · have hshort := (htable.isComplete_getD hlt).length_withoutBreak_lt
    exact offsetToLine_lineStart_add (hnamed.trans hshort.le) h (.inl (hnamed.trans_lt hshort))
  · have hsame := Text.withoutBreak_of_isPlain (htable.isPlain_getD hlast)
    refine offsetToLine_lineStart_add ?_ h (.inr hlast)
    rwa [hsame] at hnamed ⊢

theorem positionToOffset_of_not_overruns (hover : ¬ d.Overruns p) :
    d.positionToOffset p = .ok (d.namedOffset p) := by
  rw [Overruns] at hover
  rw [positionToOffset_of_lt h, namedOffset_eq, Text.charsWithin_content (isLine_lineText h),
    if_neg hover]

theorem positionToOffset_of_overruns (hover : d.Overruns p) :
    d.positionToOffset p = .ok (Text.lineStart d.text.lines (p.line + 1)) := by
  rw [Overruns] at hover
  rw [positionToOffset_of_lt h, Text.charsWithin_content (isLine_lineText h), if_pos hover,
    Text.lineStart_succ]

/-- A line that can be overrun is not the last one, and the next one starts behind it. -/
theorem offsetToLine_of_overruns (hover : d.Overruns p) :
    d.offsetToLine (Text.lineStart d.text.lines (p.line + 1)) = .ok (p.line + 1) := by
  have htable := Text.isLineTable_lines d.text
  have hlt : p.line + 1 < d.lineCount := by
    refine (Nat.succ_le_of_lt h).lt_of_ne fun hlast => ?_
    have hplain := htable.isPlain_getD hlast
    obtain ⟨c, hc, hbreak⟩ := (Option.any_eq_true _ _).1 hover.1
    simp [hplain c (List.mem_of_getLast? hc)] at hbreak
  exact offsetToLine_lineStart hlt

/-- **What a position stands for.** The offset that it names is on its line. The position stands for
this offset if and only if it does not overrun its line; if it does, it stands for the start of the
next line. -/
theorem positionToOffset_eq_namedOffset_iff :
    d.offsetToLine (d.namedOffset p) = .ok p.line ∧
    (d.positionToOffset p = .ok (d.namedOffset p) ↔ ¬ d.Overruns p) ∧
    (d.Overruns p →
      d.positionToOffset p = .ok (Text.lineStart d.text.lines (p.line + 1)) ∧
        d.offsetToLine (Text.lineStart d.text.lines (p.line + 1)) = .ok (p.line + 1)) := by
  refine ⟨offsetToLine_namedOffset h, ⟨fun heq hover => ?_, positionToOffset_of_not_overruns h⟩,
    fun hover => ⟨positionToOffset_of_overruns h hover, offsetToLine_of_overruns h hover⟩⟩
  have hnamed := offsetToLine_namedOffset h
  have hnext := offsetToLine_of_overruns h hover
  rw [positionToOffset_of_overruns h hover] at heq
  rw [Except.ok.inj heq, hnamed] at hnext
  exact absurd (Except.ok.inj hnext) (by omega)

end Position

/-- Three lines that end in CRLF, in a vertical tab, and with the document. -/
def threeBreaks : Document := { text := ['a', '😀', '\r', '\n', 'b', '\x0b', 'c'] }

theorem positionToOffset_eq_namedOffset_of_halved : 0 < threeBreaks.lineCount ∧
    threeBreaks.positionToOffset ⟨0, 2⟩ = .ok 1 ∧ threeBreaks.offsetToLine 1 = .ok 0 := by
  have hline : (⟨0, 2⟩ : Position).line < threeBreaks.lineCount := by decide
  obtain ⟨hstays, hnamed, -⟩ := positionToOffset_eq_namedOffset_iff hline
  exact ⟨hline, hnamed.2 (by decide), hstays⟩

/-- Behind the `b`, the vertical tab is passed over, too: the position ends up on the next line. -/
theorem positionToOffset_of_verticalTab : 1 < threeBreaks.lineCount ∧
    threeBreaks.positionToOffset ⟨1, 5⟩ = .ok 6 ∧ threeBreaks.offsetToLine 6 = .ok 2 ∧
    threeBreaks.namedOffset ⟨1, 5⟩ = 5 := by
  decide

/-! ## From offsets to positions and back -/

/-- **Offsets survive the trip through positions**, but for those between a CR and its LF, which
come back as the offset of the CR. The numbers of the position are bounded by those of the lines and
of the code units of the document. -/
theorem positionToOffset_offsetToPosition {offset : Nat} (h : offset ≤ d.length) :
    ∃ p, d.offsetToPosition offset = .ok p ∧ p.line < d.lineCount ∧
      p.character ≤ Text.utf16Length d.text ∧
      d.positionToOffset p = .ok
        (if Text.Joins (d.text.take offset) (d.text.drop offset) then offset - 1 else offset) := by
  have htable := Text.isLineTable_lines d.text
  obtain ⟨l, k, rfl, hl, hk, hend⟩ := Text.exists_eq_lineStart_add htable.ne_nil (o := offset)
    (by rwa [Text.flatten_lines])
  refine ⟨_, offsetToPosition_lineStart_add hk hl hend, hl, ?_, ?_⟩
  · have htake := Text.slice_lineStart_add d.text hl hk
    rw [← htake]
    exact Text.utf16Length_slice_le _ _ _
  · have hplain : k < (d.lineText l).length ∨ Text.IsPlain (d.lineText l) :=
      hend.imp_right htable.isPlain_getD
    have hcut := Text.joins_lineStart_add_iff d.text hl hk hend
    rw [positionToOffset_lineStart_add hk hl,
      Text.min_contentLength (htable.isLine_getD hl) hk hplain]
    simp only [hcut]
    split_ifs with hjoin
    · have hpos : 0 < k := Nat.pos_of_ne_zero fun hzero => by simp [hzero, Text.Joins] at hjoin
      rw [Nat.add_sub_assoc hpos]
    · rfl

theorem positionToOffset_offsetToPosition_of_crlf : 3 ≤ threeBreaks.length ∧
    threeBreaks.offsetToPosition 3 = .ok ⟨0, 4⟩ ∧ threeBreaks.positionToOffset ⟨0, 4⟩ = .ok 2 := by
  have hlength : 3 ≤ threeBreaks.length := by decide
  have hposition : threeBreaks.offsetToPosition 3 = .ok ⟨0, 4⟩ := by decide
  obtain ⟨p, hp, -, -, hback⟩ := positionToOffset_offsetToPosition hlength
  obtain rfl := Except.ok.inj (hposition.symm.trans hp)
  exact ⟨hlength, hposition, hback⟩

end Document

end LanguageClient
