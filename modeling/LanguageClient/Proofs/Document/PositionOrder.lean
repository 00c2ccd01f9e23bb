import LanguageClient.Completion.Candidate
import LanguageClient.Proofs.Results
import Mathlib

/-!
# The order of positions

Positions are ordered by their lines, and on one line by their code units. Offsets follow this order
(`Document.positionToOffset_mono`): a position that overruns its line stops with the line at the
latest, and half of a pair counts nothing. So a range whose ends are in order has offsets if and only
if its lines are there, and it is never inverted (`Document.rangeOffsets_of_lt`,
`Document.rangeOffsets_of_ge`).
-/

namespace LanguageClient

/-- Positions in the order in which they stand in a document. -/
instance : LE Position where
  le p q := p.line < q.line ∨ p.line = q.line ∧ p.character ≤ q.character

theorem Position.le_iff {p q : Position} :
    p ≤ q ↔ p.line < q.line ∨ p.line = q.line ∧ p.character ≤ q.character := Iff.rfl

instance : DecidableLE Position := fun _ _ => decidable_of_iff _ Position.le_iff.symm

theorem Position.line_le_line {p q : Position} (h : p ≤ q) : p.line ≤ q.line :=
  h.elim Nat.le_of_lt fun h => h.1.le

/-- A range whose start is not behind its end. -/
def Range.IsOrdered (r : Range) : Prop := r.start ≤ r.stop

instance (r : Range) : Decidable r.IsOrdered := inferInstanceAs (Decidable (_ ≤ _))

namespace Text

theorem charsWithin_mono (t : Text) {units units' : Nat} (h : units ≤ units') :
    charsWithin t units ≤ charsWithin t units' := by
  have hle := charsWithin_le t units
  rw [le_charsWithin_iff hle]
  exact ((le_charsWithin_iff hle).1 le_rfl).trans h

end Text

namespace Document

variable {d : Document} {p q : Position}

/-! ## Offsets in order -/

/-- A position is nowhere but on its line or at the end of it. -/
theorem lineStart_le_of_positionToOffset {offset : Nat} (h : d.positionToOffset p = .ok offset) :
    Text.lineStart d.text.lines p.line ≤ offset ∧
      offset ≤ Text.lineStart d.text.lines (p.line + 1) := by
  obtain ⟨-, -, h⟩ := bind_eq_ok_iff.1 h
  obtain rfl := Except.ok.inj h
  have hcontent : Text.charsWithin (Text.content (d.text.lines.getD p.line [])) p.character ≤
      (d.text.lines.getD p.line []).length :=
    (Text.charsWithin_le _ _).trans (List.length_take_le' ..)
  rw [Text.lineStart_succ]
  exact ⟨Nat.le_add_right _ _, Nat.add_le_add_left hcontent _⟩

/-- **Offsets are in the order of their positions.** -/
theorem positionToOffset_mono (hle : p ≤ q) {offset offset' : Nat}
    (hp : d.positionToOffset p = .ok offset) (hq : d.positionToOffset q = .ok offset') :
    offset ≤ offset' := by
  rcases hle with hline | ⟨hline, hcharacter⟩
  · calc
      offset ≤ Text.lineStart d.text.lines (p.line + 1) := (lineStart_le_of_positionToOffset hp).2
      _ ≤ Text.lineStart d.text.lines q.line := Text.lineStart_le_lineStart _ hline
      _ ≤ offset' := (lineStart_le_of_positionToOffset hq).1
  · obtain ⟨-, -, hp⟩ := bind_eq_ok_iff.1 hp
    obtain ⟨-, -, hq⟩ := bind_eq_ok_iff.1 hq
    obtain rfl := Except.ok.inj hp
    obtain rfl := Except.ok.inj hq
    rw [hline]
    exact Nat.add_le_add_left (Text.charsWithin_mono _ hcharacter) _

/-! ## Ranges -/

variable {range : Range}

/-- A range whose end is on no line is refused for its first place that is on none. -/
theorem rangeOffsets_of_ge (hline : d.lineCount ≤ range.stop.line) :
    d.rangeOffsets range = .error (.document (.lineOutOfBounds
      (if range.start.line < d.lineCount then range.stop.line else range.start.line)
      d.lineCount)) := by
  rw [rangeOffsets]
  split_ifs with hstart
  · rw [positionToOffset_of_lt hstart, positionToOffset_of_le hline]
    rfl
  · rw [positionToOffset_of_le (Nat.not_lt.1 hstart)]
    rfl

variable (hordered : range.IsOrdered)

include hordered

/-- A range in order whose lines are there has offsets, in order. -/
theorem rangeOffsets_of_lt (hline : range.stop.line < d.lineCount) :
    ∃ start stop, d.positionToOffset range.start = .ok start ∧
      d.positionToOffset range.stop = .ok stop ∧ start ≤ stop ∧
      d.rangeOffsets range = .ok ⟨start, stop⟩ := by
  have hstart := positionToOffset_of_lt ((Position.line_le_line hordered).trans_lt hline)
  have hstop := positionToOffset_of_lt hline
  have hle := positionToOffset_mono hordered hstart hstop
  refine ⟨_, _, hstart, hstop, hle, ?_⟩
  rw [rangeOffsets, hstart, hstop]
  exact if_neg (Nat.not_lt.2 hle)

theorem rangeOffsets_ne_invertedRange {a b : Nat} :
    d.rangeOffsets range ≠ .error (.invertedRange a b) := by
  rcases Nat.lt_or_ge range.stop.line d.lineCount with hlt | hge
  · obtain ⟨start, stop, -, -, -, hoffsets⟩ := rangeOffsets_of_lt hordered hlt
    rw [hoffsets]
    exact nofun
  · rw [rangeOffsets_of_ge hge]
    exact nofun

end Document

end LanguageClient
