import LanguageClient.Folding.Model
import LanguageClient.Proofs.Folding.Pairing
import LanguageClient.Proofs.Text.LineTable
import Mathlib

/-!
# Folds under edits of whole lines

A fold follows the characters that it covers, and folding ranges are given by lines. When whole
lines are put in or taken out, the two agree: the fold of a range is afterwards the fold of the range
with its lines numbered anew (`AnnotationModel.find?_documentChanged_of_lines`), so that nothing has
to be moved when servers report the ranges of the new document.

A change moves each end of a span on its own (`Span.afterInsertion_eq`, `Span.afterRemoval_eq`).
The two ends of a fold are the start of its first line and the end of its last one, and these are
moved in the same way as lines get their new numbers (`Text.lineStart_inserted`,
`Text.lineStart_inserted_succ`, `Text.lineStart_removed`, `Text.lineStart_removed_succ`).
-/

namespace LanguageClient

/-! ## The ends of a span -/

namespace Span

/-- The span between two offsets. -/
def between (start stop : Nat) : Span := ⟨start, stop - start⟩

/-- Where an offset is once `count` characters at `offset` have been removed. -/
def collapse (offset count place : Nat) : Nat :=
  if place ≤ offset then place else max offset (place - count)

theorem eq_between {offset length start stop : Nat} (hstart : offset = start)
    (hstop : offset + length = stop) : ⟨offset, length⟩ = between start stop := by
  subst hstart hstop
  rw [between, Nat.add_sub_cancel_left]

variable {s : Span} (h : 0 < s.length) (offset count : Nat)

include h

theorem lastOffset_eq : s.lastOffset = s.offset + s.length - 1 := by
  rw [lastOffset, stop]
  omega

/-- Text that is inserted moves the start of a span from there on, but the end only behind it. -/
theorem afterInsertion_eq : s.afterInsertion offset count =
    between (if offset ≤ s.offset then s.offset + count else s.offset)
      (if offset < s.stop then s.stop + count else s.stop) := by
  have hlast := lastOffset_eq h
  have hstop : s.stop = s.offset + s.length := rfl
  rw [afterInsertion]
  split_ifs <;> refine eq_between ?_ ?_ <;> omega

/-- Text that is removed moves both ends of a span as any offset. -/
theorem afterRemoval_eq : s.afterRemoval offset count =
    between (collapse offset count s.offset) (collapse offset count s.stop) := by
  have hlast := lastOffset_eq h
  have hstop : s.stop = s.offset + s.length := rfl
  unfold afterRemoval collapse
  dsimp only
  split_ifs <;> refine eq_between ?_ ?_ <;> omega

end Span

/-! ## The starts of lines -/

namespace Text

variable {ls : List Text} (h : IsLineTable ls)

section Inserted

variable {l : Nat} (hl : l < ls.length) (added : List Text) {k : Nat}

include hl

theorem lineStart_inserted_of_le (hk : k ≤ l) :
    lineStart (ls.take l ++ (added ++ ls.drop l)) k = lineStart ls k :=
  lineStart_take_append_of_le ls _ hl.le hk

theorem lineStart_inserted_add (hk : l ≤ k) :
    lineStart (ls.take l ++ (added ++ ls.drop l)) (k + added.length) =
      lineStart ls k + added.flatten.length := by
  obtain ⟨k, rfl⟩ := Nat.exists_eq_add_of_le hk
  rw [add_assoc, add_comm k, lineStart_take_append_add ls _ hl.le, lineStart_append_add,
    lineStart_add]
  omega

/-- The start of a line in the new numbering is where insertion moves the old one. -/
theorem lineStart_inserted (h : IsLineTable ls) :
    lineStart (ls.take l ++ (added ++ ls.drop l)) (if k < l then k else k + added.length) =
      if lineStart ls l ≤ lineStart ls k then lineStart ls k + added.flatten.length
      else lineStart ls k := by
  rcases Nat.lt_or_ge k l with hlt | hge
  · have hstart := lineStart_lt_lineStart h hlt hl
    rw [if_pos hlt, if_neg hstart.not_ge, lineStart_inserted_of_le hl added hlt.le]
  · have hstart := lineStart_le_lineStart ls hge
    rw [if_neg hge.not_gt, if_pos hstart, lineStart_inserted_add hl added hge]

/-- The end of a line in the new numbering is where insertion moves the old one, unless nothing but
the end of the text is on the line in front of which it happens. -/
theorem lineStart_inserted_succ (hfull : lineStart ls l < lineStart ls (l + 1)) :
    lineStart (ls.take l ++ (added ++ ls.drop l)) ((if k < l then k else k + added.length) + 1) =
      if lineStart ls l < lineStart ls (k + 1) then lineStart ls (k + 1) + added.flatten.length
      else lineStart ls (k + 1) := by
  rcases Nat.lt_or_ge k l with hlt | hge
  · have hstop : lineStart ls (k + 1) ≤ lineStart ls l := lineStart_le_lineStart ls hlt
    rw [if_pos hlt, if_neg hstop.not_gt, lineStart_inserted_of_le hl added hlt]
  · have hstop := hfull.trans_le (lineStart_le_lineStart ls (Nat.succ_le_succ hge))
    rw [if_neg hge.not_gt, if_pos hstop, add_right_comm,
      lineStart_inserted_add hl added (Nat.le_add_right_of_le hge)]

end Inserted

section Removed

variable {a b : Nat} (hab : a < b) (hb : b < ls.length) {k : Nat}

include hab hb

theorem lineStart_removed_of_le (hk : k ≤ a) :
    lineStart (ls.take a ++ ls.drop b) k = lineStart ls k :=
  lineStart_take_append_of_le ls _ (hab.trans hb).le hk

theorem lineStart_removed_sub (hk : b ≤ k) :
    lineStart (ls.take a ++ ls.drop b) (k - (b - a)) =
      lineStart ls k - (lineStart ls b - lineStart ls a) := by
  obtain ⟨k, rfl⟩ := Nat.exists_eq_add_of_le hk
  have hle := lineStart_le_lineStart ls hab.le
  rw [show b + k - (b - a) = a + k by omega, lineStart_take_append_add ls _ (hab.trans hb).le,
    lineStart_add]
  omega

include h

/-- The start of a line in the new numbering is where removal moves the old one. -/
theorem lineStart_removed (hk : k < ls.length) :
    lineStart (ls.take a ++ ls.drop b) (if k < a then k else if k < b then a else k - (b - a)) =
      Span.collapse (lineStart ls a) (lineStart ls b - lineStart ls a) (lineStart ls k) := by
  rw [Span.collapse]
  rcases Nat.lt_or_ge k a with hlt | hge
  · have hstart := lineStart_le_lineStart ls hlt.le
    rw [if_pos hlt, if_pos hstart, lineStart_removed_of_le hab hb hlt.le]
  · rw [if_neg hge.not_gt]
    rcases Nat.lt_or_ge k b with hlt | hge'
    -- the start of a line that goes is where the first line behind those taken out starts now
    · have hstart := lineStart_le_lineStart ls hge
      have hstart' := lineStart_lt_lineStart h hlt hb
      rw [if_pos hlt, lineStart_removed_of_le hab hb le_rfl]
      split_ifs <;> omega
    · have hstart := lineStart_lt_lineStart h (hab.trans_le hge') hk
      have hstart' := lineStart_le_lineStart ls hge'
      rw [if_neg hge'.not_gt, if_neg hstart.not_ge, lineStart_removed_sub hab hb hge']
      omega

/-- The end of a line in the new numbering is where removal moves the old one, unless there is no
line in front of those removed. -/
theorem lineStart_removed_succ (hfront : 0 < a ∨ b ≤ k) :
    lineStart (ls.take a ++ ls.drop b)
        ((if k < a then k else if k < b then a - 1 else k - (b - a)) + 1) =
      Span.collapse (lineStart ls a) (lineStart ls b - lineStart ls a) (lineStart ls (k + 1)) := by
  rw [Span.collapse]
  rcases Nat.lt_or_ge k a with hlt | hge
  · have hstop : lineStart ls (k + 1) ≤ lineStart ls a := lineStart_le_lineStart ls hlt
    rw [if_pos hlt, if_pos hstop, lineStart_removed_of_le hab hb hlt]
  · have hstop : lineStart ls a < lineStart ls (k + 1) := by
      have hstart := lineStart_lt_lineStart h (Nat.lt_succ_self a) (by omega)
      exact hstart.trans_le (lineStart_le_lineStart ls (Nat.succ_le_succ hge))
    rw [if_neg hge.not_gt, if_neg hstop.not_ge]
    rcases Nat.lt_or_ge k b with hlt | hge'
    -- the end of a line that goes is now the end of the last line in front of those taken out
    · have hstop' : lineStart ls (k + 1) ≤ lineStart ls b := lineStart_le_lineStart ls hlt
      rw [if_pos hlt, show a - 1 + 1 = a by omega, lineStart_removed_of_le hab hb le_rfl]
      omega
    · have hstop' : lineStart ls b ≤ lineStart ls (k + 1) :=
        lineStart_le_lineStart ls (Nat.le_add_right_of_le hge')
      rw [if_neg hge'.not_gt, show k - (b - a) + 1 = k + 1 - (b - a) by omega,
        lineStart_removed_sub hab hb (Nat.le_add_right_of_le hge')]
      omega

end Removed

end Text

/-! ## Lines numbered anew -/

namespace FoldingRange

/-- A range with its lines numbered anew for `count` lines that are put in front of line `l`. -/
def withLinesInserted (r : FoldingRange) (l count : Nat) : FoldingRange :=
  { r with
    startLine := if r.startLine < l then r.startLine else r.startLine + count
    endLine := if r.endLine < l then r.endLine else r.endLine + count }

/-- A range with its lines numbered anew for the lines from `a` on that are taken out in front of
line `b`. Of those among them, a first line gives way to the one behind them, and a last line to the
one in front of them. -/
def withLinesRemoved (r : FoldingRange) (a b : Nat) : FoldingRange :=
  { r with
    startLine := if r.startLine < a then r.startLine else if r.startLine < b then a
      else r.startLine - (b - a)
    endLine := if r.endLine < a then r.endLine else if r.endLine < b then a - 1
      else r.endLine - (b - a) }

theorem lineSpan_eq_between (r : FoldingRange) (d : Document) :
    r.lineSpan d = .between (Text.lineStart d.text.lines r.startLine)
      (Text.lineStart d.text.lines (r.endLine + 1)) := rfl

variable {r : FoldingRange} {d d' : Document} (hr : r.isWithin d.lineCount)
  (hlive : 0 < (r.lineSpan d).length)

include hr hlive

theorem afterInsertion_lineSpan {l : Nat} {added : List Text} (hl : l < d.lineCount)
    (hfull : Text.lineStart d.text.lines l < Text.lineStart d.text.lines (l + 1))
    (hlines : d'.text.lines = d.text.lines.take l ++ (added ++ d.text.lines.drop l)) :
    (r.lineSpan d).afterInsertion (Text.lineStart d.text.lines l) added.flatten.length =
      (r.withLinesInserted l added.length).lineSpan d' := by
  have htable := Text.isLineTable_lines d.text
  have hstart := Text.lineStart_inserted hl added (k := r.startLine) htable
  have hstop := Text.lineStart_inserted_succ hl added (k := r.endLine) hfull
  rw [← hlines] at hstart hstop
  rw [Span.afterInsertion_eq hlive, stop_lineSpan hr, lineSpan_eq_between (withLinesInserted _ _ _)]
  exact congrArg₂ Span.between hstart.symm hstop.symm

theorem afterRemoval_lineSpan {a b : Nat} (hab : a < b) (hb : b < d.lineCount)
    (hlines : d'.text.lines = d.text.lines.take a ++ d.text.lines.drop b)
    (hfront : r.startLine < a ∨ b ≤ r.endLine) :
    (r.lineSpan d).afterRemoval (Text.lineStart d.text.lines a)
        (Text.lineStart d.text.lines b - Text.lineStart d.text.lines a) =
      (r.withLinesRemoved a b).lineSpan d' := by
  have htable := Text.isLineTable_lines d.text
  obtain ⟨hle, hlt⟩ := isWithin_iff.1 hr
  have hstart := Text.lineStart_removed htable hab hb (hle.trans_lt hlt)
  have hstop := Text.lineStart_removed_succ htable hab hb (k := r.endLine) (by omega)
  rw [← hlines] at hstart hstop
  rw [Span.afterRemoval_eq hlive, stop_lineSpan hr, lineSpan_eq_between (withLinesRemoved _ _ _)]
  exact congrArg₂ Span.between hstart.symm hstop.symm

/-- A fold with all its lines removed is decayed. -/
theorem length_afterRemoval_lineSpan {a b : Nat} (ha : a ≤ r.startLine) (hb : r.endLine < b) :
    ((r.lineSpan d).afterRemoval (Text.lineStart d.text.lines a)
      (Text.lineStart d.text.lines b - Text.lineStart d.text.lines a)).length = 0 := by
  have hstart := Text.lineStart_le_lineStart d.text.lines ha
  have hstop : Text.lineStart d.text.lines (r.endLine + 1) ≤ Text.lineStart d.text.lines b :=
    Text.lineStart_le_lineStart d.text.lines hb
  have hle : (r.lineSpan d).stop ≤ Text.lineStart d.text.lines b := by rwa [stop_lineSpan hr]
  have hoffset : (r.lineSpan d).offset = Text.lineStart d.text.lines r.startLine := rfl
  rw [Span.afterRemoval_eq hlive]
  dsimp only [Span.between, Span.collapse]
  split_ifs <;> omega

end FoldingRange

/-! ## Edits of whole lines -/

namespace FoldingRange

variable {r : FoldingRange} {d d' : Document}

theorem isWithin_withLinesInserted (hr : r.isWithin d.lineCount) {l : Nat} {added : List Text}
    (hl : l < d.lineCount)
    (hlines : d'.text.lines = d.text.lines.take l ++ (added ++ d.text.lines.drop l)) :
    (r.withLinesInserted l added.length).isWithin d'.lineCount := by
  have hcount : d'.lineCount = d.lineCount + added.length := by
    simp [Document.lineCount, hlines] at hl ⊢
    omega
  obtain ⟨hle, hlt⟩ := isWithin_iff.1 hr
  rw [isWithin_iff, hcount]
  dsimp only [withLinesInserted]
  split_ifs <;> omega

theorem isWithin_withLinesRemoved (hr : r.isWithin d.lineCount) {a b : Nat} (hab : a < b)
    (hb : b < d.lineCount) (hlines : d'.text.lines = d.text.lines.take a ++ d.text.lines.drop b)
    (hfront : r.startLine < a ∨ b ≤ r.endLine) :
    (r.withLinesRemoved a b).isWithin d'.lineCount := by
  have hcount : d'.lineCount = d.lineCount - (b - a) := by
    simp [Document.lineCount, hlines] at hb ⊢
    omega
  obtain ⟨hle, hlt⟩ := isWithin_iff.1 hr
  rw [isWithin_iff, hcount]
  dsimp only [withLinesRemoved]
  split_ifs <;> omega

end FoldingRange

namespace AnnotationModel

theorem find?_documentChanged (m : AnnotationModel) (c : TextChange) (id : AnnotationId) :
    (m.documentChanged c).find? id =
      (m.find? id).map fun e => { e with span := e.span.afterChange c } := by
  rw [find?, documentChanged, List.find?_map]
  rfl

section Lines

variable {m : AnnotationModel} {id : AnnotationId} {e : AnnotationEntry} {d : Document}
  {r : FoldingRange} (he : m.find? id = some e) (hr : r.isWithin d.lineCount)
  (hspan : r.lineSpan d = e.span) (hlive : 0 < e.span.length)

include he hr hspan hlive

theorem find?_documentChanged_of_insertion {l : Nat} {new : Text} (hl : l < d.lineCount)
    (hfull : Text.lineStart d.text.lines l < d.length) (hnew : new.getLast? = some '\n')
    (hjoin : ¬ Text.Joins (d.text.take (Text.lineStart d.text.lines l)) new) :
    ∃ d' c span', d.replace (Text.lineStart d.text.lines l) 0 new = .ok (d', c) ∧
      (m.documentChanged c).find? id = some { e with span := span' } ∧
      (r.withLinesInserted l new.completeLines.length).span d' = .ok span' := by
  set offset := Text.lineStart d.text.lines l
  set d' : Document := { d with text := d.text.splice offset offset new, stamp := d.stamp + 1 }
  have hlines : d'.text.lines = d.text.lines.take l ++ (new.completeLines ++ d.text.lines.drop l) :=
    Text.lines_splice_insert d.text hl hnew hjoin
  have hwithin := FoldingRange.isWithin_withLinesInserted hr hl hlines
  have hlength : new.completeLines.flatten.length = new.length := by
    rw [Text.flatten_completeLines hnew]
  refine ⟨d', ⟨offset, 0, new.length⟩, _, Document.replace_of_le new hfull.le, ?_,
    FoldingRange.span_of_isWithin hwithin⟩
  rw [find?_documentChanged, he, ← FoldingRange.afterInsertion_lineSpan hr (hspan ▸ hlive) hl
    (d.text.lineStart_lt_lineStart_succ hfull) hlines, hspan, hlength]
  rfl

theorem find?_documentChanged_of_removal {a b : Nat} (hab : a < b) (hb : b < d.lineCount)
    (hjoin : ¬ Text.Joins (d.text.take (Text.lineStart d.text.lines a))
      (d.text.drop (Text.lineStart d.text.lines b))) :
    ∃ d' c span', d.replace (Text.lineStart d.text.lines a)
        (Text.lineStart d.text.lines b - Text.lineStart d.text.lines a) [] = .ok (d', c) ∧
      (m.documentChanged c).find? id = some { e with span := span' } ∧
      if a ≤ r.startLine ∧ r.endLine < b then span'.length = 0
      else (r.withLinesRemoved a b).span d' = .ok span' := by
  set start := Text.lineStart d.text.lines a
  set stop := Text.lineStart d.text.lines b
  have hle : start + (stop - start) = stop :=
    Nat.add_sub_cancel' (Text.lineStart_le_lineStart d.text.lines hab.le)
  have hlength : start + (stop - start) ≤ d.length := by
    rw [hle]
    exact d.text.lineStart_lines_le b
  set d' : Document := { d with text := d.text.splice start stop [], stamp := d.stamp + 1 }
  have hlines : d'.text.lines = d.text.lines.take a ++ d.text.lines.drop b :=
    Text.lines_splice_remove d.text hb hjoin hab.le
  refine ⟨d', ⟨start, stop - start, 0⟩, e.span.afterRemoval start (stop - start), ?_, ?_, ?_⟩
  · rw [Document.replace_of_le [] hlength, hle]
    rfl
  · rw [find?_documentChanged, he]
    rfl
  · rw [← hspan]
    split_ifs with hinside
    · exact FoldingRange.length_afterRemoval_lineSpan hr (hspan ▸ hlive) hinside.1 hinside.2
    · have hfront : r.startLine < a ∨ b ≤ r.endLine := by omega
      rw [FoldingRange.afterRemoval_lineSpan hr (hspan ▸ hlive) hab hb hlines hfront]
      exact FoldingRange.span_of_isWithin
        (FoldingRange.isWithin_withLinesRemoved hr hab hb hlines hfront)

end Lines

/-- **A fold follows edits of whole lines as its range does.** Take the fold of a range that lies
within the document, with characters in it. Lines may be put in front of any line that holds
characters, or taken out in front of any line, as long as no CR meets an LF. Then the fold has the
span that the new document gives to the range with its lines numbered anew, except that nothing is
left of a fold whose lines are all among those taken out. -/
theorem find?_documentChanged_of_lines {m : AnnotationModel} {id : AnnotationId}
    {e : AnnotationEntry} {d : Document} {r : FoldingRange} (he : m.find? id = some e)
    (hr : r.isWithin d.lineCount) (hspan : r.span d = .ok e.span) (hlive : e.span.length ≠ 0) :
    (∀ l offset new, d.lineOffset l = .ok offset → offset < d.length →
      new.getLast? = some '\n' → ¬ Text.Joins (d.text.take offset) new →
      ∃ d' c span', d.replace offset 0 new = .ok (d', c) ∧
        (m.documentChanged c).find? id = some { e with span := span' } ∧
        (r.withLinesInserted l new.completeLines.length).span d' = .ok span') ∧
    ∀ a b start stop, a < b → d.lineOffset a = .ok start → d.lineOffset b = .ok stop →
      ¬ Text.Joins (d.text.take start) (d.text.drop stop) →
      ∃ d' c span', d.replace start (stop - start) [] = .ok (d', c) ∧
        (m.documentChanged c).find? id = some { e with span := span' } ∧
        if a ≤ r.startLine ∧ r.endLine < b then span'.length = 0
        else (r.withLinesRemoved a b).span d' = .ok span' := by
  have hlineSpan := FoldingRange.lineSpan_of_span_eq_ok hr hspan
  have hpos := Nat.pos_of_ne_zero hlive
  constructor
  · intro l offset new hoffset hfull hnew hjoin
    obtain ⟨hl, rfl⟩ := Document.lineOffset_eq_ok_iff.1 hoffset
    exact find?_documentChanged_of_insertion he hr hlineSpan hpos hl hfull hnew hjoin
  · intro a b start stop hab hstart hstop hjoin
    obtain ⟨-, rfl⟩ := Document.lineOffset_eq_ok_iff.1 hstart
    obtain ⟨hb, rfl⟩ := Document.lineOffset_eq_ok_iff.1 hstop
    exact find?_documentChanged_of_removal he hr hlineSpan hpos hab hb hjoin

/-- A fold over two lines of four, with different breaks. -/
def fourLines : Document := { text := "a\nb\x0d\nc\u2028d".toList }

/-- The fold over the two lines in the middle. -/
def middleFold : AnnotationModel := empty.add (.folding { collapsed := true }) ⟨2, 5⟩

/-- Two lines between those of the fold make it longer, and without the first two lines of the text
nothing is left but its last one. -/
theorem find?_documentChanged_middleFold :
    (∃ d' c, fourLines.replace 5 0 "x\x0c\n".toList = .ok (d', c) ∧
      (middleFold.documentChanged c).find? 1 =
        some ⟨1, .folding { collapsed := true }, ⟨2, 8⟩⟩ ∧
      FoldingRange.span { startLine := 1, endLine := 4 } d' = .ok ⟨2, 8⟩) ∧
    ∃ d' c, fourLines.replace 0 5 [] = .ok (d', c) ∧
      (middleFold.documentChanged c).find? 1 =
        some ⟨1, .folding { collapsed := true }, ⟨0, 2⟩⟩ ∧
      FoldingRange.span { startLine := 0, endLine := 0 } d' = .ok ⟨0, 2⟩ := by
  obtain ⟨hinsertion, hremoval⟩ := @find?_documentChanged_of_lines middleFold 1
    ⟨1, .folding { collapsed := true }, ⟨2, 5⟩⟩ fourLines { startLine := 1, endLine := 2 }
    (by decide) (by decide) (by decide) (by decide)
  constructor
  · obtain ⟨d', c, span', hreplace, hfind, hspan⟩ := hinsertion 2 5 "x\x0c\n".toList (by decide)
      (by decide) (by decide) (by decide)
    have hd' : fourLines.replace 5 0 "x\x0c\n".toList =
        .ok (⟨"a\nb\x0d\nx\x0c\nc\u2028d".toList, 1, none⟩, ⟨5, 0, 3⟩) := by cbv
    rw [hreplace, Except.ok.injEq, Prod.mk.injEq] at hd'
    obtain ⟨rfl, rfl⟩ := hd'
    obtain rfl : span' = ⟨2, 8⟩ := Except.ok.inj (hspan.symm.trans (by decide))
    exact ⟨_, _, hreplace, hfind, hspan⟩
  · obtain ⟨d', c, span', hreplace, hfind, hspan⟩ := hremoval 0 2 0 5 (by decide) (by decide)
      (by decide) (by decide)
    have hd' : fourLines.replace 0 5 [] = .ok (⟨"c\u2028d".toList, 1, none⟩, ⟨0, 5, 0⟩) := by cbv
    rw [hreplace, Except.ok.injEq, Prod.mk.injEq] at hd'
    obtain ⟨rfl, rfl⟩ := hd'
    obtain rfl : span' = ⟨0, 2⟩ := Except.ok.inj (hspan.symm.trans (by decide))
    exact ⟨_, _, hreplace, hfind, hspan⟩

end AnnotationModel

end LanguageClient
