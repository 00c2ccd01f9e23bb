import LanguageClient.Proofs.Document.Changes
import LanguageClient.Proofs.Edit.Drift
import Mathlib

/-!
# Primary edits across typed text

Moved across text typed at an offset, a primary edit takes that text in if its range contains the
offset, the ends included; any other one stays in front of the typed text or moves behind it
(`Edit.stretched`, `EditPlan.driftPrimary_eq`). Made on the text with the typing, the edit leaves
what it leaves on the text without, and what was typed, if it has not been taken in, at the place
where the offset has gone (`Edit.textWithTyping`, `Edit.splice_stretched`).

A plan that has no other edit is moved and made so as a whole, if its edit lies within the document
(`EditPlan.attempt_withDrift_of_alone`).
-/

namespace LanguageClient

/-! ## Two replacements in one text -/

namespace Text

/-- A text in four parts, cut at three offsets. -/
theorem exists_eq_append_of_le {t : Text} {i j k : Nat} (hij : i ≤ j) (hjk : j ≤ k)
    (hk : k ≤ t.length) : ∃ w x y z, t = w ++ (x ++ (y ++ z)) ∧ i = w.length ∧
      j = w.length + x.length ∧ k = w.length + (x.length + y.length) := by
  refine ⟨t.take i, t.slice i j, t.slice j k, t.drop k, ?_, ?_, ?_, ?_⟩
  · rw [← List.append_assoc, take_append_slice t hij, ← List.append_assoc, take_append_slice t hjk,
      List.take_append_drop]
  all_goals
    simp only [length_slice hk, length_slice (hjk.trans hk), List.length_take]
    omega

/-- A text whose middle part is replaced. -/
theorem splice_eq {t : Text} (w x z new : Text) {start stop : Nat} (ht : t = w ++ (x ++ z))
    (hstart : start = w.length) (hstop : stop = w.length + x.length) :
    t.splice start stop new = w ++ (new ++ z) := by
  subst ht hstart hstop
  simp [splice]

theorem splice_self_eq {t : Text} (w z new : Text) {offset : Nat} (ht : t = w ++ z)
    (hoffset : offset = w.length) : t.splice offset offset new = w ++ (new ++ z) :=
  splice_eq w [] z new ht hoffset hoffset

variable {t : Text} (typed new : Text) {start stop offset : Nat}

/-- Text behind a range keeps its distance from the end when the range is replaced. -/
theorem splice_splice_of_stop_le (hle : start ≤ stop) (hstop : stop ≤ offset)
    (hoffset : offset ≤ t.length) : (t.splice offset offset typed).splice start stop new =
      (t.splice start stop new).splice (offset - (stop - start) + new.length)
        (offset - (stop - start) + new.length) typed := by
  obtain ⟨w, x, y, z, rfl, rfl, rfl, rfl⟩ := exists_eq_append_of_le hle hstop hoffset
  rw [splice_self_eq (w ++ (x ++ y)) z typed (by simp) (by simp),
    splice_eq w x (y ++ (typed ++ z)) new (by simp) rfl rfl, splice_eq w x (y ++ z) new rfl rfl rfl,
    splice_self_eq (w ++ (new ++ y)) z typed (by simp) (by simp; omega)]
  simp

/-- Text in front of a range stays when the range is replaced. -/
theorem splice_splice_of_le_start (hle : start ≤ stop) (hstart : offset ≤ start)
    (hstop : stop ≤ t.length) :
    (t.splice offset offset typed).splice (start + typed.length) (stop + typed.length) new =
      (t.splice start stop new).splice offset offset typed := by
  obtain ⟨w, x, y, z, rfl, rfl, rfl, rfl⟩ := exists_eq_append_of_le hstart hle hstop
  rw [splice_self_eq w (x ++ (y ++ z)) typed rfl rfl,
    splice_eq (w ++ (typed ++ x)) y z new (by simp) (by simp; omega) (by simp; omega),
    splice_eq (w ++ x) y z new (by simp) (by simp) (by simp; omega),
    splice_self_eq w (x ++ (new ++ z)) typed (by simp) rfl]
  simp

/-- Text inside a range is gone when the range is replaced. -/
theorem splice_splice_of_mem (hstart : start ≤ offset) (hstop : offset ≤ stop)
    (hlength : stop ≤ t.length) :
    (t.splice offset offset typed).splice start (stop + typed.length) new =
      t.splice start stop new := by
  obtain ⟨w, x, y, z, rfl, rfl, rfl, rfl⟩ := exists_eq_append_of_le hstart hstop hlength
  rw [splice_self_eq (w ++ x) (y ++ z) typed (by simp) (by simp),
    splice_eq w (x ++ (typed ++ y)) z new (by simp) rfl (by simp; omega),
    splice_eq w (x ++ y) z new (by simp) rfl (by simp)]

end Text

/-! ## The edit that takes typed text in -/

namespace Edit

variable (e : Edit) (offset count : Nat)

/-- What an edit does to a document. -/
def change : TextChange := ⟨e.start, e.stop - e.start, e.text.length⟩

/-- The edit that stands for another one once `count` characters have been typed at `offset`. It
takes them in if the range contains the offset. -/
def stretched : Edit :=
  ⟨if offset < e.start then e.start + count else e.start,
    if offset ≤ e.stop then e.stop + count else e.stop, e.text⟩

/-- What an edit makes of a text in which something has been typed at `offset`. It is still there
beside the new text, where the offset has gone, unless the range contains the offset. -/
def textWithTyping (t typed : Text) : Text :=
  if e.stop < offset ∨ offset < e.start then
    (t.splice e.start e.stop e.text).splice (e.change.place offset) (e.change.place offset) typed
  else t.splice e.start e.stop e.text

theorem text_stretched : (e.stretched offset count).text = e.text := rfl

theorem stretched_zero : e.stretched offset 0 = e := by simp [stretched]

variable {e}

theorem start_le_stop_stretched (h : e.start ≤ e.stop) :
    (e.stretched offset count).start ≤ (e.stretched offset count).stop := by
  simp only [stretched]
  split_ifs <;> omega

theorem stop_stretched_le {length : Nat} (h : e.stop ≤ length) :
    (e.stretched offset count).stop ≤ length + count := by
  simp only [stretched]
  split_ifs <;> omega

variable {offset}

/-- What is typed outside of the range of an edit is still there once the edit is made, and what is
typed inside is gone. -/
theorem splice_stretched {t : Text} (typed : Text) (hle : e.start ≤ e.stop)
    (hstop : e.stop ≤ t.length) (hoffset : offset ≤ t.length) :
    (t.splice offset offset typed).splice (e.stretched offset typed.length).start
      (e.stretched offset typed.length).stop e.text = e.textWithTyping offset t typed := by
  simp only [stretched, textWithTyping]
  rcases lt_or_ge offset e.start with hfront | hstart
  · rw [if_pos hfront, if_pos (hfront.le.trans hle), if_pos (.inr hfront),
      TextChange.place_of_lt _ hfront, Text.splice_splice_of_le_start _ _ hle hfront.le hstop]
  · rcases lt_or_ge e.stop offset with hbehind | hcontains
    · have hplace : e.change.place offset = offset - (e.stop - e.start) + e.text.length :=
        TextChange.place_of_le _ (by simp only [change]; omega)
      rw [if_neg hstart.not_gt, if_neg hbehind.not_ge, if_pos (.inl hbehind), hplace,
        Text.splice_splice_of_stop_le _ _ hle hbehind.le hoffset]
    · rw [if_neg hstart.not_gt, if_pos hcontains, if_neg (by omega),
        Text.splice_splice_of_mem _ _ hstart hcontains hstop]

/-- A place in the text of the edit, counted from where it begins then. -/
theorem start_stretched_add_le {t : Text} (typed : Text) (hle : e.start ≤ e.stop)
    (hstop : e.stop ≤ t.length) (hoffset : offset ≤ t.length) {k : Nat} (hk : k ≤ e.text.length) :
    (e.stretched offset typed.length).start + k ≤ (e.textWithTyping offset t typed).length := by
  have hle' := start_le_stop_stretched offset typed.length hle
  have hstop' := stop_stretched_le offset typed.length hstop
  rw [← Text.length_splice_self typed hoffset] at hstop'
  have hlength := @Text.length_splice _ e.text _ _ hle' hstop'
  rw [splice_stretched typed hle hstop hoffset] at hlength
  omega

end Edit

namespace EditPlan

variable {p : EditPlan} {d : Drift}

/-- A primary edit is moved to the one that takes the typed text in. -/
theorem driftPrimary_eq {e : Edit} (hgrowth : d.growth = d.typed)
    (hstart : e.start + d.typed ≤ Document.maxOffset)
    (hstop : e.stop + d.typed ≤ Document.maxOffset) :
    driftPrimary d e = .ok (e.stretched d.invocation d.typed) := by
  have hmove : ∀ {offset}, offset + d.typed ≤ Document.maxOffset → d.invocation ≤ offset →
      d.map offset = .ok (offset + d.typed) := fun hmax h => Drift.map_of_le hgrowth h hmax
  rw [driftPrimary, Edit.stretched]
  rcases lt_or_ge d.invocation e.start with hfront | hle
  · rw [if_neg hfront.not_ge, if_pos hfront, hmove hstart hfront.le]
    split_ifs with hcontains
    · rw [hmove hstop hcontains]
      rfl
    · rfl
  · rw [if_pos hle, if_neg hle.not_gt]
    split_ifs with hcontains
    · rw [hmove hstop hcontains]
      rfl
    · rfl

/-! ## Plans of one edit -/

section Alone

variable (halone : p.additional = [])

include halone

theorem inOrder_of_alone : p.inOrder = [(p.primary, true)] := by
  simp [inOrder, edits, halone]

theorem withDrift_of_alone (hgrowth : d.growth = d.typed)
    (hstart : p.primary.start + d.typed ≤ Document.maxOffset)
    (hstop : p.primary.stop + d.typed ≤ Document.maxOffset) :
    p.withDrift d = .ok { p with primary := p.primary.stretched d.invocation d.typed } := by
  rcases Nat.eq_zero_or_pos d.typed with hzero | hpos
  · rw [withDrift_of_typed_eq_zero hzero hgrowth, hzero, Edit.stretched_zero]
  · rw [withDrift, if_neg (by omega), driftPrimary_eq hgrowth hstart hstop, halone]
    rfl

theorem isAcceptable_of_alone {length : Nat} (hle : p.primary.start ≤ p.primary.stop)
    (hstop : p.primary.stop ≤ length) : p.IsAcceptable length := by
  rw [isAcceptable_iff_follow, inOrder_of_alone halone]
  exact ⟨Nat.zero_le _, hle, hstop⟩

/-- A plan of one edit replaces its range. -/
theorem perform_of_alone {d : Document} (hle : p.primary.start ≤ p.primary.stop)
    (hstop : p.primary.stop ≤ d.length) : p.perform d =
      ({ d with
          text := d.text.splice p.primary.start p.primary.stop p.primary.text
          stamp := d.stamp + 1 }, .ok (p.primary.start + p.cursorInPrimary)) := by
  have horder := inOrder_of_alone halone
  rw [perform_eq_of_isAcceptable (isAcceptable_of_alone halone hle hstop)]
  simp [substitute, finalCursor, shift, horder, weave, totalDelta, edits, halone, Text.splice,
    Text.slice]

/-- **A plan of one edit goes with what is typed.** On a document with text typed at the invocation
the moved plan leaves what the plan leaves on the document without, and the typed text beside it
unless the range contains the invocation. The cursor keeps its distance from the start of the
edit. -/
theorem attempt_withDrift_of_alone {d₀ d' : Document} {typed : Text}
    (htyped : d.typed = typed.length) (hgrowth : d.growth = d.typed)
    (htext : d'.text = d₀.text.splice d.invocation d.invocation typed)
    (hmax : d'.length ≤ Document.maxOffset) (hinvocation : d.invocation ≤ d₀.length)
    (hle : p.primary.start ≤ p.primary.stop) (hstop : p.primary.stop ≤ d₀.length) :
    attempt d' (p.withDrift d) =
      ({ d' with
          text := p.primary.textWithTyping d.invocation d₀.text typed
          stamp := d'.stamp + 1 },
        .ok ((p.primary.stretched d.invocation d.typed).start + p.cursorInPrimary)) := by
  have hlength : d'.length = d₀.length + d.typed := by
    rw [Document.length, htext, Text.length_splice_self typed hinvocation, Document.length, htyped]
  have hmoved := withDrift_of_alone (d := d) halone hgrowth (by omega) (by omega)
  rw [hmoved, attempt, perform_of_alone]
  · simp only [htext, htyped, Edit.text_stretched]
    rw [Edit.splice_stretched typed hle hstop hinvocation]
    rfl
  · exact halone
  · exact Edit.start_le_stop_stretched _ _ hle
  · exact hlength ▸ Edit.stop_stretched_le _ _ hstop

end Alone

end EditPlan

end LanguageClient
