import LanguageClient.Proofs.Edit.Acceptance

/-!
# Edits made one by one and all at once

An accepted plan replaces all of its ranges at once (`EditPlan.perform_eq_of_isAcceptable`): made
from right to left, each edit leaves the text in front of it alone, so that the earlier ranges are
still the ones that the plan means (`EditPlan.replaceAll_reverse`). A plan that is not accepted
leaves the document alone (`EditPlan.perform_of_not_isAcceptable`).

The cursor is computed apart, from the lengths of the edits in front of the primary one. Both
agree, as these edits and the gaps between them make up the text in front of the primary one
(`EditPlan.length_front`).
-/

namespace LanguageClient

namespace Text

theorem take_append_slice (t : Text) {start stop : Nat} (h : start ≤ stop) :
    t.take start ++ t.slice start stop = t.take stop := by
  rw [slice, ← List.take_add, Nat.add_sub_cancel' h]

theorem slice_take (t : Text) {start stop bound : Nat} (h : stop ≤ bound) :
    slice (t.take bound) start stop = t.slice start stop := by
  rw [slice, slice, List.drop_take, List.take_take]
  congr 1
  omega

theorem drop_take_eq_slice (t : Text) (start stop : Nat) :
    (t.take stop).drop start = t.slice start stop := List.drop_take ..

/-- A replacement that ends where the first of two texts does. -/
theorem splice_append (before after : Text) {start : Nat} (new : Text)
    (h : start ≤ before.length) :
    splice (before ++ after) start before.length new = before.take start ++ (new ++ after) := by
  rw [splice, List.take_append_of_le_length h, List.drop_left]

theorem length_splice_self {t : Text} {offset : Nat} (new : Text) (h : offset ≤ t.length) :
    (t.splice offset offset new).length = t.length + new.length := by
  have hlength : (t.splice offset offset new).length + (offset - offset) = t.length + new.length :=
    length_splice le_rfl h
  omega

/-- What lies in front of inserted text. -/
theorem take_splice_of_le {t : Text} {offset stop : Nat} (new : Text) (hstop : stop ≤ offset)
    (h : offset ≤ t.length) : (t.splice offset offset new).take stop = t.take stop := by
  rw [splice, List.take_append_of_le_length (by rwa [List.length_take_of_le h]), List.take_take,
    Nat.min_eq_left hstop]

/-- What lies behind inserted text. -/
theorem drop_splice_self {t : Text} {offset : Nat} (new : Text) (h : offset ≤ t.length) :
    (t.splice offset offset new).drop (offset + new.length) = t.drop offset := by
  rw [splice, ← List.append_assoc, List.drop_left' (by simp [List.length_take_of_le h])]

/-- What is inserted where a part of a text ends becomes the end of that part. -/
theorem slice_splice_self {t new : Text} {start offset : Nat} (hstart : start ≤ offset)
    (hoffset : offset ≤ t.length) :
    (t.splice offset offset new).slice start (offset + new.length) =
      t.slice start offset ++ new := by
  have htake : (t.splice offset offset new).take (offset + new.length) = t.take offset ++ new := by
    rw [splice, ← List.append_assoc]
    exact List.take_left' (by simp [hoffset])
  rw [← drop_take_eq_slice, htake, List.drop_append_of_le_length (by simp [hstart, hoffset]),
    drop_take_eq_slice]

end Text

namespace EditPlan

/-! ## The text of a plan -/

theorem Follow.take_append_weave {t : Text} {offset : Nat} {e : Edit} {primary : Bool}
    {rest : List (Edit × Bool)} (h : Follow offset t.length ((e, primary) :: rest)) :
    t.take offset ++ weave t offset ((e, primary) :: rest) =
      t.take e.start ++ (e.text ++ weave t e.stop rest) := by
  rw [weave, ← List.append_assoc, Text.take_append_slice t h.1]

/-- Edits are made once those in front of them have been. -/
theorem replaceAll_append (d : Document) (es es' : List (Edit × Bool)) {d' : Document}
    (h : replaceAll d es = (d', .ok ())) : replaceAll d (es ++ es') = replaceAll d' es' := by
  induction es generalizing d with
  | nil =>
    obtain ⟨rfl, -⟩ := Prod.mk.inj h
    rfl
  | cons e es ih =>
    rw [List.cons_append, replaceAll]
    rw [replaceAll] at h
    split at h
    · exact ih _ h
    · cases h

/-- **Made from right to left, edits that follow one another replace the ranges of the text as it
was.** -/
theorem replaceAll_reverse {d : Document} {offset : Nat} {es : List (Edit × Bool)}
    (h : Follow offset d.length es) :
    replaceAll d es.reverse =
      ({ d with text := d.text.take offset ++ weave d.text offset es,
                stamp := d.stamp + es.length }, .ok ()) := by
  induction es generalizing offset with
  | nil => simp [replaceAll, weave]
  | cons e es ih =>
    obtain ⟨e, primary⟩ := e
    have hrest := h.2.2
    have hstop : e.stop ≤ d.text.length := hrest.offset_le
    have hlength : (d.text.take e.stop).length = e.stop := List.length_take_of_le hstop
    have hend : e.start + (e.stop - e.start) = e.stop := Nat.add_sub_cancel' h.2.1
    rw [List.reverse_cons, replaceAll_append _ _ _ (ih hrest), replaceAll,
      Document.replace_of_le]
    · have hsplice := Text.splice_append (d.text.take e.stop) (weave d.text e.stop es) e.text
        (hlength.symm ▸ h.2.1)
      rw [hlength, List.take_take, Nat.min_eq_left h.2.1] at hsplice
      simp only [replaceAll, hend, hsplice, h.take_append_weave, List.length_cons, Nat.add_assoc]
    · rw [hend, Document.length, List.length_append, hlength]
      omega

variable {p : EditPlan} {d : Document}

/-- An accepted plan replaces all of its ranges at once. -/
theorem perform_eq_of_isAcceptable (h : p.IsAcceptable d.length) :
    p.perform d = ({ d with text := p.substitute d.text, stamp := d.stamp + p.edits.length },
      .ok p.finalCursor) := by
  have hfollow := p.isAcceptable_iff_follow.1 h
  rw [perform, (p.check_eq_ok_iff _).2 h]
  simp [replaceAll_reverse hfollow, substitute, Except.map, p.inOrder_perm.length_eq]

/-- A plan that is not accepted leaves the document alone. -/
theorem perform_of_not_isAcceptable (h : ¬ p.IsAcceptable d.length) :
    ∃ cause, p.perform d = (d, .error cause) := by
  cases hcheck : p.check d.length with
  | ok _ => exact absurd ((p.check_eq_ok_iff _).1 hcheck) h
  | error cause => exact ⟨cause, by rw [perform, hcheck]⟩

/-- The text and the cursor that an attempt leaves, if it succeeds. -/
def result? : Document × Except EditError Nat → Option (Text × Nat)
  | (d, .ok cursor) => some (d.text, cursor)
  | (_, .error _) => none

theorem result?_perform_of_isAcceptable (h : p.IsAcceptable d.length) :
    result? (p.perform d) = some (p.substitute d.text, p.finalCursor) := by
  rw [perform_eq_of_isAcceptable h]
  rfl

theorem result?_perform_eq_none_iff : result? (p.perform d) = none ↔ ¬ p.IsAcceptable d.length := by
  constructor
  · intro h hacceptable
    simp [result?_perform_of_isAcceptable hacceptable] at h
  · intro h
    obtain ⟨cause, hcause⟩ := perform_of_not_isAcceptable h
    rw [hcause]
    rfl

/-- An attempt that fails leaves the document alone. -/
theorem fst_attempt_of_result?_eq_none {plan : Except EditError EditPlan}
    (h : result? (attempt d plan) = none) : (attempt d plan).1 = d := by
  cases plan with
  | error cause => rfl
  | ok p =>
    obtain ⟨cause, hcause⟩ := perform_of_not_isAcceptable (result?_perform_eq_none_iff.1 h)
    rw [attempt, hcause]

theorem isAcceptable_of_apply_eq_ok {d' : Document} {cursor : Nat}
    (h : p.apply d = .ok (d', cursor)) : p.IsAcceptable d.length := by
  by_contra hnot
  obtain ⟨cause, hcause⟩ := perform_of_not_isAcceptable hnot
  simp [apply, hcause, Except.map] at h

theorem apply_eq_of_isAcceptable (h : p.IsAcceptable d.length) :
    p.apply d = .ok ({ d with text := p.substitute d.text, stamp := d.stamp + p.edits.length },
      p.finalCursor) := by
  rw [apply, perform_eq_of_isAcceptable h]
  rfl

/-! ## The text in front of an edit -/

/-- The text of a plan in front of one of its edits is made of the text in front of that edit. -/
theorem weave_append_cons {t : Text} {offset : Nat} {before after : List (Edit × Bool)} {e : Edit}
    {primary : Bool} (h : Follow offset e.start before) :
    weave t offset (before ++ (e, primary) :: after) =
      weave (t.take e.start) offset before ++ (e.text ++ weave t e.stop after) := by
  induction before generalizing offset with
  | nil => rw [List.nil_append, weave, weave, Text.drop_take_eq_slice]
  | cons b before ih =>
    obtain ⟨hstart, hstop, hrest⟩ := h
    have hbound : b.1.start ≤ e.start := hstop.trans hrest.offset_le
    rw [List.cons_append, weave, weave, ih hrest, Text.slice_take t hbound, List.append_assoc,
      List.append_assoc]

theorem length_weave {t : Text} {offset : Nat} {es : List (Edit × Bool)}
    (h : Follow offset t.length es) :
    ((weave t offset es).length : Int) = t.length - offset + totalDelta es := by
  induction es generalizing offset with
  | nil =>
    have : offset ≤ t.length := h
    simp [weave, totalDelta]
    omega
  | cons e es ih =>
    obtain ⟨hstart, hstop, hrest⟩ := h
    have hle := hrest.offset_le
    have hslice : (t.slice offset e.1.start).length = e.1.start - offset :=
      Text.length_slice (by omega)
    rw [weave, List.length_append, List.length_append, hslice, totalDelta, Edit.delta]
    push_cast
    rw [ih hrest]
    omega

/-- The edits in front of the primary one are those that move it. -/
theorem shift_eq_totalDelta {before after : List (Edit × Bool)}
    (hsplit : p.inOrder = before ++ (p.primary, true) :: after)
    (hbefore : ∀ e ∈ before, e.2 = false ∧ e.1.start < p.primary.start)
    (hafter : ∀ e ∈ after, e.2 = false ∧ p.primary.start ≤ e.1.start) :
    p.shift = totalDelta before := by
  have hfront : before.filter (fun e => !e.2 && e.1.start < p.primary.start) = before :=
    List.filter_eq_self.2 fun e he => by simp [hbefore e he]
  have hback : after.filter (fun e => !e.2 && e.1.start < p.primary.start) = [] :=
    List.filter_eq_nil_iff.2 fun e he => by simp [hafter e he]
  rw [shift, hsplit, List.filter_append, List.filter_cons, hfront, hback]
  simp

/-- Where the primary text begins is where the text in front of it ends. -/
theorem length_front {t : Text} {before after : List (Edit × Bool)}
    (hsplit : p.inOrder = before ++ (p.primary, true) :: after)
    (hbefore : ∀ e ∈ before, e.2 = false ∧ e.1.start < p.primary.start)
    (hafter : ∀ e ∈ after, e.2 = false ∧ p.primary.start ≤ e.1.start)
    (h : p.IsAcceptable t.length) :
    ((weave (t.take p.primary.start) 0 before).length : Int) = p.primary.start + p.shift := by
  have hfollow := p.isAcceptable_iff_follow.1 h
  rw [hsplit, follow_append_cons] at hfollow
  obtain ⟨hfront, hstop, hback⟩ := hfollow
  have hlength : (t.take p.primary.start).length = p.primary.start :=
    List.length_take_of_le (hstop.trans hback.offset_le)
  rw [length_weave (hlength.symm ▸ hfront), hlength, shift_eq_totalDelta hsplit hbefore hafter]
  simp

theorem cursorInPrimary_eq :
    p.cursorInPrimary = min (p.cursor.getD p.primary.text.length) p.primary.text.length := by
  unfold cursorInPrimary
  cases p.cursor <;> simp

/-! ## Simultaneous substitution -/

/-- **An accepted plan replaces all of its ranges at once, and its cursor stands in the text of the
primary edit.** The edits are taken by start; those with one start as the plan lists them, the
primary one first. What they leave alone stays between them. The cursor stands `k` characters
behind the place where the primary text begins in the new document, which lies as far from the
place of the old one as the signed shift says. -/
theorem apply_eq_simultaneous_substitution {d' : Document} {cursor : Nat}
    (h : p.apply d = .ok (d', cursor)) :
    p.inOrder.Pairwise (fun a b => a.1.start ≤ b.1.start) ∧
      (∀ start, p.inOrder.filter (·.1.start == start) = p.edits.filter (·.1.start == start)) ∧
      d'.text = weave d.text 0 p.inOrder ∧
      ∃ before after k, p.inOrder = before ++ (p.primary, true) :: after ∧
        k = min (p.cursor.getD p.primary.text.length) p.primary.text.length ∧
        k ≤ cursor ∧ cursor ≤ d'.length ∧
        d'.text.take (cursor - k) = weave (d.text.take p.primary.start) 0 before ∧
        d'.text.slice (cursor - k) (cursor - k + p.primary.text.length) = p.primary.text ∧
        d'.text.drop (cursor - k + p.primary.text.length) = weave d.text p.primary.stop after ∧
        (p.primary.start : Int) + p.shift = (cursor - k : Nat) := by
  have hacceptable := isAcceptable_of_apply_eq_ok h
  rw [apply_eq_of_isAcceptable hacceptable, Except.ok.injEq, Prod.mk.injEq] at h
  obtain ⟨rfl, rfl⟩ := h
  refine ⟨p.pairwise_start_inOrder, p.filter_start_inOrder, rfl, ?_⟩
  obtain ⟨before, after, hsplit, hbefore, hafter⟩ := p.exists_inOrder_eq_append
  have hlength := length_front hsplit hbefore hafter hacceptable
  have hfollow := p.isAcceptable_iff_follow.1 hacceptable
  rw [hsplit, follow_append_cons] at hfollow
  have htext : p.substitute d.text = weave (d.text.take p.primary.start) 0 before ++
      (p.primary.text ++ weave d.text p.primary.stop after) := by
    rw [substitute, hsplit, weave_append_cons hfollow.1]
  have hcursor : p.finalCursor - p.cursorInPrimary =
      (weave (d.text.take p.primary.start) 0 before).length := by
    rw [finalCursor, Nat.add_sub_cancel, ← hlength, Int.toNat_natCast]
  have hle : p.cursorInPrimary ≤ p.primary.text.length := by
    rw [cursorInPrimary_eq]
    exact Nat.min_le_right _ _
  have hge : p.cursorInPrimary ≤ p.finalCursor := Nat.le_add_left ..
  refine ⟨before, after, p.cursorInPrimary, hsplit, cursorInPrimary_eq, hge, ?_, ?_, ?_, ?_, ?_⟩
  · simp only [Document.length, htext, List.length_append]
    omega
  · rw [hcursor, htext, List.take_left]
  · rw [hcursor, htext, Text.slice, List.drop_left, Nat.add_sub_cancel_left, List.take_left]
  · rw [hcursor, htext, ← List.drop_drop, List.drop_left, List.drop_left]
  · rw [hcursor, hlength]

/-- Two edits that begin at one place, one that shrinks the text in front of them, and a cursor
inside the primary text. -/
theorem apply_eq_simultaneous_substitution_of_tie :
    apply ⟨⟨3, 3, "xyz".toList⟩, [⟨3, 5, "!".toList⟩, ⟨0, 2, "a".toList⟩], some 1⟩
        ⟨"ab cd".toList, 0, none⟩ = .ok (⟨"a xyz!".toList, 3, none⟩, 3) ∧
      Text.slice "a xyz!".toList (3 - 1) (3 - 1 + 3) = "xyz".toList := by
  have h : apply ⟨⟨3, 3, "xyz".toList⟩, [⟨3, 5, "!".toList⟩, ⟨0, 2, "a".toList⟩], some 1⟩
      ⟨"ab cd".toList, 0, none⟩ = .ok (⟨"a xyz!".toList, 3, none⟩, 3) := by cbv
  obtain ⟨-, -, -, _, _, k, -, rfl, -, -, -, hslice, -⟩ := apply_eq_simultaneous_substitution h
  exact ⟨h, hslice⟩

end EditPlan

end LanguageClient
