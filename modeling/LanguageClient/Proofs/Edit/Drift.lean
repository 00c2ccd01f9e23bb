import LanguageClient.Proofs.Edit.Substitution

/-!
# Plans moved across typed text

Text is inserted at an offset that the primary edit of a plan contains. `EditPlan.absorbing` is the
plan that means the same on the longer text: its primary edit takes in what was inserted, and the
edits behind it move. It is acceptable if and only if the plan was, and then makes the same text
with the cursor at the same place (`EditPlan.isAcceptable_absorbing`,
`EditPlan.substitute_absorbing`, `EditPlan.finalCursor_absorbing`).

`EditPlan.withDrift` makes this plan of an acceptable one, and of any other one none that is
acceptable (`EditPlan.withDrift_of_isAcceptable`, `EditPlan.eq_absorbing_of_withDrift`). An edit
around the offset, which it refuses, would overlap the primary one.
-/

namespace LanguageClient

/-- An edit at or behind `offset`, moved by `count` characters. Any other one stays. -/
def Edit.movedBehind (offset count : Nat) (e : Edit) : Edit :=
  if offset ≤ e.start then ⟨e.start + count, e.stop + count, e.text⟩ else e

theorem Edit.movedBehind_of_le {offset count : Nat} {e : Edit} (h : offset ≤ e.start) :
    e.movedBehind offset count = ⟨e.start + count, e.stop + count, e.text⟩ := if_pos h

theorem Edit.movedBehind_of_lt {offset count : Nat} {e : Edit} (h : e.start < offset) :
    e.movedBehind offset count = e := if_neg (Nat.not_le.2 h)

namespace EditPlan

variable {p : EditPlan} {offset count : Nat}

/-- The plan whose primary edit takes in `count` characters inserted at `offset`. -/
def absorbing (p : EditPlan) (offset count : Nat) : EditPlan :=
  { p with
    primary := { p.primary with stop := p.primary.stop + count }
    additional := p.additional.map (·.movedBehind offset count) }

/-- What becomes of one edit in `absorbing`. -/
def absorb (offset count : Nat) : Edit × Bool → Edit × Bool
  | (e, true) => ({ e with stop := e.stop + count }, true)
  | (e, false) => (e.movedBehind offset count, false)

theorem edits_absorbing : (p.absorbing offset count).edits = p.edits.map (absorb offset count) := by
  simp [edits, absorbing, absorb]

/-- Moving the edits keeps their order. -/
theorem standsBefore_absorb {a b : Edit × Bool} (ha : a ∈ p.edits) (hb : b ∈ p.edits)
    (h : p.primary.start ≤ offset) :
    standsBefore a b = standsBefore (absorb offset count a) (absorb offset count b) := by
  simp only [edits, List.mem_cons, List.mem_map] at ha hb
  rcases ha with rfl | ⟨e, -, rfl⟩ <;> rcases hb with rfl | ⟨f, -, rfl⟩ <;>
    rw [Bool.eq_iff_iff] <;> simp only [standsBefore, absorb, Edit.movedBehind] <;> grind

theorem inOrder_absorbing (h : p.primary.start ≤ offset) :
    (p.absorbing offset count).inOrder = p.inOrder.map (absorb offset count) := by
  rw [inOrder, inOrder, edits_absorbing]
  have hmono : ∀ a ∈ p.edits, ∀ b ∈ p.edits, standsBefore a b =
      standsBefore (absorb offset count a) (absorb offset count b) :=
    fun a ha b hb => standsBefore_absorb ha hb h
  exact (List.map_mergeSort hmono).symm

/-- Edits in front of the offset stay. -/
theorem map_absorb_before {es : List (Edit × Bool)}
    (h : ∀ e ∈ es, e.2 = false ∧ e.1.start < offset) : es.map (absorb offset count) = es := by
  refine (List.map_congr_left fun e he => ?_).trans (List.map_id es)
  obtain ⟨e, primary⟩ := e
  obtain ⟨rfl, hlt⟩ := h _ he
  rw [absorb, Edit.movedBehind_of_lt hlt, id]

/-- Edits behind the offset follow one another as before. -/
theorem follow_map_absorb {start length : Nat} {es : List (Edit × Bool)} (h : offset ≤ start)
    (hes : ∀ e ∈ es, e.2 = false) :
    Follow (start + count) (length + count) (es.map (absorb offset count)) ↔
      Follow start length es := by
  induction es generalizing start with
  | nil => simp [Follow]
  | cons e es ih =>
    obtain ⟨e, primary⟩ := e
    obtain rfl : primary = false := hes _ List.mem_cons_self
    have hrest : ∀ e ∈ es, e.2 = false := fun e he => hes e (List.mem_cons_of_mem _ he)
    simp only [List.map_cons, absorb, Follow]
    by_cases hle : offset ≤ e.start
    · simp only [Edit.movedBehind_of_le hle, Nat.add_le_add_iff_right]
      refine and_congr_right fun _ => and_congr_right fun hstop => ih (by omega) hrest
    · simp only [Edit.movedBehind_of_lt (Nat.not_le.1 hle)]
      constructor
      all_goals
        rintro ⟨hstart, -⟩
        omega

/-- Edits behind the offset do the same to texts that agree there. -/
theorem weave_map_absorb {t t' : Text} (ht : t'.drop (offset + count) = t.drop offset)
    {start : Nat} {es : List (Edit × Bool)} (h : offset ≤ start)
    (hes : ∀ e ∈ es, e.2 = false) (hfollow : Follow start t.length es) :
    weave t' (start + count) (es.map (absorb offset count)) = weave t start es := by
  have hdrop : ∀ k, offset ≤ k → t'.drop (k + count) = t.drop k := by
    intro k hk
    obtain ⟨n, rfl⟩ := Nat.exists_eq_add_of_le hk
    rw [Nat.add_right_comm, ← List.drop_drop, ht, List.drop_drop]
  induction es generalizing start with
  | nil => exact hdrop start h
  | cons e es ih =>
    obtain ⟨e, primary⟩ := e
    obtain rfl : primary = false := hes _ List.mem_cons_self
    obtain ⟨hstart, hstop, hrest⟩ := hfollow
    have hle : offset ≤ e.start := h.trans hstart
    rw [List.map_cons, absorb, Edit.movedBehind_of_le hle, weave, weave,
      ih (hle.trans hstop) (fun e he => hes e (List.mem_cons_of_mem _ he)) hrest, Text.slice,
      Text.slice, hdrop start h, Nat.add_sub_add_right]

/-! ## The plan that absorbs -/

section Absorbing

variable (hstart : p.primary.start ≤ offset) (hstop : offset ≤ p.primary.stop)

include hstart in
variable (count) in
/-- The primary edit splits the order of both plans at the same place. -/
theorem exists_inOrder_absorbing : ∃ before after,
    p.inOrder = before ++ (p.primary, true) :: after ∧
      (p.absorbing offset count).inOrder =
        before ++ ((p.absorbing offset count).primary, true) :: after.map (absorb offset count) ∧
      (∀ e ∈ before, e.2 = false ∧ e.1.start < p.primary.start) ∧
      ∀ e ∈ after, e.2 = false ∧ p.primary.start ≤ e.1.start := by
  obtain ⟨before, after, hsplit, hbefore, hafter⟩ := p.exists_inOrder_eq_append
  refine ⟨before, after, hsplit, ?_, hbefore, hafter⟩
  rw [inOrder_absorbing hstart, hsplit, List.map_append, List.map_cons, map_absorb_before]
  · rfl
  · exact fun e he => ⟨(hbefore e he).1, (hbefore e he).2.trans_le hstart⟩

include hstart hstop

/-- **The plan that absorbs is acceptable if and only if the plan is.** -/
theorem isAcceptable_absorbing {length : Nat} :
    (p.absorbing offset count).IsAcceptable (length + count) ↔ p.IsAcceptable length := by
  obtain ⟨before, after, hsplit, hsplit', -, hafter⟩ :=
    exists_inOrder_absorbing count hstart
  rw [isAcceptable_iff_follow, isAcceptable_iff_follow, hsplit, hsplit', follow_append_cons,
    follow_append_cons]
  refine and_congr_right fun _ => and_congr ?_ ?_
  · simp only [absorbing]
    omega
  · exact follow_map_absorb hstop fun e he => (hafter e he).1

/-- **The plan that absorbs makes the same text.** -/
theorem substitute_absorbing {t typed : Text} (h : p.IsAcceptable t.length) :
    (p.absorbing offset typed.length).substitute (t.splice offset offset typed) =
      p.substitute t := by
  obtain ⟨before, after, hsplit, hsplit', -, hafter⟩ :=
    exists_inOrder_absorbing typed.length hstart
  have hfollow := p.isAcceptable_iff_follow.1 h
  rw [hsplit, follow_append_cons] at hfollow
  obtain ⟨hfront, -, hback⟩ := hfollow
  have hoffset : offset ≤ t.length := hstop.trans hback.offset_le
  rw [substitute, substitute, hsplit, hsplit', weave_append_cons hfront,
    weave_append_cons (by exact hfront)]
  simp only [absorbing]
  rw [Text.take_splice_of_le typed hstart hoffset, weave_map_absorb
    (Text.drop_splice_self typed hoffset) hstop (fun e he => (hafter e he).1) hback]

omit hstop in
/-- **The plan that absorbs leaves the cursor at the same place.** -/
theorem finalCursor_absorbing :
    (p.absorbing offset count).finalCursor = p.finalCursor := by
  obtain ⟨before, after, hsplit, hsplit', hbefore, hafter⟩ :=
    exists_inOrder_absorbing count hstart
  have hmoved : ∀ e ∈ after.map (absorb offset count),
      e.2 = false ∧ (p.absorbing offset count).primary.start ≤ e.1.start := by
    simp only [List.mem_map, forall_exists_index, and_imp]
    rintro _ ⟨e, primary⟩ he rfl
    obtain ⟨rfl, hle⟩ := hafter _ he
    refine ⟨rfl, ?_⟩
    simp only [absorb, absorbing, Edit.movedBehind]
    split
    · exact Nat.le_add_right_of_le hle
    · exact hle
  rw [finalCursor, finalCursor, shift_eq_totalDelta hsplit hbefore hafter,
    shift_eq_totalDelta hsplit' hbefore hmoved]
  rfl

end Absorbing

end EditPlan

/-! ## Moving a plan -/

namespace Drift

variable {d : Drift} {offset : Nat}

theorem map_of_lt (h : offset < d.invocation) : d.map offset = .ok offset := if_pos h

theorem map_of_le (hgrowth : d.growth = d.typed) (h : d.invocation ≤ offset)
    (hmax : offset + d.typed ≤ Document.maxOffset) : d.map offset = .ok (offset + d.typed) := by
  rw [map, if_neg (by omega)]
  split
  · rfl
  · have hmoved : 0 ≤ (offset : Int) + d.growth ∧ (offset : Int) + d.growth ≤ Document.maxOffset := by
      omega
    rw [if_pos hmoved]
    congr 1
    omega

theorem eq_add_of_map {moved : Nat} (hgrowth : d.growth = d.typed) (h : d.invocation ≤ offset)
    (hmap : d.map offset = .ok moved) : moved = offset + d.typed := by
  rw [map, if_neg (by omega)] at hmap
  split at hmap
  · exact (Except.ok.inj hmap).symm
  · dsimp only at hmap
    split at hmap
    · have := Except.ok.inj hmap
      omega
    · cases hmap

end Drift

namespace EditPlan

variable {p : EditPlan} {d : Drift} {length : Nat}

theorem withDrift_of_typed_eq_zero (htyped : d.typed = 0) (hgrowth : d.growth = d.typed) :
    p.withDrift d = .ok p := by
  rw [withDrift, if_pos ⟨htyped, by omega⟩]
  rfl

/-- An edit beside the primary one stands in front of the invocation or behind it. -/
theorem IsAcceptable.apart {e : Edit} (h : p.IsAcceptable length) (he : e ∈ p.additional) :
    e.stop ≤ p.primary.start ∨ p.primary.stop ≤ e.start := by
  obtain ⟨before, after, hsplit, -, -⟩ := p.exists_inOrder_eq_append
  have hfollow := p.isAcceptable_iff_follow.1 h
  rw [hsplit, follow_append_cons] at hfollow
  have hmem : (e, false) ∈ p.inOrder :=
    p.mem_inOrder.2 (List.mem_cons_of_mem _ (List.mem_map_of_mem he))
  rw [hsplit, List.mem_append, List.mem_cons] at hmem
  rcases hmem with hmem | hmem | hmem
  · exact .inl ((follow_iff.1 hfollow.1).2.1 _ hmem).2.2
  · cases hmem
  · exact .inr ((follow_iff.1 hfollow.2.2).2.1 _ hmem).1

/-- The ends of a primary edit are moved one by one. -/
theorem driftPrimary_eq_bind (d : Drift) (e : Edit) : driftPrimary d e =
    (if e.start ≤ d.invocation then .ok e.start else d.map e.start) >>= fun start =>
      (if d.invocation ≤ e.stop then d.map e.stop else .ok e.stop) >>= fun stop =>
        .ok ⟨start, stop, e.text⟩ := by
  unfold driftPrimary
  split_ifs <;> rfl

theorem driftPrimary_of_contains {e : Edit} (hstart : e.start ≤ d.invocation)
    (hstop : d.invocation ≤ e.stop) :
    driftPrimary d e = (d.map e.stop).map fun stop => { e with stop } := by
  simp only [driftPrimary, if_pos hstart, if_pos hstop]
  cases d.map e.stop <;> rfl

/-! ### Errors -/

section Errors

variable {cause : EditError}

theorem driftPrimary_ne_error {e : Edit} (hstart : d.map e.start ≠ .error cause)
    (hstop : d.map e.stop ≠ .error cause) : driftPrimary d e ≠ .error cause := by
  rw [driftPrimary_eq_bind]
  refine bind_ne_error ?_ fun _ _ => bind_ne_error ?_ fun _ _ => nofun
  · split_ifs
    exacts [nofun, hstart]
  · split_ifs
    exacts [hstop, nofun]

variable (hcause : ∀ a b a' b', cause ≠ .overlap a b a' b')

include hcause

theorem driftAdditional_ne_error {e : Edit} (hstart : d.map e.start ≠ .error cause)
    (hstop : d.map e.stop ≠ .error cause) : driftAdditional d e ≠ .error cause := by
  unfold driftAdditional
  split_ifs
  · exact bind_ne_error hstart fun _ _ => bind_ne_error hstop fun _ _ => nofun
  · exact nofun
  · exact fun h => hcause _ _ _ _ (Except.error.inj h).symm
  · exact bind_ne_error hstop fun _ _ => nofun

/-- What is wrong with a plan that cannot be moved is an overlap, or else it is what is wrong with
one of its offsets. -/
theorem withDrift_ne_error
    (hprimary : d.map p.primary.start ≠ .error cause ∧ d.map p.primary.stop ≠ .error cause)
    (hadditional : ∀ e ∈ p.additional,
      d.map e.start ≠ .error cause ∧ d.map e.stop ≠ .error cause) :
    p.withDrift d ≠ .error cause := by
  unfold withDrift
  split_ifs
  · exact nofun
  · refine bind_ne_error (driftPrimary_ne_error hprimary.1 hprimary.2) fun primary _ => ?_
    refine bind_ne_error (mapM_ne_error fun e he => ?_) fun _ _ => nofun
    exact driftAdditional_ne_error hcause (hadditional e he).1 (hadditional e he).2

end Errors

section WithDrift

variable (htyped : 0 < d.typed) (hgrowth : d.growth = d.typed)

include hgrowth in
theorem driftAdditional_of_apart {e : Edit} (hle : e.start ≤ e.stop)
    (hapart : e.stop ≤ d.invocation ∨ d.invocation ≤ e.start)
    (hmax : e.stop + d.typed ≤ Document.maxOffset) :
    driftAdditional d e = .ok (e.movedBehind d.invocation d.typed) := by
  rw [driftAdditional]
  by_cases h : d.invocation ≤ e.start
  · rw [if_pos h, Edit.movedBehind_of_le h, Drift.map_of_le hgrowth h (by omega),
      Drift.map_of_le hgrowth (h.trans hle) hmax]
    rfl
  · rw [if_neg h, if_pos (by omega), Edit.movedBehind_of_lt (Nat.not_le.1 h)]
    rfl

include htyped hgrowth

/-- An edit that is moved and not inverted then is moved as a whole or stays. -/
theorem eq_movedBehind_of_driftAdditional {e e' : Edit} (h : driftAdditional d e = .ok e')
    (hle : e'.start ≤ e'.stop) : e' = e.movedBehind d.invocation d.typed := by
  rw [driftAdditional] at h
  split at h
  case isTrue hstart =>
    obtain ⟨start, hs, h⟩ := bind_eq_ok_iff.1 h
    obtain ⟨stop, ht, h⟩ := bind_eq_ok_iff.1 h
    obtain rfl := Except.ok.inj h
    have hstart' := Drift.eq_add_of_map hgrowth hstart hs
    rw [Edit.movedBehind_of_le hstart]
    by_cases hstop : d.invocation ≤ e.stop
    · rw [hstart', Drift.eq_add_of_map hgrowth hstop ht]
    · -- an end in front of the invocation stays there and is passed by the start
      rw [Drift.map_of_lt (Nat.not_le.1 hstop), Except.ok.injEq] at ht
      dsimp only at hle
      omega
  case isFalse hstart =>
    rw [Edit.movedBehind_of_lt (Nat.not_le.1 hstart)]
    split at h
    · exact (Except.ok.inj h).symm
    · cases h

/-- **An acceptable plan is moved to the one that absorbs the typed text.** -/
theorem withDrift_of_isAcceptable (h : p.IsAcceptable length)
    (hmax : length + d.typed ≤ Document.maxOffset) (hstart : p.primary.start ≤ d.invocation)
    (hstop : d.invocation ≤ p.primary.stop) :
    p.withDrift d = .ok (p.absorbing d.invocation d.typed) := by
  have hprimary : driftPrimary d p.primary =
      .ok { p.primary with stop := p.primary.stop + d.typed } := by
    have := h.stop_le (p.primary, true) (by simp [edits])
    dsimp only at this
    rw [driftPrimary_of_contains hstart hstop, Drift.map_of_le hgrowth hstop (by omega)]
    rfl
  have hadditional : p.additional.mapM (driftAdditional d) =
      .ok (p.additional.map (·.movedBehind d.invocation d.typed)) := by
    refine mapM_eq_ok_map fun e he => ?_
    have hmem : (e, false) ∈ p.edits := List.mem_cons_of_mem _ (List.mem_map_of_mem he)
    have hle := h.stop_le _ hmem
    have hapart := h.apart he
    dsimp only at hle
    exact driftAdditional_of_apart hgrowth (h.start_le_stop _ hmem) (by omega) (by omega)
  rw [withDrift, if_neg (by omega), hprimary, hadditional]
  rfl

/-- **A plan that is acceptable once it is moved is the one that absorbs the typed text.** -/
theorem eq_absorbing_of_withDrift {p' : EditPlan} (h : p.withDrift d = .ok p')
    (hp' : p'.IsAcceptable length) (hstart : p.primary.start ≤ d.invocation)
    (hstop : d.invocation ≤ p.primary.stop) : p' = p.absorbing d.invocation d.typed := by
  rw [withDrift, if_neg (by omega), driftPrimary_of_contains hstart hstop] at h
  obtain ⟨primary, hprimary, h⟩ := bind_eq_ok_iff.1 h
  obtain ⟨stop, hs, rfl⟩ := map_eq_ok_iff.1 hprimary
  obtain ⟨additional, ha, h⟩ := bind_eq_ok_iff.1 h
  obtain rfl := Except.ok.inj h
  have hmoved : additional = p.additional.map (·.movedBehind d.invocation d.typed) := by
    have hnot : ∀ e ∈ additional, e.start ≤ e.stop := fun e he =>
      hp'.start_le_stop (e, false) (List.mem_cons_of_mem _ (List.mem_map_of_mem he))
    exact eq_map_of_mapM_eq_ok ha hnot fun e e' =>
      eq_movedBehind_of_driftAdditional htyped hgrowth
  rw [absorbing, hmoved, Drift.eq_add_of_map hgrowth hstop hs]

end WithDrift

/-- **Typed text is absorbed.** On a document with text typed at the invocation the moved plan does
what the plan does on the document without it. -/
theorem result?_attempt_withDrift {d₀ d' : Document} {typed : Text}
    (htyped : d.typed = typed.length) (hgrowth : d.growth = d.typed)
    (htext : d'.text = d₀.text.splice d.invocation d.invocation typed)
    (hmax : d'.length ≤ Document.maxOffset) (hinvocation : d.invocation ≤ d₀.length)
    (hstart : p.primary.start ≤ d.invocation) (hstop : d.invocation ≤ p.primary.stop) :
    result? (attempt d' (p.withDrift d)) = result? (p.perform d₀) := by
  have hlength : d'.length = d₀.length + typed.length := by
    rw [Document.length, htext, Text.length_splice_self typed hinvocation, Document.length]
  rcases Nat.eq_zero_or_pos d.typed with hzero | hpos
  · have hnil : typed = [] := List.eq_nil_of_length_eq_zero (by omega)
    have hsame : d'.text = d₀.text := by rw [htext, hnil, Text.splice_self]
    rw [withDrift_of_typed_eq_zero hzero hgrowth, attempt]
    by_cases h : p.IsAcceptable d₀.length
    · have h' : p.IsAcceptable d'.length := by rwa [Document.length, hsame]
      rw [result?_perform_of_isAcceptable h, result?_perform_of_isAcceptable h', hsame]
    · have h' : ¬ p.IsAcceptable d'.length := by rwa [Document.length, hsame]
      rw [result?_perform_eq_none_iff.2 h, result?_perform_eq_none_iff.2 h']
  · by_cases h : p.IsAcceptable d₀.length
    · have h' : (p.absorbing d.invocation d.typed).IsAcceptable d'.length := by
        rw [hlength, ← htyped]
        exact (isAcceptable_absorbing hstart hstop).2 h
      rw [withDrift_of_isAcceptable hpos hgrowth h (by omega) hstart hstop, attempt,
        result?_perform_of_isAcceptable h', result?_perform_of_isAcceptable h,
        finalCursor_absorbing hstart, htext, htyped, substitute_absorbing hstart hstop h]
    · rw [result?_perform_eq_none_iff.2 h]
      cases hmoved : p.withDrift d with
      | error cause => rfl
      | ok p' =>
        refine result?_perform_eq_none_iff.2 fun hp' => h ?_
        rw [eq_absorbing_of_withDrift hpos hgrowth hmoved hp' hstart hstop, hlength, ← htyped] at hp'
        exact (isAcceptable_absorbing hstart hstop).1 hp'

end EditPlan

end LanguageClient
