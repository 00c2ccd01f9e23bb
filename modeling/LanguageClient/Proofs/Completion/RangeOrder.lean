import LanguageClient.Proofs.Completion.Offering
import LanguageClient.Proofs.Document.PositionOrder
import Mathlib

/-!
# Ranges in order are never refused as inverted

A range whose ends are in order keeps them so on its way into a document: as offsets of the snapshot
(`Document.rangeOffsets_of_lt`), moved across typed text (`EditPlan.IsOrdered.withDrift`), and in
front of the check that the edits have to pass (`EditPlan.IsOrdered.perform_ne_invertedRange`). All
that can be wrong with it is a line that is not there (`not_inverted_of_isOrdered`).
-/

namespace LanguageClient

variable {a b : Nat}

/-! ## Moving edits -/

namespace Drift

variable {d : Drift} {offset offset' moved moved' : Nat}

theorem map_ne_invertedRange : d.map offset ≠ .error (.invertedRange a b) := by
  unfold map
  dsimp only
  split_ifs <;> exact nofun

/-- Offsets are moved in their order. -/
theorem map_mono (hgrowth : d.growth = d.typed) (hle : offset ≤ offset')
    (h : d.map offset = .ok moved) (h' : d.map offset' = .ok moved') : moved ≤ moved' := by
  rcases Nat.lt_or_ge offset d.invocation with hlt | hge
  · rw [map_of_lt hlt, Except.ok.injEq] at h
    rcases Nat.lt_or_ge offset' d.invocation with hlt' | hge'
    · rw [map_of_lt hlt', Except.ok.injEq] at h'
      omega
    · have := eq_add_of_map hgrowth hge' h'
      omega
  · have := eq_add_of_map hgrowth hge h
    have := eq_add_of_map hgrowth (hge.trans hle) h'
    omega

end Drift

/-- An edit whose start is not behind its end. -/
def Edit.IsOrdered (e : Edit) : Prop := e.start ≤ e.stop

namespace EditPlan

/-- A plan none of whose edits is inverted. -/
structure IsOrdered (p : EditPlan) : Prop where
  primary : p.primary.IsOrdered
  additional : ∀ e ∈ p.additional, e.IsOrdered

section Moving

variable {d : Drift} {e e' : Edit} (hgrowth : d.growth = d.typed)

include hgrowth

theorem eq_stretched_of_driftPrimary (h : driftPrimary d e = .ok e') :
    e' = e.stretched d.invocation d.typed := by
  rw [driftPrimary_eq_bind] at h
  obtain ⟨start, hstart, h⟩ := bind_eq_ok_iff.1 h
  obtain ⟨stop, hstop, h⟩ := bind_eq_ok_iff.1 h
  obtain rfl := Except.ok.inj h
  have hstart' : start = if d.invocation < e.start then e.start + d.typed else e.start := by
    rcases lt_or_ge d.invocation e.start with hfront | hle
    · rw [if_neg hfront.not_ge] at hstart
      rw [if_pos hfront, Drift.eq_add_of_map hgrowth hfront.le hstart]
    · rw [if_pos hle, Except.ok.injEq] at hstart
      rw [if_neg hle.not_gt, hstart]
  have hstop' : stop = if d.invocation ≤ e.stop then e.stop + d.typed else e.stop := by
    split_ifs at hstop ⊢ with hle
    · exact Drift.eq_add_of_map hgrowth hle hstop
    · exact (Except.ok.inj hstop).symm
  rw [hstart', hstop', Edit.stretched]

theorem isOrdered_of_driftAdditional (h : driftAdditional d e = .ok e') (he : e.IsOrdered) :
    e'.IsOrdered := by
  rw [driftAdditional] at h
  split_ifs at h with hbehind hfront
  · obtain ⟨start, hstart, h⟩ := bind_eq_ok_iff.1 h
    obtain ⟨stop, hstop, h⟩ := bind_eq_ok_iff.1 h
    obtain rfl := Except.ok.inj h
    exact Drift.map_mono hgrowth he hstart hstop
  · obtain rfl := Except.ok.inj h
    exact he
  · -- nothing has been typed inside the edit
    obtain ⟨stop, hstop, h⟩ := bind_eq_ok_iff.1 h
    obtain rfl := Except.ok.inj h
    have := Drift.eq_add_of_map hgrowth (Nat.not_le.1 hfront).le hstop
    simp only [Edit.IsOrdered] at he ⊢
    omega

end Moving

namespace IsOrdered

variable {p p' : EditPlan} {d : Drift} (h : p.IsOrdered)

include h

/-- A moved plan is in order as the plan was. -/
theorem withDrift (hgrowth : d.growth = d.typed) (hmoved : p.withDrift d = .ok p') :
    p'.IsOrdered := by
  rw [EditPlan.withDrift] at hmoved
  split_ifs at hmoved
  · obtain rfl := Except.ok.inj hmoved
    exact h
  · obtain ⟨primary, hprimary, hmoved⟩ := bind_eq_ok_iff.1 hmoved
    obtain ⟨additional, hadditional, hmoved⟩ := bind_eq_ok_iff.1 hmoved
    obtain rfl := Except.ok.inj hmoved
    refine ⟨?_, fun e' he' => ?_⟩
    · rw [eq_stretched_of_driftPrimary hgrowth hprimary]
      exact Edit.start_le_stop_stretched _ _ h.primary
    · obtain ⟨e, he, hdrift⟩ := exists_of_mem_of_mapM_eq_ok hadditional he'
      exact isOrdered_of_driftAdditional hgrowth hdrift (h.additional e he)

omit h in
theorem checkBounds_ne_invertedRange {length : Nat} {es : List (Edit × Bool)}
    (hes : ∀ e ∈ es, e.1.IsOrdered) : checkBounds length es ≠ .error (.invertedRange a b) := by
  fun_induction checkBounds length es with
  | case1 => simp
  | case2 e _ rest hinverted => exact absurd (hes _ List.mem_cons_self) hinverted.not_ge
  | case3 => simp
  | case4 _ _ _ _ _ ih => exact ih fun e he => hes e (List.mem_cons_of_mem _ he)

omit h in
theorem checkDisjoint_ne_invertedRange {es : List (Edit × Bool)} :
    checkDisjoint es ≠ .error (.invertedRange a b) := by
  fun_induction checkDisjoint es with
  | case1 => simp
  | case2 _ _ _ _ _ _ ih => exact ih
  | case3 => simp

/-- The check may find edits out of bounds or overlapping, but none inverted. -/
theorem perform_ne_invertedRange {d : Document} :
    (p.perform d).2 ≠ .error (.invertedRange a b) := by
  intro herror
  have hedits : ∀ e ∈ p.edits, e.1.IsOrdered := by
    simp only [edits, List.forall_mem_cons, List.forall_mem_map]
    exact ⟨h.primary, h.additional⟩
  refine bind_ne_error ?_ (fun _ _ => ?_) (check_eq_error_of_perform herror).1
  · exact checkBounds_ne_invertedRange hedits
  · exact checkDisjoint_ne_invertedRange

end IsOrdered

theorem withDrift_ne_invertedRange {p : EditPlan} {d : Drift} :
    p.withDrift d ≠ .error (.invertedRange a b) :=
  withDrift_ne_error nofun ⟨Drift.map_ne_invertedRange, Drift.map_ne_invertedRange⟩ fun _ _ =>
    ⟨Drift.map_ne_invertedRange, Drift.map_ne_invertedRange⟩

end EditPlan

/-! ## Proposals -/

namespace CompletionProposal

variable {p : CompletionProposal} {d : Document} {typed : Nat}

theorem typedDrift_ne_invertedRange : p.typedDrift d typed ≠ .error (.invertedRange a b) := by
  unfold typedDrift
  split_ifs
  · exact nofun
  · refine bind_ne_error (Document.mapError_ne_error _ nofun) fun same _ => ?_
    split_ifs
    · exact nofun
    · exact bind_ne_error (Document.mapError_ne_error _ nofun) fun _ _ => nofun

/-- Where a drift is found, the document has grown by what was typed. -/
theorem growth_of_typedDrift {drift : Drift} (h : p.typedDrift d typed = .ok drift) :
    drift.growth = drift.typed := by
  unfold typedDrift at h
  split_ifs at h with hgrowth
  · cases h
  · obtain ⟨same, -, h⟩ := bind_eq_ok_iff.1 h
    split_ifs at h
    · cases h
    · obtain ⟨lineEnd, -, h⟩ := bind_eq_ok_iff.1 h
      obtain rfl := Except.ok.inj h
      exact not_not.1 hgrowth

/-- Additional edits that have been located are in order. -/
theorem isOrdered_of_editPlan {plan : EditPlan} (hreplace : p.replace.start ≤ p.replace.stop)
    (h : p.editPlan = .ok plan) : plan.IsOrdered := by
  obtain ⟨additional, hlocated, h⟩ := bind_eq_ok_iff.1 h
  obtain rfl := Except.ok.inj h
  refine ⟨hreplace, fun e he => ?_⟩
  obtain ⟨edit, -, hedit⟩ := exists_of_mem_of_mapM_eq_ok hlocated he
  obtain ⟨range, hrange, hedit⟩ := bind_eq_ok_iff.1 hedit
  obtain rfl := Except.ok.inj hedit
  exact (Document.isWithin_of_rangeOffsets hrange).start_le_stop

section Ordered

variable (hadditional : ∀ edit ∈ p.candidate.item.additionalTextEdits.getD [],
  edit.range.IsOrdered)

include hadditional

theorem editPlan_ne_invertedRange : p.editPlan ≠ .error (.invertedRange a b) := by
  refine bind_ne_error (mapM_ne_error fun edit hedit => ?_) fun _ _ => nofun
  refine bind_ne_error ?_ fun _ _ => nofun
  exact Document.rangeOffsets_ne_invertedRange (hadditional edit hedit)

/-- Additional edits in order are located if their lines are there. -/
theorem exists_editPlan_eq_ok (hlines : ∀ edit ∈ p.candidate.item.additionalTextEdits.getD [],
    edit.range.stop.line < p.snapshot.lineCount) : ∃ plan, p.editPlan = .ok plan := by
  have hlocated : ∀ cause, p.editPlan ≠ .error cause := fun cause => by
    refine bind_ne_error (mapM_ne_error fun edit hedit => ?_) fun _ _ => nofun
    obtain ⟨start, stop, -, -, -, hoffsets⟩ :=
      Document.rangeOffsets_of_lt (hadditional edit hedit) (hlines edit hedit)
    exact bind_ne_error (by rw [hoffsets]; exact nofun) fun _ _ => nofun
  cases hplan : p.editPlan with
  | error cause => exact absurd hplan (hlocated cause)
  | ok plan => exact ⟨plan, rfl⟩

theorem attempt_driftedPlan_ne_invertedRange (hreplace : p.replace.start ≤ p.replace.stop)
    {committed : Text} :
    (EditPlan.attempt d (p.driftedPlan d typed committed)).2 ≠ .error (.invertedRange a b) := by
  cases hdrifted : p.driftedPlan d typed committed with
  | error cause =>
    rintro ⟨⟩
    refine bind_ne_error typedDrift_ne_invertedRange (fun drift _ => ?_) hdrifted
    exact bind_ne_error (editPlan_ne_invertedRange hadditional) fun plan _ =>
      EditPlan.withDrift_ne_invertedRange
  | ok moved =>
    obtain ⟨drift, hdrift, hmoved⟩ := bind_eq_ok_iff.1 hdrifted
    obtain ⟨plan, hplan, hmoved⟩ := bind_eq_ok_iff.1 hmoved
    obtain ⟨hprimary, hadditional⟩ := isOrdered_of_editPlan hreplace hplan
    have hplan' : EditPlan.IsOrdered
        { plan with primary := { plan.primary with text := plan.primary.text ++ committed } } :=
      ⟨hprimary, hadditional⟩
    exact (hplan'.withDrift (growth_of_typedDrift hdrift) hmoved).perform_ne_invertedRange

end Ordered

theorem perform_ne_invertedRange (hadditional : ∀ edit ∈
      p.candidate.item.additionalTextEdits.getD [], edit.range.IsOrdered)
    (hreplace : p.replace.start ≤ p.replace.stop) :
    (p.perform d).2 ≠ .error (.invertedRange a b) ∧ ∀ trigger offset,
      (p.performWithTyping d trigger offset).2 ≠ .error (.invertedRange a b) := by
  refine ⟨?_, fun trigger offset => ?_⟩
  · unfold perform
    split_ifs
    · exact nofun
    · exact attempt_driftedPlan_ne_invertedRange hadditional hreplace
  · unfold performWithTyping
    split_ifs
    · exact nofun
    · exact attempt_driftedPlan_ne_invertedRange hadditional hreplace

end CompletionProposal

/-! ## Candidates -/

/-- A candidate whose range is in order has a part to replace, and is offered if it matches. -/
theorem Candidate.mem_rank_of_isOrdered {policy : CasePolicy} {d : Document} {invocation : Nat}
    {candidates : List Candidate} {c : Candidate} {edit : ItemEdit} (hc : c ∈ candidates)
    (hedit : c.item.textEdit = some edit) (hordered : edit.range.IsOrdered)
    (hline : edit.range.stop.line < d.lineCount) :
    ∃ replace, c.replaceRange d invocation = .ok replace ∧ replace.start ≤ replace.stop ∧
      ∀ cls, matchClass policy c.filterText.toList (Ranked.typed d invocation replace) =
        some cls → ⟨c, cls, replace⟩ ∈ rank policy d invocation candidates := by
  obtain ⟨start, stop, -, -, hle, hoffsets⟩ := Document.rangeOffsets_of_lt hordered hline
  have hreplace : c.replaceRange d invocation = .ok ⟨start, stop⟩ := by
    rw [replaceRange, hedit]
    exact hoffsets
  refine ⟨_, hreplace, hle, fun cls hmatch => ?_⟩
  exact mem_rank.2 ⟨c, hc, Ranked.ofCandidate?_eq_some_iff.2 ⟨rfl, hreplace, hmatch⟩⟩

/-- **Ranges in order are never refused as inverted.** Positions in order have offsets in order, on
whatever lines of whatever kind and with whatever code units, so that a range in order can only miss
a line. No candidate with such a range is dropped for it: it has a part to replace, and is offered
if it matches what is typed there. A proposal whose part is in order and whose additional edits are
is never refused for an inverted range, whatever the document and whatever was typed, and its edits
are located if their lines are there. -/
theorem not_inverted_of_isOrdered (snapshot : Document) :
    (∀ p q : Position, p ≤ q → p.line < snapshot.lineCount → q.line < snapshot.lineCount →
      ∃ offset offset', snapshot.positionToOffset p = .ok offset ∧
        snapshot.positionToOffset q = .ok offset' ∧ offset ≤ offset') ∧
    (∀ range : Range, range.start ≤ range.stop →
      (range.stop.line < snapshot.lineCount →
        ∃ start stop, snapshot.rangeOffsets range = .ok ⟨start, stop⟩ ∧ start ≤ stop) ∧
      (snapshot.lineCount ≤ range.stop.line →
        snapshot.rangeOffsets range = .error (.document (.lineOutOfBounds
          (if range.start.line < snapshot.lineCount then range.stop.line else range.start.line)
          snapshot.lineCount)))) ∧
    (∀ policy invocation candidates, ∀ c ∈ candidates, ∀ edit, c.item.textEdit = some edit →
      edit.range.start ≤ edit.range.stop → edit.range.stop.line < snapshot.lineCount →
        ∃ replace, c.replaceRange snapshot invocation = .ok replace ∧
          replace.start ≤ replace.stop ∧
          ∀ cls, matchClass policy c.filterText.toList
              (Ranked.typed snapshot invocation replace) = some cls →
            ⟨c, cls, replace⟩ ∈ rank policy snapshot invocation candidates) ∧
    ∀ p : CompletionProposal, p.replace.start ≤ p.replace.stop →
      (∀ edit ∈ p.candidate.item.additionalTextEdits.getD [],
        edit.range.start ≤ edit.range.stop) →
      ((∀ edit ∈ p.candidate.item.additionalTextEdits.getD [],
        edit.range.stop.line < p.snapshot.lineCount) → ∃ plan, p.editPlan = .ok plan) ∧
      ∀ d a b, (p.perform d).2 ≠ .error (.invertedRange a b) ∧ ∀ trigger offset,
        (p.performWithTyping d trigger offset).2 ≠ .error (.invertedRange a b) := by
  refine ⟨fun p q hle hp hq => ?_, fun range hordered => ⟨fun hline => ?_, ?_⟩,
    fun policy invocation candidates c hc edit => Candidate.mem_rank_of_isOrdered hc,
    fun p hreplace hadditional => ⟨?_, fun d a b => ?_⟩⟩
  · have hp := Document.positionToOffset_of_lt hp
    have hq := Document.positionToOffset_of_lt hq
    exact ⟨_, _, hp, hq, Document.positionToOffset_mono hle hp hq⟩
  · obtain ⟨start, stop, -, -, hle, hoffsets⟩ := Document.rangeOffsets_of_lt hordered hline
    exact ⟨start, stop, hoffsets, hle⟩
  · exact Document.rangeOffsets_of_ge
  · exact CompletionProposal.exists_editPlan_eq_ok hadditional
  · exact CompletionProposal.perform_ne_invertedRange hadditional hreplace

/-- A position far behind a CRLF and the start of the line behind it, a line that is not there, an
item whose range ends far behind its line, and a call with edits on two other lines. -/
theorem not_inverted_of_crlf :
    (∃ offset offset', Document.positionToOffset { text := "a\r\nb".toList } ⟨0, 9⟩ = .ok offset ∧
      Document.positionToOffset { text := "a\r\nb".toList } ⟨1, 0⟩ = .ok offset' ∧
        offset ≤ offset') ∧
    Document.rangeOffsets { text := "a\r\nb".toList } ⟨⟨1, 9⟩, ⟨2, 0⟩⟩ =
      .error (.document (.lineOutOfBounds 2 2)) ∧
    (∃ replace, CompletionProposal.secondWord.replaceRange { text := "xs y".toList } 4 =
      .ok replace ∧ replace.start ≤ replace.stop) ∧
    (CompletionProposal.callProposal.perform { text := "a\nfoo\nz".toList }).2 ≠
      .error (.invertedRange 2 1) := by
  obtain ⟨hpositions, hranges, -, -⟩ := not_inverted_of_isOrdered { text := "a\r\nb".toList }
  obtain ⟨-, -, hcandidates, hproposals⟩ := not_inverted_of_isOrdered { text := "xs y".toList }
  obtain ⟨replace, hreplace, hle, -⟩ := hcandidates .sensitive 4 [CompletionProposal.secondWord]
    CompletionProposal.secondWord (by simp) _ rfl (by decide) (by decide)
  have hcall := (hproposals CompletionProposal.callProposal (by decide) (by decide)).2
  exact ⟨hpositions ⟨0, 9⟩ ⟨1, 0⟩ (by decide) (by decide) (by decide),
    (hranges ⟨⟨1, 9⟩, ⟨2, 0⟩⟩ (by decide)).2 (by decide), ⟨replace, hreplace, hle⟩,
    (hcall _ _ _).1⟩

end LanguageClient
