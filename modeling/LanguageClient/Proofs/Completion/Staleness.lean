import LanguageClient.Proofs.Completion.Typing
import LanguageClient.Proofs.Document.PositionOrder
import LanguageClient.Proofs.Edit.Atomicity
import LanguageClient.Proofs.Text.LineTable
import Mathlib

/-!
# Stale proposals

A proposal is stale for a document that is not its snapshot with some text inserted at the
invocation, and for no other one (`CompletionProposal.perform_eq_staleSnapshot_iff`). What may go
wrong later, when the edits are located, moved and made, is never taken for staleness: the edits
stay within the document, so that moving them loses no offset (`EditPlan.withDrift_ne_staleSnapshot`),
and all other errors are of another kind. Whatever the error is, the document stays as it is.
-/

namespace LanguageClient

/-! ## Offsets of positions -/

namespace Document

variable {d : Document}

/-- A position stands for an offset within the document. -/
theorem le_length_of_positionToOffset {p : Position} {offset : Nat}
    (h : d.positionToOffset p = .ok offset) : offset ≤ d.length :=
  (lineStart_le_of_positionToOffset h).2.trans (Text.lineStart_lines_le _ _)

theorem le_length_of_rangeOffsets {range : Range} {r : ReplaceRange}
    (h : d.rangeOffsets range = .ok r) : r.start ≤ d.length ∧ r.stop ≤ d.length := by
  obtain ⟨start, hstart, h⟩ := bind_eq_ok_iff.1 h
  obtain ⟨stop, hstop, h⟩ := bind_eq_ok_iff.1 h
  dsimp only at h
  split_ifs at h
  · cases h
  · obtain rfl := Except.ok.inj h
    exact ⟨le_length_of_positionToOffset (mapError_eq_ok_iff.1 hstart),
      le_length_of_positionToOffset (mapError_eq_ok_iff.1 hstop)⟩

theorem mapError_ne_error {α : Type} (x : Except DocumentError α) {cause : EditError}
    (h : ∀ refusal, cause ≠ .document refusal) : x.mapError EditError.document ≠ .error cause := by
  cases x with
  | error refusal => exact fun heq => h refusal (Except.error.inj heq).symm
  | ok _ => exact nofun

theorem rangeOffsets_ne_staleSnapshot (range : Range) :
    d.rangeOffsets range ≠ .error .staleSnapshot := by
  refine bind_ne_error (mapError_ne_error _ nofun) fun start _ => ?_
  refine bind_ne_error (mapError_ne_error _ nofun) fun stop _ => ?_
  dsimp only
  split_ifs <;> exact nofun

end Document

/-! ## Moving edits within a document -/

/-- An edit both of whose offsets can be moved by `count` without leaving a machine word. -/
def Edit.Fits (count : Nat) (e : Edit) : Prop :=
  e.start + count ≤ Document.maxOffset ∧ e.stop + count ≤ Document.maxOffset

namespace EditPlan

variable {d : Drift} (hgrowth : d.growth = d.typed)

include hgrowth

theorem map_ne_staleSnapshot {offset : Nat} (h : offset + d.typed ≤ Document.maxOffset) :
    d.map offset ≠ .error .staleSnapshot := by
  rcases Nat.lt_or_ge offset d.invocation with hlt | hle
  · rw [Drift.map_of_lt hlt]
    exact nofun
  · rw [Drift.map_of_le hgrowth hle h]
    exact nofun

/-- Edits that stay within the document can be moved, or overlap what was typed. -/
theorem withDrift_ne_staleSnapshot {p : EditPlan} (hprimary : p.primary.Fits d.typed)
    (hadditional : ∀ e ∈ p.additional, e.Fits d.typed) :
    p.withDrift d ≠ .error .staleSnapshot := by
  have hmap : ∀ {e : Edit}, e.Fits d.typed →
      d.map e.start ≠ .error .staleSnapshot ∧ d.map e.stop ≠ .error .staleSnapshot := fun h =>
    ⟨map_ne_staleSnapshot hgrowth h.1, map_ne_staleSnapshot hgrowth h.2⟩
  exact withDrift_ne_error nofun (hmap hprimary) fun e he => hmap (hadditional e he)

omit hgrowth in
theorem perform_ne_staleSnapshot (p : EditPlan) (d : Document) :
    (p.perform d).2 ≠ .error .staleSnapshot := fun h =>
  isAboutEdits_of_check (check_eq_error_of_perform h).1

omit hgrowth in
/-- A plan that cannot be made is the only thing that can be stale about an attempt. -/
theorem attempt_eq_staleSnapshot_iff {d : Document} {plan : Except EditError EditPlan} :
    (attempt d plan).2 = .error .staleSnapshot ↔ plan = .error .staleSnapshot := by
  cases plan with
  | error cause => simp [attempt]
  | ok p => simpa [attempt] using p.perform_ne_staleSnapshot d

omit hgrowth in
/-- An attempt that fails leaves the document as it is. -/
theorem fst_attempt_of_error {d : Document} {plan : Except EditError EditPlan} {cause : EditError}
    (h : (attempt d plan).2 = .error cause) : (attempt d plan).1 = d := by
  cases plan with
  | error cause' => rfl
  | ok p => exact (check_eq_error_of_perform h).2

end EditPlan

namespace CompletionProposal

variable {p : CompletionProposal} {d : Document}

/-! ## Locating the edits -/

theorem editPlan_ne_staleSnapshot : p.editPlan ≠ .error .staleSnapshot := by
  refine bind_ne_error (mapM_ne_error fun edit _ => ?_) fun _ _ => nofun
  exact bind_ne_error (Document.rangeOffsets_ne_staleSnapshot _) fun _ _ => nofun

/-- The additional edits lie in the snapshot. -/
theorem le_length_of_editPlan {plan : EditPlan} (h : p.editPlan = .ok plan) :
    ∀ e ∈ plan.additional, e.start ≤ p.snapshot.length ∧ e.stop ≤ p.snapshot.length := by
  obtain ⟨additional, hadditional, h⟩ := bind_eq_ok_iff.1 h
  obtain rfl := Except.ok.inj h
  intro e he
  obtain ⟨edit, -, hedit⟩ := exists_of_mem_of_mapM_eq_ok hadditional he
  obtain ⟨range, hrange, hedit⟩ := bind_eq_ok_iff.1 hedit
  obtain rfl := Except.ok.inj hedit
  exact Document.le_length_of_rangeOffsets hrange

/-! ## Recognising what was typed -/

section Recognised

variable (hinvocation : p.invocation ≤ p.snapshot.length)

include hinvocation

/-- A document is the snapshot with text inserted if and only if it agrees with the snapshot in
front of the text and behind it. -/
theorem exists_typed_iff {count : Nat} (hlength : d.length = p.snapshot.length + count) :
    (∃ typed : Text, typed.length = count ∧
      d.text = p.snapshot.text.splice p.invocation p.invocation typed) ↔
    d.text.take p.invocation = p.snapshot.text.take p.invocation ∧
      d.text.drop (p.invocation + count) = p.snapshot.text.drop p.invocation := by
  constructor
  · rintro ⟨typed, rfl, hd⟩
    rw [hd]
    exact ⟨Text.take_splice_of_le typed le_rfl hinvocation, Text.drop_splice_self typed hinvocation⟩
  · rintro ⟨hbefore, hafter⟩
    refine ⟨(d.text.drop p.invocation).take count, ?_, ?_⟩
    · dsimp only [Document.length] at *
      simp
      omega
    · rw [Text.splice, ← hbefore, ← hafter, ← List.drop_drop, List.take_append_drop,
        List.take_append_drop]

theorem isSnapshotWithTyping_eq {count : Nat} (hlength : d.length = p.snapshot.length + count) :
    p.isSnapshotWithTyping d count = .ok (d.text.take p.invocation ==
      p.snapshot.text.take p.invocation &&
        d.text.drop (p.invocation + count) == p.snapshot.text.drop p.invocation) := by
  rw [isSnapshotWithTyping, Document.slice_of_le (Nat.zero_le _) (by omega),
    Document.slice_of_le (Nat.zero_le _) hinvocation, Document.slice_of_le (by omega) le_rfl,
    Document.slice_of_le hinvocation le_rfl, Text.slice_zero, Text.slice_zero, Document.length,
    Document.length, Text.slice_length, Text.slice_length]
  rfl

/-- **A drift is found for what was typed, and for nothing else.** -/
theorem typedDrift_eq_staleSnapshot_iff {count : Nat} :
    p.typedDrift d count = .error .staleSnapshot ↔ ¬ ∃ typed : Text, typed.length = count ∧
      d.text = p.snapshot.text.splice p.invocation p.invocation typed := by
  constructor
  · rintro h ⟨typed, rfl, hd⟩
    rw [typedDrift_of_typed hinvocation hd] at h
    revert h
    cases p.invocationLineEnd <;> exact nofun
  · intro hnot
    rw [typedDrift]
    by_cases hgrowth : p.growth d = count
    · have hlength : d.length = p.snapshot.length + count := by
        rw [growth] at hgrowth
        omega
      rw [exists_typed_iff hinvocation hlength, ← beq_iff_eq, ← beq_iff_eq (a := d.text.drop _),
        ← Bool.and_eq_true, Bool.not_eq_true] at hnot
      rw [isSnapshotWithTyping_eq hinvocation hlength, hnot]
      simp [hgrowth, Except.mapError, bind, Except.bind, throw, throwThe, MonadExceptOf.throw]
    · simp [hgrowth, bind, Except.bind, throw, throwThe, MonadExceptOf.throw]

/-! ## Stale proposals -/

/-- What is behind the drift makes no proposal stale. -/
theorem driftedPlan_eq_staleSnapshot_iff (hlength : d.length < 2 ^ 63)
    (hreplace : p.replace.start < 2 ^ 63 ∧ p.replace.stop < 2 ^ 63) {count : Nat}
    {committed : Text} :
    p.driftedPlan d count committed = .error .staleSnapshot ↔
      ¬ ∃ typed : Text, typed.length = count ∧
        d.text = p.snapshot.text.splice p.invocation p.invocation typed := by
  rw [← typedDrift_eq_staleSnapshot_iff hinvocation]
  constructor
  · contrapose!
    intro hdrift
    refine bind_ne_error hdrift fun drift hok => ?_
    obtain ⟨typed, rfl, hd⟩ := not_not.1 ((typedDrift_eq_staleSnapshot_iff hinvocation).not.1 hdrift)
    have hlong := length_of_typed hinvocation hd
    rw [typedDrift_of_typed hinvocation hd] at hok
    obtain ⟨lineEnd, -, rfl⟩ := map_eq_ok_iff.1 hok
    refine bind_ne_error editPlan_ne_staleSnapshot fun plan hplan => ?_
    obtain ⟨hstart, hstop⟩ := primary_of_editPlan hplan
    have hmax : Document.maxOffset = 2 ^ 64 - 1 := rfl
    refine EditPlan.withDrift_ne_staleSnapshot rfl ?_ fun e he => ?_
    · simp only [Edit.Fits, hstart, hstop]
      omega
    · have := le_length_of_editPlan hplan e he
      simp only [Edit.Fits]
      omega
  · intro hdrift
    rw [driftedPlan, hdrift]
    rfl

end Recognised

/-! ## Stale documents -/

theorem fst_perform_of_error {cause : EditError} (h : (p.perform d).2 = .error cause) :
    (p.perform d).1 = d := by
  rw [perform] at h ⊢
  split_ifs at h ⊢
  · rfl
  · exact EditPlan.fst_attempt_of_error h

theorem fst_performWithTyping_of_error {trigger : Option Char} {offset : Nat} {cause : EditError}
    (h : (p.performWithTyping d trigger offset).2 = .error cause) :
    (p.performWithTyping d trigger offset).1 = d := by
  rw [performWithTyping] at h ⊢
  split_ifs at h ⊢
  · rfl
  · exact EditPlan.fst_attempt_of_error h

/-- **A proposal is stale for exactly those documents that are not its snapshot with some text
inserted at the invocation.** If an offset is given, the text has to end there; where it does, the
offset makes no difference. Whatever the error is, the document keeps its text and its stamp. All
lengths and offsets lie below `2 ^ 63`. -/
theorem perform_eq_staleSnapshot_iff (p : CompletionProposal) (d : Document)
    (hinvocation : p.invocation ≤ p.snapshot.length) (hlength : d.length < 2 ^ 63)
    (hreplace : p.replace.start < 2 ^ 63 ∧ p.replace.stop < 2 ^ 63) :
    ((p.perform d).2 = .error .staleSnapshot ↔ ¬ ∃ typed : Text,
        d.text = p.snapshot.text.splice p.invocation p.invocation typed) ∧
      (∀ trigger offset, (p.performWithTyping d trigger offset).2 = .error .staleSnapshot ↔
        offset < p.invocation ∨ ¬ ∃ typed : Text, typed.length = offset - p.invocation ∧
          d.text = p.snapshot.text.splice p.invocation p.invocation typed) ∧
      (∀ typed : Text, d.text = p.snapshot.text.splice p.invocation p.invocation typed →
        p.performWithTyping d none (p.invocation + typed.length) = p.perform d) ∧
      (∀ cause, (p.perform d).2 = .error cause → (p.perform d).1 = d) ∧
      ∀ trigger offset cause, (p.performWithTyping d trigger offset).2 = .error cause →
        (p.performWithTyping d trigger offset).1 = d := by
  refine ⟨?_, fun trigger offset => ?_, fun typed hd => ?_, fun cause => fst_perform_of_error,
    fun trigger offset cause => fst_performWithTyping_of_error⟩
  · by_cases hgrowth : p.growth d < 0
    · have hnot : ¬ ∃ typed : Text,
          d.text = p.snapshot.text.splice p.invocation p.invocation typed := by
        rintro ⟨typed, hd⟩
        rw [growth_of_typed hinvocation hd] at hgrowth
        omega
      simp [perform, hgrowth, hnot]
    · rw [perform, if_neg hgrowth, EditPlan.attempt_eq_staleSnapshot_iff,
        driftedPlan_eq_staleSnapshot_iff hinvocation hlength hreplace, not_iff_not]
      constructor
      · rintro ⟨typed, -, hd⟩
        exact ⟨typed, hd⟩
      · rintro ⟨typed, hd⟩
        exact ⟨typed, by rw [growth_of_typed hinvocation hd, Int.toNat_natCast], hd⟩
  · by_cases hoffset : offset < p.invocation
    · simp [performWithTyping, hoffset]
    · rw [performWithTyping, if_neg hoffset, EditPlan.attempt_eq_staleSnapshot_iff,
        driftedPlan_eq_staleSnapshot_iff hinvocation hlength hreplace, or_iff_right hoffset]
  · rw [performWithTyping_of_typed, perform_of_typed hinvocation hd]

/-- A change of one character in front of typed text makes a proposal stale, and so does an offset
behind the end of what was typed. -/
theorem perform_eq_staleSnapshot_of_change :
    (callProposal.perform { text := "a\nfuo\nz".toList }).2 = .error .staleSnapshot ∧
      (¬ ∃ typed : Text, "a\nfuo\nz".toList = Text.splice "a\nfo\nz".toList 4 4 typed) ∧
      (callProposal.performWithTyping { text := "a\nfoo\nz".toList, stamp := 3 } none 6).2 =
        .error .staleSnapshot ∧
      (callProposal.performWithTyping { text := "a\nfoo\nz".toList, stamp := 3 } none 6).1 =
        { text := "a\nfoo\nz".toList, stamp := 3 } ∧
      callProposal.performWithTyping { text := "a\nfoo\nz".toList, stamp := 3 } none 5 =
        callProposal.perform { text := "a\nfoo\nz".toList, stamp := 3 } := by
  have hchanged := perform_eq_staleSnapshot_iff callProposal { text := "a\nfuo\nz".toList }
    (by decide) (by decide) (by decide)
  have htyped := perform_eq_staleSnapshot_iff callProposal
    { text := "a\nfoo\nz".toList, stamp := 3 } (by decide) (by decide) (by decide)
  have hstale : (callProposal.perform { text := "a\nfuo\nz".toList }).2 =
      .error .staleSnapshot := by cbv
  have hbehind : (callProposal.performWithTyping { text := "a\nfoo\nz".toList, stamp := 3 } none
      6).2 = .error .staleSnapshot := by cbv
  exact ⟨hstale, hchanged.1.1 hstale, hbehind, htyped.2.2.2.2 none 6 _ hbehind,
    htyped.2.2.1 "o".toList rfl⟩

end CompletionProposal

end LanguageClient
