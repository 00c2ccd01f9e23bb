import LanguageClient.Completion.Proposal
import LanguageClient.Proofs.Edit.Drift

/-!
# Typing while a proposal is open

A document with text typed at the invocation is recognised as the snapshot with that text
(`CompletionProposal.typedDrift_of_typed`), and applying the proposal to it makes the same text as
applying it to the snapshot, with the cursor at the same place
(`CompletionProposal.perform_absorbs_typing`).
-/

namespace LanguageClient

namespace Text

theorem slice_zero (t : Text) (stop : Nat) : t.slice 0 stop = t.take stop := rfl

theorem slice_length (t : Text) (start : Nat) : t.slice start t.length = t.drop start := by
  rw [slice, List.take_of_length_le (by simp)]

end Text

namespace CompletionProposal

variable {p : CompletionProposal} {d : Document} {typed : Text}

theorem primary_of_editPlan {plan : EditPlan} (h : p.editPlan = .ok plan) :
    plan.primary.start = p.replace.start ∧ plan.primary.stop = p.replace.stop := by
  obtain ⟨additional, -, h⟩ := bind_eq_ok_iff.1 h
  obtain rfl := Except.ok.inj h
  exact ⟨rfl, rfl⟩

/-! ## Recognising typed text -/

section Typed

variable (hinvocation : p.invocation ≤ p.snapshot.length)
  (hd : d.text = p.snapshot.text.splice p.invocation p.invocation typed)

include hinvocation hd

theorem length_of_typed : d.length = p.snapshot.length + typed.length := by
  rw [Document.length, hd, Text.length_splice_self typed hinvocation, Document.length]

theorem growth_of_typed : p.growth d = typed.length := by
  rw [growth, length_of_typed hinvocation hd]
  omega

theorem isSnapshotWithTyping_of_typed : p.isSnapshotWithTyping d typed.length = .ok true := by
  have hlength := length_of_typed hinvocation hd
  have hafter : d.text.slice (p.invocation + typed.length) d.length =
      p.snapshot.text.slice p.invocation p.snapshot.length := by
    rw [Document.length, Document.length, Text.slice_length, Text.slice_length, hd,
      Text.drop_splice_self typed hinvocation]
  have hbefore : d.text.slice 0 p.invocation = p.snapshot.text.slice 0 p.invocation := by
    rw [Text.slice_zero, Text.slice_zero, hd, Text.take_splice_of_le typed le_rfl hinvocation]
  rw [isSnapshotWithTyping, Document.slice_of_le (Nat.zero_le _) (by omega),
    Document.slice_of_le (Nat.zero_le _) hinvocation, Document.slice_of_le (by omega) le_rfl,
    Document.slice_of_le hinvocation le_rfl, hafter, hbefore]
  simp [bind, Except.bind, pure, Except.pure]

/-- Text typed at the invocation is recognised. -/
theorem typedDrift_of_typed : p.typedDrift d typed.length =
    (p.invocationLineEnd.mapError .document).map fun lineEnd =>
      ⟨p.invocation, lineEnd, typed.length, typed.length⟩ := by
  have hgrowth := growth_of_typed hinvocation hd
  rw [typedDrift, isSnapshotWithTyping_of_typed hinvocation hd]
  cases p.invocationLineEnd <;>
    simp [hgrowth, Except.mapError, Except.map, bind, Except.bind, pure, Except.pure]

theorem perform_of_typed :
    p.perform d = EditPlan.attempt d (p.driftedPlan d typed.length []) := by
  rw [perform, growth_of_typed hinvocation hd, if_neg (by omega), Int.toNat_natCast]

/-- The edits are those of the snapshot, moved behind the typed text. -/
theorem driftedPlan_of_typed : p.driftedPlan d typed.length [] =
    (p.invocationLineEnd.mapError .document).bind fun lineEnd =>
      p.editPlan.bind fun plan =>
        plan.withDrift ⟨p.invocation, lineEnd, typed.length, typed.length⟩ := by
  rw [driftedPlan, typedDrift_of_typed hinvocation hd]
  cases p.invocationLineEnd with
  | error cause => rfl
  | ok lineEnd => simp [Except.mapError, Except.map, bind, Except.bind]

theorem result?_perform_of_lineEnd_eq_error {cause : DocumentError}
    (hline : p.invocationLineEnd = .error cause) : EditPlan.result? (p.perform d) = none := by
  rw [perform_of_typed hinvocation hd, driftedPlan_of_typed hinvocation hd, hline]
  rfl

theorem result?_perform_of_editPlan_eq_error {lineEnd : Nat} {cause : EditError}
    (hline : p.invocationLineEnd = .ok lineEnd) (hplan : p.editPlan = .error cause) :
    EditPlan.result? (p.perform d) = none := by
  rw [perform_of_typed hinvocation hd, driftedPlan_of_typed hinvocation hd, hline, hplan]
  rfl

omit hinvocation hd in
theorem performWithTyping_of_typed :
    p.performWithTyping d none (p.invocation + typed.length) =
      EditPlan.attempt d (p.driftedPlan d typed.length []) := by
  rw [performWithTyping, if_neg (by omega), Nat.add_sub_cancel_left]
  rfl

end Typed

/-! ## Absorbing typed text -/

/-- On a document with typed text the proposal does what its edits do on the document without. -/
theorem result?_perform_of_typed {d₀ : Document} {plan : EditPlan} {lineEnd : Nat}
    (hinvocation : p.invocation ≤ p.snapshot.length)
    (hstart : p.replace.start ≤ p.invocation) (hstop : p.invocation ≤ p.replace.stop)
    (hd₀ : d₀.text = p.snapshot.text)
    (hd : d.text = p.snapshot.text.splice p.invocation p.invocation typed)
    (hmax : d.length ≤ Document.maxOffset) (hline : p.invocationLineEnd = .ok lineEnd)
    (hplan : p.editPlan = .ok plan) :
    EditPlan.result? (p.perform d) = EditPlan.result? (plan.perform d₀) := by
  obtain ⟨hstart', hstop'⟩ := primary_of_editPlan hplan
  have hdrifted : p.driftedPlan d typed.length [] =
      plan.withDrift ⟨p.invocation, lineEnd, typed.length, typed.length⟩ := by
    rw [driftedPlan_of_typed hinvocation hd, hline, hplan]
    rfl
  rw [perform_of_typed hinvocation hd, hdrifted]
  refine EditPlan.result?_attempt_withDrift rfl rfl ?_ hmax ?_ ?_ ?_
  · rw [hd, hd₀]
  · rwa [Document.length, hd₀]
  · rwa [hstart']
  · rwa [hstop']

/-- **Typed text is absorbed and changes nothing else.** The replaced part of the snapshot contains
the invocation. On any document that is the snapshot with text typed there, the proposal leaves the
text and the cursor that it leaves on the snapshot itself, whether the end of the typed text is
given or not. It fails if and only if it fails on the snapshot, and then leaves the document as it
is. The offsets of the document fit a machine word. -/
theorem perform_absorbs_typing {d₀ : Document} (hinvocation : p.invocation ≤ p.snapshot.length)
    (hstart : p.replace.start ≤ p.invocation) (hstop : p.invocation ≤ p.replace.stop)
    (hd₀ : d₀.text = p.snapshot.text)
    (hd : d.text = p.snapshot.text.splice p.invocation p.invocation typed)
    (hmax : d.length ≤ Document.maxOffset) :
    p.performWithTyping d none (p.invocation + typed.length) = p.perform d ∧
      EditPlan.result? (p.perform d) = EditPlan.result? (p.perform d₀) ∧
      (EditPlan.result? (p.perform d₀) = none →
        (p.perform d).1 = d ∧ (p.perform d₀).1 = d₀) := by
  have hd₀' : d₀.text = p.snapshot.text.splice p.invocation p.invocation [] := by
    rw [hd₀, Text.splice_self]
  have hmax₀ : d₀.length ≤ Document.maxOffset := by
    have hlength := length_of_typed hinvocation hd
    have hlength₀ := length_of_typed hinvocation hd₀'
    simp only [List.length_nil] at hlength₀
    omega
  have hresult : EditPlan.result? (p.perform d) = EditPlan.result? (p.perform d₀) := by
    cases hline : p.invocationLineEnd with
    | error cause =>
      rw [result?_perform_of_lineEnd_eq_error hinvocation hd hline,
        result?_perform_of_lineEnd_eq_error hinvocation hd₀' hline]
    | ok lineEnd =>
      cases hplan : p.editPlan with
      | error cause =>
        rw [result?_perform_of_editPlan_eq_error hinvocation hd hline hplan,
          result?_perform_of_editPlan_eq_error hinvocation hd₀' hline hplan]
      | ok plan =>
        rw [result?_perform_of_typed hinvocation hstart hstop hd₀ hd hmax hline hplan,
          result?_perform_of_typed hinvocation hstart hstop hd₀ hd₀' hmax₀ hline hplan]
  refine ⟨?_, hresult, fun hnone => ⟨?_, ?_⟩⟩
  · rw [performWithTyping_of_typed, perform_of_typed hinvocation hd]
  · rw [← hresult, perform_of_typed hinvocation hd] at hnone
    rw [perform_of_typed hinvocation hd]
    exact EditPlan.fst_attempt_of_result?_eq_none hnone
  · rw [perform_of_typed hinvocation hd₀'] at hnone ⊢
    exact EditPlan.fst_attempt_of_result?_eq_none hnone

/-- A call to be inserted for `fo`, with edits on the line in front of it and on the one behind. -/
def callProposal : CompletionProposal where
  candidate :=
    { item :=
        { label := "foo"
          insertText := some "foo($0)"
          insertTextFormat := some Candidate.snippetFormat
          additionalTextEdits := some
            [⟨⟨⟨2, 0⟩, ⟨2, 1⟩⟩, "w"⟩, ⟨⟨⟨0, 0⟩, ⟨0, 0⟩⟩, "use b\n"⟩] }
      server := "server"
      position := ⟨0, 0⟩ }
  matchClass := .exactPrefix
  snapshot := { text := "a\nfo\nz".toList }
  invocation := 4
  replace := ⟨2, 4⟩

/-- Typing on and breaking the line is absorbed, with the cursor between the parentheses. -/
theorem perform_absorbs_line_break :
    callProposal.performWithTyping { text := "a\nfoo\n\nz".toList, stamp := 2 } none 6 =
        callProposal.perform { text := "a\nfoo\n\nz".toList, stamp := 2 } ∧
      EditPlan.result? (callProposal.perform { text := "a\nfoo\n\nz".toList, stamp := 2 }) =
        some ("use b\na\nfoo()\nw".toList, 12) := by
  have h := @perform_absorbs_typing callProposal { text := "a\nfoo\n\nz".toList, stamp := 2 }
    "o\n".toList callProposal.snapshot (by decide) (by decide) (by decide) rfl (by decide) (by decide)
  have hsnapshot : EditPlan.result? (callProposal.perform callProposal.snapshot) =
      some ("use b\na\nfoo()\nw".toList, 12) := by cbv
  exact ⟨h.1, h.2.1.trans hsnapshot⟩

end CompletionProposal

end LanguageClient
