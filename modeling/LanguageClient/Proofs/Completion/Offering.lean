import LanguageClient.Proofs.Completion.Ranking
import LanguageClient.Proofs.Completion.Staleness
import LanguageClient.Proofs.Edit.Stretching
import LanguageClient.Proofs.Snippet.Output
import LanguageClient.Proofs.Text.LineTable
import Mathlib

/-!
# Offered proposals

Candidates are offered only with a part of the snapshot to replace (`Ranked.isWithin_of_mem_rank`),
and nothing else can fail when a proposal without additional edits is applied, wherever that part
lies (`CompletionProposal.apply_ofRanked`). Text typed meanwhile is absorbed where the part contains
the invocation and stays where it does not. The cursor is left in the inserted text, where the
snippet has it or else at the end.
-/

namespace LanguageClient

/-! ## The part to be replaced -/

/-- A range of offsets within a document of the given length. -/
structure ReplaceRange.IsWithin (length : Nat) (r : ReplaceRange) : Prop where
  start_le_stop : r.start ≤ r.stop
  stop_le : r.stop ≤ length

namespace Document

variable {d : Document}

theorem isWithin_of_rangeOffsets {range : Range} {r : ReplaceRange}
    (h : d.rangeOffsets range = .ok r) : r.IsWithin d.length := by
  refine ⟨?_, (le_length_of_rangeOffsets h).2⟩
  obtain ⟨start, -, h⟩ := bind_eq_ok_iff.1 h
  obtain ⟨stop, -, h⟩ := bind_eq_ok_iff.1 h
  dsimp only at h
  split_ifs at h with hinverted
  · cases h
  · obtain rfl := Except.ok.inj h
    exact Nat.not_lt.1 hinverted

theorem identifierStart_le {offset start : Nat} (h : d.identifierStart offset = .ok start) :
    start ≤ offset := by
  obtain ⟨line, -, h⟩ := bind_eq_ok_iff.1 h
  obtain ⟨lineStart, -, h⟩ := bind_eq_ok_iff.1 h
  obtain ⟨before, -, h⟩ := bind_eq_ok_iff.1 h
  obtain rfl := Except.ok.inj h
  exact Nat.sub_le _ _

end Document

/-- Wherever a candidate is to be inserted, it replaces a part of the document. -/
theorem Candidate.isWithin_of_replaceRange {c : Candidate} {d : Document} {invocation : Nat}
    {r : ReplaceRange} (hinvocation : invocation ≤ d.length)
    (h : c.replaceRange d invocation = .ok r) : r.IsWithin d.length := by
  unfold replaceRange at h
  split at h
  · exact Document.isWithin_of_rangeOffsets h
  · obtain ⟨start, hstart, h⟩ := bind_eq_ok_iff.1 h
    obtain rfl := Except.ok.inj h
    exact ⟨Document.identifierStart_le (mapError_eq_ok_iff.1 hstart), hinvocation⟩

theorem Ranked.replaceRange_of_mem_rank {policy : CasePolicy} {d : Document} {invocation : Nat}
    {candidates : List Candidate} {r : Ranked} (h : r ∈ rank policy d invocation candidates) :
    r.candidate ∈ candidates ∧ r.candidate.replaceRange d invocation = .ok r.replace := by
  obtain ⟨c, hc, hranked⟩ := mem_rank.1 h
  have hreplace := replaceRange_of_ofCandidate?_eq_some hranked
  rw [candidate_of_ofCandidate?_eq_some hranked]
  exact ⟨hc, hreplace⟩

/-! ## The line of the invocation -/

namespace CompletionProposal

variable {p : CompletionProposal} {d : Document} {typed : Text}

theorem exists_invocationLineEnd_eq_ok (h : p.invocation ≤ p.snapshot.length) :
    ∃ lineEnd, p.invocationLineEnd = .ok lineEnd := by
  have hline : Text.lineAt p.snapshot.text.lines p.invocation < p.snapshot.lineCount :=
    p.snapshot.text.lineAt_lines_lt h
  have hslice := Document.slice_of_le
    (Text.lineStart_le_lineStart p.snapshot.text.lines (Nat.le_succ _))
    (Text.lineStart_lines_le p.snapshot.text (Text.lineAt p.snapshot.text.lines p.invocation + 1))
  simp only [invocationLineEnd, bind_eq_ok_iff]
  exact ⟨_, _, Document.offsetToLine_of_le h, _, Document.lineOffset_of_lt hline,
    _, Document.lineEndOffset_of_lt hline, _, hslice, rfl⟩

/-! ## Applying a proposal -/

/-- The cursor of a proposal stands in the text to be inserted. -/
theorem cursor_inserted_le :
    p.inserted.cursor.getD p.inserted.text.length ≤ p.inserted.text.length := by
  have hwithin : ∀ offset ∈ p.inserted.cursor, offset ≤ p.inserted.text.length := by
    unfold inserted
    dsimp only
    split_ifs
    · exact (Snippet.resolve_within _).2
    · exact nofun
  cases hmark : p.inserted.cursor with
  | none => exact le_rfl
  | some offset => exact hwithin offset hmark

/-- The edit that puts the inserted text into its place. -/
def primary (p : CompletionProposal) : Edit := ⟨p.replace.start, p.replace.stop, p.inserted.text⟩

/-- The plan that consists of the primary edit. -/
def primaryPlan (p : CompletionProposal) : EditPlan :=
  { primary := p.primary, cursor := p.inserted.cursor }

theorem editPlan_of_alone (h : p.candidate.item.additionalTextEdits.getD [] = []) :
    p.editPlan = .ok p.primaryPlan := by
  rw [editPlan, h]
  rfl

theorem cursorInPrimary_primaryPlan :
    p.primaryPlan.cursorInPrimary = p.inserted.cursor.getD p.inserted.text.length := by
  rw [EditPlan.cursorInPrimary_eq]
  exact Nat.min_eq_left cursor_inserted_le

theorem apply_eq_of_perform {d' : Document} {cursor : Nat} (h : p.perform d = (d', .ok cursor)) :
    p.apply d = .ok (d', cursor) := by
  rw [apply, h]
  rfl

/-- A proposal without additional edits does what its primary edit does. -/
theorem perform_of_alone (hinvocation : p.invocation ≤ p.snapshot.length)
    (hreplace : p.replace.IsWithin p.snapshot.length)
    (halone : p.candidate.item.additionalTextEdits.getD [] = [])
    (hd : d.text = p.snapshot.text.splice p.invocation p.invocation typed)
    (hmax : d.length ≤ Document.maxOffset) : p.perform d =
      ({ d with
          text := p.primary.textWithTyping p.invocation p.snapshot.text typed
          stamp := d.stamp + 1 },
        .ok ((p.primary.stretched p.invocation typed.length).start +
          p.inserted.cursor.getD p.inserted.text.length)) := by
  obtain ⟨lineEnd, hline⟩ := exists_invocationLineEnd_eq_ok hinvocation
  have hplan : p.driftedPlan d typed.length [] =
      p.primaryPlan.withDrift ⟨p.invocation, lineEnd, typed.length, typed.length⟩ := by
    rw [driftedPlan_of_typed hinvocation hd, hline, editPlan_of_alone halone]
    rfl
  rw [perform_of_typed hinvocation hd, hplan, EditPlan.attempt_withDrift_of_alone rfl rfl rfl hd
    hmax hinvocation hreplace.start_le_stop hreplace.stop_le, cursorInPrimary_primaryPlan]
  rfl

/-- **Every offered proposal without additional edits can be applied, and what was typed is absorbed
or kept.** The document is the snapshot with any text typed at the invocation. The part from `start`
to `stop`, which the candidate replaces, may lie anywhere in the snapshot; it gives way to `new`.
What was typed inside or at an end of it is gone, and what was typed elsewhere is still there, where
the invocation has gone. The cursor stands behind the new start, as far as the snippet says or else
at the end of the inserted text, and never behind the end of the document. The offsets of the
document fit a machine word. -/
theorem apply_ofRanked {policy : CasePolicy} {snapshot : Document} {invocation start stop : Nat}
    {candidates : List Candidate} {r : Ranked} {new : Text} {mark : Option Nat}
    (hinvocation : invocation ≤ snapshot.length)
    (hoffered : r ∈ rank policy snapshot invocation candidates)
    (halone : r.candidate.item.additionalTextEdits.getD [] = [])
    (hreplace : r.replace = ⟨start, stop⟩)
    (hinserted : (ofRanked r snapshot invocation).inserted = ⟨new, mark⟩)
    (hd : d.text = snapshot.text.splice invocation invocation typed)
    (hmax : d.length ≤ Document.maxOffset) :
    r.candidate.replaceRange snapshot invocation = .ok ⟨start, stop⟩ ∧
      ∃ d' cursor, (ofRanked r snapshot invocation).apply d = .ok (d', cursor) ∧
        d'.text =
          (if stop < invocation ∨ invocation < start then
            let image := TextChange.place ⟨start, stop - start, new.length⟩ invocation
            (snapshot.text.splice start stop new).splice image image typed
          else snapshot.text.splice start stop new) ∧
        cursor = (if invocation < start then start + typed.length else start) +
          mark.getD new.length ∧
        cursor ≤ d'.length := by
  obtain ⟨candidate, matchClass, replace⟩ := r
  obtain rfl : replace = ⟨start, stop⟩ := hreplace
  have hrange := (Ranked.replaceRange_of_mem_rank hoffered).2
  have hwithin := Candidate.isWithin_of_replaceRange hinvocation hrange
  have hperform := perform_of_alone (p := ofRanked ⟨candidate, matchClass, ⟨start, stop⟩⟩ snapshot
    invocation) hinvocation hwithin halone hd hmax
  have hcursor := cursor_inserted_le (p := ofRanked ⟨candidate, matchClass, ⟨start, stop⟩⟩ snapshot
    invocation)
  simp only [primary, hinserted] at hperform hcursor
  obtain ⟨hle, hstop⟩ := hwithin
  refine ⟨hrange, _, _, apply_eq_of_perform hperform, rfl, rfl, ?_⟩
  exact Edit.start_stretched_add_le (e := ⟨start, stop, new⟩) typed hle hstop hinvocation hcursor

/-- A snippet that takes the place of the first word, whatever stands behind it. -/
def firstWord : Candidate where
  item :=
    { label := "if"
      filterText := some "le x"
      insertTextFormat := some Candidate.snippetFormat
      textEdit := some
        (.insertOrReplace "if($0)" ⟨⟨0, 0⟩, ⟨0, 2⟩⟩ ⟨⟨0, 0⟩, ⟨0, 4⟩⟩) }
  server := "server"
  position := ⟨0, 0⟩

/-- A text that takes the place of the second word, with an end far behind the line. -/
def secondWord : Candidate where
  item :=
    { label := "xs"
      textEdit := some (.single ⟨⟨⟨0, 3⟩, ⟨0, 99⟩⟩, "xs"⟩) }
  server := "server"
  position := ⟨0, 1⟩

/-- Typed text stays behind the replaced part and in front of it, and is gone inside. -/
theorem apply_ofRanked_of_two_words :
    (∃ d' cursor, (ofRanked ⟨firstWord, .exactPrefix, ⟨0, 2⟩⟩ { text := "le x".toList } 4).apply
      { text := "le xyz".toList, stamp := 2 } = .ok (d', cursor) ∧
        d'.text = "if() xyz".toList ∧ cursor = 3) ∧
    (∃ d' cursor, (ofRanked ⟨secondWord, .exactPrefix, ⟨3, 4⟩⟩ { text := "le x".toList } 1).apply
      { text := "lqe x".toList, stamp := 1 } = .ok (d', cursor) ∧
        d'.text = "lqe xs".toList ∧ cursor = 6) ∧
    ∃ d' cursor, (ofRanked ⟨secondWord, .exactPrefix, ⟨3, 4⟩⟩ { text := "le x".toList } 4).apply
      { text := "le xyz".toList, stamp := 2 } = .ok (d', cursor) ∧
        d'.text = "le xs".toList ∧ cursor = 5 := by
  have hfirst : Ranked.ofCandidate? .sensitive { text := "le x".toList } 4 firstWord =
      some ⟨firstWord, .exactPrefix, ⟨0, 2⟩⟩ := by cbv
  have hsecond : Ranked.ofCandidate? .sensitive { text := "le x".toList } 1 secondWord =
      some ⟨secondWord, .exactPrefix, ⟨3, 4⟩⟩ := by cbv
  have hsecond' : Ranked.ofCandidate? .sensitive { text := "le x".toList } 4 secondWord =
      some ⟨secondWord, .exactPrefix, ⟨3, 4⟩⟩ := by cbv
  refine ⟨?_, ?_, ?_⟩
  · obtain ⟨-, d', cursor, happly, htext, hcursor, -⟩ :=
      @apply_ofRanked { text := "le xyz".toList, stamp := 2 } "yz".toList .sensitive
        { text := "le x".toList } 4 0 2 [secondWord, firstWord] ⟨firstWord, .exactPrefix, ⟨0, 2⟩⟩
        "if()".toList (some 3) (by decide) (mem_rank.2 ⟨firstWord, by simp, hfirst⟩) rfl rfl
        (by cbv) (by decide) (by decide)
    exact ⟨d', cursor, happly, htext.trans (by decide), hcursor⟩
  · obtain ⟨-, d', cursor, happly, htext, hcursor, -⟩ :=
      @apply_ofRanked { text := "lqe x".toList, stamp := 1 } "q".toList .sensitive
        { text := "le x".toList } 1 3 4 [secondWord] ⟨secondWord, .exactPrefix, ⟨3, 4⟩⟩
        "xs".toList none (by decide) (mem_rank.2 ⟨secondWord, by simp, hsecond⟩) rfl rfl
        (by cbv) (by decide) (by decide)
    exact ⟨d', cursor, happly, htext.trans (by decide), hcursor⟩
  · obtain ⟨-, d', cursor, happly, htext, hcursor, -⟩ :=
      @apply_ofRanked { text := "le xyz".toList, stamp := 2 } "yz".toList .sensitive
        { text := "le x".toList } 4 3 4 [secondWord] ⟨secondWord, .exactPrefix, ⟨3, 4⟩⟩
        "xs".toList none (by decide) (mem_rank.2 ⟨secondWord, by simp, hsecond'⟩) rfl rfl
        (by cbv) (by decide) (by decide)
    exact ⟨d', cursor, happly, htext.trans (by decide), hcursor⟩

end CompletionProposal

end LanguageClient
