import LanguageClient.Completion.Proposal
import LanguageClient.Proofs.StableSort
import Mathlib

/-!
# Styles, character by character

A label that is made bold part by part stays laid out in style ranges that hold at least one
character, lie in its text and follow each other (`StyledLabel.IsLaidOut`). Each step makes just the
characters of its part bold, besides those that are so already (`StyledLabel.isBoldAt_withBold`). A
new range is struck out as a whole if any range in its place was. As a label is either struck out
from end to end or not at all, this loses no strike-through and adds none
(`StyledLabel.isStruckAt_withBold`). So every character looks as was asked for, whatever the order
of the steps (`StyledLabel.styles_of_withBolds`).
-/

namespace LanguageClient

namespace StyleRange

/-- Whether the character at an offset lies in a style range. -/
def Covers (r : StyleRange) (i : Nat) : Prop := r.start ≤ i ∧ i < r.stop

/-- Whether a style range is a part of another one and styled like it. -/
structure IsPieceOf (piece r : StyleRange) : Prop where
  bold_eq : piece.bold = r.bold
  strikeout_eq : piece.strikeout = r.strikeout
  start_le : r.start ≤ piece.start
  stop_le : piece.stop ≤ r.stop
  length_pos : 0 < r.length → 0 < piece.length

theorem IsPieceOf.covers {piece r : StyleRange} (h : piece.IsPieceOf r) {i : Nat}
    (hcovers : piece.Covers i) : r.Covers i :=
  ⟨h.start_le.trans hcovers.1, hcovers.2.trans_le h.stop_le⟩

end StyleRange

namespace StyledLabel

/-! ## What is left of a range -/

section Outside

variable {start stop i : Nat} {piece r : StyleRange}

theorem mem_outside : piece ∈ outside start stop r ↔
    (r.stop ≤ start ∨ stop ≤ r.start) ∧ piece = r ∨
    ¬ (r.stop ≤ start ∨ stop ≤ r.start) ∧
      (r.start < start ∧ piece = { r with length := start - r.start } ∨
        stop < r.stop ∧ piece = { r with start := stop, length := r.stop - stop }) := by
  unfold outside
  split_ifs <;> grind

theorem isPieceOf_of_mem_outside (h : piece ∈ outside start stop r) : piece.IsPieceOf r := by
  rw [mem_outside] at h
  obtain ⟨-, rfl⟩ | ⟨hmeets, ⟨hlt, rfl⟩ | ⟨hlt, rfl⟩⟩ := h
  · exact ⟨rfl, rfl, le_rfl, le_rfl, id⟩
  · refine ⟨rfl, rfl, le_rfl, ?_, fun _ => Nat.sub_pos_of_lt hlt⟩
    simp only [StyleRange.stop] at hmeets ⊢
    omega
  · refine ⟨rfl, rfl, ?_, ?_, fun _ => Nat.sub_pos_of_lt hlt⟩
    · simp only [StyleRange.stop] at hmeets ⊢
      omega
    · simp only [StyleRange.stop] at hlt ⊢
      omega

theorem beside_of_mem_outside (h : piece ∈ outside start stop r) :
    piece.stop ≤ start ∨ stop ≤ piece.start := by
  rw [mem_outside] at h
  obtain ⟨hbeside, rfl⟩ | ⟨-, ⟨hlt, rfl⟩ | ⟨-, rfl⟩⟩ := h
  · exact hbeside
  · simp only [StyleRange.stop]
    omega
  · exact .inr le_rfl

/-- No character beside the part that is cut out is lost. -/
theorem exists_mem_outside (hcovers : r.Covers i) (hbeside : i < start ∨ stop ≤ i) :
    ∃ piece ∈ outside start stop r, piece.Covers i := by
  obtain ⟨hle, hlt⟩ := hcovers
  by_cases hapart : r.stop ≤ start ∨ stop ≤ r.start
  · exact ⟨r, mem_outside.2 (.inl ⟨hapart, rfl⟩), hle, hlt⟩
  · obtain hbefore | hbehind := hbeside
    · refine ⟨_, mem_outside.2 (.inr ⟨hapart, .inl ⟨by omega, rfl⟩⟩), hle, ?_⟩
      simp only [StyleRange.stop]
      omega
    · refine ⟨_, mem_outside.2 (.inr ⟨hapart, .inr ⟨by omega, rfl⟩⟩), hbehind, ?_⟩
      simp only [StyleRange.stop] at hlt ⊢
      omega

theorem pairwise_outside (h : start ≤ stop) :
    (outside start stop r).Pairwise (·.stop ≤ ·.start) := by
  unfold outside
  split_ifs <;> simp [StyleRange.stop]
  omega

end Outside

/-! ## Labels laid out in ranges -/

/-- Whether the style ranges of a label hold characters of its text, each of them some, one range
after the other. -/
structure IsLaidOut (label : StyledLabel) : Prop where
  length_pos : ∀ r ∈ label.ranges, 0 < r.length
  stop_le : ∀ r ∈ label.ranges, r.stop ≤ label.text.length
  ordered : label.ranges.Pairwise (·.stop ≤ ·.start)

section WithBold

variable {label : StyledLabel} {start length i : Nat}

theorem isBoldAt_iff : label.isBoldAt i ↔ ∃ r ∈ label.ranges, r.bold ∧ r.Covers i := by
  simp [isBoldAt, StyleRange.Covers, and_assoc]

theorem isStruckAt_iff : label.isStruckAt i ↔ ∃ r ∈ label.ranges, r.strikeout ∧ r.Covers i := by
  simp [isStruckAt, StyleRange.Covers, and_assoc]

/-- The offset at which a new bold part ends. -/
def boldStop (label : StyledLabel) (start length : Nat) : Nat :=
  min (partStop start length) label.text.length

/-- The style range of a new bold part. -/
def boldRange (label : StyledLabel) (start length : Nat) : StyleRange where
  start
  length := label.boldStop start length - start
  bold := true
  strikeout := label.ranges.any fun r =>
    r.strikeout && r.start < label.boldStop start length && start < r.stop

theorem withBold_of_stop_le (h : label.boldStop start length ≤ start) :
    label.withBold start length = label := if_pos h

/-- The new range stands among what is left of the old ones. -/
theorem withBold_of_lt_stop (h : start < label.boldStop start length) :
    label.withBold start length = ⟨label.text,
      (label.ranges.flatMap (outside start (label.boldStop start length)) ++
        [label.boldRange start length]).mergeSort fun a b => a.start ≤ b.start⟩ :=
  if_neg (Nat.not_le_of_gt h)

@[simp]
theorem text_withBold (label : StyledLabel) (start length : Nat) :
    (label.withBold start length).text = label.text := by
  unfold withBold
  dsimp only
  split_ifs <;> rfl

theorem stop_boldRange (h : start < label.boldStop start length) :
    (label.boldRange start length).stop = label.boldStop start length :=
  Nat.add_sub_cancel' h.le

theorem mem_ranges_withBold (h : start < label.boldStop start length) {piece : StyleRange} :
    piece ∈ (label.withBold start length).ranges ↔
      (∃ r ∈ label.ranges, piece ∈ outside start (label.boldStop start length) r) ∨
        piece = label.boldRange start length := by
  rw [withBold_of_lt_stop h]
  simp

/-- Ranges that are apart from each other follow each other if they are in the order of their
starts. -/
theorem pairwise_mergeSort_of_apart {l : List StyleRange} (hpos : ∀ r ∈ l, 0 < r.length)
    (hapart : l.Pairwise fun a b => a.stop ≤ b.start ∨ b.stop ≤ a.start) :
    (l.mergeSort fun a b => a.start ≤ b.start).Pairwise (·.stop ≤ ·.start) := by
  have hsorted : (l.mergeSort fun a b => a.start ≤ b.start).Pairwise (·.start ≤ ·.start) :=
    (List.pairwise_mergeSort StableSort.key_le_trans StableSort.key_le_total l).imp (by simp)
  have hapart' : (l.mergeSort fun a b => a.start ≤ b.start).Pairwise
      fun a b => a.stop ≤ b.start ∨ b.stop ≤ a.start :=
    ((List.mergeSort_perm l _).pairwise_iff Or.symm).2 hapart
  refine (hsorted.and hapart').imp_of_mem fun {a b} ha hb ⟨hle, hbeside⟩ => ?_
  have := hpos a (List.mem_mergeSort.1 ha)
  have := hpos b (List.mem_mergeSort.1 hb)
  simp only [StyleRange.stop] at hbeside ⊢
  omega

/-- What is left of the ranges of a label is in order as they are. -/
theorem IsLaidOut.pairwise_outside (hlabel : label.IsLaidOut) {stop : Nat} (h : start ≤ stop) :
    (label.ranges.flatMap (outside start stop)).Pairwise (·.stop ≤ ·.start) := by
  refine List.pairwise_flatMap.2 ⟨fun r _ => StyledLabel.pairwise_outside h, ?_⟩
  refine hlabel.ordered.imp fun {a b} hab piece hpiece piece' hpiece' => ?_
  calc piece.stop ≤ a.stop := (isPieceOf_of_mem_outside hpiece).stop_le
    _ ≤ b.start := hab
    _ ≤ piece'.start := (isPieceOf_of_mem_outside hpiece').start_le

/-- **A label stays laid out in ranges.** -/
theorem IsLaidOut.withBold (hlabel : label.IsLaidOut) (start length : Nat) :
    (label.withBold start length).IsLaidOut := by
  obtain hstop | hstop := Nat.lt_or_ge start (label.boldStop start length)
  swap
  · rwa [withBold_of_stop_le hstop]
  have hpos : ∀ r ∈ (label.withBold start length).ranges, 0 < r.length := by
    intro r hr
    obtain ⟨r', hr', hpiece⟩ | rfl := (mem_ranges_withBold hstop).1 hr
    · exact (isPieceOf_of_mem_outside hpiece).length_pos (hlabel.length_pos r' hr')
    · exact Nat.sub_pos_of_lt hstop
  refine ⟨hpos, fun r hr => ?_, ?_⟩
  · rw [text_withBold]
    obtain ⟨r', hr', hpiece⟩ | rfl := (mem_ranges_withBold hstop).1 hr
    · exact (isPieceOf_of_mem_outside hpiece).stop_le.trans (hlabel.stop_le r' hr')
    · rw [stop_boldRange hstop]
      exact min_le_right _ _
  · rw [withBold_of_lt_stop hstop] at hpos ⊢
    refine pairwise_mergeSort_of_apart (fun r hr => hpos r (List.mem_mergeSort.2 hr)) ?_
    refine List.pairwise_append.2 ⟨(hlabel.pairwise_outside hstop.le).imp .inl,
      List.pairwise_singleton _ _, fun piece hpiece new hnew => ?_⟩
    obtain rfl := List.mem_singleton.1 hnew
    obtain ⟨r, -, hpiece⟩ := List.mem_flatMap.1 hpiece
    rw [stop_boldRange hstop]
    exact beside_of_mem_outside hpiece

/-! ## The style of a character -/

theorem covers_boldRange_iff (h : start < label.boldStop start length) :
    (label.boldRange start length).Covers i ↔ start ≤ i ∧ i < label.boldStop start length := by
  rw [StyleRange.Covers, stop_boldRange h, boldRange]

/-- Characters in the new part are styled like the new range, and all others as before. -/
theorem exists_covers_withBold_iff {style : StyleRange → Bool}
    (hstyle : ∀ {piece r : StyleRange}, piece.IsPieceOf r → style piece = style r)
    (h : start < label.boldStop start length) :
    (∃ r ∈ (label.withBold start length).ranges, style r ∧ r.Covers i) ↔
      if start ≤ i ∧ i < label.boldStop start length then
        style (label.boldRange start length) = true
      else ∃ r ∈ label.ranges, style r ∧ r.Covers i := by
  simp only [mem_ranges_withBold h]
  split_ifs with hinside
  · constructor
    · rintro ⟨piece, ⟨r, -, hpiece⟩ | rfl, hr, hcovers⟩
      · have := beside_of_mem_outside hpiece
        have := hcovers.1
        have := hcovers.2
        omega
      · exact hr
    · exact fun hr => ⟨_, .inr rfl, hr, (covers_boldRange_iff h).2 hinside⟩
  · constructor
    · rintro ⟨piece, ⟨r, hmem, hpiece⟩ | rfl, hr, hcovers⟩
      · have hpieceOf := isPieceOf_of_mem_outside hpiece
        exact ⟨r, hmem, hstyle hpieceOf ▸ hr, hpieceOf.covers hcovers⟩
      · exact absurd ((covers_boldRange_iff h).1 hcovers) hinside
    · rintro ⟨r, hmem, hr, hcovers⟩
      have hbeside : i < start ∨ label.boldStop start length ≤ i := by omega
      obtain ⟨piece, hpiece, hcovers'⟩ := exists_mem_outside hcovers hbeside
      exact ⟨piece, .inl ⟨r, hmem, hpiece⟩, (hstyle (isPieceOf_of_mem_outside hpiece)).trans hr,
        hcovers'⟩

/-- **A step makes the characters of its part bold**, besides those that are so already. -/
theorem isBoldAt_withBold (hi : i < label.text.length) : (label.withBold start length).isBoldAt i ↔
    label.isBoldAt i ∨ start ≤ i ∧ i < partStop start length := by
  obtain hstop | hstop := Nat.lt_or_ge start (label.boldStop start length)
  · rw [isBoldAt_iff, exists_covers_withBold_iff (fun hpiece => hpiece.bold_eq) hstop,
      ← isBoldAt_iff]
    have hpart : i < label.boldStop start length ↔ i < partStop start length := by
      unfold boldStop
      omega
    split_ifs with hinside
    · simp [boldRange, hpart.1 hinside.2, hinside.1]
    · rw [hpart] at hinside
      simp [hinside]
  · rw [withBold_of_stop_le hstop]
    have hnone : ¬ (start ≤ i ∧ i < partStop start length) := by
      unfold boldStop at hstop
      omega
    simp [hnone]

/-- A new range is struck out if the label is. -/
theorem IsLaidOut.strikeout_boldRange (hlabel : label.IsLaidOut) {deprecated : Bool}
    (hstruck : ∀ i < label.text.length, label.isStruckAt i = deprecated)
    (hstop : start < label.boldStop start length) :
    (label.boldRange start length).strikeout = deprecated := by
  rw [Bool.eq_iff_iff]
  constructor
  · -- a range in its place that is struck out shows it of the label at its first character
    intro h
    obtain ⟨r, hr, hmeets⟩ := List.any_eq_true.1 h
    simp only [Bool.and_eq_true, decide_eq_true_eq] at hmeets
    have hpos := hlabel.length_pos r hr
    have hle := hlabel.stop_le r hr
    simp only [StyleRange.stop] at hle
    rw [← hstruck r.start (by omega)]
    exact isStruckAt_iff.2 ⟨r, hr, hmeets.1.1, le_rfl, Nat.lt_add_of_pos_right hpos⟩
  · rintro rfl
    have hstart : start < label.text.length := hstop.trans_le (min_le_right _ _)
    obtain ⟨r, hr, hstrikeout, hle, hlt⟩ := isStruckAt_iff.1 (hstruck start hstart)
    refine List.any_eq_true.2 ⟨r, hr, ?_⟩
    simp [hstrikeout, hlt, hle.trans_lt hstop]

/-- **A step changes no strike-through** of a label that is struck out from end to end or not at
all. -/
theorem IsLaidOut.isStruckAt_withBold (hlabel : label.IsLaidOut) {deprecated : Bool}
    (hstruck : ∀ i < label.text.length, label.isStruckAt i = deprecated)
    (hi : i < label.text.length) : (label.withBold start length).isStruckAt i = deprecated := by
  obtain hstop | hstop := Nat.lt_or_ge start (label.boldStop start length)
  · rw [Bool.eq_iff_iff, isStruckAt_iff,
      exists_covers_withBold_iff (fun hpiece => hpiece.strikeout_eq) hstop, ← isStruckAt_iff,
      hstruck i hi, hlabel.strikeout_boldRange hstruck hstop, ite_self]
  · rw [withBold_of_stop_le hstop, hstruck i hi]

end WithBold

/-! ## Many steps -/

/-- Makes several parts bold, each given by its start and its length. -/
def withBolds (label : StyledLabel) (parts : List (Nat × Nat)) : StyledLabel :=
  parts.foldl (fun label part => label.withBold part.1 part.2) label

/-- Whether a label has the parts of its text in bold that it should have, and is struck out from
end to end if it is deprecated. -/
structure Shows (text : Text) (deprecated : Bool) (parts : List (Nat × Nat)) (label : StyledLabel) :
    Prop where
  text_eq : label.text = text
  laidOut : label.IsLaidOut
  bold_iff : ∀ i < text.length,
    (label.isBoldAt i ↔ ∃ part ∈ parts, part.1 ≤ i ∧ i < partStop part.1 part.2)
  struck_eq : ∀ i < text.length, label.isStruckAt i = deprecated

namespace Shows

variable {text : Text} {deprecated : Bool} {parts : List (Nat × Nat)} {label : StyledLabel}

theorem ofText (text : Text) (deprecated : Bool) :
    Shows text deprecated [] (ofText text deprecated) := by
  unfold StyledLabel.ofText
  by_cases hstruck : deprecated ∧ text ≠ []
  · obtain ⟨rfl, htext⟩ := hstruck
    rw [if_pos ⟨rfl, htext⟩]
    refine ⟨rfl, ⟨?_, ?_, List.pairwise_singleton _ _⟩, ?_, ?_⟩
    · simpa [List.length_pos_iff] using htext
    · simp [StyleRange.stop]
    · simp [isBoldAt]
    · simp [isStruckAt, StyleRange.stop]
  · rw [if_neg hstruck]
    refine ⟨rfl, ⟨by simp, by simp, List.Pairwise.nil⟩, by simp [isBoldAt], fun i hi => ?_⟩
    have htext : text ≠ [] := List.ne_nil_of_length_pos (Nat.zero_lt_of_lt hi)
    simpa [isStruckAt, htext] using hstruck

/-- **One step more shows one part more.** -/
theorem withBold (h : Shows text deprecated parts label) (part : Nat × Nat) :
    Shows text deprecated (parts ++ [part]) (label.withBold part.1 part.2) := by
  obtain ⟨rfl, hlaidOut, hbold, hstruck⟩ := h
  refine ⟨text_withBold _ _ _, hlaidOut.withBold _ _, fun i hi => ?_, fun i hi =>
    hlaidOut.isStruckAt_withBold hstruck hi⟩
  rw [isBoldAt_withBold hi, hbold i hi]
  simp [or_and_right, exists_or]

theorem withBolds (h : Shows text deprecated parts label) (more : List (Nat × Nat)) :
    Shows text deprecated (parts ++ more) (label.withBolds more) := by
  induction more generalizing parts label with
  | nil => rwa [List.append_nil]
  | cons part more ih =>
    have hstep := ih (h.withBold part)
    rwa [List.append_assoc] at hstep

end Shows

theorem shows_withBolds (text : Text) (deprecated : Bool) (parts : List (Nat × Nat)) :
    Shows text deprecated parts ((ofText text deprecated).withBolds parts) :=
  (Shows.ofText text deprecated).withBolds parts

end StyledLabel

/-! ## Proposals -/

/-- Highlighting makes one part of the label bold, or none. -/
theorem CompletionProposal.exists_highlightedLabel_eq (p : CompletionProposal) (d : Document)
    (offset : Nat) : ∃ parts, p.highlightedLabel d offset =
      (StyledLabel.ofText p.candidate.label.toList p.candidate.isDeprecated).withBolds parts := by
  unfold highlightedLabel
  split_ifs
  · exact ⟨[], rfl⟩
  · split
    · exact ⟨[], rfl⟩
    · rename_i typed _
      split
      · rename_i start _
        exact ⟨[(start, typed.length)], rfl⟩
      · exact ⟨[], rfl⟩

/-- **Labels look as was asked for, character by character.** However many parts of a label are made
bold, in any order, overlapping or past its end, its style ranges hold some characters of the text
each, one range after the other. A character is bold if it lies in one of the parts, from its start
to the sum of start and length in words, which is their sum unless it is too large for a word; and it
is struck out if the label is deprecated. So the order of the steps does not matter. The label of a
proposal stays struck out when a part of it is highlighted. -/
theorem StyledLabel.styles_of_withBolds (text : Text) (deprecated : Bool)
    (parts : List (Nat × Nat)) :
    let label := (StyledLabel.ofText text deprecated).withBolds parts
    label.text = text ∧
    (∀ r ∈ label.ranges, 0 < r.length ∧ r.stop ≤ text.length) ∧
    label.ranges.Pairwise (fun a b => a.start < b.start ∧ a.stop ≤ b.start) ∧
    (∀ i < text.length,
      (label.isBoldAt i ↔ ∃ part ∈ parts, part.1 ≤ i ∧ i < partStop part.1 part.2) ∧
      (label.isStruckAt i ↔ deprecated)) ∧
    ((∀ part ∈ parts, part.1 + part.2 < UInt64.size) → ∀ i < text.length,
      (label.isBoldAt i ↔ ∃ part ∈ parts, part.1 ≤ i ∧ i < part.1 + part.2)) ∧
    (∀ parts' : List (Nat × Nat), parts'.Perm parts → ∀ i < text.length,
      ((StyledLabel.ofText text deprecated).withBolds parts').isBoldAt i = label.isBoldAt i ∧
      ((StyledLabel.ofText text deprecated).withBolds parts').isStruckAt i = label.isStruckAt i) ∧
    ∀ (p : CompletionProposal) d offset,
      (p.highlightedLabel d offset).text = p.candidate.label.toList ∧
      ∀ i < p.candidate.label.toList.length,
        ((p.highlightedLabel d offset).isStruckAt i ↔ p.candidate.isDeprecated) := by
  intro label
  have hlabel : Shows text deprecated parts label := shows_withBolds text deprecated parts
  obtain ⟨htext, ⟨hpos, hstop, hordered⟩, hbold, hstruck⟩ := hlabel
  rw [htext] at hstop
  refine ⟨htext, fun r hr => ⟨hpos r hr, hstop r hr⟩, ?_, fun i hi => ⟨hbold i hi, ?_⟩, ?_, ?_, ?_⟩
  · refine hordered.imp_of_mem fun {a b} ha _ hab => ⟨?_, hab⟩
    have := hpos a ha
    simp only [StyleRange.stop] at hab
    omega
  · rw [hstruck i hi]
  · intro hwords i hi
    rw [hbold i hi]
    refine exists_congr fun part => and_congr_right fun hpart => ?_
    rw [partStop_eq (hwords part hpart)]
  · intro parts' hperm i hi
    have hlabel' := shows_withBolds text deprecated parts'
    rw [hlabel'.struck_eq i hi, hstruck i hi, Bool.eq_iff_iff, hlabel'.bold_iff i hi, hbold i hi]
    simp only [hperm.mem_iff, and_true]
  · intro p d offset
    obtain ⟨parts', heq⟩ := p.exists_highlightedLabel_eq d offset
    have hlabel' := shows_withBolds p.candidate.label.toList p.candidate.isDeprecated parts'
    rw [heq]
    exact ⟨hlabel'.text_eq, fun i hi => by rw [hlabel'.struck_eq i hi]⟩

/-- Parts that overlap each other and the end of a deprecated label, in two orders. -/
theorem StyledLabel.styles_of_overlapping_withBolds :
    let label := (ofText "oldName".toList true).withBolds [(3, 2), (1, 3), (6, 9)]
    let label' := (ofText "oldName".toList true).withBolds [(6, 9), (1, 3), (3, 2)]
    label.isBoldAt 4 ∧ ¬ label.isBoldAt 5 ∧ label.isBoldAt 6 ∧ label.isStruckAt 4 ∧
    label.isStruckAt 5 ∧ label'.isBoldAt 4 = label.isBoldAt 4 ∧
    label'.isBoldAt 5 = label.isBoldAt 5 := by
  intro label label'
  obtain ⟨-, -, -, hstyle, hbold, horder, -⟩ :=
    styles_of_withBolds "oldName".toList true [(3, 2), (1, 3), (6, 9)]
  have hwords : ∀ part ∈ [(3, 2), (1, 3), (6, 9)], part.1 + part.2 < UInt64.size := by decide
  have hperm : [(6, 9), (1, 3), (3, 2)].Perm [(3, 2), (1, 3), (6, 9)] := by decide
  have hbold5 := hbold hwords 5 (by decide)
  exact ⟨(hbold hwords 4 (by decide)).2 (by decide), fun h => absurd (hbold5.1 h) (by decide),
    (hbold hwords 6 (by decide)).2 (by decide), (hstyle 4 (by decide)).2.2 rfl,
    (hstyle 5 (by decide)).2.2 rfl, (horder _ hperm 4 (by decide)).1,
    (horder _ hperm 5 (by decide)).1⟩

/-- Without the bound the parts would not be those asked for: a part that ends behind the largest
word is none. -/
example : ((StyledLabel.ofText "abc".toList false).withBold 1 (UInt64.size - 1)).ranges = [] := by
  decide

end LanguageClient
