import LanguageClient.Proofs.Document.Changes
import LanguageClient.Proofs.Folding.LineEdits
import LanguageClient.Proofs.Folding.Tracking
import Mathlib

/-!
# Spans and the characters that survive an edit

An edit leaves the characters alone that it does not remove, and moves those behind it
(`TextChange.Keeps`, `TextChange.place`). A span is afterwards the smallest one that covers the
characters it covered before and that are still there; where none is, nothing is left of it
(`AnnotationModel.find?_documentChanged_of_survivors`). No difference of offsets falls below zero
on the way (`Span.afterChange?_eq_some`).

The survivors of a span are all between a first and a last one (`Span.firstSurvivor`,
`Span.lastSurvivor`), and the two ends of the span move as these do (`Span.afterChange_eq_between`).
-/

namespace LanguageClient

/-! ## Spans as sets of offsets -/

namespace Span

/-- Whether the character at an offset is one of a span. -/
def Covers (s : Span) (k : Nat) : Prop := s.offset ≤ k ∧ k < s.stop

instance (s : Span) (k : Nat) : Decidable (s.Covers k) :=
  inferInstanceAs (Decidable (s.offset ≤ k ∧ k < s.stop))

/-- Whether a span is the smallest one that covers all offsets with a property. -/
structure IsHull (s : Span) (p : Nat → Prop) : Prop where
  covers : ∀ k, p k → s.Covers k
  least : ∀ t : Span, (∀ k, p k → t.Covers k) → ∀ k, s.Covers k → t.Covers k

theorem covers_between {start stop k : Nat} :
    (between start stop).Covers k ↔ start ≤ k ∧ k < stop := by
  simp only [Covers, between, Span.stop]
  omega

/-- Offsets that all lie between two of them. -/
theorem isHull_between {p : Nat → Prop} {first last : Nat} (hfirst : p first) (hlast : p last)
    (hall : ∀ k, p k → first ≤ k ∧ k ≤ last) : (between first (last + 1)).IsHull p where
  covers k hk := covers_between.2 ⟨(hall k hk).1, Nat.lt_succ_of_le (hall k hk).2⟩
  least t ht k hk := by
    obtain ⟨hfirst', -⟩ := ht first hfirst
    obtain ⟨-, hlast'⟩ := ht last hlast
    rw [covers_between] at hk
    constructor
    · omega
    · omega

/-! ## The survivors of a span -/

variable (s : Span) (c : TextChange)

/-- Whether the character at an offset is one of a span and stays. -/
def Survives (k : Nat) : Prop := s.Covers k ∧ c.Keeps k

instance (k : Nat) : Decidable (s.Survives c k) :=
  inferInstanceAs (Decidable (s.Covers k ∧ c.Keeps k))

/-- The first offset of a span that can survive a change. -/
def firstSurvivor : Nat :=
  if s.offset < c.offset then s.offset else max s.offset (c.offset + c.removed)

/-- The last offset of a span that can survive a change. -/
def lastSurvivor : Nat :=
  if c.offset + c.removed < s.stop then s.stop - 1 else min s.stop c.offset - 1

variable {s c} {k : Nat}

theorem Survives.first (h : s.Survives c k) :
    s.Survives c (s.firstSurvivor c) ∧ s.firstSurvivor c ≤ k := by
  simp only [Survives, Covers, TextChange.Keeps, firstSurvivor] at *
  split_ifs <;> omega

theorem Survives.last (h : s.Survives c k) :
    s.Survives c (s.lastSurvivor c) ∧ k ≤ s.lastSurvivor c := by
  simp only [Survives, Covers, TextChange.Keeps, lastSurvivor] at *
  split_ifs <;> omega

/-- A character that stays moves with what is removed in front of it, and then with what is put
there. -/
theorem place_eq_collapse (hk : c.Keeps k) : c.place k =
    if c.offset ≤ collapse c.offset c.removed k then collapse c.offset c.removed k + c.inserted
    else collapse c.offset c.removed k := by
  simp only [TextChange.Keeps, TextChange.place, collapse] at *
  split_ifs <;> omega

theorem collapse_le_collapse {offset count k l : Nat} (h : k ≤ l) :
    collapse offset count k ≤ collapse offset count l := by
  simp only [collapse]
  split_ifs <;> omega

variable (s c) in
/-- What is removed takes the start of a span to its first survivor. -/
theorem collapse_offset :
    collapse c.offset c.removed s.offset = collapse c.offset c.removed (s.firstSurvivor c) := by
  simp only [firstSurvivor, collapse]
  split_ifs <;> omega

/-- What is removed takes the end of a span behind its last survivor. -/
theorem Survives.collapse_stop (h : s.Survives c k) :
    collapse c.offset c.removed s.stop = collapse c.offset c.removed (s.lastSurvivor c) + 1 := by
  simp only [Survives, Covers, TextChange.Keeps, lastSurvivor, collapse] at *
  split_ifs <;> omega

theorem Survives.length_pos (h : s.Survives c k) : 0 < s.length := by
  have hcovers := h.1
  simp only [Covers, stop] at hcovers
  omega

/-- **The ends of a span move as its first and its last survivor do.** -/
theorem Survives.afterChange_eq_between (h : s.Survives c k) : s.afterChange c =
    between (c.place (s.firstSurvivor c)) (c.place (s.lastSurvivor c) + 1) := by
  obtain ⟨hfirst, hle⟩ := h.first
  obtain ⟨hlast, hle'⟩ := h.last
  set first := collapse c.offset c.removed (s.firstSurvivor c) with hfirst'
  set last := collapse c.offset c.removed (s.lastSurvivor c) with hlast'
  have hordered : first < last + 1 := Nat.lt_succ_of_le (collapse_le_collapse (hle.trans hle'))
  have hremoval : s.afterRemoval c.offset c.removed = between first (last + 1) := by
    rw [afterRemoval_eq h.length_pos, collapse_offset, h.collapse_stop]
  have hstop : (between first (last + 1)).stop = last + 1 := Nat.add_sub_cancel' hordered.le
  rw [afterChange, hremoval, afterInsertion_eq (Nat.sub_pos_of_lt hordered), hstop,
    place_eq_collapse hfirst.2, place_eq_collapse hlast.2]
  congr 1
  split_ifs <;> omega

/-- **Survivors and nothing else.** -/
theorem Survives.isHull_afterChange (h : s.Survives c k) :
    (s.afterChange c).IsHull fun j => ∃ k, s.Survives c k ∧ c.place k = j := by
  rw [h.afterChange_eq_between]
  refine isHull_between ⟨_, h.first.1, rfl⟩ ⟨_, h.last.1, rfl⟩ ?_
  rintro _ ⟨k, hk, rfl⟩
  exact ⟨TextChange.place_le_place hk.first.1.2 hk.2 hk.first.2,
    TextChange.place_le_place hk.2 hk.last.1.2 hk.last.2⟩

/-- Of a span without survivors nothing is left. -/
theorem length_afterChange_of_not_survives (h : 0 < s.length) (hnone : ∀ k, ¬ s.Survives c k) :
    (s.afterChange c).length = 0 := by
  -- the first offset and the last one are removed, and so is all between them
  have hfirst := hnone s.offset
  have hlast := hnone (s.stop - 1)
  refine length_afterInsertion_of_length_eq_zero ?_
  have hstop : s.stop = s.offset + s.length := rfl
  simp only [Survives, Covers, TextChange.Keeps] at hfirst hlast
  rw [afterRemoval_eq h]
  simp only [between, collapse]
  split_ifs <;> omega

/-- **Text that is put in is covered if and only if survivors stand on both sides of it.** -/
theorem Survives.covers_inserted_iff (h : s.Survives c k) {j : Nat} (hj : c.offset ≤ j)
    (hj' : j < c.offset + c.inserted) : (s.afterChange c).Covers j ↔
      (∃ k < c.offset, s.Survives c k) ∧ ∃ k, c.offset + c.removed ≤ k ∧ s.Survives c k := by
  rw [h.afterChange_eq_between, covers_between]
  refine and_congr ⟨fun hle => ?_, ?_⟩ ⟨fun hlt => ?_, ?_⟩
  · rcases h.first.1.2 with hfirst | hfirst
    · exact ⟨_, hfirst, h.first.1⟩
    · rw [TextChange.place_of_le c hfirst] at hle
      omega
  · rintro ⟨k, hk, hsurvives⟩
    have hfirst := hsurvives.first.2
    rw [TextChange.place_of_lt c (hfirst.trans_lt hk)]
    omega
  · rcases h.last.1.2 with hlast | hlast
    · rw [TextChange.place_of_lt c hlast] at hlt
      omega
    · exact ⟨_, hlast, h.last.1⟩
  · rintro ⟨k, hk, hsurvives⟩
    have hlast := hsurvives.last.2
    rw [TextChange.place_of_le c (hk.trans hlast)]
    omega

/-! ## Differences of offsets -/

/-- `afterRemoval`, which has no result if a difference of offsets falls below zero. Only from the
length of the span more may be taken than there is. -/
def afterRemoval? (s : Span) (offset count : Nat) : Option Span :=
  if count = 0 then some s
  else do
    let lastRemoved ← (offset + count).psub 1
    if s.lastOffset < offset then some s
    else if s.offset ≤ offset then
      if lastRemoved ≤ s.lastOffset then some ⟨s.offset, s.length - count⟩
      else (s.lastOffset.psub offset).map fun n => ⟨s.offset, s.length - (n + 1)⟩
    else if lastRemoved < s.offset then (s.offset.psub count).map fun n => ⟨n, s.length⟩
    else (lastRemoved.psub s.offset).map fun n => ⟨offset, s.length - (n + 1)⟩

/-- `afterChange`, which has no result if a difference of offsets falls below zero. -/
def afterChange? (s : Span) (c : TextChange) : Option Span :=
  (s.afterRemoval? c.offset c.removed).map (·.afterInsertion c.offset c.inserted)

theorem afterRemoval?_eq_some (s : Span) (offset count : Nat) :
    s.afterRemoval? offset count = some (s.afterRemoval offset count) := by
  unfold afterRemoval? afterRemoval
  by_cases hcount : count = 0
  · rw [if_pos hcount, if_pos hcount]
  rw [if_neg hcount, if_neg hcount, Nat.psub_eq_sub (by omega), Option.bind_eq_bind,
    Option.bind_some]
  dsimp only
  split_ifs
  · rfl
  · rfl
  · rw [Nat.psub_eq_sub (by omega), Option.map_some]
  · rw [Nat.psub_eq_sub (by omega), Option.map_some]
  · rw [Nat.psub_eq_sub (by omega), Option.map_some]

/-- **No difference of offsets falls below zero.** -/
theorem afterChange?_eq_some (s : Span) (c : TextChange) :
    s.afterChange? c = some (s.afterChange c) := by
  rw [afterChange?, afterRemoval?_eq_some, Option.map_some, afterChange]

end Span

namespace AnnotationModel

/-- **Spans follow the characters that survive.** In a document some characters give way to others.
Those that are kept are found in their new places. If an annotation covers some of these, it covers
afterwards exactly what lies between them, and the new text if and only if some stand in front of it
and some behind it. If it covers none, nothing is left of its span. No difference of offsets falls
below zero on the way. -/
theorem find?_documentChanged_of_survivors {m : AnnotationModel} {id : AnnotationId}
    {e : AnnotationEntry} {d : Document} {c : TextChange} (he : m.find? id = some e)
    (hlive : 0 < e.span.length) (hwithin : e.span.stop ≤ d.length)
    (hchange : c.offset + c.removed ≤ d.length) :
    (∀ new : Text, new.length = c.inserted → ∃ d', d.replace c.offset c.removed new = .ok (d', c) ∧
      ∀ k, c.Keeps k → d'.text[c.place k]? = d.text[k]?) ∧
    ∃ span', (m.documentChanged c).find? id = some { e with span := span' } ∧
      e.span.afterChange? c = some span' ∧ span'.stop ≤ d.length - c.removed + c.inserted ∧
      ((∃ k, e.span.Survives c k) →
        span'.IsHull (fun j => ∃ k, e.span.Survives c k ∧ c.place k = j) ∧
        ∀ j, c.offset ≤ j → j < c.offset + c.inserted →
          (span'.Covers j ↔ (∃ k < c.offset, e.span.Survives c k) ∧
            ∃ k, c.offset + c.removed ≤ k ∧ e.span.Survives c k)) ∧
      ((¬ ∃ k, e.span.Survives c k) → span'.length = 0) := by
  refine ⟨fun new hnew => ?_, _, ?_, e.span.afterChange?_eq_some c,
    Span.stop_afterChange_le hwithin hchange, ?_, ?_⟩
  · have hreplace := Document.replace_of_le new hchange
    rw [hnew] at hreplace
    exact ⟨_, hreplace, fun k => Document.getElem?_replace hreplace⟩
  · rw [find?_documentChanged, he]
    rfl
  · rintro ⟨k, hk⟩
    exact ⟨hk.isHull_afterChange, fun j => hk.covers_inserted_iff⟩
  · exact fun hnone => Span.length_afterChange_of_not_survives hlive (not_exists.1 hnone)

/-- A break inside of a fold gives way to one character, and then the fold to two. -/
theorem find?_documentChanged_of_replaced_break :
    (middleFold.documentChanged ⟨3, 2, 1⟩).find? 1 =
        some ⟨1, .folding { collapsed := true }, ⟨2, 4⟩⟩ ∧
      Span.IsHull ⟨2, 4⟩ (fun j => ∃ k, Span.Survives ⟨2, 5⟩ ⟨3, 2, 1⟩ k ∧
        TextChange.place ⟨3, 2, 1⟩ k = j) ∧
      Span.Covers ⟨2, 4⟩ 3 ∧
      ∃ span', (middleFold.documentChanged ⟨1, 6, 2⟩).find? 1 =
        some ⟨1, .folding { collapsed := true }, span'⟩ ∧ span'.length = 0 := by
  have hfind : middleFold.find? 1 = some ⟨1, .folding { collapsed := true }, ⟨2, 5⟩⟩ := by decide
  obtain ⟨-, span', hspan', -, -, hsurvivors, -⟩ :=
    find?_documentChanged_of_survivors (d := fourLines) (c := ⟨3, 2, 1⟩) hfind (by decide)
      (by decide) (by decide)
  have hmoved : (middleFold.documentChanged ⟨3, 2, 1⟩).find? 1 =
      some ⟨1, .folding { collapsed := true }, ⟨2, 4⟩⟩ := by decide
  obtain rfl : span' = ⟨2, 4⟩ := by simpa using hspan'.symm.trans hmoved
  have hfront : Span.Survives ⟨2, 5⟩ ⟨3, 2, 1⟩ 2 := by decide
  have hbehind : Span.Survives ⟨2, 5⟩ ⟨3, 2, 1⟩ 6 := by decide
  obtain ⟨hhull, hinserted⟩ := hsurvivors ⟨2, hfront⟩
  refine ⟨hspan', hhull, ?_, ?_⟩
  · exact (hinserted 3 (by decide) (by decide)).2 ⟨⟨2, by decide, hfront⟩, 6, by decide, hbehind⟩
  · obtain ⟨-, span', hspan', -, -, -, hnone⟩ :=
      find?_documentChanged_of_survivors (d := fourLines) (c := ⟨1, 6, 2⟩) hfind (by decide)
        (by decide) (by decide)
    refine ⟨span', hspan', hnone ?_⟩
    rintro ⟨k, hcovers, hkeeps⟩
    simp only [Span.Covers, Span.stop, TextChange.Keeps] at hcovers hkeeps
    omega

end AnnotationModel

end LanguageClient
