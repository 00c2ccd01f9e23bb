import LanguageClient.Proofs.Text.LineTable
import LanguageClient.Text.CodeUnits
import Mathlib

/-!
# The content of a line

The content of a line is the line without its break (`Text.withoutBreak`), unless it ends in one of
the breaks that count as content (`Text.breakIsContent`). Code units are counted within the content
(`charsWithin_content`), so that those behind it count nothing; a CR and its LF are torn apart just
where a line is cut behind its content (`joins_lineStart_add_iff`, `min_contentLength`).
-/

namespace LanguageClient.Text

/-! ## Breaks and content -/

/-- A line without its break. -/
def withoutBreak (line : Text) : Text :=
  if line.getLast? = some '\n' ∧ line.dropLast.getLast? = some '\r' then line.dropLast.dropLast
  else if line.getLast?.any isLineBreak then line.dropLast
  else line

/-- Whether a line ends in a break that counts as content. -/
def breakIsContent (line : Text) : Bool :=
  line.getLast?.any fun c => isLineBreak c && c != '\n' && c != '\r'

section Content

variable {body : Text} (h : IsPlain body)

include h

theorem getLast?_ne_of_isPlain {c : Char} (hc : isLineBreak c) : body.getLast? ≠ some c := by
  intro hlast
  rw [h c (List.mem_of_getLast? hlast)] at hc
  cases hc

theorem withoutBreak_append {ending : Text} (hending : IsBreak ending) :
    withoutBreak (body ++ ending) = body := by
  have hcr := getLast?_ne_of_isPlain h (c := '\r') (by decide)
  cases hending with
  | crlf => simp [withoutBreak, List.getLast?_append]
  | single hc => simp [withoutBreak, hc, hcr]

theorem withoutBreak_of_isPlain : withoutBreak body = body := by
  have hlf := getLast?_ne_of_isPlain h (c := '\n') (by decide)
  cases hlast : body.getLast? with
  | none => simp [withoutBreak, hlast]
  | some c =>
    have hc := h c (List.mem_of_getLast? hlast)
    simp [withoutBreak, hc, hlast, hlast ▸ hlf]

/-- The content of a line is what stands in front of its break, if that does not count itself. -/
theorem content_append {ending : Text} (hending : IsBreak ending) :
    content (body ++ ending) = if breakIsContent (body ++ ending) then body ++ ending else body := by
  have hcr := getLast?_ne_of_isPlain h (c := '\r') (by decide)
  cases hending with
  | crlf =>
    simp [content, contentLength, breakIsContent, List.getLast?_append]
  | @single c hc =>
    by_cases hlf : c = '\n'
    · subst hlf
      simp [content, contentLength, breakIsContent, hcr]
    · by_cases hcr' : c = '\r'
      · subst hcr'
        simp [content, contentLength, breakIsContent]
      · simp [content, contentLength, breakIsContent, hc, hlf, hcr']

theorem contentLength_of_isPlain : contentLength body = body.length := by
  have hcr := getLast?_ne_of_isPlain h (c := '\r') (by decide)
  have hlf := getLast?_ne_of_isPlain h (c := '\n') (by decide)
  simp [contentLength, hcr, hlf]

theorem content_of_isPlain : content body = body := by
  rw [content, contentLength_of_isPlain h, List.take_length]

end Content

theorem IsComplete.length_withoutBreak_lt {line : Text} (h : IsComplete line) :
    (withoutBreak line).length < line.length := by
  obtain ⟨body, ending, hbody, hending, rfl⟩ := h
  have := List.length_pos_iff.2 hending.ne_nil
  rw [withoutBreak_append hbody hending, List.length_append]
  omega

theorem codeUnits_of_isLineBreak {c : Char} (h : isLineBreak c) : codeUnits c = 1 := by
  simp only [isLineBreak, Bool.or_eq_true, beq_iff_eq] at h
  rcases h with (((((rfl | rfl) | rfl) | rfl) | rfl) | rfl) | rfl <;> rfl

theorem findGreatest_utf16Length_take (t : Text) (units : Nat) :
    Nat.findGreatest (fun k => utf16Length (t.take k) ≤ units) t.length = charsWithin t units := by
  refine Nat.findGreatest_eq_iff.2 ⟨charsWithin_le t units, fun _ => ?_, fun k hlt hk hfits => ?_⟩
  · exact (le_charsWithin_iff (charsWithin_le t units)).1 le_rfl
  · exact hlt.not_ge ((le_charsWithin_iff hk).2 hfits)

/-- A line as it stands in a line table. -/
def IsLine (line : Text) : Prop := IsComplete line ∨ IsPlain line

theorem IsLineTable.isLine_getD {ls : List Text} (h : IsLineTable ls) {l : Nat}
    (hl : l < ls.length) : IsLine (ls.getD l []) := by
  rcases (Nat.succ_le_of_lt hl).lt_or_eq with hlt | heq
  · exact .inl (h.isComplete_getD hlt)
  · exact .inr (h.isPlain_getD heq)

/-- In a line's content there are no more characters than in front of its break, unless it goes on
behind the break's start. -/
theorem charsWithin_content {line : Text} (h : IsLine line) (units : Nat) :
    charsWithin (content line) units =
      if breakIsContent line ∧ utf16Length (withoutBreak line) < units then line.length
      else charsWithin (withoutBreak line) units := by
  rcases h with ⟨body, ending, hbody, hending, rfl⟩ | hplain
  · rw [content_append hbody hending, withoutBreak_append hbody hending]
    by_cases hcontent : breakIsContent (body ++ ending)
    · rw [if_pos hcontent]
      split_ifs with hover
      · refine charsWithin_of_le ?_
        cases hending with
        | crlf => simp [breakIsContent, List.getLast?_append] at hcontent
        | single hc =>
          rw [utf16Length_append, utf16Length, utf16Length, codeUnits_of_isLineBreak hc]
          omega
      · exact charsWithin_append_of_ge _ (by simpa [hcontent] using hover)
    · rw [if_neg hcontent, if_neg (by simp [hcontent])]
  · have hcontent : ¬ breakIsContent line := by
      rw [breakIsContent, Option.any_eq_true]
      rintro ⟨c, hlast, hc⟩
      simp [hplain c (List.mem_of_getLast? hlast)] at hc
    rw [content_of_isPlain hplain, withoutBreak_of_isPlain hplain, if_neg (by simp [hcontent])]

/-! ## Cutting a text inside a line -/

theorem take_ne_nil {t : Text} {k : Nat} (hpos : 0 < k) (hk : k ≤ t.length) : t.take k ≠ [] :=
  List.ne_nil_of_length_pos (by rwa [List.length_take_of_le hk])

section Cut

variable (t : Text) {l k : Nat} (hl : l < t.lines.length)

include hl

theorem drop_lineStart_eq_append : t.drop (lineStart t.lines l) =
    t.lines.getD l [] ++ (t.lines.drop (l + 1)).flatten := by
  rw [drop_lineStart, List.drop_eq_getElem_cons hl, List.flatten_cons, List.getD_eq_getElem _ _ hl]

theorem slice_lineStart_add (hk : k ≤ (t.lines.getD l []).length) :
    t.slice (lineStart t.lines l) (lineStart t.lines l + k) = (t.lines.getD l []).take k := by
  rw [slice, drop_lineStart_eq_append t hl, Nat.add_sub_cancel_left,
    List.take_append_of_le_length hk]

theorem take_lineStart_add (hk : k ≤ (t.lines.getD l []).length) : t.take (lineStart t.lines l + k) =
    t.take (lineStart t.lines l) ++ (t.lines.getD l []).take k := by
  rw [List.take_add, drop_lineStart_eq_append t hl, List.take_append_of_le_length hk]

/-- A text is cut between a CR and its LF if and only if the line is. -/
theorem joins_lineStart_add_iff (hk : k ≤ (t.lines.getD l []).length)
    (hend : k < (t.lines.getD l []).length ∨ l + 1 = t.lines.length) :
    Joins (t.take (lineStart t.lines l + k)) (t.drop (lineStart t.lines l + k)) ↔
      Joins ((t.lines.getD l []).take k) ((t.lines.getD l []).drop k) := by
  rcases Nat.eq_zero_or_pos k with rfl | hpos
  · have htable := isLineTable_lines t
    rw [← List.take_append_drop l t.lines] at htable
    rw [Nat.add_zero, take_lineStart, drop_lineStart, List.take_zero]
    exact iff_of_false (htable.not_joins (by simpa using hl)) (not_joins_nil_left _)
  · rw [take_lineStart_add t hl hk, ← List.drop_drop, drop_lineStart_eq_append t hl,
      List.drop_append_of_le_length hk, joins_append_left (take_ne_nil hpos hk)]
    rcases hend with hlt | hlast
    · exact joins_append_right (by simpa using hlt)
    · rw [List.drop_of_length_le hlast.ge, List.flatten_nil, List.append_nil]

end Cut

theorem IsPlain.not_joins {t : Text} (h : IsPlain t) (u : Text) : ¬ Joins t u := fun hjoin =>
  getLast?_ne_of_isPlain h (by decide) hjoin.1

theorem IsPlain.take {t : Text} (h : IsPlain t) (k : Nat) : IsPlain (t.take k) := fun c hc =>
  h c (List.mem_of_mem_take hc)

theorem contentLength_append_crlf (body : Text) :
    contentLength (body ++ ['\r', '\n']) = body.length := by
  simp [contentLength, List.getLast?_append]

theorem le_contentLength_append {body : Text} (h : IsPlain body) (c : Char) :
    body.length ≤ contentLength (body ++ [c]) := by
  have hcr := getLast?_ne_of_isPlain h (c := '\r') (by decide)
  by_cases hlf : c = '\n'
  · simp [contentLength, hlf, hcr]
  · by_cases hcr' : c = '\r' <;> simp [contentLength, hlf, hcr']

/-- A place on a line is within the line's content or between a CR and its LF. -/
theorem min_contentLength {line : Text} (h : IsLine line) {k : Nat} (hk : k ≤ line.length)
    (hend : k < line.length ∨ IsPlain line) : min (contentLength line) k =
      if Joins (line.take k) (line.drop k) then k - 1 else k := by
  rcases h with ⟨body, ending, hbody, hending, rfl⟩ | hplain
  · have hinside : k < (body ++ ending).length := hend.resolve_right
      (IsComplete.not_isPlain ⟨body, ending, hbody, hending, rfl⟩)
    rcases Nat.lt_or_ge body.length k with hbehind | hwithin
    · -- only a break of two characters has a place inside
      cases hending with
      | single => simp at hinside; omega
      | crlf =>
        obtain rfl : k = body.length + 1 := by simp at hinside; omega
        rw [contentLength_append_crlf, if_pos]
        · omega
        · simp [Joins, List.take_append, List.drop_append]
    · have hnot : ¬ Joins ((body ++ ending).take k) ((body ++ ending).drop k) := by
        rw [List.take_append_of_le_length hwithin]
        exact (hbody.take k).not_joins _
      rw [if_neg hnot, min_eq_right]
      refine hwithin.trans ?_
      cases hending with
      | crlf => exact (contentLength_append_crlf body).ge
      | single => exact le_contentLength_append hbody _
  · rw [if_neg ((hplain.take k).not_joins _), contentLength_of_isPlain hplain, min_eq_right hk]

end LanguageClient.Text
