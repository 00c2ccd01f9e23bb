import LanguageClient.Document
import Mathlib

/-!
# What a replacement leaves in place

A replacement leaves the characters alone that it does not remove, and moves those behind it by as
much as the document grows or shrinks (`TextChange.Keeps`, `TextChange.place`). Each of them is
found in its new place (`Document.getElem?_replace`).
-/

namespace LanguageClient

namespace TextChange

variable (c : TextChange) {k l : Nat}

/-- Whether the character at an offset is still there after a change. -/
def Keeps (k : Nat) : Prop := k < c.offset ∨ c.offset + c.removed ≤ k

instance (k : Nat) : Decidable (c.Keeps k) :=
  inferInstanceAs (Decidable (k < c.offset ∨ c.offset + c.removed ≤ k))

/-- Where the character that was at an offset is after a change. -/
def place (k : Nat) : Nat := if k < c.offset then k else k - c.removed + c.inserted

theorem place_of_lt (h : k < c.offset) : c.place k = k := if_pos h

theorem place_of_le (h : c.offset + c.removed ≤ k) : c.place k = k - c.removed + c.inserted :=
  if_neg (by omega)

variable {c}

theorem place_le_place (hk : c.Keeps k) (hl : c.Keeps l) (h : k ≤ l) : c.place k ≤ c.place l := by
  rcases hk with hk | hk <;> rcases hl with hl | hl
  · rwa [place_of_lt c hk, place_of_lt c hl]
  · rw [place_of_lt c hk, place_of_le c hl]
    omega
  · omega
  · rw [place_of_le c hk, place_of_le c hl]
    omega

end TextChange

/-- A character that a replacement keeps is found in its new place. -/
theorem Document.getElem?_replace {d d' : Document} {c : TextChange} {offset removed k : Nat}
    {new : Text} (h : d.replace offset removed new = .ok (d', c)) (hk : c.Keeps k) :
    d'.text[c.place k]? = d.text[k]? := by
  by_cases hle : offset + removed ≤ d.length
  · rw [replace_of_le new hle, Except.ok.injEq, Prod.mk.injEq] at h
    obtain ⟨rfl, rfl⟩ := h
    have hoffset : (d.text.take offset).length = offset := List.length_take_of_le (by
      rw [← length]
      omega)
    rcases hk with hk | hk
    · rw [TextChange.place_of_lt _ hk, Text.splice, List.getElem?_append_left (by rwa [hoffset]),
        List.getElem?_take_of_lt hk]
    · rw [TextChange.place_of_le _ hk]
      dsimp only at hk ⊢
      have hbehind :
          k - removed + new.length = offset + (new.length + (k - (offset + removed))) := by omega
      rw [Text.splice, hbehind, List.getElem?_append_right (by omega), hoffset,
        Nat.add_sub_cancel_left, List.getElem?_append_right (by omega), Nat.add_sub_cancel_left,
        List.getElem?_drop, Nat.add_sub_cancel' hk]
  · rw [replace, if_neg hle] at h
    cases h

end LanguageClient
