import LanguageClient.Text.Basic

/-!
# UTF-16 code units

Positions of the language server protocol count UTF-16 code units within a line. A character
takes one unit, or two from U+10000 on.
-/

namespace LanguageClient.Text

/-- The number of UTF-16 code units of a character. -/
def codeUnits (c : Char) : Nat := if c.toNat < 0x10000 then 1 else 2

/-- The number of UTF-16 code units of a text. -/
def utf16Length : Text → Nat
  | [] => 0
  | c :: rest => codeUnits c + utf16Length rest

/-- The number of whole characters within the first `units` code units of `t`. Half of a pair
is no character. -/
def charsWithin : Text → Nat → Nat
  | [], _ => 0
  | c :: rest, units =>
    if codeUnits c ≤ units then charsWithin rest (units - codeUnits c) + 1 else 0

theorem codeUnits_pos (c : Char) : 0 < codeUnits c := by
  unfold codeUnits
  split <;> omega

theorem charsWithin_le (t : Text) (units : Nat) : charsWithin t units ≤ t.length := by
  fun_induction charsWithin t units <;> simp
  omega

theorem utf16Length_append (t rest : Text) :
    utf16Length (t ++ rest) = utf16Length t + utf16Length rest := by
  induction t with
  | nil => simp [utf16Length]
  | cons c t ih => simp [utf16Length, ih, Nat.add_assoc]

theorem utf16Length_le_of_isPrefix {t t' : Text} (h : t <+: t') :
    utf16Length t ≤ utf16Length t' := by
  obtain ⟨rest, rfl⟩ := h
  rw [utf16Length_append]
  exact Nat.le_add_right _ _

theorem utf16Length_slice_le (t : Text) (start stop : Nat) :
    utf16Length (t.slice start stop) ≤ utf16Length t := by
  have hdrop := utf16Length_append (t.take start) (t.drop start)
  rw [List.take_append_drop] at hdrop
  rw [hdrop]
  exact Nat.le_trans (utf16Length_le_of_isPrefix (List.take_prefix _ _)) (Nat.le_add_left _ _)

theorem charsWithin_zero (t : Text) : charsWithin t 0 = 0 := by
  cases t with
  | nil => rfl
  | cons c t =>
    have := codeUnits_pos c
    rw [charsWithin, if_neg (by omega)]

/-- As many characters are within some code units as fit into them. -/
theorem le_charsWithin_iff {t : Text} {k units : Nat} (hk : k ≤ t.length) :
    k ≤ charsWithin t units ↔ utf16Length (t.take k) ≤ units := by
  induction t generalizing k units with
  | nil =>
    obtain rfl : k = 0 := Nat.le_zero.1 hk
    simp [utf16Length]
  | cons c t ih =>
    cases k with
    | zero => simp [utf16Length]
    | succ k =>
      rw [List.take_succ_cons, utf16Length, charsWithin]
      split
      · rw [Nat.add_le_add_iff_right, ih (Nat.le_of_succ_le_succ hk)]
        omega
      · omega

/-- The characters of a text that fits are counted before those behind it. -/
theorem charsWithin_append_of_le {t : Text} (rest : Text) {units : Nat}
    (h : utf16Length t ≤ units) :
    charsWithin (t ++ rest) units = t.length + charsWithin rest (units - utf16Length t) := by
  induction t generalizing units with
  | nil => simp [utf16Length]
  | cons c t ih =>
    rw [utf16Length] at h
    rw [List.cons_append, charsWithin, if_pos (by omega), ih (by omega), utf16Length,
      Nat.sub_add_eq, List.length_cons]
    omega

/-- Nothing is counted behind a text that takes up all the units. -/
theorem charsWithin_append_of_ge {t : Text} (rest : Text) {units : Nat}
    (h : units ≤ utf16Length t) : charsWithin (t ++ rest) units = charsWithin t units := by
  induction t generalizing units with
  | nil =>
    obtain rfl : units = 0 := Nat.le_zero.1 h
    exact charsWithin_zero rest
  | cons c t ih =>
    rw [utf16Length] at h
    rw [List.cons_append, charsWithin, charsWithin]
    split
    · rw [ih (by omega)]
    · rfl

theorem charsWithin_of_le {t : Text} {units : Nat} (h : utf16Length t ≤ units) :
    charsWithin t units = t.length := by
  have := charsWithin_append_of_le [] h
  rwa [List.append_nil, charsWithin, Nat.add_zero] at this

theorem charsWithin_min (t : Text) (units : Nat) :
    charsWithin t (min units (utf16Length t)) = charsWithin t units := by
  rcases Nat.le_total units (utf16Length t) with h | h
  · rw [Nat.min_eq_left h]
  · rw [Nat.min_eq_right h, charsWithin_of_le h, charsWithin_of_le (Nat.le_refl _)]

/-- Of the beginning of a text, those characters fit that belong to a shorter beginning. -/
theorem charsWithin_take (t : Text) {m k : Nat} (hm : m ≤ t.length) (hk : k ≤ t.length) :
    charsWithin (t.take m) (utf16Length (t.take k)) = min m k := by
  rcases Nat.le_total k m with h | h
  · obtain ⟨rest, hrest⟩ : t.take k <+: t.take m := List.take_prefix_take_left h
    rw [← hrest, charsWithin_append_of_ge _ (Nat.le_refl _), charsWithin_of_le (Nat.le_refl _),
      List.length_take_of_le hk, Nat.min_eq_right h]
  · have hle : utf16Length (t.take m) ≤ utf16Length (t.take k) :=
      utf16Length_le_of_isPrefix (List.take_prefix_take_left h)
    rw [charsWithin_of_le hle, List.length_take_of_le hm, Nat.min_eq_left h]

end LanguageClient.Text
