import Mathlib

/-!
# Stable sorting

Sorting keeps the order of those elements that were in order already
(`filter_mergeSort_eq_filter`), and some of the elements come out as they would alone
(`filter_mergeSort`). What holds of any earlier and later member of an ordered list holds of a lesser
and a greater one (`rel_of_pairwise`). A list in the order of a key is determined by what it holds
for each value of the key (`eq_of_filter_key_eq`), so that two stable sorts that agree on every value
of the key agree (`mergeSort_key_eq_iff`).
-/

namespace LanguageClient.StableSort

variable {α : Type*}

/-- Sorting moves none of the elements that stand in order among themselves. -/
theorem filter_mergeSort_eq_filter {le : α → α → Bool} {p : α → Bool} {l : List α}
    (htrans : ∀ a b c, le a b → le b c → le a c) (htotal : ∀ a b, le a b || le b a)
    (h : (l.filter p).Pairwise (le · ·)) : (l.mergeSort le).filter p = l.filter p := by
  have hsub : (l.filter p).Sublist (l.mergeSort le) :=
    List.sublist_mergeSort htrans htotal h List.filter_sublist
  have hsub' : (l.filter p).Sublist ((l.mergeSort le).filter p) := by
    simpa using hsub.filter p
  refine (hsub'.eq_of_length ?_).symm
  exact ((List.mergeSort_perm l le).filter p).length_eq.symm

/-- What sorting makes of some elements is what it makes of these alone, if no two of them are
tied. -/
theorem filter_mergeSort {le : α → α → Bool} {p : α → Bool} {l : List α}
    (htrans : ∀ a b c, le a b → le b c → le a c) (htotal : ∀ a b, le a b || le b a)
    (hantisymm : ∀ a ∈ l.filter p, ∀ b ∈ l.filter p, le a b → le b a → a = b) :
    (l.mergeSort le).filter p = (l.filter p).mergeSort le := by
  have hperm : ((l.mergeSort le).filter p).Perm (l.filter p) := (List.mergeSort_perm l le).filter p
  refine List.Perm.eq_of_pairwise (fun a b ha hb => ?_)
    ((List.pairwise_mergeSort htrans htotal l).filter p) (List.pairwise_mergeSort htrans htotal _)
    (hperm.trans (List.mergeSort_perm _ _).symm)
  exact hantisymm a (hperm.subset ha) b (List.mem_mergeSort.1 hb)

/-- Of two members of a list in which no later one is less than an earlier one, the lesser stands in
front. -/
theorem rel_of_pairwise_not {r s : α → α → Prop} {l : List α} (hirrefl : ∀ a, ¬ r a a)
    (hordered : l.Pairwise fun a b => ¬ r b a) (h : l.Pairwise s) {a b : α} (ha : a ∈ l)
    (hb : b ∈ l) (hab : r a b) : s a b := by
  induction l with
  | nil => cases ha
  | cons c l ih =>
    obtain ⟨hhead, hordered⟩ := List.pairwise_cons.1 hordered
    obtain ⟨hhead', h⟩ := List.pairwise_cons.1 h
    rw [List.mem_cons] at ha hb
    rcases ha with rfl | ha <;> rcases hb with rfl | hb
    · exact absurd hab (hirrefl _)
    · exact hhead' b hb
    · exact absurd hab (hhead a ha)
    · exact ih hordered h ha hb

/-- Of two members of an ordered list, the lesser one stands in front. -/
theorem rel_of_pairwise {r s : α → α → Prop} {l : List α} (hasymm : ∀ a b, r a b → ¬ r b a)
    (hordered : l.Pairwise r) (h : l.Pairwise s) {a b : α} (ha : a ∈ l) (hb : b ∈ l)
    (hab : r a b) : s a b :=
  rel_of_pairwise_not (fun a haa => hasymm a a haa haa) (hordered.imp fun hlt => hasymm _ _ hlt) h
    ha hb hab

/-- The members of a list in the order of a key that have its head's key stand in front. -/
theorem filter_key_head_eq_cons {key : α → Nat} {a : α} {l l' : List α}
    (h' : l'.Pairwise (key · ≤ key ·)) (hall : ∀ b ∈ l', key a ≤ key b)
    (heq : (a :: l).filter (key · == key a) = l'.filter (key · == key a)) :
    ∃ rest, l' = a :: rest := by
  rw [List.filter_cons_of_pos (by simp)] at heq
  cases l' with
  | nil => simp at heq
  | cons b rest =>
    have hmem : a ∈ b :: rest := (List.mem_filter.1 (heq ▸ List.mem_cons_self)).1
    have hba : key b ≤ key a := by
      rcases List.mem_cons.1 hmem with rfl | hmem
      · exact le_rfl
      · exact (List.pairwise_cons.1 h').1 a hmem
    have hkey : key b = key a := le_antisymm hba (hall b List.mem_cons_self)
    rw [List.filter_cons_of_pos (by simpa using hkey), List.cons.injEq] at heq
    exact ⟨rest, by rw [heq.1]⟩

/-- **Lists in the order of a key are equal if they agree on each value of the key.** -/
theorem eq_of_filter_key_eq {key : α → Nat} {l l' : List α} (h : l.Pairwise (key · ≤ key ·))
    (h' : l'.Pairwise (key · ≤ key ·))
    (heq : ∀ k, l.filter (key · == k) = l'.filter (key · == k)) : l = l' := by
  induction l generalizing l' with
  | nil =>
    cases l' with
    | nil => rfl
    | cons b rest => simpa using heq (key b)
  | cons a l ih =>
    -- every key of `l'` occurs in `a :: l`, whose least key is that of `a`
    have hall : ∀ b ∈ l', key a ≤ key b := by
      intro b hb
      have hmem : b ∈ (a :: l).filter (key · == key b) := by
        rw [heq]
        exact List.mem_filter.2 ⟨hb, by simp⟩
      rcases List.mem_cons.1 (List.mem_filter.1 hmem).1 with rfl | hmem
      · exact le_rfl
      · exact (List.pairwise_cons.1 h).1 b hmem
    obtain ⟨rest, rfl⟩ := filter_key_head_eq_cons h' hall (heq (key a))
    congr 1
    refine ih (List.pairwise_cons.1 h).2 (List.pairwise_cons.1 h').2 fun k => ?_
    have hk := heq k
    simp only [List.filter_cons] at hk
    split at hk
    · exact List.tail_eq_of_cons_eq hk
    · exact hk

section Key

variable {key : α → Nat}

theorem key_le_trans (a b c : α) (hab : decide (key a ≤ key b)) (hbc : decide (key b ≤ key c)) :
    decide (key a ≤ key c) :=
  decide_eq_true ((of_decide_eq_true hab).trans (of_decide_eq_true hbc))

theorem key_le_total (a b : α) : decide (key a ≤ key b) || decide (key b ≤ key a) := by
  simpa using le_total (key a) (key b)

/-- Sorting by a key moves no element past another one with the same key. -/
theorem filter_key_mergeSort (l : List α) (k : Nat) :
    (l.mergeSort fun a b => key a ≤ key b).filter (key · == k) = l.filter (key · == k) := by
  refine filter_mergeSort_eq_filter key_le_trans key_le_total (List.pairwise_filter.2 ?_)
  refine List.pairwise_of_forall fun a b ha hb => ?_
  simp_all

/-- A list is what stable sorting by a key makes of another one if and only if it is in the order of
the key and holds, for each value of the key, the same elements in the same order. -/
theorem mergeSort_key_eq_iff {l l' : List α} (h' : l'.Pairwise (key · ≤ key ·)) :
    (l.mergeSort fun a b => key a ≤ key b) = l' ↔
      ∀ k, l.filter (key · == k) = l'.filter (key · == k) := by
  constructor
  · rintro rfl k
    exact (filter_key_mergeSort l k).symm
  · intro heq
    refine eq_of_filter_key_eq ?_ h' fun k => (filter_key_mergeSort l k).trans (heq k)
    exact (List.pairwise_mergeSort key_le_trans key_le_total l).imp (by simp)

/-- A list whose keys increase is what sorting makes of its members, in whatever order they come. -/
theorem mergeSort_key_eq_of_perm {l l' : List α} (hperm : l.Perm l')
    (h' : l'.Pairwise (key · < key ·)) : (l.mergeSort fun a b => key a ≤ key b) = l' := by
  have hnodup : (l'.map key).Nodup := (List.pairwise_map.2 h').imp ne_of_lt
  have hmem : ∀ {a}, a ∈ l.mergeSort (fun a b => key a ≤ key b) → a ∈ l' := fun ha =>
    hperm.subset (List.mem_mergeSort.1 ha)
  refine List.Perm.eq_of_pairwise (fun a b ha hb hab hba => ?_)
    ((List.pairwise_mergeSort key_le_trans key_le_total l).imp of_decide_eq_true)
    (h'.imp le_of_lt) ((List.mergeSort_perm l _).trans hperm)
  exact List.inj_on_of_nodup_map hnodup (hmem ha) hb (le_antisymm hab hba)

end Key

end LanguageClient.StableSort
