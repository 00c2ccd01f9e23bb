import LanguageClient.Edit.Plan
import LanguageClient.Proofs.Results
import LanguageClient.Proofs.StableSort

/-!
# Acceptable plans

A plan is acceptable for a document if its edits lie within the document and, as they stand there,
each ends before every later one begins (`EditPlan.IsAcceptable`). `check_eq_ok_iff` says that the
check of neighbours finds exactly that. For proofs along the list of edits the same is said edit by
edit (`EditPlan.Follow`, `isAcceptable_iff_follow`).

The order in which edits stand is the stable one by start (`pairwise_start_inOrder`,
`filter_start_inOrder`), and it splits at the primary edit: those in front of it begin before it
(`exists_inOrder_eq_append`).
-/

namespace LanguageClient.EditPlan

/-! ## The order of the edits -/

theorem standsBefore_trans (a b c : Edit × Bool) (hab : standsBefore a b)
    (hbc : standsBefore b c) : standsBefore a c := by
  simp only [standsBefore, Bool.or_eq_true, Bool.and_eq_true, decide_eq_true_eq, beq_iff_eq,
    Bool.not_eq_true'] at hab hbc ⊢
  grind

theorem standsBefore_total (a b : Edit × Bool) : standsBefore a b || standsBefore b a := by
  simp only [standsBefore, Bool.or_eq_true, Bool.and_eq_true, decide_eq_true_eq, beq_iff_eq,
    Bool.not_eq_true']
  grind

theorem start_le_of_standsBefore {a b : Edit × Bool} (h : standsBefore a b) :
    a.1.start ≤ b.1.start := by
  simp only [standsBefore, Bool.or_eq_true, Bool.and_eq_true, decide_eq_true_eq, beq_iff_eq] at h
  omega

variable (p : EditPlan)

theorem inOrder_perm : p.inOrder.Perm p.edits := List.mergeSort_perm _ _

theorem mem_inOrder {e : Edit × Bool} : e ∈ p.inOrder ↔ e ∈ p.edits := p.inOrder_perm.mem_iff

theorem pairwise_standsBefore_inOrder : p.inOrder.Pairwise (standsBefore · ·) :=
  List.pairwise_mergeSort standsBefore_trans standsBefore_total _

/-- The edits stand by start. -/
theorem pairwise_start_inOrder : p.inOrder.Pairwise fun a b => a.1.start ≤ b.1.start :=
  p.pairwise_standsBefore_inOrder.imp start_le_of_standsBefore

/-- The edits with one start stand as the plan lists them, the primary edit first. -/
theorem filter_start_inOrder (start : Nat) :
    p.inOrder.filter (·.1.start == start) = p.edits.filter (·.1.start == start) := by
  refine StableSort.filter_mergeSort_eq_filter standsBefore_trans standsBefore_total ?_
  rw [List.pairwise_filter]
  -- no edit of the list but its head is the primary one
  refine List.pairwise_cons.2 ⟨fun e _ h h' => ?_, List.pairwise_map.2 ?_⟩
  · simp_all [standsBefore]
  · exact List.pairwise_of_forall fun a b h h' => by simp_all [standsBefore]

/-- **The primary edit splits the order.** The edits in front of it begin before it, and those
behind it do not. -/
theorem exists_inOrder_eq_append : ∃ before after,
    p.inOrder = before ++ (p.primary, true) :: after ∧
      (∀ e ∈ before, e.2 = false ∧ e.1.start < p.primary.start) ∧
      ∀ e ∈ after, e.2 = false ∧ p.primary.start ≤ e.1.start := by
  have hmem : (p.primary, true) ∈ p.inOrder := p.mem_inOrder.2 (by simp [edits])
  obtain ⟨before, after, hsplit⟩ := List.append_of_mem hmem
  have hone : p.edits.countP (·.2) = 1 := by simp [edits, List.countP_map, Function.comp_def]
  rw [← (p.inOrder_perm.countP_eq _), hsplit, List.countP_append, List.countP_cons_of_pos rfl]
    at hone
  have hflag : ∀ e ∈ before ++ after, e.2 = false := by
    have hzero : (before ++ after).countP (·.2) = 0 := by rw [List.countP_append]; omega
    simpa using List.countP_eq_zero.1 hzero
  have hsorted := p.pairwise_standsBefore_inOrder
  rw [hsplit, List.pairwise_append] at hsorted
  obtain ⟨-, hafter, hbefore⟩ := hsorted
  refine ⟨before, after, hsplit, fun e he => ?_, fun e he => ?_⟩
  · have hfalse := hflag e (List.mem_append_left _ he)
    have h := hbefore e he (p.primary, true) List.mem_cons_self
    exact ⟨hfalse, by simpa [standsBefore, hfalse] using h⟩
  · have h := (List.pairwise_cons.1 hafter).1 e he
    exact ⟨hflag e (List.mem_append_right _ he), start_le_of_standsBefore h⟩

/-! ## Edits that follow one another -/

/-- Edits that follow one another between `offset` and `length`. -/
def Follow (offset length : Nat) : List (Edit × Bool) → Prop
  | [] => offset ≤ length
  | (e, _) :: rest => offset ≤ e.start ∧ e.start ≤ e.stop ∧ Follow e.stop length rest

theorem Follow.offset_le {offset length : Nat} {es : List (Edit × Bool)}
    (h : Follow offset length es) : offset ≤ length := by
  induction es generalizing offset with
  | nil => exact h
  | cons e es ih =>
    obtain ⟨hstart, hstop, hrest⟩ := h
    have := ih hrest
    omega

theorem follow_iff {offset length : Nat} {es : List (Edit × Bool)} :
    Follow offset length es ↔ offset ≤ length ∧
      (∀ e ∈ es, offset ≤ e.1.start ∧ e.1.start ≤ e.1.stop ∧ e.1.stop ≤ length) ∧
      es.Pairwise fun a b => a.1.stop ≤ b.1.start := by
  induction es generalizing offset with
  | nil => simp [Follow]
  | cons e es ih =>
    rw [Follow, ih, List.forall_mem_cons, List.pairwise_cons]
    constructor
    · rintro ⟨hstart, hstop, hle, hrest, hdisjoint⟩
      refine ⟨by omega, ⟨⟨hstart, hstop, hle⟩, fun b hb => ?_⟩, fun b hb => (hrest b hb).1, hdisjoint⟩
      have := hrest b hb
      omega
    · rintro ⟨-, ⟨⟨hstart, hstop, hle⟩, hrest⟩, hfirst, hdisjoint⟩
      exact ⟨hstart, hstop, hle, fun b hb => ⟨hfirst b hb, (hrest b hb).2⟩, hdisjoint⟩

theorem follow_append_cons {offset length : Nat} {before after : List (Edit × Bool)} {e : Edit}
    {primary : Bool} : Follow offset length (before ++ (e, primary) :: after) ↔
      Follow offset e.start before ∧ e.start ≤ e.stop ∧ Follow e.stop length after := by
  induction before generalizing offset with
  | nil => rfl
  | cons b before ih => simp only [List.cons_append, Follow, ih, and_assoc]

/-- Edits none of which is inverted follow one another if neighbours do. -/
theorem pairwise_disjoint_of_isChain {es : List (Edit × Bool)}
    (h : ∀ e ∈ es, e.1.start ≤ e.1.stop) (hchain : es.IsChain fun a b => a.1.stop ≤ b.1.start) :
    es.Pairwise fun a b => a.1.stop ≤ b.1.start := by
  induction es with
  | nil => exact List.Pairwise.nil
  | cons a es ih =>
    have htail := ih (fun e he => h e (List.mem_cons_of_mem _ he)) hchain.of_cons
    refine List.pairwise_cons.2 ⟨fun b hb => ?_, htail⟩
    cases es with
    | nil => simp at hb
    | cons c rest =>
      have hac : a.1.stop ≤ c.1.start := (List.isChain_cons_cons.1 hchain).1
      rcases List.mem_cons.1 hb with rfl | hb
      · exact hac
      · have hc := h c (by simp)
        have hcb := (List.pairwise_cons.1 htail).1 b hb
        omega

/-! ## The check -/

/-- A plan whose edits lie within `length` characters, each of them, as they stand in the document,
with its end at or before the start of every later one. -/
structure IsAcceptable (length : Nat) : Prop where
  start_le_stop : ∀ e ∈ p.edits, e.1.start ≤ e.1.stop
  stop_le : ∀ e ∈ p.edits, e.1.stop ≤ length
  disjoint : p.inOrder.Pairwise fun a b => a.1.stop ≤ b.1.start

theorem isAcceptable_iff_follow {length : Nat} :
    p.IsAcceptable length ↔ Follow 0 length p.inOrder := by
  rw [follow_iff]
  constructor
  · intro h
    refine ⟨Nat.zero_le _, fun e he => ?_, h.disjoint⟩
    have he := p.mem_inOrder.1 he
    exact ⟨Nat.zero_le _, h.start_le_stop e he, h.stop_le e he⟩
  · rintro ⟨-, hall, hdisjoint⟩
    exact ⟨fun e he => (hall e (p.mem_inOrder.2 he)).2.1,
      fun e he => (hall e (p.mem_inOrder.2 he)).2.2, hdisjoint⟩

theorem checkBounds_eq_ok_iff (length : Nat) (es : List (Edit × Bool)) :
    checkBounds length es = .ok () ↔ ∀ e ∈ es, e.1.start ≤ e.1.stop ∧ e.1.stop ≤ length := by
  fun_induction checkBounds length es with
  | case1 => simp
  | case2 e _ rest h =>
    have : ¬ e.start ≤ e.stop := by omega
    simp [this]
  | case3 e _ rest h h' =>
    have : ¬ e.stop ≤ length := by omega
    simp [this]
  | case4 e _ rest h h' ih =>
    have hhead : e.start ≤ e.stop ∧ e.stop ≤ length := ⟨by omega, by omega⟩
    rw [ih, List.forall_mem_cons]
    exact ⟨fun hrest => ⟨hhead, hrest⟩, And.right⟩

theorem checkDisjoint_eq_ok_iff (es : List (Edit × Bool)) :
    checkDisjoint es = .ok () ↔ es.IsChain fun a b => a.1.stop ≤ b.1.start := by
  fun_induction checkDisjoint es with
  | case1 a _ b q rest h => simp; omega
  | case2 a _ b q rest h ih => simp [ih]; omega
  | case3 es h =>
    match es with
    | [] => simp
    | [_] => simp
    | (a, _) :: (b, q) :: rest => exact absurd rfl (h a _ b q rest)

/-- The check passes exactly the acceptable plans. -/
theorem check_eq_ok_iff (length : Nat) : p.check length = .ok () ↔ p.IsAcceptable length := by
  constructor
  · intro h
    obtain ⟨_, hbounds, hdisjoint⟩ := bind_eq_ok_iff.1 h
    have hin := (checkBounds_eq_ok_iff length p.edits).1 hbounds
    have hchain := (checkDisjoint_eq_ok_iff p.inOrder).1 hdisjoint
    exact ⟨fun e he => (hin e he).1, fun e he => (hin e he).2,
      pairwise_disjoint_of_isChain (fun e he => (hin e (p.mem_inOrder.1 he)).1) hchain⟩
  · intro h
    have hbounds := (checkBounds_eq_ok_iff length p.edits).2 fun e he =>
      ⟨h.start_le_stop e he, h.stop_le e he⟩
    have hdisjoint := (checkDisjoint_eq_ok_iff p.inOrder).2 h.disjoint.isChain
    exact bind_eq_ok_iff.2 ⟨(), hbounds, hdisjoint⟩

end LanguageClient.EditPlan
