/-!
# Results that can be errors

How a result came about: a computation in steps that ends well has gone well at each step
(`bind_eq_ok_iff`), and so has one along a list (`mapM_eq_ok_map`, `eq_map_of_mapM_eq_ok`). An
error that none of the steps makes is no error of the whole (`bind_ne_error`, `mapM_ne_error`).
-/

namespace LanguageClient

universe u v

variable {α β : Type u} {ε : Type v}

theorem bind_eq_ok_iff {x : Except ε α} {f : α → Except ε β} {b : β} :
    x >>= f = .ok b ↔ ∃ a, x = .ok a ∧ f a = .ok b := by
  cases x with
  | error e => simp [bind, Except.bind]
  | ok a => simp [bind, Except.bind]

theorem map_bind {γ : Type u} (x : Except ε α) (f : α → Except ε β) (g : β → γ) :
    (x >>= f).map g = x >>= fun a => (f a).map g := by
  cases x <;> rfl

theorem map_eq_ok_iff {x : Except ε α} {f : α → β} {b : β} :
    x.map f = .ok b ↔ ∃ a, x = .ok a ∧ f a = b := by
  cases x with
  | error e => simp [Except.map]
  | ok a => simp [Except.map]

theorem mapError_eq_ok_iff {ε' : Type v} {x : Except ε α} {f : ε → ε'} {a : α} :
    x.mapError f = .ok a ↔ x = .ok a := by
  cases x with
  | error e => exact ⟨nofun, nofun⟩
  | ok b => exact ⟨fun h => congrArg Except.ok (Except.ok.inj h),
      fun h => congrArg Except.ok (Except.ok.inj h)⟩

theorem bind_ne_error {x : Except ε α} {f : α → Except ε β} {e : ε} (hx : x ≠ .error e)
    (hf : ∀ a, x = .ok a → f a ≠ .error e) : x >>= f ≠ .error e := by
  cases x with
  | error e' => exact fun h => hx (congrArg Except.error (Except.error.inj h))
  | ok a => exact hf a rfl

variable {f : α → Except ε β} {l : List α}

theorem mapM_ne_error {e : ε} (h : ∀ a ∈ l, f a ≠ .error e) : l.mapM f ≠ .error e := by
  induction l with
  | nil => exact nofun
  | cons a l ih =>
    rw [List.mapM_cons]
    refine bind_ne_error (h a List.mem_cons_self) fun b _ => ?_
    exact bind_ne_error (ih fun a ha => h a (List.mem_cons_of_mem _ ha)) fun _ _ => nofun

theorem exists_of_mem_of_mapM_eq_ok {l' : List β} {b : β} (h : l.mapM f = .ok l') (hb : b ∈ l') :
    ∃ a ∈ l, f a = .ok b := by
  induction l generalizing l' with
  | nil =>
    cases h
    cases hb
  | cons a l ih =>
    rw [List.mapM_cons] at h
    obtain ⟨b', ha, h⟩ := bind_eq_ok_iff.1 h
    obtain ⟨bs, hl, h⟩ := bind_eq_ok_iff.1 h
    obtain rfl := Except.ok.inj h
    rcases List.mem_cons.1 hb with rfl | hb
    · exact ⟨a, List.mem_cons_self, ha⟩
    · obtain ⟨a', ha', heq⟩ := ih hl hb
      exact ⟨a', List.mem_cons_of_mem _ ha', heq⟩

theorem mapM_eq_ok_map {g : α → β} (h : ∀ a ∈ l, f a = .ok (g a)) : l.mapM f = .ok (l.map g) := by
  induction l with
  | nil => rfl
  | cons a l ih =>
    rw [List.mapM_cons, h a List.mem_cons_self, ih fun a ha => h a (List.mem_cons_of_mem _ ha)]
    rfl

/-- A list that is made of results which satisfy `q`, if such results are those of `g`. -/
theorem eq_map_of_mapM_eq_ok {g : α → β} {q : β → Prop} {l' : List β} (h : l.mapM f = .ok l')
    (hq : ∀ b ∈ l', q b) (hg : ∀ a b, f a = .ok b → q b → b = g a) : l' = l.map g := by
  induction l generalizing l' with
  | nil =>
    cases h
    rfl
  | cons a l ih =>
    rw [List.mapM_cons] at h
    obtain ⟨b, ha, h⟩ := bind_eq_ok_iff.1 h
    obtain ⟨bs, hl, h⟩ := bind_eq_ok_iff.1 h
    obtain rfl := Except.ok.inj h
    rw [List.map_cons, ← ih hl fun b hb => hq b (List.mem_cons_of_mem _ hb),
      ← hg a b ha (hq b List.mem_cons_self)]

end LanguageClient
