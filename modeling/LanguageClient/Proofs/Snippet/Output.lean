import LanguageClient.Proofs.Snippet.RoundTrip
import Mathlib

/-!
# What snippets resolve to

Whatever a snippet looks like, well formed or not, reading some of it emits characters that were
there to be read, in their order, and puts the cursor nowhere but among them (`Resolver.Emits`).
Each part of the reader does so if the reader of its defaults does, and hence the reader itself
(`Resolver.emitting_text`). So the text of a snippet is made of its characters, and its cursor
stands in that text (`resolve_within`).
-/

namespace LanguageClient.Snippet

namespace Resolver

variable {s s' s'' : Resolver}

/-! ## Emitting what is read -/

/-- The states that reading can lead to. A text has been emitted, with its cursor, if it has one,
not behind its end; the text and what remains to be read are characters that were to be read, in
their order. -/
inductive Emits (s : Resolver) : Resolver → Prop
  | intro (t : Text) (mark : Option Nat) (rest : Text) (hmark : ∀ offset ∈ mark, offset ≤ t.length)
      (hkept : (t ++ rest).Sublist s.rest) : Emits s ((s.pass t mark).before rest)

namespace Emits

/-- A state that has given up on some characters without emitting anything. -/
theorem of_sublist {rest : Text} (h : rest.Sublist s.rest) : Emits s (s.before rest) := by
  have hintro := intro (s := s) [] none rest nofun h
  rwa [pass_nil_none] at hintro

theorem of_passed (h : Passed s s') : Emits s s' := by
  have hbefore := of_sublist h.suffix.sublist
  obtain ⟨rest, emitted, count, cursor⟩ := s'
  obtain ⟨⟨rfl, rfl, rfl⟩, -⟩ := h
  exact hbefore

theorem refl (s : Resolver) : Emits s s := of_passed (.refl s)

theorem trans (h : Emits s s') (h' : Emits s' s'') : Emits s s'' := by
  obtain ⟨t, mark, rest, hmark, hkept⟩ := h
  obtain ⟨t', mark', rest', hmark', hkept'⟩ := h'
  rw [rest_before] at hkept'
  have hmarks : ∀ offset ∈ mark.or (mark'.map (· + t.length)), offset ≤ (t ++ t').length := by
    intro offset hoffset
    rw [List.length_append]
    cases mark with
    | some first =>
      have := hmark offset hoffset
      omega
    | none =>
      obtain ⟨second, hsecond, rfl⟩ := Option.mem_map.1 hoffset
      have := hmark' second hsecond
      omega
  have hsublist : (t ++ t' ++ rest').Sublist s.rest := by
    rw [List.append_assoc]
    exact (hkept'.append_left t).trans hkept
  have hintro := intro (t ++ t') _ rest' hmarks hsublist
  rwa [← pass_pass] at hintro

/-- What was emitted before stays. -/
theorem suffix_emitted (h : Emits s s') : s.emitted <:+ s'.emitted := by
  obtain ⟨t, mark, rest, -, -⟩ := h
  exact List.suffix_append t.reverse s.emitted

/-- What remains to be read was to be read before. -/
theorem rest_sublist (h : Emits s s') : s'.rest.Sublist s.rest := by
  obtain ⟨t, mark, rest, -, hkept⟩ := h
  exact (List.sublist_append_right t rest).trans hkept

theorem pushAll (t rest : Text) (h : (t ++ rest).Sublist s.rest) :
    Emits s ((s.before rest).pushAll t) := by
  rw [pushAll_eq_pass]
  exact intro t none rest nofun h

theorem markStop (index : Nat) (s : Resolver) : Emits s (s.markStop index) := by
  rw [markStop_eq_pass]
  refine intro [] (stopMark index) s.rest (fun offset hoffset => ?_) (List.Sublist.refl _)
  unfold stopMark at hoffset
  split_ifs at hoffset <;> cases hoffset
  rfl

end Emits

/-- The characters that a choice keeps behind those read so far, if it reads one more character of
which it keeps none but those of its first option. -/
theorem exists_kept_cons {first chosen rest t : Text} {inFirst : Bool} {c : Char}
    (h : ∃ kept, chosen = (if inFirst then c :: first else first).reverse ++ kept ∧
      (kept ++ rest).Sublist t) :
    ∃ kept, chosen = first.reverse ++ kept ∧ (kept ++ rest).Sublist (c :: t) := by
  obtain ⟨kept, rfl, hkept⟩ := h
  cases inFirst with
  | false => exact ⟨kept, rfl, hkept.cons c⟩
  | true => exact ⟨c :: kept, by simp, hkept.cons_cons c⟩

/-- A choice keeps characters of its first option. -/
theorem sublist_of_choice {first : Text} {inFirst : Bool} {t chosen rest : Text}
    (h : choice first inFirst t = some (chosen, rest)) :
    ∃ kept, chosen = first.reverse ++ kept ∧ (kept ++ rest).Sublist t := by
  fun_induction choice first inFirst t with
  | case1 => cases h
  | case2 => cases h
  | case3 first inFirst c t ih =>
    obtain ⟨kept, heq, hkept⟩ := exists_kept_cons (ih h)
    exact ⟨kept, heq, hkept.cons _⟩
  | case4 =>
    cases h
    exact ⟨[], (List.append_nil _).symm, ((List.Sublist.refl _).cons _).cons _⟩
  | case5 first inFirst t ih =>
    obtain ⟨kept, heq, hkept⟩ := ih h
    exact ⟨kept, heq, hkept.cons _⟩
  | case6 first inFirst c t _ _ _ _ ih => exact exists_kept_cons (ih h)

/-- A reader that emits what it reads. -/
def Emitting (read : Resolver → Bool × Resolver) : Prop := ∀ s, Emits s (read s).2

namespace Emitting

variable {nested : Resolver → Bool × Resolver} (h : Emitting nested)

include h

theorem appends : Appends nested := fun s => (h s).suffix_emitted

theorem defaultText (isFinal : Bool) : Emitting (defaultText nested isFinal) := by
  intro s
  have hstart : Emits s (if isFinal then s.markCursor else s) := by
    split_ifs
    · exact .markStop 0 s
    · exact .refl s
  have hread := hstart.trans (h (if isFinal then s.markCursor else s))
  cases hclosed : (Resolver.defaultText nested isFinal s).1 with
  | false =>
    rw [(h.appends.sameOutput_defaultText hclosed).eq_before, rest_defaultText]
    exact .of_sublist hread.rest_sublist
  | true =>
    unfold Resolver.defaultText at hclosed ⊢
    split at hclosed
    · rename_i s' heq
      rwa [heq] at hread
    · cases hclosed

theorem stopBody (index : Nat) : Emitting (stopBody nested index) := by
  intro s
  unfold Resolver.stopBody
  split
  · exact (Emits.of_passed (.skip 1 s)).trans (.markStop index _)
  · exact (Emits.of_passed (.skip 1 s)).trans (h.defaultText _ _)
  · rename_i options heq
    split
    · rename_i first rest hchoice
      obtain ⟨_, rfl, hkept⟩ := sublist_of_choice hchoice
      have hstop : Emits s ((s.before (first ++ rest)).markStop index) :=
        (Emits.of_sublist (heq ▸ hkept.cons '|')).trans (.markStop index _)
      have hpush := hstop.trans (.pushAll first rest (by rw [rest_markStop]; rfl))
      rwa [markStop_eq_pass, before_pass, ← markStop_eq_pass] at hpush
    · exact .of_sublist (List.nil_sublist _)
  · exact .refl s

theorem variableBody : Emitting (variableBody nested) := by
  intro s
  unfold Resolver.variableBody
  split
  · exact .of_passed (.skip 1 s)
  · exact (Emits.of_passed (.skip 1 s)).trans (h.defaultText _ _)
  · rename_i body heq
    split
    · rename_i rest htransform
      refine .of_sublist ?_
      rw [heq]
      exact (suffix_of_transform htransform).sublist.cons _
    · exact .of_sublist (List.nil_sublist _)
  · exact .refl s

theorem braced : Emitting (braced nested) := by
  intro s
  obtain ⟨index, s', hpassed, hbraced⟩ | ⟨s', hpassed, hbraced⟩ | ⟨s', hpassed, hbraced⟩ :=
    braced_cases s
  · rw [hbraced]
    exact (Emits.of_passed hpassed).trans (h.stopBody index s')
  · rw [hbraced]
    exact (Emits.of_passed hpassed).trans (h.variableBody s')
  · rw [hbraced]
    exact .of_passed hpassed

theorem dollar : Emitting (dollar nested) := by
  intro s
  cases hread : (Resolver.dollar nested s).1 with
  | false =>
    rw [h.appends.snd_dollar_of_false hread]
    exact .refl s
  | true =>
    have hskip := Passed.skip 1 s
    obtain ⟨index, s', hpassed, heq⟩ | ⟨s', hpassed, heq⟩ | ⟨s', hpassed, -, heq⟩ | heq :=
      dollar_cases s
    · rw [heq]
      exact (Emits.of_passed (hskip.trans hpassed)).trans (.markStop index s')
    · rw [heq]
      exact .of_passed (hskip.trans hpassed)
    · rw [heq] at hread ⊢
      rw [if_pos hread]
      exact (Emits.of_passed ((hskip.trans hpassed).trans (.skip 1 s'))).trans (h.braced _)
    · rw [heq] at hread
      cases hread

end Emitting

/-- **The reader emits what it reads.** -/
theorem emitting_text (steps : Nat) (isNested : Bool) : Emitting (text steps isNested) := by
  induction steps generalizing isNested with
  | zero => exact fun s => .refl s
  | succ steps ih =>
    intro s
    obtain ⟨-, hend⟩ | ⟨rest, hrest, hclose⟩ | ⟨n, c, hkept, hchar⟩ | hdollar :=
      text_succ_cases isNested s
    · rw [hend]
      exact .refl s
    · rw [hclose]
      exact .of_sublist (hrest ▸ List.sublist_cons_self _ _)
    · have hpush : Emits s ((s.skip n).push c) := .pushAll [c] _ hkept
      rw [hchar]
      exact hpush.trans (ih isNested _)
    · rw [text_succ_dollar _ _ hdollar]
      split_ifs with hread
      · exact ((ih true).dollar s).trans (ih isNested _)
      · obtain ⟨rest, hrest⟩ := List.head?_eq_some_iff.1 hdollar
        have hpush : Emits s ((s.skip 1).push '$') := .pushAll ['$'] _ (by simp [hrest])
        exact hpush.trans (ih isNested _)

end Resolver

/-! ## Resolved snippets -/

/-- **A snippet resolves to characters of its own, with the cursor among them.** -/
theorem resolve_within (snippet : Text) : (resolve snippet).text.Sublist snippet ∧
    ∀ offset ∈ (resolve snippet).cursor, offset ≤ (resolve snippet).text.length := by
  have hread := Resolver.emitting_text snippet.length false (.start snippet)
  have hresolve : resolve snippet =
      ⟨(Resolver.text snippet.length false (.start snippet)).2.emitted.reverse,
        (Resolver.text snippet.length false (.start snippet)).2.cursor⟩ := rfl
  generalize (Resolver.text snippet.length false (.start snippet)).2 = s at hread hresolve
  obtain ⟨t, mark, rest, hmark, hkept⟩ := hread
  have hmeaning : resolve snippet = ⟨t, mark⟩ := by
    rw [hresolve]
    simp [Resolver.pass, Resolver.before, Resolver.start]
  rw [hmeaning]
  exact ⟨(List.sublist_append_left t rest).trans hkept, hmark⟩

end LanguageClient.Snippet
