import LanguageClient.Proofs.Completion.Offering
import Mathlib

/-!
# Commit characters

A commit character is appended to the text of the primary edit before the plan is moved and made
(`CompletionProposal.driftedPlan_eq_map`). Nothing but that text depends on it: the edits are moved,
ordered and checked by their ranges alone (`EditPlan.withDrift_committing`,
`EditPlan.check_committing`), and the longer text takes its place between what the other edits make
of the text in front of it and behind it (`EditPlan.perform_committing`).
-/

namespace LanguageClient

/-- An edit whose text ends in some more characters. -/
def Edit.committing (e : Edit) (committed : Text) : Edit := { e with text := e.text ++ committed }

namespace EditPlan

/-- The plan whose primary text ends in some more characters. -/
def committing (p : EditPlan) (committed : Text) : EditPlan :=
  { p with primary := p.primary.committing committed }

/-- What becomes of one edit in `committing`. -/
def commit (committed : Text) (e : Edit × Bool) : Edit × Bool :=
  (if e.2 then e.1.committing committed else e.1, e.2)

variable {p : EditPlan} {committed : Text}

theorem committing_nil : p.committing [] = p := by
  simp [committing, Edit.committing]

/-! ## Moving, ordering and checking -/

theorem driftPrimary_committing (d : Drift) (e : Edit) :
    driftPrimary d (e.committing committed) = (driftPrimary d e).map (·.committing committed) := by
  rw [driftPrimary_eq_bind, driftPrimary_eq_bind]
  simp only [map_bind]
  rfl

/-- Edits are moved by their ranges. -/
theorem withDrift_committing (d : Drift) :
    (p.committing committed).withDrift d = (p.withDrift d).map (·.committing committed) := by
  rw [withDrift, withDrift]
  split_ifs
  · rfl
  · simp only [committing, driftPrimary_committing]
    cases driftPrimary d p.primary with
    | error cause => rfl
    | ok primary =>
      simp only [map_bind]
      rfl

theorem text_of_withDrift {d : Drift} {p' : EditPlan} (h : p.withDrift d = .ok p') :
    p'.primary.text = p.primary.text ∧ p'.cursor = p.cursor := by
  rw [withDrift] at h
  split_ifs at h
  · obtain rfl := Except.ok.inj h
    exact ⟨rfl, rfl⟩
  · obtain ⟨primary, hprimary, h⟩ := bind_eq_ok_iff.1 h
    obtain ⟨additional, -, h⟩ := bind_eq_ok_iff.1 h
    obtain rfl := Except.ok.inj h
    rw [driftPrimary_eq_bind] at hprimary
    obtain ⟨start, -, hprimary⟩ := bind_eq_ok_iff.1 hprimary
    obtain ⟨stop, -, hprimary⟩ := bind_eq_ok_iff.1 hprimary
    obtain rfl := Except.ok.inj hprimary
    exact ⟨rfl, rfl⟩

theorem edits_committing : (p.committing committed).edits = p.edits.map (commit committed) := by
  simp [edits, committing, commit]

theorem snd_commit (e : Edit × Bool) : (commit committed e).2 = e.2 := rfl

theorem start_commit (e : Edit × Bool) : (commit committed e).1.start = e.1.start := by
  rw [commit]
  split <;> rfl

theorem stop_commit (e : Edit × Bool) : (commit committed e).1.stop = e.1.stop := by
  rw [commit]
  split <;> rfl

theorem map_commit {es : List (Edit × Bool)} (h : ∀ e ∈ es, e.2 = false) :
    es.map (commit committed) = es := by
  refine (List.map_congr_left fun e he => ?_).trans (List.map_id es)
  rw [commit, if_neg (by simp [h e he]), id]

theorem inOrder_committing :
    (p.committing committed).inOrder = p.inOrder.map (commit committed) := by
  rw [inOrder, inOrder, edits_committing]
  refine (List.map_mergeSort fun a _ b _ => ?_).symm
  simp only [standsBefore, start_commit, snd_commit]

theorem checkDisjoint_map_commit (es : List (Edit × Bool)) :
    checkDisjoint (es.map (commit committed)) = checkDisjoint es := by
  fun_induction checkDisjoint es with
  | case1 a _ b q rest h =>
    simp only [List.map_cons, checkDisjoint, start_commit, stop_commit, if_pos h]
  | case2 a _ b q rest h ih =>
    simpa only [List.map_cons, checkDisjoint, start_commit, stop_commit, if_neg h] using ih
  | case3 es h =>
    cases es with
    | nil => rfl
    | cons e es =>
      cases es with
      | nil => rfl
      | cons e' es => exact absurd rfl (h e.1 e.2 e'.1 e'.2 es)

/-- Edits are checked by their ranges. -/
theorem check_committing (length : Nat) :
    (p.committing committed).check length = p.check length := by
  rw [check, check, inOrder_committing, checkDisjoint_map_commit]
  rfl

/-! ## Making the edits -/

/-- What the edits in front of the primary one make of the text in front of it. -/
def front (p : EditPlan) (t : Text) : Text :=
  weave (t.take p.primary.start) 0 (p.inOrder.takeWhile fun e => !e.2)

/-- What the edits behind the primary one make of the text behind it. -/
def back (p : EditPlan) (t : Text) : Text :=
  weave t p.primary.stop (p.inOrder.dropWhile fun e => !e.2).tail

section Split

variable {before after : List (Edit × Bool)} (hbefore : ∀ e ∈ before, e.2 = false)
  (hsplit : p.inOrder = before ++ (p.primary, true) :: after)

include hbefore hsplit

theorem front_eq (t : Text) : p.front t = weave (t.take p.primary.start) 0 before := by
  rw [front, hsplit, List.takeWhile_append_of_pos fun e he => by simp [hbefore e he]]
  simp

theorem back_eq (t : Text) : p.back t = weave t p.primary.stop after := by
  rw [back, hsplit, List.dropWhile_append_of_pos fun e he => by simp [hbefore e he]]
  simp

end Split

section Acceptable

variable {t : Text} (h : p.IsAcceptable t.length)

include h

/-- What a plan makes of a text, and where the cursor is in it. -/
theorem substitute_eq_front_append :
    p.substitute t = p.front t ++ (p.primary.text ++ p.back t) ∧
      p.finalCursor = (p.front t).length + p.cursorInPrimary := by
  obtain ⟨before, after, hsplit, hbefore, hafter⟩ := p.exists_inOrder_eq_append
  have hfalse : ∀ e ∈ before, e.2 = false := fun e he => (hbefore e he).1
  have hfollow := p.isAcceptable_iff_follow.1 h
  rw [hsplit, follow_append_cons] at hfollow
  rw [front_eq hfalse hsplit, back_eq hfalse hsplit]
  constructor
  · rw [substitute, hsplit, weave_append_cons hfollow.1]
  · rw [finalCursor, ← length_front hsplit hbefore hafter h, Int.toNat_natCast]

end Acceptable

/-- A longer primary text changes nothing on either side of it. -/
theorem front_committing (p : EditPlan) (committed t : Text) :
    (p.committing committed).front t = p.front t ∧ (p.committing committed).back t = p.back t := by
  obtain ⟨before, after, hsplit, hbefore, hafter⟩ := p.exists_inOrder_eq_append
  have hfalse : ∀ e ∈ before, e.2 = false := fun e he => (hbefore e he).1
  have hsplit' : (p.committing committed).inOrder =
      before ++ ((p.committing committed).primary, true) :: after := by
    rw [inOrder_committing, hsplit, List.map_append, List.map_cons, map_commit hfalse,
      map_commit fun e he => (hafter e he).1]
    rfl
  rw [front_eq hfalse hsplit, front_eq hfalse hsplit', back_eq hfalse hsplit,
    back_eq hfalse hsplit']
  exact ⟨rfl, rfl⟩

theorem perform_of_check_eq_error {d : Document} {cause : EditError}
    (h : p.check d.length = .error cause) : p.perform d = (d, .error cause) := by
  rw [perform, h]

/-- **What some more characters at the end of the primary text do.** The plan is accepted as it was
without them. They stand behind that text, and move the cursor only if it stands at the end. -/
theorem perform_committing (committed : Text) {d : Document} (h : p.IsAcceptable d.length)
    (hcursor : p.cursor.getD p.primary.text.length ≤ p.primary.text.length) :
    p.perform d =
        ({ d with
            text := p.front d.text ++ (p.primary.text ++ p.back d.text)
            stamp := d.stamp + p.edits.length },
          .ok ((p.front d.text).length + p.cursor.getD p.primary.text.length)) ∧
      (p.committing committed).perform d =
        ({ d with
            text := p.front d.text ++ (p.primary.text ++ (committed ++ p.back d.text))
            stamp := d.stamp + p.edits.length },
          .ok ((p.front d.text).length +
            p.cursor.getD (p.primary.text.length + committed.length))) := by
  have h' : (p.committing committed).IsAcceptable d.length := by
    rwa [← check_eq_ok_iff, check_committing, check_eq_ok_iff]
  obtain ⟨htext, hfinal⟩ := substitute_eq_front_append h
  obtain ⟨htext', hfinal'⟩ := substitute_eq_front_append h'
  obtain ⟨hfront, hback⟩ := front_committing p committed d.text
  constructor
  · rw [perform_eq_of_isAcceptable h, htext, hfinal, cursorInPrimary_eq, Nat.min_eq_left hcursor]
  · rw [perform_eq_of_isAcceptable h', htext', hfinal', cursorInPrimary_eq, hfront, hback,
      edits_committing, List.length_map, Nat.min_eq_left]
    · simp [committing, Edit.committing]
    · simp only [committing, Edit.committing, List.length_append]
      cases hmark : p.cursor with
      | none => exact le_rfl
      | some k =>
        rw [hmark] at hcursor
        exact hcursor.trans (Nat.le_add_right _ _)

section Attempt

variable {d d' : Document} {plan : Except EditError EditPlan}

/-- An attempt fails with more characters in the primary text as it does without. -/
theorem attempt_committing_of_error {cause : EditError} (h : (attempt d plan).2 = .error cause) :
    attempt d plan = (d, .error cause) ∧
      attempt d (plan.map (·.committing committed)) = (d, .error cause) := by
  cases plan with
  | error cause' =>
    obtain rfl := Except.error.inj h
    exact ⟨rfl, rfl⟩
  | ok p =>
    have hcheck := (check_eq_error_of_perform h).1
    have hcheck' : (p.committing committed).check d.length = .error cause := by
      rwa [check_committing]
    exact ⟨perform_of_check_eq_error hcheck, perform_of_check_eq_error hcheck'⟩

theorem exists_isAcceptable_of_attempt {cursor : Nat} (h : attempt d plan = (d', .ok cursor)) :
    ∃ p, plan = .ok p ∧ p.IsAcceptable d.length := by
  cases plan with
  | error cause => cases h
  | ok p =>
    refine ⟨p, rfl, ?_⟩
    by_contra hnot
    obtain ⟨cause, hcause⟩ := perform_of_not_isAcceptable hnot
    rw [attempt, hcause] at h
    cases h

end Attempt

end EditPlan

/-! ## Proposals -/

namespace CompletionProposal

variable {p : CompletionProposal} {d : Document}

theorem isCommitCharacter_iff {c : Char} : p.isCommitCharacter c ↔
    String.singleton c ∈ p.candidate.item.commitCharacters.getD [] := by
  have hsame : ∀ s : String, s.toList = [c] ↔ s = String.singleton c := fun s => by
    rw [← String.toList_singleton, String.toList_inj]
  simp [isCommitCharacter, hsame]

/-- The committed characters go to the end of the primary text of the moved plan. -/
theorem driftedPlan_eq_map (typed : Nat) (committed : Text) :
    p.driftedPlan d typed committed = (p.driftedPlan d typed []).map (·.committing committed) := by
  have hplan : ∀ committed, p.driftedPlan d typed committed = p.typedDrift d typed >>= fun drift =>
      p.editPlan >>= fun plan => (plan.committing committed).withDrift drift := fun _ => rfl
  simp only [hplan, map_bind, EditPlan.committing_nil, EditPlan.withDrift_committing]

theorem text_of_editPlan {plan : EditPlan} (h : p.editPlan = .ok plan) :
    plan.primary.text = p.inserted.text ∧ plan.cursor = p.inserted.cursor := by
  obtain ⟨additional, -, h⟩ := bind_eq_ok_iff.1 h
  obtain rfl := Except.ok.inj h
  exact ⟨rfl, rfl⟩

/-- The moved plan inserts what the proposal does. -/
theorem text_of_driftedPlan {plan : EditPlan} {typed : Nat}
    (h : p.driftedPlan d typed [] = .ok plan) :
    plan.primary.text = p.inserted.text ∧ plan.cursor = p.inserted.cursor := by
  obtain ⟨drift, -, h⟩ := bind_eq_ok_iff.1 h
  obtain ⟨plan', hplan, h⟩ := bind_eq_ok_iff.1 h
  obtain ⟨htext, hcursor⟩ := EditPlan.text_of_withDrift h
  obtain ⟨htext', hcursor'⟩ := text_of_editPlan hplan
  exact ⟨by rw [htext, List.append_nil, htext'], hcursor.trans hcursor'⟩

theorem performWithTyping_of_lt {trigger : Option Char} {offset : Nat}
    (h : offset < p.invocation) :
    p.performWithTyping d trigger offset = (d, .error .staleSnapshot) := if_pos h

theorem performWithTyping_none {offset : Nat} (h : p.invocation ≤ offset) :
    p.performWithTyping d none offset =
      EditPlan.attempt d (p.driftedPlan d (offset - p.invocation) []) := if_neg (Nat.not_lt.2 h)

/-- A trigger that is a commit character is committed. -/
theorem performWithTyping_of_isCommitCharacter {c : Char} {offset : Nat}
    (hc : p.isCommitCharacter c) (h : p.invocation ≤ offset) :
    p.performWithTyping d (some c) offset = EditPlan.attempt d
      ((p.driftedPlan d (offset - p.invocation) []).map (·.committing [c])) := by
  rw [performWithTyping, if_neg (Nat.not_lt.2 h), Option.filter_some_pos hc, driftedPlan_eq_map]
  rfl

/-- **A commit character is appended once, right behind the inserted text.** Any other trigger does
nothing. With a commit character the proposal fails if and only if it fails without a trigger, for
the same reason and with the document left as it is. Otherwise it leaves the same text on either
side of the inserted one, `new`, and the character between `new` and what stands behind it. The
cursor goes behind the character, unless the snippet has put it elsewhere (`mark`). The document may
be any; if it is not the snapshot with text typed up to `offset`, both fail. -/
theorem performWithTyping_commit (p : CompletionProposal) (d : Document) (c : Char) (offset : Nat)
    {new : Text} {mark : Option Nat} (hinserted : p.inserted = ⟨new, mark⟩) :
    (String.singleton c ∉ p.candidate.item.commitCharacters.getD [] →
      p.performWithTyping d (some c) offset = p.performWithTyping d none offset) ∧
    (String.singleton c ∈ p.candidate.item.commitCharacters.getD [] →
      (∀ cause, (p.performWithTyping d none offset).2 = .error cause →
        p.performWithTyping d none offset = (d, .error cause) ∧
          p.performWithTyping d (some c) offset = (d, .error cause)) ∧
      ∀ d' cursor, p.performWithTyping d none offset = (d', .ok cursor) →
        ∃ plan, p.driftedPlan d (offset - p.invocation) [] = .ok plan ∧
          d'.text = plan.front d.text ++ (new ++ plan.back d.text) ∧
          cursor = (plan.front d.text).length + mark.getD new.length ∧
          p.performWithTyping d (some c) offset =
            ({ d' with text := plan.front d.text ++ (new ++ c :: plan.back d.text) },
              .ok (if mark.isSome then cursor else cursor + 1))) := by
  refine ⟨fun hc => ?_, fun hc => ⟨fun cause hcause => ?_, fun d' cursor hsuccess => ?_⟩⟩
  · have hfilter : (some c).filter p.isCommitCharacter = none.filter p.isCommitCharacter := by
      rw [← isCommitCharacter_iff] at hc
      simp [hc]
    rw [performWithTyping, performWithTyping, hfilter]
  · rcases Nat.lt_or_ge offset p.invocation with hlt | hle
    · rw [performWithTyping_of_lt hlt] at hcause ⊢
      obtain rfl := Except.error.inj hcause
      exact ⟨rfl, performWithTyping_of_lt hlt⟩
    · rw [performWithTyping_none hle] at hcause ⊢
      rw [performWithTyping_of_isCommitCharacter (isCommitCharacter_iff.2 hc) hle]
      exact EditPlan.attempt_committing_of_error hcause
  · have hle : p.invocation ≤ offset := by
      by_contra hlt
      rw [performWithTyping_of_lt (Nat.not_le.1 hlt)] at hsuccess
      cases hsuccess
    rw [performWithTyping_none hle] at hsuccess
    obtain ⟨plan, hplan, hacceptable⟩ := EditPlan.exists_isAcceptable_of_attempt hsuccess
    obtain ⟨htext, hmark⟩ := text_of_driftedPlan hplan
    obtain ⟨hplain, hcommitted⟩ := EditPlan.perform_committing [c] hacceptable
      (by rw [htext, hmark]; exact cursor_inserted_le)
    rw [hplan, EditPlan.attempt, hplain] at hsuccess
    cases hsuccess
    rw [hinserted] at htext hmark
    refine ⟨plan, hplan, by rw [htext], by rw [htext, hmark], ?_⟩
    rw [performWithTyping_of_isCommitCharacter (isCommitCharacter_iff.2 hc) hle, hplan, Except.map,
      EditPlan.attempt, hcommitted, htext, hmark]
    cases mark <;> rfl

/-- `callProposal`, which a semicolon accepts. -/
def statementProposal : CompletionProposal :=
  callProposal.withItem { callProposal.candidate.item with commitCharacters := some [";"] }

/-- The semicolon stands behind the call, and the cursor stays between the parentheses. A dot is
no commit character. -/
theorem performWithTyping_commit_of_semicolon :
    (∃ front back, "use b\na\nfoo()\nw".toList = front ++ ("foo()".toList ++ back) ∧
      front.length = 8 ∧
      statementProposal.performWithTyping { text := "a\nfoo\nz".toList, stamp := 1 } (some ';') 5 =
        ({ text := front ++ ("foo()".toList ++ ';' :: back), stamp := 4 }, .ok 12)) ∧
    statementProposal.performWithTyping { text := "a\nfoo\nz".toList, stamp := 1 } (some '.') 5 =
      statementProposal.performWithTyping { text := "a\nfoo\nz".toList, stamp := 1 } none 5 := by
  have hinserted : statementProposal.inserted = ⟨"foo()".toList, some 4⟩ := by cbv
  have hplain : statementProposal.performWithTyping { text := "a\nfoo\nz".toList, stamp := 1 } none
      5 = ({ text := "use b\na\nfoo()\nw".toList, stamp := 4 }, .ok 12) := by cbv
  have hcommit := (performWithTyping_commit statementProposal
    { text := "a\nfoo\nz".toList, stamp := 1 } ';' 5 hinserted).2 (by decide)
  have hother := (performWithTyping_commit statementProposal
    { text := "a\nfoo\nz".toList, stamp := 1 } '.' 5 hinserted).1 (by decide)
  obtain ⟨plan, -, htext, hcursor, hcommitted⟩ := hcommit.2 _ _ hplain
  exact ⟨⟨_, _, htext, by simpa using hcursor.symm, hcommitted⟩, hother⟩

end CompletionProposal

end LanguageClient
