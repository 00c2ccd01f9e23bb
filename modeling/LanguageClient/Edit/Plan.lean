import LanguageClient.Edit.Basic

/-!
# Edit plans

An `EditPlan` holds the edits that accepting one proposal makes: a primary edit, which carries
the cursor, and additional ones. All offsets are those of the snapshot that the proposal was
computed on. `EditPlan.withDrift` moves a plan across the text typed since, and
`EditPlan.perform` makes all of its edits or none.

The edits are made from right to left, so that none moves a range still to be replaced. What
comes out is `EditPlan.substitute`: all ranges replaced at once.
-/

namespace LanguageClient

/-- The edits of one proposal. `cursor` is an offset into the text of the primary edit, or its
end if there is none. -/
structure EditPlan where
  primary : Edit
  additional : List Edit := []
  cursor : Option Nat := none
  deriving DecidableEq, Repr

namespace EditPlan

/-- Moves an additional edit across a drift. One in front of the invocation stays, one behind
it moves, and one around it follows only where nothing was typed. -/
def driftAdditional (d : Drift) (e : Edit) : Except EditError Edit := do
  if d.invocation ≤ e.start then
    return ⟨← d.map e.start, ← d.map e.stop, e.text⟩
  else if e.stop ≤ d.invocation then
    return e
  else if 0 < d.typed then
    throw (.overlap e.start e.stop d.invocation (d.invocation + d.typed))
  else
    return ⟨e.start, ← d.map e.stop, e.text⟩

/-- Moves the primary edit across a drift. It keeps a start at or in front of the invocation,
so that it stretches over the typed text. -/
def driftPrimary (d : Drift) (e : Edit) : Except EditError Edit := do
  let start ← if e.start ≤ d.invocation then pure e.start else d.map e.start
  let stop ← if d.invocation ≤ e.stop then d.map e.stop else pure e.stop
  return ⟨start, stop, e.text⟩

/-- Moves a plan across a drift. -/
def withDrift (p : EditPlan) (d : Drift) : Except EditError EditPlan := do
  if d.typed = 0 ∧ d.growth = 0 then return p
  let primary ← driftPrimary d p.primary
  let additional ← p.additional.mapM (driftAdditional d)
  return { p with primary, additional }

/-- All edits of a plan, the primary one first, each with whether it is the primary one. -/
def edits (p : EditPlan) : List (Edit × Bool) :=
  (p.primary, true) :: p.additional.map (·, false)

/-- The order in which edits stand in a document: by start, and the primary edit first among
those with one start. -/
def standsBefore (a b : Edit × Bool) : Bool :=
  a.1.start < b.1.start || (a.1.start == b.1.start && (a.2 || !b.2))

/-- The edits of a plan as they stand in the document. -/
def inOrder (p : EditPlan) : List (Edit × Bool) := p.edits.mergeSort standsBefore

/-- Refuses the first edit that is inverted or ends behind a document of the given length. -/
def checkBounds (length : Nat) : List (Edit × Bool) → Except EditError Unit
  | [] => .ok ()
  | (e, _) :: rest =>
    if e.stop < e.start then .error (.invertedRange e.start e.stop)
    else if length < e.stop then .error (.outOfBounds e.start e.stop length)
    else checkBounds length rest

/-- Refuses the first edit that begins in front of the end of the edit before it. -/
def checkDisjoint : List (Edit × Bool) → Except EditError Unit
  | (a, _) :: (b, p) :: rest =>
    if b.start < a.stop then .error (.overlap a.start a.stop b.start b.stop)
    else checkDisjoint ((b, p) :: rest)
  | _ => .ok ()

/-- Refuses a plan with an edit that is out of bounds or with two edits that overlap. -/
def check (p : EditPlan) (length : Nat) : Except EditError Unit := do
  checkBounds length p.edits
  checkDisjoint p.inOrder

/-- Makes the given edits one after the other, up to the first that the document refuses.
Returns the document as it is left. -/
def replaceAll (d : Document) : List (Edit × Bool) → Document × Except EditError Unit
  | [] => (d, .ok ())
  | (e, _) :: rest =>
    match d.replace e.start (e.stop - e.start) e.text with
    | .ok (d', _) => replaceAll d' rest
    | .error cause => (d, .error (.document cause))

/-- By how much edits make the text behind them longer. -/
def totalDelta : List (Edit × Bool) → Int
  | [] => 0
  | (e, _) :: rest => e.delta + totalDelta rest

/-- By how much the edits in front of the primary one move it. -/
def shift (p : EditPlan) : Int :=
  totalDelta (p.inOrder.filter fun (e, isPrimary) => !isPrimary && e.start < p.primary.start)

/-- The cursor as an offset into the primary text, at most its length. -/
def cursorInPrimary (p : EditPlan) : Nat :=
  match p.cursor with
  | some k => min k p.primary.text.length
  | none => p.primary.text.length

/-- The offset of the cursor once all edits are made. -/
def finalCursor (p : EditPlan) : Nat :=
  ((p.primary.start : Int) + p.shift).toNat + p.cursorInPrimary

/-- Makes all edits of a plan in place, from right to left. Returns the document as it is left
and the offset of the cursor. -/
def perform (p : EditPlan) (d : Document) : Document × Except EditError Nat :=
  match p.check d.length with
  | .error cause => (d, .error cause)
  | .ok () =>
    let (d', made) := replaceAll d p.inOrder.reverse
    (d', made.map fun _ => p.finalCursor)

/-- Makes all edits of a plan and returns the new document with the offset of the cursor. If an
edit is out of bounds or two overlap, there is none. -/
def apply (p : EditPlan) (d : Document) : Except EditError (Document × Nat) :=
  let (d', cursor) := p.perform d
  cursor.map (d', ·)

/-- Makes all edits of a plan in place, if there is one. -/
def attempt (d : Document) : Except EditError EditPlan → Document × Except EditError Nat
  | .ok p => p.perform d
  | .error cause => (d, .error cause)

/-- `t` from `offset` on with all edits made at once: what lies between the edits stays, and
each range gives way to its text. The edits are in order and disjoint. -/
def weave (t : Text) (offset : Nat) : List (Edit × Bool) → Text
  | [] => t.drop offset
  | (e, _) :: rest => t.slice offset e.start ++ (e.text ++ weave t e.stop rest)

/-- A text with all ranges of a plan replaced at once. -/
def substitute (p : EditPlan) (t : Text) : Text := weave t 0 p.inOrder

end EditPlan

end LanguageClient
