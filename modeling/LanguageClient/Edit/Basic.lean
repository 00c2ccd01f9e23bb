import LanguageClient.Document

/-!
# Edits

An `Edit` replaces a range of a document by a text. A `Drift` says what happened to a document
since the edits were computed: text was typed at the invocation offset, and the document grew.
-/

namespace LanguageClient

/-- The replacement of the characters from `start` up to `stop` by `text`. -/
structure Edit where
  start : Nat
  stop : Nat
  text : Text
  deriving DecidableEq, Repr

/-- By how much an edit changes the length of a document. -/
def Edit.delta (e : Edit) : Int := (e.text.length : Int) - ((e.stop - e.start : Nat) : Int)

/-- Why the edits of a proposal cannot be made. -/
inductive EditError
  | overlap (firstStart firstStop secondStart secondStop : Nat)
  | outOfBounds (start stop length : Nat)
  | invertedRange (start stop : Nat)
  | staleSnapshot
  | document (cause : DocumentError)
  deriving DecidableEq, Repr

/-- The text shown for an error. -/
def EditError.message : EditError → String
  | .overlap a b c d => s!"Edit {a}..{b} overlaps edit {c}..{d}"
  | .outOfBounds a b length => s!"Edit {a}..{b} is out of bounds (document length {length})"
  | .invertedRange a b => s!"Edit range {a}..{b} ends before it starts"
  | .staleSnapshot => "Document changed in a way the proposal cannot follow"
  | .document cause => s!"Document error: {cause.message}"

/-- The typing that went on at `invocation` since a snapshot was taken. `lineEnd` ends the
content of the invocation's line in the snapshot, `typed` counts the characters between the
invocation and the present offset, and `growth` is the change of the document's length. -/
structure Drift where
  invocation : Nat
  lineEnd : Nat
  typed : Nat
  growth : Int
  deriving DecidableEq, Repr

/-- The present place of an offset of the snapshot. Up to the end of the invocation's line it
moves past the typed text; on later lines it moves with the growth of the document. -/
def Drift.map (d : Drift) (offset : Nat) : Except EditError Nat :=
  if offset < d.invocation then .ok offset
  else if offset ≤ d.lineEnd then .ok (offset + d.typed)
  else
    let moved := (offset : Int) + d.growth
    if 0 ≤ moved ∧ moved ≤ Document.maxOffset then .ok moved.toNat else .error .staleSnapshot

end LanguageClient
