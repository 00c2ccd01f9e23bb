import LanguageClient.Completion.Info
import LanguageClient.Completion.Label
import LanguageClient.Completion.Ranking
import LanguageClient.Edit.Plan
import LanguageClient.Snippet.Resolve

/-!
# Proposals

A completion proposal belongs to the snapshot and the offset that it was computed for. It can be
applied later, as long as the document is that snapshot with nothing but some text typed at the
offset: its edits are moved across the typed text, which the primary edit then replaces.
`CompletionProposal.typedDrift` recognises this; any other document is stale.
-/

namespace LanguageClient

/-- A candidate that is ready to be applied. -/
structure CompletionProposal where
  candidate : Candidate
  matchClass : MatchClass
  snapshot : Document
  invocation : Nat
  replace : ReplaceRange
  deriving Repr

namespace CompletionProposal

/-- The proposal for a ranked candidate. -/
def ofRanked (r : Ranked) (snapshot : Document) (invocation : Nat) : CompletionProposal :=
  ⟨r.candidate, r.matchClass, snapshot, invocation, r.replace⟩

/-- The same proposal with more details of its item. -/
def withItem (p : CompletionProposal) (item : CompletionItem) : CompletionProposal :=
  { p with candidate := { p.candidate with item } }

/-- The label with its style. -/
def styledLabel (p : CompletionProposal) : StyledLabel :=
  .ofText p.candidate.label.toList p.candidate.isDeprecated

/-- The label with the part in bold that matches what stands between the start of the replaced
part and `offset`. -/
def highlightedLabel (p : CompletionProposal) (d : Document) (offset : Nat) : StyledLabel :=
  if offset ≤ p.replace.start then p.styledLabel
  else match d.slice p.replace.start offset with
    | .error _ => p.styledLabel
    | .ok typed =>
      match Text.find? CasePolicy.insensitive.same typed p.styledLabel.text with
      | some start => p.styledLabel.withBold start typed.length
      | none => p.styledLabel

/-- The HTML shown beside the proposal. -/
def info (p : CompletionProposal) : String := p.candidate.item.info

/-- The text of the primary edit and its cursor. -/
def inserted (p : CompletionProposal) : Snippet.Resolved :=
  let text := p.candidate.insertText.toList
  if p.candidate.isSnippet then Snippet.resolve text else ⟨text, none⟩

/-- The edits of the proposal, in offsets of its snapshot. -/
def editPlan (p : CompletionProposal) : Except EditError EditPlan := do
  let { text, cursor } := p.inserted
  let additional ← (p.candidate.item.additionalTextEdits.getD []).mapM fun edit => do
    let range ← p.snapshot.rangeOffsets edit.range
    return { start := range.start, stop := range.stop, text := edit.newText.toList : Edit }
  return { primary := ⟨p.replace.start, p.replace.stop, text⟩, additional, cursor }

/-- By how much a document has grown since the snapshot. -/
def growth (p : CompletionProposal) (d : Document) : Int :=
  (d.length : Int) - (p.snapshot.length : Int)

/-- Where the content of the invocation's line ends in the snapshot. -/
def invocationLineEnd (p : CompletionProposal) : Except DocumentError Nat := do
  let line ← p.snapshot.offsetToLine p.invocation
  let start ← p.snapshot.lineOffset line
  let stop ← p.snapshot.lineEndOffset line
  let lineText ← p.snapshot.slice start stop
  return start + Text.contentLength lineText

/-- Whether a document is the snapshot with `typed` characters inserted at the invocation. -/
def isSnapshotWithTyping (p : CompletionProposal) (d : Document) (typed : Nat) :
    Except DocumentError Bool := do
  let before ← d.slice 0 p.invocation
  let before' ← p.snapshot.slice 0 p.invocation
  let after ← d.slice (p.invocation + typed) d.length
  let after' ← p.snapshot.slice p.invocation p.snapshot.length
  return before == before' && after == after'

/-- The drift of `typed` characters inserted at the invocation, if that is all that happened. -/
def typedDrift (p : CompletionProposal) (d : Document) (typed : Nat) :
    Except EditError Drift := do
  if p.growth d ≠ typed then throw .staleSnapshot
  if !(← (p.isSnapshotWithTyping d typed).mapError .document) then throw .staleSnapshot
  let lineEnd ← p.invocationLineEnd.mapError .document
  return ⟨p.invocation, lineEnd, typed, p.growth d⟩

/-- The edits that apply the proposal to a document with `typed` characters inserted at the
invocation. The primary edit ends in `committed`. -/
def driftedPlan (p : CompletionProposal) (d : Document) (typed : Nat) (committed : Text) :
    Except EditError EditPlan := do
  let drift ← p.typedDrift d typed
  let plan ← p.editPlan
  let primary := { plan.primary with text := plan.primary.text ++ committed }
  { plan with primary }.withDrift drift

/-- Applies the proposal in place to its snapshot with any text typed at the invocation. Returns
the document as it is left and the offset of the cursor. -/
def perform (p : CompletionProposal) (d : Document) : Document × Except EditError Nat :=
  if p.growth d < 0 then (d, .error .staleSnapshot)
  else EditPlan.attempt d (p.driftedPlan d (p.growth d).toNat [])

/-- Applies the proposal as `perform` does, but returns a document only if that succeeds. -/
def apply (p : CompletionProposal) (d : Document) : Except EditError (Document × Nat) :=
  let (d', cursor) := p.perform d
  cursor.map (d', ·)

/-- Whether typing a character accepts the proposal. -/
def isCommitCharacter (p : CompletionProposal) (c : Char) : Bool :=
  (p.candidate.item.commitCharacters.getD []).any fun s => s.toList == [c]

/-- Applies the proposal in place after typing up to `offset`. A trigger that is a commit
character is appended to the inserted text. -/
def performWithTyping (p : CompletionProposal) (d : Document) (trigger : Option Char)
    (offset : Nat) : Document × Except EditError Nat :=
  if offset < p.invocation then (d, .error .staleSnapshot)
  else
    EditPlan.attempt d
      (p.driftedPlan d (offset - p.invocation) (trigger.filter p.isCommitCharacter).toList)

/-- Applies the proposal as `performWithTyping` does, but returns a document only if that
succeeds. -/
def applyWithTyping (p : CompletionProposal) (d : Document) (trigger : Option Char)
    (offset : Nat) : Except EditError (Document × Nat) :=
  let (d', cursor) := p.performWithTyping d trigger offset
  cursor.map (d', ·)

end CompletionProposal

/-- An entry of a completion result. -/
inductive Proposal
  | completion (proposal : CompletionProposal)
  /-- Typing on may bring more proposals. -/
  | continueTyping
  /-- A server failed to answer. -/
  | serverError (server message : String)
  deriving Repr

namespace Proposal

/-- The label of the entry that asks for more typing. -/
def continueTypingLabel : String := "➕ Continue typing for more proposals..."

/-- The text shown for an entry. -/
def display : Proposal → String
  | completion p => p.candidate.label
  | continueTyping => continueTypingLabel
  | serverError server message => s!"{server}: {message}"

/-- The label of an entry with its style. -/
def styledLabel : Proposal → StyledLabel
  | completion p => p.styledLabel
  | entry => .plain entry.display.toList

/-- The HTML shown beside an entry. -/
def info : Proposal → String
  | completion p => p.info
  | _ => ""

/-- Whether an entry can be applied. -/
def isActionable : Proposal → Bool
  | completion _ => true
  | _ => false

/-- The completion proposal that an entry is. -/
def completion? : Proposal → Option CompletionProposal
  | completion p => some p
  | _ => none

/-- Applies an entry. One that is no completion leaves the document alone and has no cursor. -/
def apply (entry : Proposal) (d : Document) : Except EditError (Document × Option Nat) :=
  match entry with
  | completion p => (p.apply d).map fun (d, cursor) => (d, some cursor)
  | _ => .ok (d, none)

/-- Applies an entry after typing, see `CompletionProposal.applyWithTyping`. -/
def applyWithTyping (entry : Proposal) (d : Document) (trigger : Option Char) (offset : Nat) :
    Except EditError (Document × Option Nat) :=
  match entry with
  | completion p =>
    (p.applyWithTyping d trigger offset).map fun (d, cursor) => (d, some cursor)
  | _ => .ok (d, none)

end Proposal

end LanguageClient
