import LanguageClient.Edit.Basic
import LanguageClient.Protocol.CompletionItem
import LanguageClient.Text.Alphanumeric

/-!
# Candidates

A candidate is a completion item with the server it comes from and its place in the answers. It
knows which part of the document it replaces: the range of its text edit, or else the
identifier in front of the invocation.
-/

namespace LanguageClient

/-- The place of an item in the answers: which server, and which of its items. -/
structure ItemPosition where
  server : Nat
  item : Nat
  deriving DecidableEq, Repr

/-- The part of a document that a proposal replaces, in offsets. -/
structure ReplaceRange where
  start : Nat
  stop : Nat
  deriving DecidableEq, Repr

/-- A completion item from a server. -/
structure Candidate where
  item : CompletionItem
  server : String
  position : ItemPosition
  deriving Repr

/-- The offsets of a range. -/
def Document.rangeOffsets (d : Document) (range : Range) : Except EditError ReplaceRange := do
  let start ← (d.positionToOffset range.start).mapError .document
  let stop ← (d.positionToOffset range.stop).mapError .document
  if stop < start then throw (.invertedRange start stop)
  return ⟨start, stop⟩

/-- Whether a character may be part of an identifier. -/
def isIdentifierChar (c : Char) : Bool := Text.isAlphanumeric c || c == '_'

/-- Where the identifier begins that ends at an offset, on the offset's line. -/
def Document.identifierStart (d : Document) (offset : Nat) : Except DocumentError Nat := do
  let lineStart ← d.lineOffset (← d.offsetToLine offset)
  let before ← d.slice lineStart offset
  return offset - (before.reverse.takeWhile isIdentifierChar).length

namespace Candidate

/-- The label shown for a candidate. -/
def label (c : Candidate) : String := c.item.label

/-- The text that what is typed is matched against. -/
def filterText (c : Candidate) : String := c.item.filterText.getD c.item.label

/-- The text that candidates are sorted by. -/
def sortText (c : Candidate) : String := c.item.sortText.getD c.item.label

/-- Whether the server gave a text to sort by. -/
def hasSortText (c : Candidate) : Bool := c.item.sortText.isSome

/-- The tag of a deprecated item. -/
def deprecatedTag : Int := 1

/-- The insert text format of a snippet. -/
def snippetFormat : Int := 2

/-- Whether the server advises against this item. -/
def isDeprecated (c : Candidate) : Bool :=
  c.item.deprecated == some true || c.item.tags.any (·.contains deprecatedTag)

/-- Whether the inserted text is a snippet. -/
def isSnippet (c : Candidate) : Bool := c.item.insertTextFormat == some snippetFormat

/-- The text that the primary edit inserts; if it is a snippet, before that is resolved. -/
def insertText (c : Candidate) : String :=
  match c.item.textEdit with
  | some edit => edit.newText
  | none => c.item.insertText.getD c.item.label

/-- The part of a document that the primary edit replaces. -/
def replaceRange (c : Candidate) (d : Document) (invocation : Nat) :
    Except EditError ReplaceRange :=
  match c.item.textEdit with
  | some edit => d.rangeOffsets edit.range
  | none => do
    let start ← (d.identifierStart invocation).mapError .document
    return ⟨start, invocation⟩

end Candidate

end LanguageClient
