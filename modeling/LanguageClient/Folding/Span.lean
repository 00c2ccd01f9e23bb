import LanguageClient.Document

/-!
# Tracked spans

A span follows the characters that it covers across the edits of a document: text removed from
it shrinks it, text inserted between its characters makes it grow, and all else moves it. A span
whose characters have all been removed is decayed.
-/

namespace LanguageClient

/-- `length` characters from `offset` on. -/
structure Span where
  offset : Nat
  length : Nat
  deriving DecidableEq, Repr

namespace Span

/-- The offset behind a span. -/
def stop (s : Span) : Nat := s.offset + s.length

/-- Whether nothing is left of what a span covered. -/
def isDecayed (s : Span) : Bool := s.length == 0

/-- The offset of the last character that a span covers; its own offset if it covers none. -/
def lastOffset (s : Span) : Nat := max (s.stop - 1) s.offset

/-- The first and the last line that a span covers. One that ends with a line break does not
cover the line behind it. -/
def lines (s : Span) (d : Document) : Except DocumentError (Nat × Nat) := do
  return (← d.offsetToLine s.offset, ← d.offsetToLine s.lastOffset)

/-- The span once `count` characters at `offset` have been removed. -/
def afterRemoval (s : Span) (offset count : Nat) : Span :=
  if count = 0 then s
  else
    let lastRemoved := offset + count - 1
    if s.lastOffset < offset then s
    else if s.offset ≤ offset then
      let inside := if lastRemoved ≤ s.lastOffset then count else s.lastOffset - offset + 1
      ⟨s.offset, s.length - inside⟩
    else if lastRemoved < s.offset then ⟨s.offset - count, s.length⟩
    else ⟨offset, s.length - (lastRemoved - s.offset + 1)⟩

/-- The span once `count` characters have been inserted at `offset`. -/
def afterInsertion (s : Span) (offset count : Nat) : Span :=
  if count = 0 then s
  else if s.lastOffset < offset then s
  else if s.offset < offset then ⟨s.offset, s.length + count⟩
  else ⟨s.offset + count, s.length⟩

/-- The span after a change of its document. -/
def afterChange (s : Span) (c : TextChange) : Span :=
  (s.afterRemoval c.offset c.removed).afterInsertion c.offset c.inserted

end Span

end LanguageClient
