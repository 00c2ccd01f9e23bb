import LanguageClient.Text.CodeUnits
import LanguageClient.Text.Lines

/-!
# Documents

A document is a text with a modification stamp, which counts the replacements made so far.
Offsets count characters; a `Position` is a line and a number of UTF-16 code units in it.
Going from one to the other goes through the lines of the text (`Text.lines`).
-/

namespace LanguageClient

/-- A place in a document: a line and a number of UTF-16 code units from the line's start. -/
structure Position where
  line : Nat
  character : Nat
  deriving DecidableEq, Repr

/-- What a replacement did: at `offset`, `removed` characters gave way to `inserted` new ones. -/
structure TextChange where
  offset : Nat
  removed : Nat
  inserted : Nat
  deriving DecidableEq, Repr

/-- Why a document refuses to look at a place. -/
inductive DocumentError
  | lineOutOfBounds (line lineCount : Nat)
  | offsetOutOfBounds (offset length : Nat)
  | rangeOutOfBounds (start stop length : Nat)
  deriving DecidableEq, Repr

/-- The text shown for an error. -/
def DocumentError.message : DocumentError → String
  | .lineOutOfBounds line count =>
    s!"Line {line} is out of bounds (document has {count} lines)"
  | .offsetOutOfBounds offset length =>
    s!"Offset {offset} is out of bounds (document length {length})"
  | .rangeOutOfBounds start stop length =>
    s!"Range {start}..{stop} is out of bounds (document length {length})"

/-- A text under edit. `stamp` counts its modifications, and `uri` names it to servers. -/
structure Document where
  text : Text
  stamp : Nat := 0
  uri : Option String := none
  deriving DecidableEq, Repr

namespace Document

/-- The largest offset that a machine word holds. -/
def maxOffset : Nat := UInt64.size - 1

/-- The length of a document in characters. -/
def length (d : Document) : Nat := d.text.length

/-- The number of lines, at least one. -/
def lineCount (d : Document) : Nat := d.text.lines.length

private def checkLine (d : Document) (line : Nat) : Except DocumentError Unit :=
  if line < d.lineCount then .ok () else .error (.lineOutOfBounds line d.lineCount)

private def checkOffset (d : Document) (offset : Nat) : Except DocumentError Unit :=
  if offset ≤ d.length then .ok () else .error (.offsetOutOfBounds offset d.length)

private def checkRange (d : Document) (start stop : Nat) : Except DocumentError Unit :=
  if start ≤ stop ∧ stop ≤ d.length then .ok ()
  else .error (.rangeOutOfBounds start stop d.length)

/-- The offset at which a line starts. -/
def lineOffset (d : Document) (line : Nat) : Except DocumentError Nat := do
  d.checkLine line
  return Text.lineStart d.text.lines line

/-- The offset at which a line, with its break, ends. -/
def lineEndOffset (d : Document) (line : Nat) : Except DocumentError Nat := do
  d.checkLine line
  return Text.lineStart d.text.lines (line + 1)

theorem lineOffset_of_lt {d : Document} {line : Nat} (h : line < d.lineCount) :
    d.lineOffset line = .ok (Text.lineStart d.text.lines line) := by
  rw [lineOffset, checkLine, if_pos h]
  rfl

theorem lineOffset_eq_ok_iff {d : Document} {line offset : Nat} :
    d.lineOffset line = .ok offset ↔
      line < d.lineCount ∧ Text.lineStart d.text.lines line = offset := by
  by_cases h : line < d.lineCount
  · simp [lineOffset_of_lt h, h]
  · simp [lineOffset, checkLine, h, bind, Except.bind]

theorem lineEndOffset_of_lt {d : Document} {line : Nat} (h : line < d.lineCount) :
    d.lineEndOffset line = .ok (Text.lineStart d.text.lines (line + 1)) := by
  rw [lineEndOffset, checkLine, if_pos h]
  rfl

/-- The line that holds an offset. The end of the document belongs to its last line. -/
def offsetToLine (d : Document) (offset : Nat) : Except DocumentError Nat := do
  d.checkOffset offset
  return Text.lineAt d.text.lines offset

theorem offsetToLine_of_le {d : Document} {offset : Nat} (h : offset ≤ d.length) :
    d.offsetToLine offset = .ok (Text.lineAt d.text.lines offset) := by
  rw [offsetToLine, checkOffset, if_pos h]
  rfl

theorem exists_offsetToLine_eq_ok {d : Document} {offset : Nat} (h : offset ≤ d.length) :
    ∃ line, d.offsetToLine offset = .ok line := ⟨_, offsetToLine_of_le h⟩

/-- The offset of a position. A position behind the content of its line stands for the end of
the content, and one inside a pair of code units for the character of the pair. -/
def positionToOffset (d : Document) (p : Position) : Except DocumentError Nat := do
  d.checkLine p.line
  let lines := d.text.lines
  let content := Text.content (lines.getD p.line [])
  return Text.lineStart lines p.line + Text.charsWithin content p.character

theorem positionToOffset_of_lt {d : Document} {p : Position} (h : p.line < d.lineCount) :
    d.positionToOffset p = .ok (Text.lineStart d.text.lines p.line +
      Text.charsWithin (Text.content (d.text.lines.getD p.line [])) p.character) := by
  rw [positionToOffset, checkLine, if_pos h]
  rfl

theorem positionToOffset_of_le {d : Document} {p : Position} (h : d.lineCount ≤ p.line) :
    d.positionToOffset p = .error (.lineOutOfBounds p.line d.lineCount) := by
  rw [positionToOffset, checkLine, if_neg (Nat.not_lt_of_le h)]
  rfl

/-- The position of an offset. -/
def offsetToPosition (d : Document) (offset : Nat) : Except DocumentError Position := do
  d.checkOffset offset
  let lines := d.text.lines
  let line := Text.lineAt lines offset
  let before := d.text.slice (Text.lineStart lines line) offset
  return ⟨line, Text.utf16Length before⟩

theorem offsetToPosition_of_le {d : Document} {offset : Nat} (h : offset ≤ d.length) :
    d.offsetToPosition offset = .ok ⟨Text.lineAt d.text.lines offset, Text.utf16Length
      (d.text.slice (Text.lineStart d.text.lines (Text.lineAt d.text.lines offset)) offset)⟩ := by
  rw [offsetToPosition, checkOffset, if_pos h]
  rfl

theorem exists_offsetToPosition_eq_ok {d : Document} {offset : Nat} (h : offset ≤ d.length) :
    ∃ position, d.offsetToPosition offset = .ok position := ⟨_, offsetToPosition_of_le h⟩

theorem le_of_offsetToPosition_eq_ok {d : Document} {offset : Nat} {p : Position}
    (h : d.offsetToPosition offset = .ok p) : offset ≤ d.length := by
  by_cases hle : offset ≤ d.length
  · exact hle
  · simp [offsetToPosition, checkOffset, hle, bind, Except.bind] at h

/-- The characters from `start` up to `stop`. -/
def slice (d : Document) (start stop : Nat) : Except DocumentError Text := do
  d.checkRange start stop
  return d.text.slice start stop

theorem slice_of_le {d : Document} {start stop : Nat} (h : start ≤ stop) (h' : stop ≤ d.length) :
    d.slice start stop = .ok (d.text.slice start stop) := by
  rw [slice, checkRange, if_pos ⟨h, h'⟩]
  rfl

theorem slice_of_length_lt {d : Document} {start stop : Nat} (h : d.length < stop) :
    d.slice start stop = .error (.rangeOutOfBounds start stop d.length) := by
  rw [slice, checkRange, if_neg fun hrange => Nat.not_le_of_gt h hrange.2]
  rfl

/-- Replaces `removed` characters at `offset` by `new` and counts the modification. If the range
is refused, the error shows an end beyond the largest offset as that offset. -/
def replace (d : Document) (offset removed : Nat) (new : Text) :
    Except DocumentError (Document × TextChange) :=
  if offset + removed ≤ d.length then
    .ok ({ d with text := d.text.splice offset (offset + removed) new, stamp := d.stamp + 1 },
      ⟨offset, removed, new.length⟩)
  else .error (.rangeOutOfBounds offset (min (offset + removed) maxOffset) d.length)

theorem replace_of_le {d : Document} {offset removed : Nat} (new : Text)
    (h : offset + removed ≤ d.length) :
    d.replace offset removed new =
      .ok ({ d with text := d.text.splice offset (offset + removed) new, stamp := d.stamp + 1 },
        ⟨offset, removed, new.length⟩) := if_pos h

end Document

end LanguageClient
