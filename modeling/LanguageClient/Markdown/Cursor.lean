import LanguageClient.Markdown.Character

/-!
# Columns

The blocks of a Markdown text are told apart at the beginnings of its lines, and there by
columns: a tab reaches to the next multiple of four. A `Cursor` is a place in a line, possibly
inside a tab.
-/

namespace LanguageClient.Markdown

/-- A place in a line: the text that follows it, its column, and the number of columns that
remain of a tab passed in part. The column counts the whole of that tab. -/
structure Cursor where
  rest : Text
  column : Nat
  remaining : Nat
  deriving DecidableEq, Repr

namespace Cursor

/-- The beginning of a line. -/
def start (t : Text) : Cursor := ⟨t, 0, 0⟩

/-- Passes over `n` columns of spaces and tabs. Returns how many were missing. -/
def skipFrom (n column : Nat) : Text → Nat × Cursor
  | [] => (n, ⟨[], column, 0⟩)
  | c :: rest =>
    if n = 0 then (0, ⟨c :: rest, column, 0⟩)
    else if c = ' ' then skipFrom (n - 1) (column + 1) rest
    else if c = '\t' then
      let width := 4 - column % 4
      if width ≤ n then skipFrom (n - width) (column + width) rest
      else (0, ⟨rest, column + width, width - n⟩)
    else (n, ⟨c :: rest, column, 0⟩)

/-- Passes over `n` blank columns. Returns how many were missing. -/
def skip (n : Nat) (c : Cursor) : Nat × Cursor :=
  if n ≤ c.remaining then (0, { c with remaining := c.remaining - n })
  else skipFrom (n - c.remaining) c.column c.rest

/-- Passes over a character that is not blank. -/
def next (c : Cursor) : Cursor := { c with rest := c.rest.drop 1, column := c.column + 1 }

/-- Passes over all spaces and tabs. -/
def content (c : Cursor) : Text := c.rest.dropWhile isIndentation

/-- Whether the line ends here. -/
def isAtEnd (c : Cursor) : Bool := isAtBreak c.rest

/-- Whether nothing but blanks follows in the line. -/
def isBlank (c : Cursor) : Bool := isBlankLine c.rest

/-- The line from here on, as it is shown in a block that keeps its lines: with spaces for the
remainder of a tab. Returns what follows the line, too. -/
def line (c : Cursor) : Text × Text :=
  let (line, rest) := splitLine c.rest
  (List.replicate c.remaining ' ' ++ plainBreak line, rest)

end Cursor

end LanguageClient.Markdown
