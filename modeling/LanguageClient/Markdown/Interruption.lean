import LanguageClient.Markdown.Marker

/-!
# Interruption

A paragraph goes on until a line interrupts it. A line that leaves containers may still go on
with the paragraph in them, so what interrupts depends on whether the line is inside the same
containers. `continued` is the text that a paragraph might reach over.
-/

namespace LanguageClient.Markdown

/-- Whether the item of a list is empty and a blank line follows it, given what stands behind its
mark. -/
def isEmptyItem (t : Text) : Bool := isBlankLine t && isBlankLine (afterLine t)

/-- Whether a line ends the paragraph or the table above it. Inside the same containers a list
item ends a paragraph only if it is not empty and not numbered otherwise than by one. -/
def interrupts (isInside isTable : Bool) (t : Text) : Bool :=
  isAtBreak t || isRule t || (headingLevel? t).isSome || (fence? 0 t).isSome ||
    t.head? == some '>' || (HtmlBlock.interrupting? t).isSome ||
    match itemMark? 0 ⟨t, 0, 0⟩ with
    | some (mark, c) =>
      !isInside || isTable ||
        ((!isOrdered mark.sign || mark.number == 1) && !isEmptyItem c.rest)
    | none => false

/-- The columns of the table whose header is this line, with what follows its delimiter row. -/
def tableColumns? (containers : List Container) (t : Text) : Option (List Alignment × Text) := do
  let columns ← columnCount? t
  match enterAll (.start (afterLine t)) containers with
  | (0, c) =>
    let (alignments, rest) ← delimiterRow? c.rest
    if alignments.length = columns then some (alignments, rest) else none
  | _ => none

/-- Whether a line ends the paragraph above it, be it as the header of a table. -/
def interruptsParagraph (containers : List Container) (isInside : Bool) (t : Text) : Bool :=
  interrupts isInside false t || (t.head? == some '|' && (tableColumns? containers t).isSome)

/-- The beginning of a line: the place behind the marks of containers and at most four columns of
indentation, whether all containers have their marks, and whether there are those four
columns. -/
structure Onset where
  place : Cursor
  isInside : Bool
  isIndented : Bool
  deriving DecidableEq, Repr

/-- The beginning of a line in containers. -/
def onset (containers : List Container) (t : Text) : Onset :=
  let (left, c) := enterAll (.start t) containers
  let (missing, place) := c.skip 4
  ⟨place, left == 0, missing == 0⟩

/-- Whether a line ends the paragraph above it. One that is indented like code does not. -/
def Onset.interrupts (containers : List Container) (o : Onset) : Bool :=
  !o.isIndented && interruptsParagraph containers o.isInside o.place.rest

/-- The level of the heading that a line makes of the paragraph above it, with what follows the
line. -/
def Onset.underline? (o : Onset) : Option (Nat × Text) :=
  if o.isInside && !o.isIndented then Markdown.underline? o.place.rest else none

/-- What a definition may reach over: the text up to the line that interrupts the paragraph which
begins here or underlines it, without the marks of containers. `skipped` characters are passed
over first, and `done` characters have been passed already. -/
def continuedFrom (containers : List Container) (skipped done : Nat) : Text → Excerpt
  | [] => []
  | c :: rest =>
    match skipped with
    | skipped + 1 => continuedFrom containers skipped (done + 1) rest
    | 0 =>
      if c == '\n' || (c == '\r' && rest.head? != some '\n') then
        let o := onset containers rest
        if o.interrupts containers || o.underline?.isSome then [(c, done + 1)]
        else
          (c, done + 1) ::
            continuedFrom containers (rest.length - o.place.rest.length) (done + 1) rest
      else (c, done + 1) :: continuedFrom containers 0 (done + 1) rest

/-- What a definition may reach over that begins here. -/
def continued (containers : List Container) (t : Text) : Excerpt :=
  continuedFrom containers 0 0 t

end LanguageClient.Markdown
