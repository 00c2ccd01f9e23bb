import LanguageClient.Markdown.Container
import LanguageClient.Markdown.Link
import LanguageClient.Markdown.RawHtml

/-!
# Markers

What the beginning of a line says about the block that starts there: rules, headings, fences,
list items and the delimiter rows of tables.
-/

namespace LanguageClient.Markdown

/-- Whether a line is a rule: three or more of the same sign and otherwise blank. -/
def isRule (t : Text) : Bool :=
  let line := t.takeWhile fun c => !isBreak c
  let signs := line.filter fun c => !isIndentation c
  match signs with
  | [] => false
  | c :: _ => (c == '*' || c == '-' || c == '_') && 3 ≤ signs.length && signs.all (· == c) &&
      line.head? == some c

/-- What follows the end of the line that begins here. -/
def afterLine (t : Text) : Text := (afterBreak? (t.dropWhile fun c => !isBreak c)).getD []

/-! ## Headings -/

/-- The level of the heading that a row of number signs begins. -/
def headingLevel? (t : Text) : Option Nat :=
  let level := (t.takeWhile (· = '#')).length
  if 1 ≤ level ∧ level ≤ 6 ∧ (t.drop level).head?.all isBlankOrBreak then some level else none

/-- The part of a heading's line that belongs to its content. A row of number signs at the end,
set off by a space, does not. -/
def headingContent (line : Text) : Text :=
  let isTrimmed (c : Char) : Bool := c == ' ' || isBreak c
  let line := trimEnd isTrimmed line
  let body := trimEnd (· == '#') line
  if body.isEmpty then []
  else if body.getLast? = some ' ' then trimEnd (· == ' ') body
  else line

/-- The level of the heading that a line makes of the paragraph above it, with what follows the
line. -/
def underline? : Text → Option (Nat × Text)
  | '=' :: t => (lineEnd? (t.dropWhile (· = '='))).map (1, ·)
  | '-' :: t => (lineEnd? (t.dropWhile (· = '-'))).map (2, ·)
  | _ => none

/-! ## Fences -/

/-- The fence around a block of code: its sign, its length, and the columns in front of it. -/
structure Fence where
  sign : Char
  length : Nat
  indent : Nat
  deriving DecidableEq, Repr

/-- Reads the fence that begins a block of code, with the rest of its line. Returns it with the
language of the code and what follows the line. -/
def fence? (indent : Nat) (t : Text) : Option (Fence × Text × Text) :=
  match t with
  | [] => none
  | c :: _ =>
    let n := (t.takeWhile (· = c)).length
    let (info, rest) := splitLine (t.drop n)
    if (c = '`' ∧ ¬info.contains '`' ∨ c = '~') ∧ 3 ≤ n then
      let info := unescape false (trimEnd isBlankOrBreak (skipBlanks info))
      some (⟨c, n, indent⟩, info.takeWhile (· ≠ ' '), rest)
    else none

/-- What follows the closing fence of a block of code, if it stands here and nothing but spaces
follow it in its line. The end of the text closes every block. -/
def Fence.close? (f : Fence) (t : Text) : Option Text :=
  let row := t.takeWhile (· = f.sign)
  let rest := (t.drop row.length).dropWhile (· = ' ')
  if t.isEmpty ∨ f.length ≤ row.length ∧ isAtBreak rest then some ((afterBreak? rest).getD [])
  else none

/-! ## List items -/

/-- The mark in front of a list item: its sign, its number, and the columns from the margin of
the surroundings to the content of the item. -/
structure ItemMark where
  sign : Char
  number : Nat
  indent : Nat
  deriving DecidableEq, Repr

/-- Whether the mark is a number. -/
def isOrdered (sign : Char) : Bool := sign == '.' || sign == ')'

/-- Reads what follows a mark that ends in column `indent`: blanks belong to the mark unless
they are those of indented code. -/
def ItemMark.body? (sign : Char) (number indent : Nat) (c : Cursor) :
    Option (ItemMark × Cursor) :=
  match c.skip 1 with
  | (missing, c) =>
    if missing ≠ 0 ∧ ¬c.isAtEnd then none
    else if c.isBlank then some (⟨sign, number, indent + 1⟩, c)
    else
      match c.skip 4 with
      | (0, _) => some (⟨sign, number, indent + 1⟩, c)
      | (missing, c') => some (⟨sign, number, indent + 1 + (4 - missing)⟩, c')

/-- Reads the mark of a list item that is indented by `indent` columns. Numbers have at most
nine digits. -/
def itemMark? (indent : Nat) (c : Cursor) : Option (ItemMark × Cursor) :=
  match c.rest with
  | [] => none
  | sign :: _ =>
    if sign = '-' ∨ sign = '+' ∨ sign = '*' then
      if isRule c.rest then none else ItemMark.body? sign 0 (indent + 1) c.next
    else
      let digits := c.rest.takeWhile Char.isDigit
      let n := digits.length
      match c.rest.drop n with
      | delimiter :: rest =>
        if 1 ≤ n ∧ n ≤ 9 ∧ isOrdered delimiter then
          let number := digits.foldl (fun n c => 10 * n + (c.toNat - '0'.toNat)) 0
          ItemMark.body? delimiter number (indent + n + 1) ⟨rest, c.column + n + 1, c.remaining⟩
        else none
      | [] => none

/-! ## Tables -/

/-- The alignment that a column of the delimiter row stands for. -/
def alignment (column : Text) : Alignment :=
  let signs := column.filter (· ≠ ' ')
  match signs.head? == some ':', (signs.drop 1).contains ':' with
  | true, true => .center
  | true, false => .left
  | false, true => .right
  | false, false => .unspecified

/-- Reads the delimiter row of a table: columns of hyphens, with colons on the side of the
alignment, and a bar behind each of them. The last bar may be missing, and so may the hyphens of
a column behind all bars. A bar in front of the first column stands at the margin. -/
def delimiterRow? (t : Text) : Option (List Alignment × Text) :=
  let line := t.takeWhile fun c => !isBreak c
  let columns := (match line with
    | '|' :: rest => rest
    | line => line).splitOn '|'
  let last := columns.getLast?.getD []
  let closed := columns.dropLast
  let isAllowed : Bool := line.all [' ', ':', '-', '|'].contains
  let indent := (line.takeWhile (· = ' ')).length
  let isRow : Bool := line.contains '|' && line.contains '-' && closed.all (·.contains '-')
  if indent ≤ 3 ∧ isAllowed ∧ isRow then
    let columns := if last.all (· == ' ') then closed else columns
    some (columns.map alignment, afterLine t)
  else none

/-- The number of bars in a row that have no backslash in front of them. -/
def barCount (previous : Char) : Text → Nat
  | [] => 0
  | c :: rest => (if c = '|' ∧ previous ≠ '\\' then 1 else 0) + barCount c rest

/-- What follows the last bar that has no backslash in front of it, given what follows the last
one so far. -/
def afterLastBar (previous : Char) (tail : Text) : Text → Text
  | [] => tail
  | c :: rest => afterLastBar c (if c = '|' ∧ previous ≠ '\\' then rest else tail) rest

/-- The number of columns that a row divided by bars has, if it is one. -/
def columnCount? (t : Text) : Option Nat :=
  let line := t.takeWhile fun c => !isBreak c
  match barCount ' ' line with
  | 0 => none
  | bars =>
    let leading := if (skipBlanks line).head? = some '|' then 1 else 0
    let trailing := if (skipBlanks (afterLastBar ' ' line line)).isEmpty then 0 else 1
    some (bars - leading + trailing)

end LanguageClient.Markdown
