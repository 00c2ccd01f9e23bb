import LanguageClient.Markdown.Interruption
import LanguageClient.Text.Punctuation

/-!
# Tokens

The inline content of a block is first cut into tokens: signs that may begin or end something, the
breaks between its lines, and the text between them. `readLine` cuts one line and
`readParagraph` all lines that go on with a paragraph. A `Passage` keeps the tokens with the text
that they were cut from, since only later it turns out which of them count.
-/

namespace LanguageClient.Markdown

/-- What a token may become. -/
inductive TokenKind
  | text
  /-- What a character reference stands for. -/
  | value (content : Text)
  /-- A row of backticks, the first of which may stand behind a backslash. -/
  | ticks (count : Nat) (isEscaped : Bool)
  | angle
  | imageOpening
  | opening
  /-- A closing bracket, behind text that may refer to a definition. -/
  | closing (mayRefer : Bool)
  /-- A row of emphasis signs. -/
  | run (sign : Char) (count : Nat) (opens closes : Bool)
  | softBreak
  /-- A break that is written as a backslash or else as blanks. -/
  | hardBreak (isWritten : Bool)
  deriving DecidableEq, Repr

/-- A token with its place: the characters from `start` up to `stop`. -/
structure Token where
  kind : TokenKind
  start : Nat
  stop : Nat
  deriving DecidableEq, Repr

/-- Inline content as it is written: the whole text with the tokens in it, the containers that its
lines stand in, and whether it is the cell of a table. -/
structure Passage where
  raw : Text
  tokens : List Token
  containers : List Container
  isCell : Bool
  deriving Repr

/-! ## Tokens of a line -/

/-- The text between two places, if there is any. -/
def textToken (start stop : Nat) : List Token :=
  if start < stop then [⟨.text, start, stop⟩] else []

/-- Whether a run of emphasis signs opens between two characters, if they are there: it stands at
the left side of a word. An underscore does not open inside a word. -/
def runOpens (sign : Char) (previous next : Option Char) : Bool :=
  match next with
  | none => false
  | some next => !isSpace next && previous.all fun previous =>
      sign == '*' && !Text.isPunctuation next || isSpace previous || Text.isPunctuation previous

/-- Whether a run of emphasis signs closes between two characters, if they are there: it stands at
the right side of a word. An underscore does not close inside a word. -/
def runCloses (sign : Char) (previous next : Option Char) : Bool :=
  match previous with
  | none => false
  | some previous => !isSpace previous && next.all fun next =>
      sign == '*' && !Text.isPunctuation previous || isSpace next || Text.isPunctuation next

/-- Cuts the rest of a line into tokens, at most one for each step. The rest begins at place
`here` behind the character `previous`, and the text from `start` on belongs to no token yet. In a
cell a bar is written behind a backslash, which itself may be escaped. -/
def tokensWithin (isCell : Bool) (start here : Nat) (previous : Option Char) :
    Nat → Text → List Token
  | _, [] => textToken start here
  | 0, _ :: _ => []
  | steps + 1, c :: rest =>
    let keep (n : Nat) :=
      tokensWithin isCell start (here + n) ((c :: rest)[n - 1]?) steps ((c :: rest).drop n)
    let token (kind : TokenKind) (passed n : Nat) :=
      textToken start here ++ ⟨kind, here + passed, here + passed + n⟩ ::
        tokensWithin isCell (here + passed + n) (here + passed + n)
          ((c :: rest)[passed + n - 1]?) steps ((c :: rest).drop (passed + n))
    let escaped (dropped n : Nat) :=
      textToken start here ++
        tokensWithin isCell (here + dropped) (here + n) ((c :: rest)[n - 1]?) steps
          ((c :: rest).drop n)
    match c, rest with
    | '\\', d :: more =>
      if d = '`' then
        let n := (rest.takeWhile (· = '`')).length
        token (.ticks n true) 1 n
      else if isCell ∧ d = '\\' ∧ more.head? = some '|' then escaped 2 3
      else if isAsciiPunctuation d then escaped 1 2
      else keep 1
    | '`', _ =>
      let n := ((c :: rest).takeWhile (· = '`')).length
      token (.ticks n false) 0 n
    | '<', _ => if rest.head? = some '\\' then keep 1 else token .angle 0 1
    | '!', '[' :: _ => token .imageOpening 0 2
    | '[', _ => token .opening 0 1
    | ']', _ => token (.closing true) 0 1
    | '&', _ =>
      match reference? rest with
      | some (value, more) => token (.value value) 0 (rest.length + 1 - more.length)
      | none => keep 1
    | _, _ =>
      if c = '*' ∨ c = '_' then
        let n := ((c :: rest).takeWhile (· = c)).length
        let next := (c :: rest)[n]?
        let opens := runOpens c previous next
        let closes := runCloses c previous next
        if opens || closes then token (.run c n opens closes) 0 n else keep n
      else keep 1

/-- The tokens of a line that begins at place `here`. Blanks at its end are dropped. -/
def lineTokens (isCell : Bool) (here : Nat) (line : Text) : List Token :=
  let line := trimEnd isBlank line
  tokensWithin isCell here here none line.length line

/-- A line as it has been read: its tokens, the break behind it, the place where the next line
begins, and what follows. -/
structure Line where
  tokens : List Token
  lineBreak : Option Token
  stop : Nat
  rest : Text
  deriving Repr

/-- Whether a backslash stands at the end of a line that is not itself escaped. -/
def endsEscaping (line : Text) : Bool := (line.reverse.takeWhile (· = '\\')).length % 2 == 1

/-- Reads a line that begins at place `here`. The break behind it is hard if the line ends with a
backslash or with two blanks. -/
def readLine (here : Nat) (t : Text) : Line :=
  let line := t.takeWhile fun c => !isBreak c
  let n := line.length
  match t.drop n with
  | [] => ⟨lineTokens false here line, none, here + n, []⟩
  | c :: more =>
    let (width, rest) := match c, more with
      | '\r', '\n' :: rest => (2, rest)
      | _, rest => (1, rest)
    let stop := here + n + width
    if endsEscaping line && !rest.isEmpty then
      let tokens := tokensWithin false here here none n line.dropLast
      ⟨tokens, some ⟨.hardBreak true, here + n - 1, stop⟩, stop, rest⟩
    else
      let blanks := (line.reverse.takeWhile isBlank).length
      let lineBreak : Token :=
        if 2 ≤ blanks then ⟨.hardBreak false, here + n - blanks, stop⟩
        else ⟨.softBreak, here + n, stop⟩
      ⟨lineTokens false here line, some lineBreak, stop, rest⟩

/-! ## Paragraphs and headings -/

/-- The tokens of the last line of a paragraph: a backslash at its end is no break but text. -/
def Line.lastTokens (l : Line) : List Token :=
  match l.lineBreak with
  | some ⟨.hardBreak true, start, _⟩ => l.tokens ++ [⟨.text, start, start + 1⟩]
  | _ => l.tokens

/-- The inline content of a paragraph as it has been read: its tokens, its level if its last line
makes a heading of it, its length, and what follows. -/
structure Reading where
  tokens : List Token
  level : Option Nat
  stop : Nat
  rest : Text
  deriving Repr

/-- Reads a paragraph from place `here` on, at most one line for each step. -/
def paragraphWithin (containers : List Container) (here : Nat) : Nat → Text → Reading
  | 0, t => ⟨[], none, here, t⟩
  | steps + 1, t =>
    let l := readLine here t
    let o := onset containers l.rest
    match o.underline? with
    | some (level, rest) =>
      ⟨l.lastTokens, some level, l.stop + (l.rest.length - rest.length), rest⟩
    | none =>
      let content := o.place.content
      if o.interrupts containers || isAtBreak content then ⟨l.lastTokens, none, l.stop, l.rest⟩
      else
        let stop := l.stop + (l.rest.length - content.length)
        let more := paragraphWithin containers stop steps content
        { more with tokens := l.tokens ++ l.lineBreak.toList ++ more.tokens }

/-- Reads a paragraph. Returns its passage, its level if it is a heading, and what follows. -/
def readParagraph (containers : List Container) (t : Text) : Passage × Option Nat × Text :=
  let r := paragraphWithin containers 0 (t.length + 1) t
  (⟨t.take r.stop, r.tokens, containers, false⟩, r.level, r.rest)

/-- Moves the end of the last token. -/
def endLastAt (stop : Nat) : List Token → List Token
  | [] => []
  | [k] => [{ k with stop }]
  | k :: ks => k :: endLastAt stop ks

/-- Reads the content of a heading behind its number signs. -/
def readHeading (containers : List Container) (t : Text) : Passage × Text :=
  if isAtBreak t then (⟨[], [], containers, false⟩, afterLine t)
  else
    let t := skipBlanks t
    let l := readLine 0 t
    let raw := t.take l.stop
    let tokens := match l.lineBreak with
      | some ⟨.hardBreak true, start, stop⟩ => l.tokens ++ [⟨.text, start, stop⟩]
      | _ => l.tokens
    (⟨raw, endLastAt (headingContent raw).length tokens, containers, false⟩, l.rest)

/-! ## Tables -/

/-- The text of a cell: what stands in front of the next bar that has no backslash in front of
it, and in front of the end of the line. -/
def cellText (previous : Char) : Text → Text
  | [] => []
  | c :: rest =>
    if isBreak c ∨ c = '|' ∧ previous ≠ '\\' then [] else c :: cellText c rest

/-- Reads the cells of a row, at most one for each step. Returns what follows the row, too. -/
def cellsWithin (containers : List Container) : Nat → Text → List Passage × Text
  | 0, t => ([], t)
  | steps + 1, t =>
    let t := skipBlanks (match t with
      | '|' :: rest => rest
      | t => t)
    match afterBreak? t with
    | some rest => ([], rest)
    | none =>
      let cell := cellText ' ' t
      let (cells, rest) := cellsWithin containers steps (t.drop cell.length)
      (⟨cell, lineTokens true 0 cell, containers, true⟩ :: cells, rest)

/-- Reads the cells of a row. -/
def readCells (containers : List Container) (t : Text) : List Passage × Text :=
  cellsWithin containers (t.length + 1) t

/-- A row with as many cells as there are columns. -/
def fitRow (columns : Nat) (row : List Passage) : List Passage :=
  row.take columns ++ List.replicate (columns - row.length) ⟨[], [], [], true⟩

/-- Reads the rows of a table, at most one for each step. A row is in all containers and has at
least one cell. -/
def rowsWithin (containers : List Container) (columns : Nat) :
    Nat → Text → List (List Passage) × Text
  | 0, t => ([], t)
  | steps + 1, t =>
    let (left, c) := enterAll (.start t) containers
    if left ≠ 0 ∨ interrupts true true c.content then ([], t)
    else
      let (row, rest) := readCells containers c.content
      if row.isEmpty then ([], t)
      else
        let (rows, rest) := rowsWithin containers columns steps rest
        (fitRow columns row :: rows, rest)

/-- Reads a table whose header is this line. -/
def readTable? (containers : List Container) (t : Text) : Option (Block Passage × Text) := do
  let (alignments, body) ← tableColumns? containers t
  if endsEscaping (t.takeWhile fun c => !isBreak c) then none
  else
    let columns := alignments.length
    let (rows, rest) := rowsWithin containers columns (body.length + 1) body
    some (.table alignments (fitRow columns (readCells containers t).1) rows, rest)

end LanguageClient.Markdown
