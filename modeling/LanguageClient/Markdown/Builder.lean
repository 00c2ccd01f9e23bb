import LanguageClient.Markdown.Token

/-!
# Blocks

The blocks of a text are built one after the other. `Builder` holds the containers that are open
and the definitions met so far. The line with which a block begins first closes the containers
that it does not go on with and opens new ones; then it says what block it begins, and the block
takes in further lines as long as they belong to it.
-/

namespace LanguageClient.Markdown

/-- A container that is open, with the blocks in it, the last one first. -/
structure Frame where
  container : Container
  content : List (Block Passage)
  deriving Repr

/-- A container as a block. -/
def Frame.block (f : Frame) : Block Passage :=
  match f.container with
  | .quote => .quote f.content.reverse
  | .list sign start isTight =>
    .list (if isOrdered sign then some start else none) isTight f.content.reverse
  | .item _ => .item f.content.reverse

/-- The state of the construction: the finished blocks outside all containers (the last one
first), the open containers (the innermost first), the definitions (the last one first), whether
the line before was blank, and whether the last item began with a blank line. -/
structure Builder where
  finished : List (Block Passage)
  frames : List Frame
  definitions : List Definition
  isAfterBlank : Bool
  isItemFresh : Bool
  deriving Repr

namespace Builder

/-- The state in front of the first block. -/
def start : Builder := ⟨[], [], [], false, false⟩

/-- Adds a block at the innermost place. -/
def add (block : Block Passage) (b : Builder) : Builder :=
  match b.frames with
  | [] => { b with finished := block :: b.finished }
  | f :: fs => { b with frames := { f with content := block :: f.content } :: fs }

/-- The open containers, the outermost first. -/
def containers (b : Builder) : List Container := (b.frames.map (·.container)).reverse

/-- The innermost container. -/
def innermost? (b : Builder) : Option Container := b.frames.head?.map (·.container)

/-- Opens a container. -/
def push (c : Container) (b : Builder) : Builder := { b with frames := ⟨c, []⟩ :: b.frames }

/-- Closes the innermost container. The end of a tight list settles its last item. -/
def pop (b : Builder) : Builder :=
  match b.frames with
  | [] => b
  | f :: fs =>
    let isItemFresh := match f.container with
      | .list _ _ true => false
      | _ => b.isItemFresh
    { b with frames := fs, isItemFresh }.add f.block

/-- Closes `n` containers. -/
def popMany : Nat → Builder → Builder
  | 0, b => b
  | n + 1, b => popMany n b.pop

/-! ## Lists -/

/-- Makes the list loose that stands at place `depth`, counted from the innermost container. -/
def loosen (depth : Nat) (b : Builder) : Builder :=
  { b with frames := b.frames.modify depth fun f =>
      match f.container with
      | .list sign start _ => { f with container := .list sign start false }
      | _ => f }

/-- Closes an item that began with a blank line if another blank line follows. -/
def settleItem (b : Builder) : Builder :=
  let b := match b.isItemFresh && b.isAfterBlank, b.innermost? with
    | true, some (.item _) => b.pop
    | _, _ => b
  { b with isItemFresh := false }

/-- Closes the list at the innermost place. A blank line between two blocks makes the list
loose that they are in. -/
def finishList (b : Builder) : Builder :=
  let b := b.settleItem
  let b := match b.innermost? with
    | some (.list ..) => b.pop
    | _ => b
  if b.isAfterBlank then { b.loosen 1 with isAfterBlank := false } else b

/-- Goes on with the list at the innermost place if it has the same sign, or opens a new one. A
blank line between two items makes a list loose. -/
def continueList (mark : ItemMark) (b : Builder) : Builder :=
  let b := b.settleItem
  let isSame := match b.innermost? with
    | some (.list sign _ _) => sign == mark.sign
    | _ => false
  let b :=
    if isSame then if b.isAfterBlank then b.loosen 0 else b
    else b.finishList.push (.list mark.sign mark.number true)
  { b with isAfterBlank := false }

/-- Opens the containers that begin here, at most one for each step. Returns the place behind
their marks unless the line ends with the mark of an item. -/
def openContainers : Nat → Cursor → Builder → Builder × Option Cursor
  | 0, c, b => (b, some c)
  | steps + 1, c, b =>
    match c.skip 4 with
    | (0, _) => (b, some c)
    | (missing, c') =>
      match itemMark? (4 - missing) c' with
      | some (mark, c) =>
        let b := (b.continueList mark).push (.item mark.indent)
        if c.isBlank then ({ b with isItemFresh := true }, none) else openContainers steps c b
      | none =>
        if c'.rest.head? = some '>' then
          openContainers steps (c'.next.skip 1).2 (b.finishList.push .quote)
        else (b, some c)

/-- Takes in a blank line, which is of no account at the end of a quote. An item that began with
a blank line may be continued no more: its content is indented by nothing. -/
def blankLine (b : Builder) : Builder :=
  match b.frames with
  | ⟨.quote, _⟩ :: _ => b
  | ⟨.item _, content⟩ :: fs =>
    let frames := if b.isItemFresh then ⟨.item 0, content⟩ :: fs else b.frames
    { b with frames, isAfterBlank := true }
  | _ => { b with isAfterBlank := true }

end Builder

/-! ## Lines that belong to a block -/

/-- Reads the lines of a block of code behind its fence, at most one for each step. Returns what
follows the block, too. -/
def fencedLines (containers : List Container) (f : Fence) : Nat → Text → List Text × Text
  | 0, t => ([], t)
  | steps + 1, t =>
    match enterAll (.start t) containers with
    | (0, c) =>
      let c := (c.skip f.indent).2
      let (missing, inner) := c.skip (4 - f.indent)
      match if missing ≠ 0 then f.close? inner.rest else none with
      | some rest => ([], rest)
      | none =>
        let (line, rest) := c.line
        let (lines, rest) := fencedLines containers f steps rest
        (line :: lines, rest)
    | _ => ([], t)

/-- Reads the lines of a block of indented code from a place behind the indentation, at most one
for each step. Every line comes with the remark whether it is blank. -/
def indentedLines (containers : List Container) : Nat → Cursor → List (Text × Bool) × Text
  | 0, c => ([], c.rest)
  | steps + 1, c =>
    let (line, rest) := c.line
    let o := onset containers rest
    let isNext := o.isInside && (o.isIndented || o.place.isAtEnd) && !o.place.rest.isEmpty
    let (lines, rest) := if isNext then indentedLines containers steps o.place else ([], rest)
    ((line, c.isBlank) :: lines, rest)

/-- Whether the last line that was read is blank. -/
def endsBlank (lines : List (Text × Bool)) : Bool := lines.getLast?.any (·.2)

/-- Indented code without the blank lines at its end. -/
def indentedCode (lines : List (Text × Bool)) : Text :=
  (lines.reverse.dropWhile (·.2)).reverse.flatMap (·.1)

/-- Reads the lines of a block of HTML, at most one for each step. -/
def htmlLines (containers : List Container) (ending : HtmlBlock.Ending) :
    Nat → Cursor → List Text × Text
  | 0, c => ([], c.rest)
  | steps + 1, c =>
    let (line, rest) := c.line
    let (left, next) := enterAll (.start rest) containers
    let isLast : Bool := match ending with
      | .line pattern => (after? pattern (splitLine c.rest).1).isSome
      | .blankLine => next.isBlank
    if left ≠ 0 ∨ isLast ∨ next.rest.isEmpty then ([line], rest)
    else
      let (lines, rest) := htmlLines containers ending steps next
      (line :: lines, rest)

/-- Reads definitions from here on, at most one for each step. Returns what follows them, which
begins a line unless it goes on with a paragraph. -/
def definitionsWithin (containers : List Container) :
    Nat → Text → List Definition × Bool × Text
  | 0, t => ([], true, t)
  | steps + 1, t =>
    let e := if t.head? = some '[' then continued containers t else []
    match definition? e.text with
    | none => ([], true, t)
    | some (d, rest) =>
      let t := t.drop (e.reach (e.length - rest.length))
      let o := onset containers t
      if o.interrupts containers then ([d], false, t)
      else
        let (ds, isParagraph, t) := definitionsWithin containers steps o.place.content
        (d :: ds, isParagraph, t)

namespace Builder

/-! ## Blocks -/

/-- Adds the definitions that begin here and the table or paragraph behind them. Returns what
follows the block. -/
def addParagraph (t : Text) (b : Builder) : Builder × Text :=
  let (ds, isParagraph, t) := definitionsWithin b.containers (t.length + 1) t
  let b := { b with definitions := ds.reverse ++ b.definitions }
  if !isParagraph then (b, t)
  else match readTable? b.containers t with
    | some (table, rest) => (b.add table, rest)
    | none =>
      match readParagraph b.containers t with
      | (content, some level, rest) => (b.add (.heading level content), rest)
      | (content, none, rest) => (b.add (.paragraph content), rest)

/-- Adds the block that begins here. Returns what follows it. -/
def addBlock (c : Cursor) (b : Builder) : Builder × Text :=
  let b := b.finishList
  let steps := c.rest.length + 1
  match c.skip 4 with
  | (0, c) =>
    let (lines, rest) := indentedLines b.containers steps c
    ({ b with isAfterBlank := endsBlank lines }.add (.code [] (indentedCode lines)), rest)
  | (missing, c) =>
    let indent := 4 - missing
    match HtmlBlock.start? c.rest with
    | some ending =>
      let (lines, rest) := htmlLines b.containers ending steps { c with remaining := indent }
      (b.add (.html lines.flatten), rest)
    | none =>
      if isRule c.rest then (b.add .rule, afterLine c.rest)
      else match headingLevel? c.rest with
        | some level =>
          let (content, rest) := readHeading b.containers (c.rest.drop level)
          (b.add (.heading level content), rest)
        | none =>
          match fence? indent c.rest with
          | some (fence, language, rest) =>
            let (lines, rest) := fencedLines b.containers fence steps rest
            (b.add (.code language lines.flatten), rest)
          | none => b.addParagraph c.rest

/-- Takes in the block that begins with this line, or the line if it is blank. Returns what
follows. -/
def step (t : Text) (b : Builder) : Builder × Text :=
  let (left, c) := enterAll (.start t) b.containers
  match (b.popMany left).openContainers (t.length + 1) c with
  | (b, none) => (b, afterLine t)
  | (b, some c) => if c.isBlank then (b.blankLine, afterLine t) else b.addBlock c

/-- Takes in a text, at most one block for each step. -/
def run : Nat → Text → Builder → Builder
  | 0, _, b => b
  | steps + 1, t, b =>
    if t.isEmpty then b
    else
      let (b, rest) := b.step t
      run steps rest b

end Builder

/-- The blocks of a text with its definitions. -/
def blocks (t : Text) : List (Block Passage) × List Definition :=
  let b := Builder.start.run t.length t
  let b := b.popMany b.frames.length
  (b.finished.reverse, b.definitions.reverse)

end LanguageClient.Markdown
