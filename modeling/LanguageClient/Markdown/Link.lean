import LanguageClient.Markdown.Character
import LanguageClient.Markdown.Reference
import LanguageClient.Markdown.Tree
import LanguageClient.Text.CaseFold

/-!
# Links

The parts of links, and the definitions that links refer to by label. All readers return what
follows the part that they read. They expect lines without the marks of containers. In the cells
of tables a bar is written behind a backslash wherever it stands.
-/

namespace LanguageClient.Markdown

/-- Resolves escapes and character references, at most one for each step. -/
def unescapeWithin (isCell : Bool) : Nat → Text → Text
  | _, [] => []
  | 0, _ :: _ => []
  | steps + 1, c :: rest =>
    match c, rest with
    | '\\', d :: more =>
      if isCell ∧ d = '\\' ∧ more.head? = some '|' then
        '|' :: unescapeWithin isCell steps (more.drop 1)
      else if isAsciiPunctuation d then d :: unescapeWithin isCell steps more
      else '\\' :: unescapeWithin isCell steps rest
    | '&', _ =>
      match reference? rest with
      | some (value, more) => value ++ unescapeWithin isCell steps more
      | none => '&' :: unescapeWithin isCell steps rest
    | '\r', _ => unescapeWithin isCell steps rest
    | _, _ => c :: unescapeWithin isCell steps rest

/-- A text with its escapes and character references resolved, and without carriage returns. -/
def unescape (isCell : Bool) (t : Text) : Text := unescapeWithin isCell t.length t

/-- Passes over blanks, among them at most one line break. -/
def skipSeparator (t : Text) : Text :=
  match afterBreak? (skipBlanks t) with
  | some rest => skipBlanks rest
  | none => skipBlanks t

/-! ## Destinations -/

/-- Reads a destination up to its closing angle bracket. `done` has been read, the last
character first. -/
def pointedDestination? (done : Text) : Text → Option (Text × Text)
  | [] => none
  | '>' :: rest => some (done.reverse, rest)
  | '\\' :: c :: rest =>
    if isAsciiPunctuation c then pointedDestination? (c :: '\\' :: done) rest
    else pointedDestination? ('\\' :: done) (c :: rest)
  | c :: rest => if c = '<' ∨ isBreak c then none else pointedDestination? (c :: done) rest

/-- Parentheses in a destination may be nested this deep. -/
def nestingLimit : Nat := 33

/-- Reads a destination up to a blank or to a closing parenthesis of its surroundings. Inside
`depth` parentheses of its own it does not end. -/
def plainDestination? (depth : Nat) (done : Text) : Text → Option (Text × Text)
  | [] => if depth = 0 then some (done.reverse, []) else none
  | '(' :: rest =>
    if depth < nestingLimit then plainDestination? (depth + 1) ('(' :: done) rest else none
  | ')' :: rest =>
    if depth = 0 then some (done.reverse, ')' :: rest)
    else plainDestination? (depth - 1) (')' :: done) rest
  | '\\' :: c :: rest =>
    if isAsciiPunctuation c then plainDestination? depth (c :: '\\' :: done) rest
    else plainDestination? depth ('\\' :: done) (c :: rest)
  | c :: rest =>
    if c ≤ ' ' then
      if depth = 0 then some (done.reverse, c :: rest) else none
    else plainDestination? depth (c :: done) rest

/-- Reads a destination. -/
def destination? (isCell : Bool) (t : Text) : Option (Text × Text) := do
  let (raw, rest) ← match t with
    | '<' :: t => pointedDestination? [] t
    | t => plainDestination? 0 [] t
  return (unescape isCell raw, rest)

/-! ## Links with their targets -/

/-- The sign that closes a title, given the one that opens it. -/
def titleEnd? : Char → Option Char
  | '"' => some '"'
  | '\'' => some '\''
  | '(' => some ')'
  | _ => none

/-- Passes over the indentation of a line in a title, and over the backslash of an escape with
which the line begins. -/
def skipIndentation (t : Text) : Text :=
  match t.dropWhile isIndentation with
  | '\\' :: c :: rest => if isAsciiPunctuation c then c :: rest else '\\' :: c :: rest
  | t => t

/-- Reads the title of a link up to its closing sign, at most one character for each step. Escapes
and character references are resolved on the way, and every line break counts as a line feed. -/
def titleWithin (isCell : Bool) (opening closing : Char) : Nat → Text → Option (Text × Text)
  | _, [] => none
  | 0, _ :: _ => none
  | steps + 1, c :: rest =>
    let next (content rest : Text) :=
      (titleWithin isCell opening closing steps rest).map fun (title, rest) =>
        (content ++ title, rest)
    if c = closing then some ([], rest)
    else if c = opening then none
    else if c = '\n' ∨ c = '\r' ∧ rest.head? ≠ some '\n' then next ['\n'] (skipIndentation rest)
    else match c, rest with
      | '&', _ =>
        match reference? rest with
        | some (value, rest) => next value rest
        | none => next ['&'] rest
      | '\\', d :: more =>
        if isCell ∧ d = '\\' ∧ more.head? = some '|' then next ['|'] (more.drop 1)
        else if isAsciiPunctuation d then next [d] more
        else next ['\\'] rest
      | _, _ => next [c] rest

/-- Reads the title of a link, in quotes, apostrophes or parentheses. -/
def title? (isCell : Bool) : Text → Option (Text × Text)
  | [] => none
  | opening :: t => do
    titleWithin isCell opening (← titleEnd? opening) t.length t

/-- Reads the target of a link in parentheses. -/
def parenthesizedTarget? (isCell : Bool) : Text → Option (Target × Text)
  | '(' :: t => do
    let (destination, t) ← destination? isCell (skipSeparator t)
    let t := skipSeparator t
    let (title, t) := match title? isCell t with
      | some (title, t) => (title, skipSeparator t)
      | none => ([], t)
    match t with
    | ')' :: rest => some (⟨destination, title⟩, rest)
    | _ => none
  | _ => none

/-! ## Labels -/

/-- The characters of a label as they count against its length: outside escapes and blanks, those
of ASCII do not, and others do by their bytes. -/
def labelWeight (c : Char) : Nat := if c.toNat < 0x80 then 0 else c.utf8Size

/-- Labels weigh less than this. -/
def labelBound : Nat := 1000

/-- Reads a label up to its closing bracket, at most one character for each step. Rows of blanks
count as one space and hold at most one line break. `weight` and `isBlank` are the weight of what
has been read and whether it was blank but for escapes. -/
def labelWithin (isCell isBlank : Bool) (weight : Nat) : Nat → Text → Option (Text × Text)
  | _, [] => none
  | 0, _ :: _ => none
  | steps + 1, c :: rest =>
    let next (isBlank : Bool) (weight : Nat) (content rest : Text) :=
      (labelWithin isCell isBlank weight steps rest).map fun (label, rest) =>
        (content ++ label, rest)
    if labelBound ≤ weight then none
    else if c = ']' then if isBlank then none else some ([], rest)
    else if c = '[' then none
    else if c = '\\' then
      match rest with
      | [] => none
      | d :: rest =>
        if isCell ∧ d = '|' then next isBlank (weight + 1) ['|'] rest
        else
          next (isBlank && d.toNat < 0x80) (weight + 2 + (d.utf8Size - 1)) [c, d] rest
    else if isBlankOrBreak c then
      let gap := (c :: rest).takeWhile isBlankOrBreak
      let rest := (c :: rest).drop gap.length
      if (afterBreak? (skipBlanks gap)).map skipBlanks = some [] then
        next isBlank (weight + gap.length) [' '] rest
      else none
    else next false (weight + labelWeight c) [c] rest

/-- Reads a label behind its opening bracket and brings it into the form in which labels are
compared: without blanks at its ends, and without regard to case. -/
def label? (isCell : Bool) (t : Text) : Option (Text × Text) := do
  let (label, rest) ← labelWithin isCell true 0 t.length t
  return (Text.foldCase (trimEnd isBlankOrBreak (label.dropWhile isBlankOrBreak)), rest)

/-! ## Definitions -/

/-- What a label stands for. -/
structure Definition where
  label : Text
  target : Target
  deriving DecidableEq, Repr

/-- The target of a label. The first definition counts. -/
def lookup? (definitions : List Definition) (label : Text) : Option Target :=
  (definitions.find? (·.label == label)).map (·.target)

/-- Reads the title of a definition up to its closing sign. Line breaks count as line feeds, and
the indentation of a line is dropped. `done` has been read, the last character first. -/
def definitionTitle? (closing : Char) (isIndented : Bool) (done : Text) :
    Text → Option (Text × Text)
  | [] => none
  | '\\' :: c :: rest =>
    if isBreak c then definitionTitle? closing false ('\\' :: done) (c :: rest)
    else definitionTitle? closing false (c :: '\\' :: done) rest
  | '\r' :: '\n' :: rest => definitionTitle? closing true ('\n' :: done) rest
  | c :: rest =>
    if isIndented ∧ isIndentation c then definitionTitle? closing true done rest
    else if isBreak c then definitionTitle? closing true ('\n' :: done) rest
    else if c = closing then some (done.reverse, rest)
    else if c = '(' ∧ closing = ')' then none
    else definitionTitle? closing false (c :: done) rest

/-- Reads a definition up to the end of its line. A title that does not end its line is no part
of the definition, which then has to end with the line before. -/
def definition? : Text → Option (Definition × Text)
  | '[' :: t => do
    let (label, t) ← label? false t
    let t ← match t with
      | ':' :: t => some (skipSeparator t)
      | _ => none
    let (destination, afterDestination) ← destination? false t
    if afterDestination.length = t.length then none
    let titled := do
      let t := skipSeparator afterDestination
      if t.length = afterDestination.length then none
      let opening ← t.head?
      let (title, t) ← definitionTitle? (← titleEnd? opening) false [] (t.drop 1)
      return (unescape false title, ← lineEnd? t)
    match titled with
    | some (title, rest) => return (⟨label, ⟨destination, title⟩⟩, rest)
    | none => return (⟨label, ⟨destination, []⟩⟩, ← lineEnd? afterDestination)
  | _ => none

end LanguageClient.Markdown
