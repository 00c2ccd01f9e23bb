import LanguageClient.Markdown.Emphasis
import LanguageClient.Markdown.Token

/-!
# Inline content

The tokens of a passage are gone through from left to right. `InlineReader` holds what has been
made of them: pieces of content and runs of emphasis signs, and the brackets that have been
opened. A closing bracket that makes a link pairs the runs inside it first, so that emphasis never
straddles the border of a link; all other runs are paired at the end. Code spans, addresses, HTML
and the targets of links take up tokens that stand in them.
-/

namespace LanguageClient.Markdown

/-! ## Code spans and addresses -/

/-- Takes the backslash from every bar behind one. -/
def plainBars : Text → Text
  | [] => []
  | '\\' :: '|' :: rest => '|' :: plainBars rest
  | c :: rest => c :: plainBars rest

/-- The code that a span shows: breaks become spaces, and one space is taken off at either end
unless there is nothing but spaces. In a table cell a bar is written behind a backslash. -/
def codeContent (isCell : Bool) (raw : Text) : Text :=
  let t := raw.map fun c => if isBreak c then ' ' else c
  let t := if isCell then plainBars t else t
  if t.head? = some ' ' ∧ t.getLast? = some ' ' ∧ t.any (· ≠ ' ') then (t.drop 1).dropLast else t

/-- Reads an address with its scheme behind an angle bracket. -/
def schemeAddress? (t : Text) : Option (Text × Text) :=
  let scheme := t.takeWhile fun c => c.isAlphanum || c == '.' || c == '-' || c == '+'
  match t.drop scheme.length with
  | ':' :: t' =>
    let path := t'.takeWhile fun c => ' ' < c && c != '<' && c != '>'
    if t.head?.any Char.isAlpha ∧ 2 ≤ scheme.length ∧ scheme.length ≤ 32 then
      match t'.drop path.length with
      | '>' :: rest => some (scheme ++ ':' :: path, rest)
      | _ => none
    else none
  | _ => none

/-- Whether a part of a mail domain between points is well formed. -/
def isDomainLabel (label : Text) : Bool :=
  0 < label.length && label.length ≤ 63 && label.head? != some '-' && label.getLast? != some '-'

/-- Reads a mail address behind an angle bracket. -/
def mailAddress? (t : Text) : Option (Text × Text) :=
  let user := t.takeWhile fun c => c.isAlphanum || ".!#$%&'*+/=?^_`\x7b|\x7d~-".contains c
  match t.drop user.length with
  | '@' :: t' =>
    let domain := t'.takeWhile fun c => c.isAlphanum || c == '-' || c == '.'
    if ¬user.isEmpty ∧ (domain.splitOn '.').all isDomainLabel then
      match t'.drop domain.length with
      | '>' :: rest => some (user ++ '@' :: domain, rest)
      | _ => none
    else none
  | _ => none

/-- Reads a link that is written as an address in angle brackets, behind the first of them. -/
def addressLink? (t : Text) : Option (Inline × Text) :=
  match schemeAddress? t with
  | some (address, rest) => some (.link ⟨address, []⟩ [.text address], rest)
  | none =>
    match mailAddress? t with
    | some (address, rest) =>
      some (.link ⟨"mailto:".toList ++ address, []⟩ [.text address], rest)
    | none => none

/-! ## Parts of a passage -/

namespace Passage

/-- The text of a token. -/
def textOf (p : Passage) (k : Token) : Text := p.raw.slice k.start k.stop

/-- Reads lines from a place on without the marks of containers. Returns the place behind what
has been read. -/
def read? {α : Type} (p : Passage) (start : Nat) (read : Text → Option (α × Text)) :
    Option (α × Nat) := do
  let e := unmarked p.containers (p.raw.drop start)
  let (a, rest) ← read e.text
  return (a, start + e.reach (e.length - rest.length))

/-- The code between two places. -/
def code (p : Passage) (start stop : Nat) : Text :=
  codeContent p.isCell (unmarked p.containers (p.raw.slice start stop)).text

/-- The address or HTML whose angle bracket stands in front of a place, with the place behind
it. Tags are freed from the marks of containers, other HTML is not. -/
def angled? (p : Passage) (start : Nat) : Option (Inline × Nat) :=
  let t := p.raw.drop start
  let toStop (rest : Text) := start + (t.length - rest.length)
  match addressLink? t with
  | some (i, rest) => some (i, toStop rest)
  | none =>
    match t with
    | '!' :: _ | '?' :: _ =>
      (RawHtml.special? t).map fun rest => (.html ('<' :: before t rest), toStop rest)
    | _ =>
      p.read? start fun t => (RawHtml.tag? t).map fun rest => (.html ('<' :: before t rest), rest)
where
  /-- The part of a text in front of its remainder. -/
  before (t rest : Text) : Text := t.take (t.length - rest.length)

/-- The target in parentheses at a place, with the place behind it. -/
def target? (p : Passage) (start : Nat) : Option (Target × Nat) :=
  p.read? start (parenthesizedTarget? p.isCell)

/-- The label in brackets at a place, with the place behind it. -/
def label? (p : Passage) (start : Nat) : Option (Text × Nat) :=
  p.read? start fun
    | '[' :: t => Markdown.label? p.isCell t
    | _ => none

/-- The text between two places as a label. The last of its characters closes the label. -/
def ownLabel? (p : Passage) (start stop : Nat) : Option Text :=
  match Markdown.label? p.isCell (unmarked p.containers (p.raw.slice start stop)).text with
  | some (label, []) => some label
  | _ => none

end Passage

/-- The tokens behind a place. A token that reaches over it is cut. -/
def tokensFrom (here : Nat) (tokens : List Token) : List Token :=
  match tokens.dropWhile (·.stop ≤ here) with
  | [] => []
  | k :: ks => { k with start := max k.start here } :: ks

/-- The tokens behind the next row of exactly `n` backticks, with the place of that row. -/
def closingTicks? (n : Nat) : List Token → Option (Token × List Token)
  | [] => none
  | k :: ks =>
    match k.kind with
    | .ticks count _ => if count = n then some (k, ks) else closingTicks? n ks
    | _ => closingTicks? n ks

/-! ## The reader -/

/-- An opening bracket, which ends at place `stop`. `preceding` are the pieces in front of it, the
last one first. One that stands in front of a link within the same brackets is dead: links hold
no links. -/
structure Bracket where
  isImage : Bool
  isLive : Bool
  stop : Nat
  preceding : List Piece
  deriving Repr

/-- An opening bracket that makes no link. -/
def Bracket.sign (b : Bracket) : Piece := .done (.text (if b.isImage then ['!', '['] else ['[']))

/-- The state of the reader: the pieces read since the innermost bracket (the last one first), and
the brackets, the innermost first. -/
structure InlineReader where
  pieces : List Piece
  brackets : List Bracket
  deriving Repr

namespace InlineReader

/-- Adds a piece. -/
def add (piece : Piece) (s : InlineReader) : InlineReader :=
  { s with pieces := piece :: s.pieces }

/-- Adds content. -/
def emit (i : Inline) (s : InlineReader) : InlineReader := s.add (.done i)

/-- Opens a bracket that ends at place `stop`. -/
def openBracket (isImage : Bool) (stop : Nat) (s : InlineReader) : InlineReader :=
  ⟨[], ⟨isImage, true, stop, s.pieces⟩ :: s.brackets⟩

/-- Makes a link or an image of the innermost bracket and what stands behind it. -/
def link (target : Target) (s : InlineReader) : InlineReader :=
  match s.brackets with
  | [] => s
  | b :: brackets =>
    let content := emphasise s.pieces.reverse
    if b.isImage then ⟨.done (.image target content) :: b.preceding, brackets⟩
    else
      ⟨.done (.link target content) :: b.preceding,
        brackets.map fun b => if b.isImage then b else { b with isLive := false }⟩

/-- Makes text of the innermost bracket. -/
def unlink (s : InlineReader) : InlineReader :=
  match s.brackets with
  | [] => s
  | b :: brackets => ⟨s.pieces ++ b.sign :: b.preceding, brackets⟩

end InlineReader

/-- The target of the link whose text stands between an opening bracket that ends at place `start`
and the closing bracket `k`, followed by the tokens `ks`: a target in parentheses, one named by a
label of its own, or one named by the text itself. Returns the tokens behind the link or, if there
is none, those behind the closing bracket. A label of its own is looked for at the next token,
and what turns out to be one can name no target by itself. -/
def linkTarget? (definitions : List Definition) (p : Passage) (start : Nat) (k : Token)
    (ks : List Token) : Option Target × List Token :=
  match p.target? k.stop with
  | some (target, stop) => (some target, tokensFrom stop ks)
  | none =>
    let byText (after : List Token) :=
      let label := if k.kind = .closing true then p.ownLabel? start k.stop else none
      match label.bind (lookup? definitions) with
      | some target => (some target, after)
      | none => (none, ks)
    match ks with
    | [] => byText []
    | next :: _ =>
      if (p.raw.drop next.start).take 2 = ['[', ']'] then byText (ks.drop 2)
      else match p.label? next.start with
        | none => byText ks
        | some (label, stop) =>
          let inside := ks.takeWhile (·.stop < stop)
          match ks.drop inside.length with
          | [] => (none, ks)
          | last :: after =>
            match lookup? definitions label with
            | some target => (some target, after)
            | none => (none, inside ++ { last with kind := .closing false } :: after)

namespace InlineReader

/-- Takes in a token with those behind it. Returns the tokens that remain. -/
def step (definitions : List Definition) (p : Passage) (k : Token) (ks : List Token)
    (s : InlineReader) : InlineReader × List Token :=
  let asText := s.emit (.text (p.textOf k))
  match k.kind with
  | .text => (asText, ks)
  | .value content => (s.emit (.text content), ks)
  | .softBreak => (s.emit .softBreak, ks)
  | .hardBreak isWritten => (s.add (.hardBreak isWritten), ks)
  | .run sign count opens closes => (s.add (.run ⟨sign, count, count, opens, closes⟩), ks)
  | .ticks count isEscaped =>
    let n := if isEscaped then count - 1 else count
    match if n = 0 then none else closingTicks? n ks with
    | none => (asText, ks)
    | some (closing, ks) =>
      let s := if isEscaped then s.emit (.text ['`']) else s
      (s.emit (.code (p.code k.stop closing.start)), ks)
  | .angle =>
    match ks.head?.bind fun next => p.angled? next.start with
    | some (i, stop) => (s.emit i, tokensFrom stop ks)
    | none => (asText, ks)
  | .imageOpening => (s.openBracket true k.stop, ks)
  | .opening => (s.openBracket false k.stop, ks)
  | .closing _ =>
    match s.brackets with
    | [] => (asText, ks)
    | b :: _ =>
      match if b.isLive then linkTarget? definitions p b.stop k ks else (none, ks) with
      | (some target, ks) => (s.link target, ks)
      | (none, ks) => (s.unlink.emit (.text (p.textOf k)), ks)

/-- Takes in tokens, at most one for each step. -/
def run (definitions : List Definition) (p : Passage) :
    Nat → List Token → InlineReader → InlineReader
  | _, [], s => s
  | 0, _ :: _, s => s
  | steps + 1, k :: ks, s =>
    let (s, ks) := s.step definitions p k ks
    run definitions p steps ks s

/-- All pieces, with the brackets left open as text. -/
def finish (s : InlineReader) : List Piece :=
  (s.brackets.foldl (fun pieces b => pieces ++ b.sign :: b.preceding) s.pieces).reverse

end InlineReader

/-- The inline content of a passage. -/
def Passage.inlines (definitions : List Definition) (p : Passage) : List Inline :=
  emphasise (InlineReader.run definitions p p.tokens.length p.tokens ⟨[], []⟩).finish

end LanguageClient.Markdown
