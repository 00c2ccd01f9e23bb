import LanguageClient.Markdown.Tree

/-!
# Emphasis

Runs of asterisks or underscores open and close emphasis. A closing run is paired with the
nearest run in front of it that can open and fits; what stands between them is emphasised, and
runs in between that found no partner are plain text. `emphasise` does this for the pieces that
a text has been cut into.
-/

namespace LanguageClient.Markdown

/-- A run of `length` equal signs, of which `count` are not used yet. -/
structure Run where
  sign : Char
  length : Nat
  count : Nat
  opens : Bool
  closes : Bool
  deriving DecidableEq, Repr

/-- Finished inline content, a run that may be paired, or a hard break, which is written as a
backslash or else as blanks. -/
inductive Piece
  | done (content : Inline)
  | run (r : Run)
  | hardBreak (isWritten : Bool)
  deriving Repr

/-- Whether a piece is a run. -/
def Piece.isRun : Piece → Bool
  | run _ => true
  | _ => false

/-- What is left of a run, as text. -/
def Run.text (r : Run) : Inline := .text (List.replicate r.count r.sign)

/-- Whether a closing run fits an opening one. Two runs whose lengths add up to a multiple of
three fit only if none of them does both or if both lengths are such multiples. -/
def Run.fits (closing opening : Run) : Bool :=
  closing.sign == opening.sign &&
    (!(closing.opens && closing.closes) && !(opening.opens && opening.closes) ||
      (closing.length + opening.length) % 3 != 0 || closing.length % 3 == 0)

/-- A run that can open, with the content in front of it since the opening before, the last
piece first. -/
structure Opening where
  run : Run
  preceding : List Inline
  deriving Repr

/-- Content between `n` signs on either side: two of them make it strong, and one that is left
stands outside. -/
def emphasised : Nat → List Inline → List Inline
  | 0, content => content
  | 1, content => [.emphasis content]
  | n + 2, content => emphasised n [.strong content]

/-- Pairs a closing run with openings, the innermost first. `content` stands between the run and
the innermost opening, the last piece first. Returns the number of signs that found no partner,
the openings that remain and the content behind them. -/
def Run.close (r : Run) (unused : Nat) (content : List Inline) :
    List Opening → Nat × List Opening × List Inline
  | [] => (unused, [], content)
  | o :: os =>
    if unused = 0 ∨ ¬(o :: os).any (r.fits ·.run) then (unused, o :: os, content)
    else if r.fits o.run then
      let used := min unused o.run.count
      let inner := emphasised used content.reverse
      if used < o.run.count then
        (unused - used, ⟨{ o.run with count := o.run.count - used }, o.preceding⟩ :: os, inner)
      else r.close (unused - used) (inner ++ o.preceding) os
    else r.close unused (content ++ o.run.text :: o.preceding) os

/-- Content behind openings that will find no partner, the last piece first. -/
def unopened : List Opening → List Inline → List Inline
  | [], content => content
  | o :: os, content => unopened os (content ++ o.run.text :: o.preceding)

/-- Goes through pieces with the openings so far and the content behind them. -/
def emphasiseFrom (openings : List Opening) (content : List Inline) : List Piece → List Inline
  | [] => (unopened openings content).reverse
  | .done i :: ps => emphasiseFrom openings (i :: content) ps
  | .hardBreak _ :: ps => emphasiseFrom openings (.hardBreak :: content) ps
  | .run r :: ps =>
    let (unused, openings, content) :=
      if r.closes then r.close r.count content openings else (r.count, openings, content)
    let rest := { r with count := unused }
    if unused = 0 then emphasiseFrom openings content ps
    else if r.opens then emphasiseFrom (⟨rest, content⟩ :: openings) [] ps
    else emphasiseFrom openings (rest.text :: content) ps

/-- Pieces without a hard break behind all of them: there a backslash is text, and blanks make a
soft break. -/
def softenLast : List Piece → List Piece
  | [] => []
  | [.hardBreak isWritten] => [.done (if isWritten then .text ['\\'] else .softBreak)]
  | p :: ps => p :: softenLast ps

/-- The inline content that pieces make up. A hard break behind all of them stays if there is no
run among them. -/
def emphasise (pieces : List Piece) : List Inline :=
  emphasiseFrom [] [] (if pieces.any Piece.isRun then softenLast pieces else pieces)

end LanguageClient.Markdown
