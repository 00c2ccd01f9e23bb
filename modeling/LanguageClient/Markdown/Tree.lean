import LanguageClient.Text.Basic

/-!
# The structure of a Markdown document

A document is a list of blocks. Blocks hold other blocks or, at the leaves, inline content:
first as the passage it is written in, then as its structure, `Block (List Inline)`.
-/

namespace LanguageClient.Markdown

/-- Where a link leads or an image lies, with the title shown for it. -/
structure Target where
  destination : Text
  title : Text := []
  deriving DecidableEq, Repr

/-- A piece of inline content. -/
inductive Inline
  | text (content : Text)
  | code (content : Text)
  | html (content : Text)
  | softBreak
  | hardBreak
  | emphasis (content : List Inline)
  | strong (content : List Inline)
  | link (target : Target) (content : List Inline)
  | image (target : Target) (content : List Inline)
  deriving Repr

/-- How the cells of a table column are aligned. -/
inductive Alignment
  | unspecified
  | left
  | center
  | right
  deriving DecidableEq, Repr

/-- A block whose inline content has type `α`. An ordered list has the number of its first item;
in a tight list paragraphs are written without their tags. -/
inductive Block (α : Type)
  | paragraph (content : α)
  | heading (level : Nat) (content : α)
  | rule
  | code (language : Text) (content : Text)
  | html (content : Text)
  | table (alignments : List Alignment) (header : List α) (rows : List (List α))
  | quote (content : List (Block α))
  | item (content : List (Block α))
  | list (start : Option Nat) (isTight : Bool) (items : List (Block α))
  deriving Repr

namespace Block

variable {α β : Type}

mutual

/-- Replaces the inline content by what `f` makes of it. -/
def map (f : α → β) : Block α → Block β
  | paragraph content => paragraph (f content)
  | heading level content => heading level (f content)
  | rule => rule
  | code language content => code language content
  | html content => html content
  | table alignments header rows => table alignments (header.map f) (rows.map (·.map f))
  | quote content => quote (mapAll f content)
  | item content => item (mapAll f content)
  | list start isTight items => list start isTight (mapAll f items)

/-- Replaces the inline content of several blocks. -/
def mapAll (f : α → β) : List (Block α) → List (Block β)
  | [] => []
  | b :: bs => map f b :: mapAll f bs

end

end Block

end LanguageClient.Markdown
