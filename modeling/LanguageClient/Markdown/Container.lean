import LanguageClient.Markdown.Cursor

/-!
# Containers

Quotes, lists and list items hold other blocks. Every line that goes on with a container begins
with its mark: an angle bracket for a quote, as much blank space as the item's content is
indented by for an item. `enterAll` passes over the marks of several containers, and `unmarked`
removes them from all lines of a text but the first.
-/

namespace LanguageClient.Markdown

/-- A kind of block that holds other blocks. The content of an item is indented by so many
columns. -/
inductive Container
  | quote
  | list (sign : Char) (start : Nat) (isTight : Bool)
  | item (indent : Nat)
  deriving DecidableEq, Repr

/-- Passes over what a line must begin with to go on with a container. -/
def Container.enter? (c : Cursor) : Container → Option Cursor
  | .list .. => some c
  | .item indent =>
    match c.skip indent with
    | (missing, c) => if missing = 0 ∨ c.isAtEnd then some c else none
  | .quote =>
    let c := (c.skip 3).2
    if c.rest.head? = some '>' then some (c.next.skip 1).2 else none

/-- Goes on with containers, the outermost first. Returns how many of them the line leaves. -/
def enterAll (c : Cursor) : List Container → Nat × Cursor
  | [] => (0, c)
  | k :: ks =>
    match k.enter? c with
    | some c => enterAll c ks
    | none => (ks.length + 1, c)

/-- The number of characters at the beginning of a line that mark containers. -/
def markLength (containers : List Container) (t : Text) : Nat :=
  let line := t.takeWhile fun c => !isBreak c
  line.length - (enterAll (.start line) containers).2.rest.length

/-- A text whose characters come with the number of characters up to and including each of
them in the text that it is taken from. -/
abbrev Excerpt := List (Char × Nat)

/-- The characters of an excerpt. -/
def Excerpt.text (e : Excerpt) : Text := e.map (·.1)

/-- The number of characters of the source that `n` characters of an excerpt reach up to. -/
def Excerpt.reach (e : Excerpt) (n : Nat) : Nat :=
  match e[n - 1]? with
  | some (_, stop) => if n = 0 then 0 else stop
  | none => 0

/-- A text without the marks of containers at the beginnings of lines. `skipped` characters are
passed over first, and `done` characters have been passed already. A line does not begin within
a carriage return with a line feed. -/
def unmarkedFrom (containers : List Container) (skipped done : Nat) : Text → Excerpt
  | [] => []
  | c :: rest =>
    match skipped with
    | skipped + 1 => unmarkedFrom containers skipped (done + 1) rest
    | 0 =>
      let isEnd := c == '\n' || (c == '\r' && rest.head? != some '\n')
      (c, done + 1) ::
        unmarkedFrom containers (if isEnd then markLength containers rest else 0) (done + 1) rest

/-- A text without the marks of containers at the beginnings of its lines. The first line
begins behind its marks. -/
def unmarked (containers : List Container) (t : Text) : Excerpt := unmarkedFrom containers 0 0 t

end LanguageClient.Markdown
