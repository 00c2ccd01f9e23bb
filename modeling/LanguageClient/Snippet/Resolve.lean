import LanguageClient.Text.Basic

/-!
# Resolving snippets

A snippet is a text with tab stops `$1`, placeholders `${1:default}`, choices `${1|a,b|}` and
variables `$NAME`, `${NAME:default}`, `${NAME/transform/}`. Resolving it leaves plain text: a
placeholder and a variable become their default, a choice its first option, and all else
nothing. The stop numbered 0 marks the cursor. What is not well formed stays as it is written.

`Resolver` is the state of the reader. A construct that turns out to be malformed must leave
this state as it was in front of its dollar sign, although its default may already have been
read and emitted; `Resolver.dollar` and `Resolver.defaultText` see to that.
-/

namespace LanguageClient.Snippet

/-- The plain text of a snippet, with the offset of its cursor. -/
structure Resolved where
  text : Text
  cursor : Option Nat
  deriving DecidableEq, Repr

/-- The state of the reader: the characters still to be read, those emitted so far (the last
one first), their number, and the cursor if its stop has been met. -/
structure Resolver where
  rest : Text
  emitted : Text
  count : Nat
  cursor : Option Nat
  deriving DecidableEq, Repr

/-- Tab stop numbers lie below this bound. -/
def numberBound : Nat := UInt32.size

/-- Whether a character is a digit of ASCII. -/
def isDigit (c : Char) : Bool := '0' ≤ c && c ≤ '9'

/-- Whether a character can begin a name. -/
def isLetter (c : Char) : Bool :=
  ('a' ≤ c && c ≤ 'z') || ('A' ≤ c && c ≤ 'Z') || c == '_'

/-- The number that a row of digits denotes, unless it is too large. -/
def number? (digits : Text) : Option Nat :=
  let n := digits.foldl (fun n c => 10 * n + (c.toNat - '0'.toNat)) 0
  if n < numberBound then some n else none

namespace Resolver

/-- The reader at the beginning of a snippet. -/
def start (snippet : Text) : Resolver := ⟨snippet, [], 0, none⟩

/-- Emits one character. -/
def push (c : Char) (s : Resolver) : Resolver :=
  { s with emitted := c :: s.emitted, count := s.count + 1 }

/-- Emits a text. -/
def pushAll (t : Text) (s : Resolver) : Resolver := t.foldl (fun s c => s.push c) s

/-- Puts the cursor here unless it has its place already. -/
def markCursor (s : Resolver) : Resolver :=
  match s.cursor with
  | none => { s with cursor := some s.count }
  | some _ => s

/-- Marks the cursor if the stop has number 0. -/
def markStop (index : Nat) (s : Resolver) : Resolver := if index = 0 then s.markCursor else s

/-- Passes over `n` characters. -/
def skip (n : Nat) (s : Resolver) : Resolver := { s with rest := s.rest.drop n }

/-- Reads all digits that follow. They are consumed also where they are no number, because
there are none or their value is too large. -/
def number (s : Resolver) : Option Nat × Resolver :=
  let digits := s.rest.takeWhile isDigit
  (if digits.isEmpty then none else number? digits, s.skip digits.length)

/-- Reads a name: a letter or underscore, then letters, digits and underscores. -/
def name (s : Resolver) : Bool × Resolver :=
  if s.rest.head?.any isLetter then
    (true, s.skip (s.rest.takeWhile fun c => isLetter c || isDigit c).length)
  else (false, s)

/-- Takes back what was emitted behind the first `length` characters. -/
def truncate (length : Nat) (s : Resolver) : Resolver :=
  { s with emitted := s.emitted.drop (s.emitted.length - length) }

/-- Reads a default up to its closing brace by `nested`. Without that brace, all that the
default emitted is taken back. -/
def defaultText (nested : Resolver → Bool × Resolver) (isFinal : Bool) (s : Resolver) :
    Bool × Resolver :=
  match nested (if isFinal then s.markCursor else s) with
  | (true, s') => (true, s')
  | (false, s') =>
    (false, { s'.truncate s.emitted.length with count := s.count, cursor := s.cursor })

/-- Reads the options of a choice, `a,b|}`, where a backslash keeps the character behind it.
Returns the first option, whose characters read so far are `first` (the last one first), and
what follows the choice. -/
def choice (first : Text) (inFirst : Bool) : Text → Option (Text × Text)
  | [] => none
  | ['\\'] => none
  | '\\' :: c :: rest => choice (if inFirst then c :: first else first) inFirst rest
  | '|' :: '}' :: rest => some (first.reverse, rest)
  | ',' :: rest => choice first false rest
  | c :: rest => choice (if inFirst then c :: first else first) inFirst rest

/-- Passes over a transform up to the brace that closes the construct. Returns what follows. -/
def transform (depth : Nat) : Text → Option Text
  | [] => none
  | ['\\'] => none
  | '\\' :: _ :: rest => transform depth rest
  | '{' :: rest => transform (depth + 1) rest
  | '}' :: rest => if depth = 0 then some rest else transform (depth - 1) rest
  | _ :: rest => transform depth rest

/-- Reads what follows the number in `${1`. -/
def stopBody (nested : Resolver → Bool × Resolver) (index : Nat) (s : Resolver) :
    Bool × Resolver :=
  match s.rest with
  | '}' :: _ => (true, (s.skip 1).markStop index)
  | ':' :: _ => defaultText nested (index = 0) (s.skip 1)
  | '|' :: options =>
    match choice [] true options with
    | some (first, rest) => (true, ({ s with rest }.markStop index).pushAll first)
    | none => (false, { s with rest := [] })
  | _ => (false, s)

/-- Reads what follows the name in `${NAME`. A transform has no value to work on. -/
def variableBody (nested : Resolver → Bool × Resolver) (s : Resolver) : Bool × Resolver :=
  match s.rest with
  | '}' :: _ => (true, s.skip 1)
  | ':' :: _ => defaultText nested false (s.skip 1)
  | '/' :: body =>
    match transform 0 body with
    | some rest => (true, { s with rest })
    | none => (false, { s with rest := [] })
  | _ => (false, s)

/-- Reads what follows `${`. -/
def braced (nested : Resolver → Bool × Resolver) (s : Resolver) : Bool × Resolver :=
  match s.number with
  | (some index, s) => stopBody nested index s
  | (none, s) =>
    match s.name with
    | (true, s) => variableBody nested s
    | (false, s) => (false, s)

/-- Reads the construct that begins with the dollar sign here, and says whether there is one.
Digits that are no number leave the question what follows them. -/
def dollar (nested : Resolver → Bool × Resolver) (s : Resolver) : Bool × Resolver :=
  match (s.skip 1).number with
  | (some index, s') => (true, s'.markStop index)
  | (none, s') =>
    match s'.name with
    | (true, s') => (true, s')
    | (false, s') =>
      if s'.rest.head? = some '{' then
        match braced nested (s'.skip 1) with
        | (true, s') => (true, s')
        | (false, s') => (false, { s' with rest := s.rest })
      else (false, { s' with rest := s.rest })

/-- Emits text up to the end or, inside a default, up to the closing brace, and says whether
that brace was met. As many steps suffice as there are characters to read. -/
def text : Nat → Bool → Resolver → Bool × Resolver
  | 0, _, s => (false, s)
  | steps + 1, isNested, s =>
    match s.rest with
    | [] => (false, s)
    | '\\' :: '$' :: _ => text steps isNested ((s.skip 2).push '$')
    | '\\' :: '}' :: _ => text steps isNested ((s.skip 2).push '}')
    | '\\' :: '\\' :: _ => text steps isNested ((s.skip 2).push '\\')
    | '$' :: _ =>
      match dollar (text steps true) s with
      | (true, s) => text steps isNested s
      | (false, s) => text steps isNested ((s.skip 1).push '$')
    | c :: _ =>
      if isNested ∧ c = '}' then (true, s.skip 1)
      else text steps isNested ((s.skip 1).push c)

end Resolver

/-- The plain text of a snippet. -/
def resolve (snippet : Text) : Resolved :=
  let (_, s) := Resolver.text snippet.length false (.start snippet)
  ⟨s.emitted.reverse, s.cursor⟩

end LanguageClient.Snippet
