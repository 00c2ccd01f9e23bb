import LanguageClient.Url.Percent

/-!
# Paths of URLs

A path is cut into segments. A single dot stays where it is and two dots go one segment up, so
neither is left in the segments of a URL. The letter of a drive is never left by going up.
-/

namespace LanguageClient.Url

/-- How URLs of a scheme are read. -/
inductive SchemeKind
  /-- Files, which have a host only if they are on another machine. -/
  | file
  /-- A scheme of the web, whose URLs always have a host. -/
  | web
  | other
  deriving DecidableEq, Repr

/-- Whether a character stands between segments. -/
def SchemeKind.isSlash (kind : SchemeKind) (c : Char) : Bool :=
  c == '/' || (c == '\\' && kind != .other)

/-- The number of dots that a segment consists of, if it consists of dots. -/
def dots? : Text → Option Nat
  | [] => some 0
  | '.' :: rest => (dots? rest).map (· + 1)
  | '%' :: '2' :: e :: rest => if e = 'e' ∨ e = 'E' then (dots? rest).map (· + 1) else none
  | _ => none

/-- Whether a text begins with the letter of a drive. -/
def isDriveLetter (letter mark : Char) : Bool := letter.isAlpha && (mark == ':' || mark == '|')

/-- Whether a segment is the letter of a drive. -/
def isDrive : Text → Bool
  | [letter, mark] => isDriveLetter letter mark
  | _ => false

/-- Whether a segment holds the one behind it fast: it is the letter of a drive, maybe with a path
that is not cut. -/
def isFast : Text → Bool
  | letter :: mark :: rest => isDriveLetter letter mark && rest.head?.all (· == '\\')
  | _ => false

/-- Goes up from the last of some segments, the last one first. -/
def goneUp : List Text → List Text
  | [] => []
  | last :: rest => if isFast last then last :: rest else rest

/-- A segment as it is written. The letter of a drive is followed by a colon if it is the first
segment of a file. -/
def writtenSegment (kind : SchemeKind) (isFirst : Bool) (segment : Text) : Text :=
  match segment with
  | [letter, mark] =>
    if kind = .file ∧ isFirst ∧ isDriveLetter letter mark then [letter, ':']
    else Part.path.encode segment
  | _ => Part.path.encode segment

/-- The segments that others lead to, behind the segments `done`, the last one first. A path that
ends in dots ends in a directory, whose last segment is empty. -/
def resolved (kind : SchemeKind) (done : List Text) : List Text → List Text
  | [] => done.reverse
  | segment :: rest =>
    let atEnd (done : List Text) := if rest.isEmpty then [] :: done else done
    match dots? segment with
    | some 1 => resolved kind (atEnd done) rest
    | some 2 => resolved kind (atEnd (goneUp done)) rest
    | _ => resolved kind (writtenSegment kind done.isEmpty segment :: done) rest

/-- The segments of a path behind its first slash. -/
def readSegments (kind : SchemeKind) (t : Text) : List Text :=
  resolved kind [] (t.splitOnP kind.isSlash)

/-- Segments without the empty ones in front. One remains. -/
def withoutLeadingEmpty (segments : List Text) : List Text :=
  match segments.dropWhile (·.isEmpty) with
  | [] => [[]]
  | rest => rest

end LanguageClient.Url
