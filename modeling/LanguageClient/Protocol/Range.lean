import LanguageClient.Document
import LanguageClient.Json.Record

/-!
# Ranges

A `Range` lies between two positions. A `RangeEdit` replaces it by a text; this is how servers
write edits.
-/

namespace LanguageClient

namespace Position

/-- Reads a position. -/
def ofJson? (value : Json) : Option Position := do
  let fields ← value.fields? ["line", "character"] 2
  return ⟨← fields.required "line" (Json.unsigned? 32),
    ← fields.required "character" (Json.unsigned? 32)⟩

/-- Writes a position. -/
def toJson (p : Position) : Json := .object [("line", .integer p.line),
  ("character", .integer p.character)]

end Position

/-- The part of a document from one position up to another. -/
structure Range where
  start : Position
  stop : Position
  deriving DecidableEq, Repr

namespace Range

/-- Reads a range. -/
def ofJson? (value : Json) : Option Range := do
  let fields ← value.fields? ["start", "end"] 2
  return ⟨← fields.required "start" Position.ofJson?, ← fields.required "end" Position.ofJson?⟩

/-- Writes a range. -/
def toJson (r : Range) : Json := .object [("start", r.start.toJson), ("end", r.stop.toJson)]

end Range

/-- The replacement of a range by a text. -/
structure RangeEdit where
  range : Range
  newText : String
  deriving DecidableEq, Repr

namespace RangeEdit

/-- Reads an edit. -/
def ofJson? (value : Json) : Option RangeEdit := do
  let fields ← value.fields? ["range", "newText"] 2
  return ⟨← fields.required "range" Range.ofJson?, ← fields.required "newText" Json.string?⟩

/-- Writes an edit. -/
def toJson (e : RangeEdit) : Json :=
  .object [("range", e.range.toJson), ("newText", .string e.newText)]

end RangeEdit

end LanguageClient
