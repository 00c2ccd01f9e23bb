import LanguageClient.Json.Record

/-!
# Folding ranges

The lines that a server proposes to fold.
-/

namespace LanguageClient

/-- What a folding range holds. -/
inductive FoldingKind
  | comment
  | imports
  | region
  deriving DecidableEq, Repr

/-- A range of lines that can be folded, both ends included. -/
structure FoldingRange where
  startLine : Nat
  endLine : Nat
  startCharacter : Option Nat := none
  endCharacter : Option Nat := none
  kind : Option FoldingKind := none
  collapsedText : Option String := none
  deriving DecidableEq, Repr

namespace FoldingKind

/-- The name of a kind. -/
def name : FoldingKind → String
  | comment => "comment"
  | imports => "imports"
  | region => "region"

/-- Reads a kind by its name. -/
def ofJson? (value : Json) : Option FoldingKind :=
  match value.name? with
  | some "comment" => some comment
  | some "imports" => some imports
  | some "region" => some region
  | _ => none

end FoldingKind

namespace FoldingRange

/-- Reads a folding range. -/
def ofJson? (value : Json) : Option FoldingRange := do
  let fields ← value.fields?
    ["startLine", "startCharacter", "endLine", "endCharacter", "kind", "collapsedText"] 6
  return {
    startLine := ← fields.required "startLine" (Json.unsigned? 32)
    endLine := ← fields.required "endLine" (Json.unsigned? 32)
    startCharacter := ← fields.optional "startCharacter" (Json.unsigned? 32)
    endCharacter := ← fields.optional "endCharacter" (Json.unsigned? 32)
    kind := ← fields.optional "kind" FoldingKind.ofJson?
    collapsedText := ← fields.optional "collapsedText" Json.string? }

/-- Writes a folding range with those of its members that are there. -/
def toJson (r : FoldingRange) : Json :=
  .ofMembers [
    ("startLine", some (.integer r.startLine)),
    ("startCharacter", r.startCharacter.map fun n => .integer n),
    ("endLine", some (.integer r.endLine)),
    ("endCharacter", r.endCharacter.map fun n => .integer n),
    ("kind", r.kind.map fun kind => .string kind.name),
    ("collapsedText", r.collapsedText.map .string)]

end FoldingRange

/-- A server's answer to a folding request. It may hold no list at all. -/
abbrev FoldingAnswer := Option (List FoldingRange)

namespace FoldingAnswer

/-- Reads an answer. One malformed range spoils it. -/
def ofJson? : Json → Option FoldingAnswer
  | .null => some none
  | value => (Json.list? FoldingRange.ofJson? value).map some

/-- Writes an answer. -/
def toJson : FoldingAnswer → Json
  | none => .null
  | some ranges => .array (ranges.map (·.toJson))

end FoldingAnswer

end LanguageClient
