import LanguageClient.Json.Read
import LanguageClient.Json.Record

/-!
# Settings

The settings of completion and folding, read from a JSON value. Whatever is missing keeps its
default; what is there must be of the right type.
-/

namespace LanguageClient

/-- The settings of folding: whether imports start out collapsed, and for how many milliseconds
a superseded request may still answer. -/
structure FoldingSettings where
  collapseImports : Bool := false
  cancelGrace : Nat := 5000
  deriving DecidableEq, Repr

/-- The settings of completion. `timeout` and `cancelGrace` are in milliseconds. -/
structure CompletionSettings where
  caseSensitive : Bool := false
  incompleteAsProposal : Bool := false
  errorsAsProposals : Bool := false
  timeout : Nat := 1000
  cancelGrace : Nat := 5000
  deriving DecidableEq, Repr

/-- All settings. -/
structure Settings where
  folding : FoldingSettings := {}
  completion : CompletionSettings := {}
  deriving DecidableEq, Repr

/-- Why there are no settings. -/
inductive SettingsError
  /-- The file cannot be read. -/
  | unreadable
  /-- The text is no JSON, or a member has the wrong type. -/
  | malformed
  deriving DecidableEq, Repr

/-- Reads the settings of folding. -/
def FoldingSettings.ofJson? (value : Json) : Option FoldingSettings := do
  let fields ← value.fields? ["collapseImports", "cancelGraceMs"] 0
  let initial : FoldingSettings := {}
  return {
    collapseImports := ← fields.withDefault "collapseImports" initial.collapseImports Json.bool?
    cancelGrace := ← fields.withDefault "cancelGraceMs" initial.cancelGrace (Json.unsigned? 64) }

/-- Reads the settings of completion. -/
def CompletionSettings.ofJson? (value : Json) : Option CompletionSettings := do
  let fields ← value.fields? ["caseSensitive", "incompleteAsProposal", "errorsAsProposals",
    "timeoutMs", "cancelGraceMs"] 0
  let initial : CompletionSettings := {}
  return {
    caseSensitive := ← fields.withDefault "caseSensitive" initial.caseSensitive Json.bool?
    incompleteAsProposal := ←
      fields.withDefault "incompleteAsProposal" initial.incompleteAsProposal Json.bool?
    errorsAsProposals := ←
      fields.withDefault "errorsAsProposals" initial.errorsAsProposals Json.bool?
    timeout := ← fields.withDefault "timeoutMs" initial.timeout (Json.unsigned? 64)
    cancelGrace := ← fields.withDefault "cancelGraceMs" initial.cancelGrace (Json.unsigned? 64) }

namespace Settings

/-- Reads settings. -/
def ofJson? (value : Json) : Option Settings := do
  let fields ← value.fields? ["folding", "completion"] 0
  return {
    folding := ← fields.withDefault "folding" {} FoldingSettings.ofJson?
    completion := ← fields.withDefault "completion" {} CompletionSettings.ofJson? }

/-- The settings that a file holds, given its content if it can be read. -/
def load (content : Option String) : Except SettingsError Settings :=
  match content with
  | none => .error .unreadable
  | some text =>
    match (Json.parse? text).bind ofJson? with
    | some settings => .ok settings
    | none => .error .malformed

end Settings

end LanguageClient
