import LanguageClient.Protocol.Range

/-!
# Completion items

What a server offers as one completion, and the lists in which it answers.
-/

namespace LanguageClient

/-- Details shown beside a label. -/
structure LabelDetails where
  detail : Option String
  description : Option String
  deriving DecidableEq, Repr

/-- How marked-up text is to be understood. -/
inductive MarkupKind
  | plainText
  | markdown
  deriving DecidableEq, Repr

/-- The documentation of an item. -/
inductive Documentation
  | plain (text : String)
  | markup (kind : MarkupKind) (value : String)
  deriving DecidableEq, Repr

/-- The edit that an item asks for: one range, or one range to insert at and another to
replace. -/
inductive ItemEdit
  | single (edit : RangeEdit)
  | insertOrReplace (newText : String) (insert replace : Range)
  deriving DecidableEq, Repr

/-- A command to run after an item has been accepted. -/
structure Command where
  title : String
  command : String
  arguments : Option (List Json)
  deriving Repr

/-- A completion item. -/
structure CompletionItem where
  label : String
  labelDetails : Option LabelDetails := none
  kind : Option Int := none
  detail : Option String := none
  documentation : Option Documentation := none
  deprecated : Option Bool := none
  preselect : Option Bool := none
  sortText : Option String := none
  filterText : Option String := none
  insertText : Option String := none
  insertTextFormat : Option Int := none
  insertTextMode : Option Int := none
  textEdit : Option ItemEdit := none
  additionalTextEdits : Option (List RangeEdit) := none
  command : Option Command := none
  commitCharacters : Option (List String) := none
  data : Option Json := none
  tags : Option (List Int) := none
  deriving Repr

namespace LabelDetails

/-- Reads label details. -/
def ofJson? (value : Json) : Option LabelDetails := do
  let fields ← value.fields? ["detail", "description"] 2
  return ⟨← fields.optional "detail" Json.string?, ← fields.optional "description" Json.string?⟩

/-- Writes label details. -/
def toJson (d : LabelDetails) : Json :=
  .ofMembers [("detail", d.detail.map .string), ("description", d.description.map .string)]

end LabelDetails

namespace MarkupKind

/-- The name of a kind. -/
def name : MarkupKind → String
  | plainText => "plaintext"
  | markdown => "markdown"

/-- Reads a kind by its name. -/
def ofJson? (value : Json) : Option MarkupKind :=
  match value.name? with
  | some "plaintext" => some plainText
  | some "markdown" => some markdown
  | _ => none

end MarkupKind

namespace Documentation

/-- Reads documentation: a string, or a value with its kind. -/
def ofJson? : Json → Option Documentation
  | .string s => some (plain s)
  | value => do
    let fields ← value.fields? ["kind", "value"] 2
    return markup (← fields.required "kind" MarkupKind.ofJson?)
      (← fields.required "value" Json.string?)

/-- Writes documentation. -/
def toJson : Documentation → Json
  | plain text => .string text
  | markup kind value => .object [("kind", .string kind.name), ("value", .string value)]

end Documentation

namespace ItemEdit

/-- Reads an edit of either form. One that has both counts as a single range. -/
def ofJson? (value : Json) : Option ItemEdit :=
  match RangeEdit.ofJson? value with
  | some edit => some (single edit)
  | none => do
    let fields ← value.fields? ["newText", "insert", "replace"] 3
    return insertOrReplace (← fields.required "newText" Json.string?)
      (← fields.required "insert" Range.ofJson?) (← fields.required "replace" Range.ofJson?)

/-- Writes an edit. -/
def toJson : ItemEdit → Json
  | single edit => edit.toJson
  | insertOrReplace newText insert replace => .object [("newText", .string newText),
    ("insert", insert.toJson), ("replace", replace.toJson)]

/-- The text that an edit inserts. -/
def newText : ItemEdit → String
  | single edit => edit.newText
  | insertOrReplace newText _ _ => newText

/-- The range where the text is inserted. -/
def range : ItemEdit → Range
  | single edit => edit.range
  | insertOrReplace _ insert _ => insert

end ItemEdit

namespace Command

/-- Reads a command. -/
def ofJson? (value : Json) : Option Command := do
  let fields ← value.fields? ["title", "command", "arguments"] 3
  return ⟨← fields.required "title" Json.string?, ← fields.required "command" Json.string?,
    ← fields.optional "arguments" (Json.list? Json.any?)⟩

/-- Writes a command. -/
def toJson (c : Command) : Json :=
  .ofMembers [("title", some (.string c.title)), ("command", some (.string c.command)),
    ("arguments", c.arguments.map .array)]

end Command

namespace CompletionItem

/-- The members of an item. -/
def memberNames : List String :=
  ["label", "labelDetails", "kind", "detail", "documentation", "deprecated", "preselect",
    "sortText", "filterText", "insertText", "insertTextFormat", "insertTextMode", "textEdit",
    "additionalTextEdits", "command", "commitCharacters", "data", "tags"]

/-- Reads an item. Only the label has to be there. -/
def ofJson? (value : Json) : Option CompletionItem := do
  let fields ← value.fields? memberNames memberNames.length
  return {
    label := ← fields.required "label" Json.string?
    labelDetails := ← fields.optional "labelDetails" LabelDetails.ofJson?
    kind := ← fields.optional "kind" (Json.signed? 32)
    detail := ← fields.optional "detail" Json.string?
    documentation := ← fields.optional "documentation" Documentation.ofJson?
    deprecated := ← fields.optional "deprecated" Json.bool?
    preselect := ← fields.optional "preselect" Json.bool?
    sortText := ← fields.optional "sortText" Json.string?
    filterText := ← fields.optional "filterText" Json.string?
    insertText := ← fields.optional "insertText" Json.string?
    insertTextFormat := ← fields.optional "insertTextFormat" (Json.signed? 32)
    insertTextMode := ← fields.optional "insertTextMode" (Json.signed? 32)
    textEdit := ← fields.optional "textEdit" ItemEdit.ofJson?
    additionalTextEdits := ← fields.optional "additionalTextEdits"
      (Json.list? RangeEdit.ofJson?)
    command := ← fields.optional "command" Command.ofJson?
    commitCharacters := ← fields.optional "commitCharacters" (Json.list? Json.string?)
    data := ← fields.optional "data" Json.any?
    tags := ← fields.optional "tags" (Json.list? (Json.signed? 32)) }

/-- Writes an item with those of its members that are there. -/
def toJson (i : CompletionItem) : Json :=
  .ofMembers [
    ("label", some (.string i.label)),
    ("labelDetails", i.labelDetails.map (·.toJson)),
    ("kind", i.kind.map .integer),
    ("detail", i.detail.map .string),
    ("documentation", i.documentation.map (·.toJson)),
    ("deprecated", i.deprecated.map .bool),
    ("preselect", i.preselect.map .bool),
    ("sortText", i.sortText.map .string),
    ("filterText", i.filterText.map .string),
    ("insertText", i.insertText.map .string),
    ("insertTextFormat", i.insertTextFormat.map .integer),
    ("insertTextMode", i.insertTextMode.map .integer),
    ("textEdit", i.textEdit.map (·.toJson)),
    ("additionalTextEdits", i.additionalTextEdits.map fun edits =>
      .array (edits.map (·.toJson))),
    ("command", i.command.map (·.toJson)),
    ("commitCharacters", i.commitCharacters.map fun cs => .array (cs.map .string)),
    ("data", i.data),
    ("tags", i.tags.map fun tags => .array (tags.map .integer))]

end CompletionItem

/-- A server's answer to a completion request: nothing, an array of items, or a list that also
says whether typing on may bring more items. -/
inductive CompletionAnswer
  | nothing
  | items (items : List CompletionItem)
  | list (isIncomplete : Bool) (items : List CompletionItem)
  deriving Repr

namespace CompletionAnswer

/-- Reads an answer. -/
def ofJson? : Json → Option CompletionAnswer
  | .null => some nothing
  | value =>
    match Json.list? CompletionItem.ofJson? value with
    | some found => some (items found)
    | none => do
      let fields ← value.fields? ["isIncomplete", "items"] 2
      return list (← fields.required "isIncomplete" Json.bool?)
        (← fields.required "items" (Json.list? CompletionItem.ofJson?))

/-- What is said about a value that is no answer. -/
def mismatch : String := "data did not match any variant of untagged enum CompletionResponse"

/-- Writes an answer in the form in which it came. -/
def toJson : CompletionAnswer → Json
  | nothing => .null
  | items found => .array (found.map (·.toJson))
  | list isIncomplete found => .object [("isIncomplete", .bool isIncomplete),
    ("items", .array (found.map (·.toJson)))]

/-- All items of an answer. -/
def allItems : CompletionAnswer → List CompletionItem
  | nothing => []
  | items found => found
  | list _ found => found

/-- Whether typing on may bring more items. -/
def isIncomplete : CompletionAnswer → Bool
  | list isIncomplete _ => isIncomplete
  | _ => false

end CompletionAnswer

end LanguageClient
