import LanguageClient.Protocol.CompletionItem
import LanguageClient.Protocol.FoldingRange
import LanguageClient.Protocol.Progress
import LanguageClient.Url.Read

/-!
# Requests

The three requests that are sent to servers: what each is called, what it carries, and the form
of its answer.
-/

namespace LanguageClient

/-- The requests there are. -/
inductive RequestKind
  | foldingRange
  | completion
  | resolve
  deriving DecidableEq, Repr

/-- How completion was invoked: explicitly, by a character, or for want of further items. -/
structure CompletionTrigger where
  kind : Int
  character : Option String
  deriving DecidableEq, Repr

/-- What a request carries. -/
inductive RequestParams
  | foldingRange (uri : String) (progress : Progress := {})
  | completion (uri : String) (position : Position) (trigger : Option CompletionTrigger)
    (progress : Progress := {})
  | resolve (item : CompletionItem)
  deriving Repr

/-- An answer of the form that a request asks for. -/
inductive Reply
  | foldingRange (answer : FoldingAnswer)
  | completion (answer : CompletionAnswer)
  | resolve (item : CompletionItem)
  deriving Repr

namespace RequestKind

/-- The method of a request. -/
def method : RequestKind → String
  | foldingRange => "textDocument/foldingRange"
  | completion => "textDocument/completion"
  | resolve => "completionItem/resolve"

end RequestKind

namespace CompletionTrigger

/-- Completion that the user asked for. -/
def invoked : CompletionTrigger := ⟨1, none⟩

/-- Reads a trigger. -/
def ofJson? (value : Json) : Option CompletionTrigger := do
  let fields ← value.fields? ["triggerKind", "triggerCharacter"] 2
  return ⟨← fields.required "triggerKind" (Json.signed? 32),
    ← fields.optional "triggerCharacter" Json.string?⟩

/-- Writes a trigger. -/
def toJson (t : CompletionTrigger) : Json :=
  .ofMembers [("triggerKind", some (.integer t.kind)),
    ("triggerCharacter", t.character.map .string)]

end CompletionTrigger

/-- Reads the URI of a document, in the form in which it is passed on. -/
def uri? (value : Json) : Option String := do
  let url ← Url.parse? (← value.string?).toList
  return String.ofList url.toText

namespace RequestParams

/-- Reads the URI of the document that a request is about. -/
def documentUri? (value : Json) : Option String := do
  let fields ← value.fields? ["uri"] 1
  fields.required "uri" uri?

/-- Reads what a request carries. -/
def ofJson? (kind : RequestKind) (value : Json) : Option RequestParams := do
  match kind with
  | .resolve => return resolve (← CompletionItem.ofJson? value)
  | .foldingRange =>
    let .object _ := value | none
    let fields ← value.fields? ("textDocument" :: Progress.names) 3
    return foldingRange (← fields.required "textDocument" documentUri?)
      (← Progress.ofFields? fields)
  | .completion =>
    let .object _ := value | none
    let fields ← value.fields? (["textDocument", "position", "context"] ++ Progress.names) 5
    return completion (← fields.required "textDocument" documentUri?)
      (← fields.required "position" Position.ofJson?)
      (← fields.optional "context" CompletionTrigger.ofJson?)
      (← Progress.ofFields? fields)

/-- Writes what a request carries. -/
def toJson : RequestParams → Json
  | foldingRange uri progress =>
    .ofMembers (("textDocument", some (.object [("uri", .string uri)])) :: progress.members)
  | completion uri position trigger progress =>
    .ofMembers ([("textDocument", some (.object [("uri", .string uri)])),
      ("position", some position.toJson), ("context", trigger.map (·.toJson))] ++
      progress.members)
  | resolve item => item.toJson

end RequestParams

namespace Reply

/-- Reads the answer to a request. -/
def ofJson? : RequestKind → Json → Option Reply
  | .foldingRange, value => (FoldingAnswer.ofJson? value).map foldingRange
  | .completion, value => (CompletionAnswer.ofJson? value).map completion
  | .resolve, value => (CompletionItem.ofJson? value).map resolve

/-- Writes an answer in the form in which it came. -/
def toJson : Reply → Json
  | foldingRange answer => answer.toJson
  | completion answer => answer.toJson
  | resolve item => item.toJson

end Reply

end LanguageClient
