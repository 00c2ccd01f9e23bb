import LanguageClient.Protocol.Provider

/-!
# Server capabilities

What a server says it can do, as far as completion and folding go, and the three abilities by
which servers are chosen for a request.
-/

namespace LanguageClient

/-- What a server offers for completion. -/
structure CompletionProvider where
  resolveProvider : Option Bool := none
  deriving DecidableEq, Repr

/-- What a server can do. -/
structure Capabilities where
  folding : Bool := false
  completion : Option CompletionProvider := none
  deriving DecidableEq, Repr

/-- An ability that a request asks for. -/
inductive Capability
  | foldingRange
  | completion
  | completionResolve
  deriving DecidableEq, Repr

namespace Capability

/-- Whether a server with these capabilities has the ability. -/
def isSupportedBy (c : Capabilities) : Capability → Bool
  | foldingRange => c.folding
  | completion => c.completion.isSome
  | completionResolve => c.completion.any fun provider => provider.resolveProvider == some true

end Capability

namespace CompletionProvider

/-- What a completion provider has to look like. Nothing depends on its other members, but they
are checked all the same. -/
def shape : Json.Shape :=
  Provider.options [
    .optional "resolveProvider" .bool,
    .optional "triggerCharacters" Provider.strings,
    .optional "allCommitCharacters" Provider.strings,
    .optional "completionItem" (.record [.optional "labelDetailsSupport" .bool])]

/-- Reads a completion provider. -/
def ofJson? (value : Json) : Option CompletionProvider :=
  if shape.admits value then some ⟨(value.member? "resolveProvider").bind Json.bool?⟩ else none

end CompletionProvider

namespace Capabilities

/-- Reads whether folding is offered: a truth value, or for which documents it is. -/
def folding? : Json → Option Bool
  | .bool b => some b
  | value => if Provider.selective.admits value then some true else none

/-- Reads capabilities, an object. -/
def ofJson? (value : Json) : Option Capabilities := do
  let .object _ := value | none
  let others := Provider.otherProviders
  let fields ← value.fields?
    ("foldingRangeProvider" :: "completionProvider" :: others.map (·.name)) (others.length + 2)
  guard (Json.Shape.admitsAll others fields)
  let folding ← fields.optional "foldingRangeProvider" folding?
  return ⟨folding.getD false, ← fields.optional "completionProvider" CompletionProvider.ofJson?⟩

end Capabilities

end LanguageClient
