import LanguageClient.Json.Shape

/-!
# Providers

What a server may offer besides completion and folding. Nothing depends on these offers, but a
server that describes one of them wrongly does not describe itself at all. `otherProviders` lists
them with their shapes; most are a truth value or a record of options.
-/

namespace LanguageClient.Provider

open Json (Shape Member)

/-- Options of a provider, which may report progress. -/
def options (members : List Member) : Shape :=
  .options (.optional "workDoneProgress" .bool :: members)

/-- A provider that is there or not, or is there with options. -/
def switch (options : Shape) : Shape := .either [.bool, options]

/-- A list of strings. -/
def strings : Shape := .list .string

/-- The documents that a provider is for, and a name for taking it back. -/
def registration : Shape :=
  .record [
    .optional "documentSelector" (.list (.record [
      .optional "language" .string, .optional "scheme" .string, .optional "pattern" .string])),
    .optional "id" .string]

/-- A provider that is there or not, or is there for some documents, maybe for all. -/
def selective : Shape := .either [.bool, .record [], registration]

/-- How the text of documents is kept up to date. -/
def documentSync : Shape :=
  .either [
    .integer,
    .record [
      .optional "openClose" .bool,
      .optional "change" .integer,
      .optional "willSave" .bool,
      .optional "willSaveWaitUntil" .bool,
      .optional "save" (.either [.bool, .record [.optional "includeText" .bool]])]]

/-- A notebook, by its type or by a filter. -/
def notebook : Shape :=
  .either [
    .string,
    .options [.required "notebook_type" .string, .optional "scheme" .string,
      .optional "pattern" .string],
    .options [.optional "notebook_type" .string, .required "scheme" .string,
      .optional "pattern" .string],
    .options [.optional "notebook_type" .string, .optional "scheme" .string,
      .required "pattern" .string]]

/-- How notebooks are kept up to date. -/
def notebookSync : Shape :=
  let cells : Shape := .list (.record [.required "language" .string])
  .either [.record [
    .required "notebookSelector" (.list (.either [
      .options [.required "notebook" notebook, .optional "cells" cells],
      .options [.optional "notebook" notebook, .required "cells" cells]])),
    .optional "save" .bool]]

/-- The files that a server wants to hear about. -/
def fileFilters : Shape :=
  .record [.required "filters" (.list (.record [
    .optional "scheme" .string,
    .required "pattern" (.record [
      .required "glob" .string,
      .optional "matches" (.choice ["file", "folder"]),
      .optional "options" (.record [.optional "ignoreCase" .bool])])]))]

/-- What a server does for folders and files. -/
def workspace : Shape :=
  .record [
    .optional "workspaceFolders" (.record [
      .optional "supported" .bool,
      .optional "changeNotifications" (.either [.bool, .string])]),
    .optional "fileOperations" (.record [
      .optional "didCreate" fileFilters,
      .optional "willCreate" fileFilters,
      .optional "didRename" fileFilters,
      .optional "willRename" fileFilters,
      .optional "didDelete" fileFilters,
      .optional "willDelete" fileFilters])]

/-- The kinds of tokens that a server tells apart, and how it answers. -/
def semanticTokens : Shape :=
  .either [options [
    .required "legend" (.record [
      .required "tokenTypes" strings,
      .required "tokenModifiers" strings]),
    .optional "range" .bool,
    .optional "full" (.either [.bool, .options [.optional "delta" .bool]])]]

/-- How a server finds mistakes. -/
def diagnostics : Shape :=
  .either [options [
    .optional "identifier" .string,
    .required "interFileDependencies" .bool,
    .required "workspaceDiagnostics" .bool]]

/-- What a server may offer besides completion and folding. -/
def otherProviders : List Member := [
  .optional "positionEncoding" .string,
  .optional "textDocumentSync" documentSync,
  .optional "notebookDocumentSync" notebookSync,
  .optional "selectionRangeProvider" (switch (options [])),
  .optional "hoverProvider" (switch (options [])),
  .optional "signatureHelpProvider" (options [
    .optional "triggerCharacters" strings,
    .optional "retriggerCharacters" strings]),
  .optional "definitionProvider" (switch (options [])),
  .optional "typeDefinitionProvider" (switch registration),
  .optional "implementationProvider" (switch registration),
  .optional "referencesProvider" (switch (options [])),
  .optional "documentHighlightProvider" (switch (options [])),
  .optional "documentSymbolProvider" (switch (options [.optional "label" .string])),
  .optional "workspaceSymbolProvider" (switch (options [.optional "resolveProvider" .bool])),
  .optional "codeActionProvider" (switch (options [
    .optional "codeActionKinds" strings,
    .optional "resolveProvider" .bool])),
  .optional "codeLensProvider" (.record [.optional "resolveProvider" .bool]),
  .optional "documentFormattingProvider" (switch (options [])),
  .optional "documentRangeFormattingProvider" (switch (options [])),
  .optional "documentOnTypeFormattingProvider" (.record [
    .required "firstTriggerCharacter" .string,
    .optional "moreTriggerCharacter" strings]),
  .optional "renameProvider" (switch (options [.optional "prepareProvider" .bool])),
  .optional "documentLinkProvider" (options [.optional "resolveProvider" .bool]),
  .optional "colorProvider" selective,
  .optional "declarationProvider" (switch (options [])),
  .optional "executeCommandProvider" (options [.required "commands" strings]),
  .optional "workspace" workspace,
  .optional "callHierarchyProvider" (switch (options [])),
  .optional "semanticTokensProvider" semanticTokens,
  .optional "monikerProvider" (switch (options [])),
  .optional "linkedEditingRangeProvider" (switch (options [])),
  .optional "inlineValueProvider" (switch (options [])),
  .optional "inlayHintProvider" (switch (options [.optional "resolveProvider" .bool])),
  .optional "diagnosticProvider" diagnostics,
  .optional "experimental" .any]

end LanguageClient.Provider
