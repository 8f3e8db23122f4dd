import LspBridge.Lsp.Types
/-!
# Server capabilities

The typed form of each capability a server may announce in its `initialize` result, keyed by its
name. A capability whose value does not have its shape is not part of the typed view; its raw value
is still kept by the client. Keys not listed here are unknown and never typed. A capabilities
object reads when each of its capabilities does; its typed view then holds the known ones that
have a value.

Most providers are a boolean or an options record; records built from merged-in option records
(marked `flat`) take only the object form, the others an object or an array of their fields.
-/

namespace LspBridge

namespace Lsp

open Json Json.Shape

/-- A document filter: language, scheme and glob pattern, each optional. -/
def documentFilter : Shape := recordOf [opt "language" text, opt "scheme" text, opt "pattern" text]

/-- Registration fields merged into option records: the documents and an identifier. -/
def registrationFields : List (String × Presence × Shape × Bool) :=
  [opt "documentSelector" (.list documentFilter), opt "id" text]

/-- Static registration options on their own. -/
def staticRegistration : Shape := recordOf registrationFields

/-- A provider that is a flag or a record of work-done progress and the given fields. -/
def flagOr (fields : List (String × Presence × Shape × Bool)) : Shape :=
  .oneOf [.bool, flat (workDoneOption :: fields)]

/-- A provider that is a flag, options, or options with registration. -/
def flagOrRegistered (fields : List (String × Presence × Shape × Bool)) : Shape :=
  .oneOf [.bool, flat (workDoneOption :: fields),
    flat (workDoneOption :: fields ++ registrationFields)]

/-- How documents are synchronized: a kind number or options. -/
def textDocumentSync : Shape :=
  .oneOf [i32, recordOf [opt "openClose" .bool, opt "change" i32, opt "willSave" .bool,
    opt "willSaveWaitUntil" .bool,
    opt "save" (.oneOf [.bool, recordOf [opt "includeText" .bool]])]]

/-- A notebook document filter: at least one of type, scheme and pattern. -/
def notebookDocumentFilter : Shape :=
  .oneOf [recordOf [req "notebookType" text, opt "scheme" text, opt "pattern" text],
    recordOf [opt "notebookType" text, req "scheme" text, opt "pattern" text],
    recordOf [opt "notebookType" text, opt "scheme" text, req "pattern" text]]

/-- The notebooks a selector names: by type or by filter. -/
def notebookReference : Shape := .oneOf [text, notebookDocumentFilter]

/-- A cell selector: a language. -/
def notebookCellSelector : Shape := recordOf [req "language" text]

/-- A notebook selector: by notebook with optional cells, or by cells with an optional notebook. -/
def notebookSelector : Shape :=
  .oneOf [recordOf [req "notebook" notebookReference, opt "cells" (.list notebookCellSelector)],
    recordOf [opt "notebook" notebookReference, req "cells" (.list notebookCellSelector)]]

/-- How notebooks are synchronized. -/
def notebookDocumentSync : Shape :=
  .oneOf [recordOf [req "notebookSelector" (.list notebookSelector), opt "save" .bool],
    flat [req "notebookSelector" (.list notebookSelector), opt "save" .bool, opt "id" text]]

/-- Completion options. -/
def completionOptions : Shape :=
  flat [opt "resolveProvider" .bool, opt "triggerCharacters" (.list text),
    opt "allCommitCharacters" (.list text), workDoneOption,
    opt "completionItem" (recordOf [opt "labelDetailsSupport" .bool])]

/-- Signature help options. -/
def signatureHelpOptions : Shape :=
  flat [opt "triggerCharacters" (.list text), opt "retriggerCharacters" (.list text),
    workDoneOption]

/-- A flag or static registration options. -/
def flagOrStatic : Shape := .oneOf [.bool, staticRegistration]

/-- A flag, empty options, or static registration options. -/
def flagOrEmptyOrStatic : Shape := .oneOf [.bool, recordOf [], staticRegistration]

/-- One file operation pattern. -/
def fileOperationPattern : Shape :=
  recordOf [req "glob" text, opt "matches" (names ["file", "folder"]),
    opt "options" (recordOf [opt "ignoreCase" .bool])]

/-- The files a file operation concerns. -/
def fileOperationRegistration : Shape :=
  recordOf [req "filters"
    (.list (recordOf [opt "scheme" text, req "pattern" fileOperationPattern]))]

/-- Workspace capabilities: folders and file operations. -/
def workspaceCapabilities : Shape :=
  recordOf [opt "workspaceFolders" (recordOf [opt "supported" .bool,
      opt "changeNotifications" (.oneOf [.bool, text])]),
    opt "fileOperations" (recordOf [opt "didCreate" fileOperationRegistration,
      opt "willCreate" fileOperationRegistration, opt "didRename" fileOperationRegistration,
      opt "willRename" fileOperationRegistration, opt "didDelete" fileOperationRegistration,
      opt "willDelete" fileOperationRegistration])]

/-- The semantic token options, less registration. -/
def semanticTokenFields : List (String × Presence × Shape × Bool) :=
  [workDoneOption,
    req "legend" (recordOf [req "tokenTypes" (.list text), req "tokenModifiers" (.list text)]),
    opt "range" .bool, opt "full" (.oneOf [.bool, recordOf [opt "delta" .bool]])]

/-- Semantic token options, with or without registration. -/
def semanticTokensProvider : Shape :=
  .oneOf [flat semanticTokenFields, flat (semanticTokenFields ++ registrationFields)]

/-- The diagnostic options, less registration. -/
def diagnosticFields : List (String × Presence × Shape × Bool) :=
  [opt "identifier" text, req "interFileDependencies" .bool, req "workspaceDiagnostics" .bool,
    workDoneOption]

/-- Diagnostic options, with or without registration. -/
def diagnosticProvider : Shape :=
  .oneOf [flat diagnosticFields, flat (diagnosticFields ++ registrationFields)]

/-- Every capability a server may announce, with its shape. -/
def serverCapabilities : List (String × Shape) :=
  [("positionEncoding", text),
    ("textDocumentSync", textDocumentSync),
    ("notebookDocumentSync", notebookDocumentSync),
    ("selectionRangeProvider", flagOrRegistered []),
    ("hoverProvider", flagOr []),
    ("completionProvider", completionOptions),
    ("signatureHelpProvider", signatureHelpOptions),
    ("definitionProvider", flagOr []),
    ("typeDefinitionProvider", flagOrStatic),
    ("implementationProvider", flagOrStatic),
    ("referencesProvider", flagOr []),
    ("documentHighlightProvider", flagOr []),
    ("documentSymbolProvider", flagOr [opt "label" text]),
    ("workspaceSymbolProvider", flagOr [opt "resolveProvider" .bool]),
    ("codeActionProvider", flagOr [opt "codeActionKinds" (.list text),
      opt "resolveProvider" .bool]),
    ("codeLensProvider", recordOf [opt "resolveProvider" .bool]),
    ("documentFormattingProvider", flagOr []),
    ("documentRangeFormattingProvider", flagOr []),
    ("documentOnTypeFormattingProvider",
      recordOf [req "firstTriggerCharacter" text, opt "moreTriggerCharacter" (.list text)]),
    ("renameProvider", flagOr [opt "prepareProvider" .bool]),
    ("documentLinkProvider", flat [opt "resolveProvider" .bool, workDoneOption]),
    ("colorProvider", flagOrEmptyOrStatic),
    ("foldingRangeProvider", flagOrEmptyOrStatic),
    ("declarationProvider", flagOrRegistered []),
    ("executeCommandProvider", flat [req "commands" (.list text), workDoneOption]),
    ("workspace", workspaceCapabilities),
    ("callHierarchyProvider", flagOr []),
    ("semanticTokensProvider", semanticTokensProvider),
    ("monikerProvider", flagOrRegistered []),
    ("linkedEditingRangeProvider", flagOrRegistered []),
    ("inlineValueProvider", flagOrRegistered []),
    ("inlayHintProvider", flagOrRegistered [opt "resolveProvider" .bool]),
    ("diagnosticProvider", diagnosticProvider),
    ("experimental", .any)]

/-- Whether a capability's value belongs to its typed view: the key is known, the value is not
null, and it has the key's shape. -/
def typedCapability (key : String) (value : Value) : Bool :=
  match serverCapabilities.lookup key with
  | some shape => !value.isNull && shape.accepts value
  | none => false

/-- Whether one capability reads: an unknown key is ignored, null reads as an absent capability,
and a known key's value must have its shape. -/
def capabilityReads (key : String) (value : Value) : Bool :=
  match serverCapabilities.lookup key with
  | some shape => value.isNull || shape.accepts value
  | none => true

/-- Reads a capabilities object into its typed view, the members of the known capabilities given a
value, in order; none when one of its capabilities does not read. -/
def readCapabilities (members : List (String × Value)) : Option (List (String × Value)) :=
  if members.all fun member => capabilityReads member.1 member.2 then
    some (members.filter fun member => typedCapability member.1 member.2)
  else none

end Lsp

end LspBridge
