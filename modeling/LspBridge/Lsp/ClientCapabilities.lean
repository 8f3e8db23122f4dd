import LspBridge.Json.Value
/-!
# Client capabilities

What the client tells the Spring Boot language server it can do: workspace configuration, folders,
edits, commands and watched files; completion with documentation in markdown, lazily resolved
details and, when enabled, snippets; hover in markdown; definitions without links; code actions
with quick fixes and refactorings; code lenses; versioned diagnostics with tags; inlay hints; work
done progress; and UTF-16 positions. Nothing is registered dynamically except watched files.
-/

namespace LspBridge

namespace Lsp

open Json

/-- A record with dynamic registration off. -/
def staticOnly : Value := Value.obj [("dynamicRegistration", .bool false)]

/-- Markdown first, then plain text. -/
def markupFormats : Value := Value.strs ["markdown", "plaintext"]

/-- The workspace part of the client capabilities. -/
def workspaceClientCapabilities : Value :=
  Value.obj [("applyEdit", .bool true),
    ("codeLens", Value.obj [("refreshSupport", .bool true)]),
    ("configuration", .bool true),
    ("didChangeConfiguration", staticOnly),
    ("didChangeWatchedFiles", Value.obj [("dynamicRegistration", .bool true),
      ("relativePatternSupport", .bool false)]),
    ("executeCommand", staticOnly),
    ("symbol", staticOnly),
    ("workspaceEdit", Value.obj [("documentChanges", .bool true)]),
    ("workspaceFolders", .bool true)]

/-- The text document part of the client capabilities. -/
def textDocumentClientCapabilities (snippets : Bool) : Value :=
  Value.obj [
    ("codeAction", Value.obj [
      ("codeActionLiteralSupport", Value.obj [("codeActionKind",
        Value.obj [("valueSet", Value.strs ["quickfix", "refactor"])])]),
      ("resolveSupport", Value.obj [("properties", Value.strs ["edit"])])]),
    ("codeLens", staticOnly),
    ("completion", Value.obj [("completionItem", Value.obj [
      ("deprecatedSupport", .bool true),
      ("documentationFormat", markupFormats),
      ("resolveSupport", Value.obj [("properties",
        Value.strs ["documentation", "detail", "additionalTextEdits"])]),
      ("snippetSupport", .bool snippets),
      ("tagSupport", Value.obj [("valueSet", .array [Value.nat 1])])])]),
    ("definition", Value.obj [("linkSupport", .bool false)]),
    ("documentHighlight", staticOnly),
    ("documentSymbol", Value.obj [("hierarchicalDocumentSymbolSupport", .bool true)]),
    ("hover", Value.obj [("contentFormat", markupFormats)]),
    ("inlayHint", staticOnly),
    ("publishDiagnostics", Value.obj [
      ("tagSupport", Value.obj [("valueSet", .array [Value.nat 1, Value.nat 2])]),
      ("versionSupport", .bool true)]),
    ("references", staticOnly),
    ("synchronization", Value.obj [("didSave", .bool true), ("dynamicRegistration", .bool false)])]

/-- The client capabilities, with snippet support as given. -/
def clientCapabilities (snippets : Bool) : Value :=
  Value.obj [
    ("general", Value.obj [("positionEncodings", Value.strs ["utf-16"])]),
    ("textDocument", textDocumentClientCapabilities snippets),
    ("window", Value.obj [("showDocument", Value.obj [("support", .bool false)]),
      ("workDoneProgress", .bool true)]),
    ("workspace", workspaceClientCapabilities)]

end Lsp

end LspBridge
