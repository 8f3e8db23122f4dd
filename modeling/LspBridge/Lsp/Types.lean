import LspBridge.Json.Shape
import LspBridge.Uri.Reference
/-!
# Shapes of LSP structures

The typed forms of the Language Server Protocol structures that this library reads or writes, as
`Json.Shape`s: positions, ranges, locations, document identifiers and items, hover results and
parameters, and the parameters of configuration requests. A URI must be a URI reference.

Records that take their fields from a merged-in record (work-done progress options, registration
options) allow only the object form.
-/

namespace LspBridge

namespace Lsp

open Json Json.Shape

/-- A URI: a string that is a URI reference. -/
def uri : Shape := .string Uri.isReference

/-- The optional work-done progress flag merged into option records. -/
def workDoneOption : String × Presence × Shape × Bool := opt "workDoneProgress" .bool

/-- A position: zero-based line and character. -/
def position : Shape := recordOf [req "line" u32, req "character" u32]

/-- A range between two positions. -/
def range : Shape := recordOf [req "start" position, req "end" position]

/-- A location: a URI and a range in it. -/
def location : Shape := recordOf [req "uri" uri, req "range" range]

/-- A text document identifier. -/
def textDocumentIdentifier : Shape := recordOf [req "uri" uri]

/-- A versioned text document identifier. -/
def versionedTextDocumentIdentifier : Shape := recordOf [req "uri" uri, req "version" i32]

/-- A progress token: an integer or a string. -/
def progressToken : Shape := .oneOf [i32, text]

/-- The parameters of a hover request: a document, a position, and an optional progress token. -/
def hoverParams : Shape :=
  flat [req "textDocument" textDocumentIdentifier, req "position" position,
    opt "workDoneToken" progressToken]

/-- A string in a given language. -/
def languageString : Shape := recordOf [req "language" text, req "value" text]

/-- A marked string: plain, or in a language. -/
def markedString : Shape := .oneOf [text, languageString]

/-- Markup: plain text or markdown. -/
def markupContent : Shape :=
  recordOf [req "kind" (names ["plaintext", "markdown"]), req "value" text]

/-- The contents of a hover: one marked string, several, or markup. -/
def hoverContents : Shape := .oneOf [markedString, .list markedString, markupContent]

/-- A hover result. -/
def hover : Shape := recordOf [req "contents" hoverContents, opt "range" range]

/-- The result of a hover request: a hover or null. -/
def hoverResult : Shape := .option hover

/-- A text document with its content. -/
def textDocumentItem : Shape :=
  recordOf [req "uri" uri, req "languageId" text, req "version" i32, req "text" text]

/-- The parameters of `textDocument/didOpen`. -/
def didOpenParams : Shape := recordOf [req "textDocument" textDocumentItem]

/-- The parameters of `workspace/didChangeConfiguration`. -/
def didChangeConfigurationParams : Shape := recordOf [req "settings" .any]

/-- One item of a `workspace/configuration` request. -/
def configurationItem : Shape := recordOf [opt "scopeUri" uri, opt "section" text]

/-- The parameters of `workspace/configuration`. -/
def configurationParams : Shape := recordOf [req "items" (.list configurationItem)]

/-- A server's name and version. -/
def serverInfo : Shape := recordOf [req "name" text, opt "version" text]

end Lsp

end LspBridge
