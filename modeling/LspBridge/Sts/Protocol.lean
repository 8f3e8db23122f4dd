import LspBridge.Lsp.Types
/-!
# The Spring Tools client protocol

The methods the Spring Boot language server calls on its client, beyond plain LSP, and the shapes
of their params. The server pushes highlights (code lenses per document) and progress, asks the
client to move the cursor, to register or remove classpath listeners, and queries the client's
Java model: type data, source URLs and locations by binding key, type and package search, sub- and
supertypes, javadoc and code completion.

Missing optional members take their defaults: no project, no cross-project lookup, no binaries or
system libraries, the focus type left out, no lenses.
-/

namespace LspBridge

namespace Sts

open Json Json.Shape

/-- `sts/highlight`. -/
def highlight : String := "sts/highlight"
/-- `sts/progress`. -/
def progress : String := "sts/progress"
/-- `sts/moveCursor`. -/
def moveCursor : String := "sts/moveCursor"
/-- `sts/addClasspathListener`. -/
def addClasspathListener : String := "sts/addClasspathListener"
/-- `sts/removeClasspathListener`. -/
def removeClasspathListener : String := "sts/removeClasspathListener"
/-- `sts/javadoc`. -/
def javadoc : String := "sts/javadoc"
/-- `sts/javaType`. -/
def javaType : String := "sts/javaType"
/-- `sts/javadocHoverLink`. -/
def javadocHoverLink : String := "sts/javadocHoverLink"
/-- `sts/javaLocation`. -/
def javaLocation : String := "sts/javaLocation"
/-- `sts/javaSearchTypes`. -/
def javaSearchTypes : String := "sts/javaSearchTypes"
/-- `sts/javaSearchPackages`. -/
def javaSearchPackages : String := "sts/javaSearchPackages"
/-- `sts/javaSubTypes`. -/
def javaSubTypes : String := "sts/javaSubTypes"
/-- `sts/javaSuperTypes`. -/
def javaSuperTypes : String := "sts/javaSuperTypes"
/-- `sts/javaCodeComplete`. -/
def javaCodeComplete : String := "sts/javaCodeComplete"

/-- A command attached to a code lens. -/
def command : Shape :=
  recordOf [req "title" text, req "command" text, opt "arguments" (.list .any)]

/-- A code lens: a range, an optional command and optional data. -/
def codeLens : Shape := recordOf [req "range" Lsp.range, opt "command" command, opt "data" .any]

/-- The params of `sts/highlight`: a versioned document and its lenses. -/
def highlightParams : Shape :=
  recordOf [req "doc" Lsp.versionedTextDocumentIdentifier,
    dflt "codeLenses" (.array []) (.list codeLens)]

/-- The params of `sts/progress`: a task id and an optional status. -/
def progressParams : Shape := recordOf [req "id" text, optD "statusMsg" text]

/-- The params of the classpath listener requests: the callback command. -/
def classpathListenerParams : Shape := recordOf [req "callbackCommandId" text]

/-- The params of lookups by binding key. -/
def javaDataParams : Shape :=
  recordOf [optD "projectUri" text, req "bindingKey" text, optD "lookInOtherProjects" .bool]

/-- The params of type search. -/
def javaSearchParams : Shape :=
  recordOf [optD "projectUri" text, req "term" text,
    dflt "includeBinaries" (.bool false) .bool, dflt "includeSystemLibs" (.bool false) .bool]

/-- The params of hierarchy queries. -/
def javaTypeHierarchyParams : Shape :=
  recordOf [optD "projectUri" text, req "fqName" text, dflt "includeFocusType" (.bool false) .bool]

/-- `workspace/executeCommand`, the method a classpath change is reported to a listener with. -/
def executeCommand : String := "workspace/executeCommand"

/-- A classpath change of a project, as reported to the classpath listeners.

`projectUri`: the project whose classpath changed. `name`: the project's name. `deleted`: whether
the project was removed. `classpath`: the new classpath, as given. -/
structure ClasspathUpdate where
  projectUri : String
  name : String
  deleted : Bool
  classpath : Value

/-- The params of the call reporting an update to the listener of a callback command: the command,
and as arguments the project, its name, whether it was removed and the classpath. -/
def ClasspathUpdate.callbackParams (u : ClasspathUpdate) (command : String) : Value :=
  Value.obj [("command", .string command),
    ("arguments", .array [.string u.projectUri, .string u.name, .bool u.deleted, u.classpath])]

end Sts

end LspBridge
