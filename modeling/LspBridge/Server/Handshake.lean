import LspBridge.Lsp.ServerCapabilities
import LspBridge.Lsp.ClientCapabilities
import LspBridge.Server.Config
import LspBridge.Uri.File
/-!
# The initialize handshake

What the client sends in `initialize` and what it keeps of the server's answer.

The parameters carry the process id, the workspace root both as the path written in the
configuration and as a `file:` URI with one workspace folder named after its last segment (both
left out, the URI as `null`, when the root has no URI), the initialization options when configured,
the client capabilities, and the client's name and version.

Of the result the client keeps the `capabilities` object exactly as sent, its typed view, and the
`serverInfo` when it is a name with an optional version. A result without a capabilities object
ends the handshake.
-/

namespace LspBridge

namespace Server

open Json

/-- The version the client announces. -/
def clientVersion : String := "0.1.0"

/-- The workspace folder at a URI. -/
def workspaceFolder (uri : String) : Value :=
  Value.obj [("name", .string (Uri.folderName uri)), ("uri", .string uri)]

/-- The parameters of `initialize` for a configuration, with the given process id and the URI
its root path resolves to. -/
def initializeParamsAt (rootUri : Option String) (processId : Value) (config : Config) : Value :=
  let optional := (match rootUri with
      | some uri => [("workspaceFolders", Value.array [workspaceFolder uri])]
      | none => []) ++
    (match config.initializationOptions with
      | some options => [("initializationOptions", options)]
      | none => [])
  Value.obj ([("processId", processId), ("rootPath", .string config.rootPath),
    ("rootUri", Value.ofOption (rootUri.map .string)),
    ("capabilities", Lsp.clientCapabilities config.enableSnippets),
    ("clientInfo", Value.obj [("name", .string config.clientName),
      ("version", .string clientVersion)])] ++ optional)

/-- The parameters of `initialize` for a configuration, with the given process id. -/
def initializeParams (processId : Value) (config : Config) : Value :=
  initializeParamsAt (Uri.ofPath? config.rootPath) processId config

/-- A server's name and optional version.

`name`: the name. `version`: the version, if given. -/
structure ServerInfo where
  name : String
  version : Option String
  deriving DecidableEq, Repr

/-- The server information in a value, if it has the shape of one. -/
def ServerInfo.ofValue? (v : Value) : Option ServerInfo :=
  match Lsp.serverInfo.normalize? v with
  | some normal =>
    match normal.field "name" with
    | .string name => some ⟨name, (normal.field "version").asString?⟩
    | _ => none
  | none => none

/-- The typed view of a capabilities object, for a reader `read` of capabilities objects into the
members of their typed view: the whole object when it reads; otherwise the members that read on
their own, read together, or the empty view should even that fail. -/
def typedCapabilities (read : List (String × Value) → Option (List (String × Value)))
    (raw : List (String × Value)) : List (String × Value) :=
  match read raw with
  | some typed => typed
  | none => (read (raw.filter fun member => (read [member]).isSome)).getD []

/-- What the client keeps of the server's `initialize` result.

`raw`: the capabilities object as sent. `typed`: the members of the typed view of the capabilities.
`serverInfo`: the server's name and version, when well formed. -/
structure Negotiated where
  raw : List (String × Value)
  typed : List (String × Value)
  serverInfo : Option ServerInfo
  deriving Repr

/-- Why an `initialize` result is refused. -/
def noCapabilities : String := "initialize result has no capabilities object"

/-- Reads the result of `initialize` with a reader of capabilities objects; the error is the
protocol violation. -/
def Negotiated.ofResultWith (read : List (String × Value) → Option (List (String × Value)))
    (result : Value) : Except String Negotiated :=
  match result.get? "capabilities" with
  | some (.object raw) =>
    pure { raw := raw, typed := typedCapabilities read raw
           serverInfo := (result.get? "serverInfo").bind ServerInfo.ofValue? }
  | _ => .error noCapabilities

/-- Reads the result of `initialize`; the error is the protocol violation. -/
def Negotiated.ofResult (result : Value) : Except String Negotiated :=
  Negotiated.ofResultWith Lsp.readCapabilities result

namespace Negotiated

/-- The capabilities as a JSON object. -/
def rawValue (n : Negotiated) : Value := .object n.raw

/-- The names of the capabilities in the typed view, in order. -/
def typedKeys (n : Negotiated) : List String := n.typed.map Prod.fst

/-- Whether the server announced a provider with a value other than `false` or `null`. -/
def supports (n : Negotiated) (provider : String) : Bool :=
  match lookupMember provider n.raw with
  | none | some .null | some (.bool false) => false
  | some _ => true

end Negotiated

end Server

end LspBridge
