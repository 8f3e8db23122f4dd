import LspBridge.Console.Settings
import LspBridge.Server.Handshake
import LspBridge.Spring.Support
/-!
# Console commands on the handshake, URIs and Spring support

Negotiating capabilities from an `initialize` result, the `initialize` parameters of a
configuration (with the process id written `"<pid>"`), the client capabilities, conversions between
paths and file URIs, and which modules and files the Spring Boot server serves.
-/

namespace LspBridge

namespace Console

open Json Server

/-- How the process id is written in answers. -/
def pidPlaceholder : Value := .string "<pid>"

/-- The providers every `negotiate` answer reports on. -/
def reportedProviders : List String :=
  ["completionProvider", "hoverProvider", "definitionProvider", "codeLensProvider",
    "renameProvider"]

/-- The JSON view of server information. -/
def serverInfoValue : Option ServerInfo → Value
  | some info => Value.obj [("name", .string info.name),
      ("version", Value.ofOption (info.version.map .string))]
  | none => .null

/-- `negotiate`: what the client keeps of an `initialize` result. -/
def negotiateCommand (cmd : Value) : Decode Value := do
  let result ← need cmd "result"
  let extra ← match cmd.get? "providers" with
    | some v => decodeStrings "providers" v
    | none => pure []
  match Negotiated.ofResult result with
  | .error detail => pure (rpcErrorValue (.protocol detail))
  | .ok n =>
    let names := n.raw.map Prod.fst ++ reportedProviders ++ extra
    pure (Value.obj [("raw", n.rawValue), ("typed_keys", Value.strs n.typedKeys),
      ("server_info", serverInfoValue n.serverInfo),
      ("supports", Value.obj (names.map fun k => (k, .bool (n.supports k))))])

/-- The configuration `initialize_params` uses when none is given. -/
def defaultToml : String := "command = \"java\"\nroot_path = \"/work/demo\"\n"

/-- `initialize_params`: the parameters of `initialize` for a configuration. -/
def initializeParamsCommand (cmd : Value) : Decode Value := do
  let text := ((cmd.get? "config").bind Value.asString?).getD defaultToml
  match Config.ofToml text none with
  | .ok c => pure (Value.obj [("params", initializeParams pidPlaceholder c)])
  | .error e => pure (configErrorValue e)

/-- `client_capabilities`: the capabilities the client announces. -/
def clientCapabilitiesCommand (cmd : Value) : Decode Value :=
  pure (Value.obj [("capabilities", Lsp.clientCapabilities (flag cmd "enable_snippets" true))])

/-- `uri_from_path`: the file URI of a path. -/
def uriFromPathCommand (cmd : Value) : Decode Value := do
  let path ← needString cmd "path"
  pure (Value.obj [("uri", Value.ofOption ((Uri.ofPath? path).map .string))])

/-- `path_from_uri`: the path a file URI names; a text that is no URI reference is refused. -/
def pathFromUriCommand (cmd : Value) : Decode Value := do
  let uri ← needString cmd "uri"
  if Uri.isReference uri then
    pure (Value.obj [("path", Value.ofOption ((Uri.toPath? uri).map .string))])
  else pure (errorKind "UriParse")

/-- `xml_namespace`: the root element's namespace and whether it makes bean definitions. -/
def xmlNamespaceCommand (cmd : Value) : Decode Value := do
  let xml ← needString cmd "xml"
  pure (Value.obj [("namespace", Value.ofOption ((Spring.rootNamespace xml).map .string)),
    ("is_spring_beans", .bool (Spring.isBeansXml xml))])

/-- `supported_language`: whether the server understands a file. -/
def supportedLanguageCommand (cmd : Value) : Decode Value := do
  let path ← needString cmd "path"
  let content ← needString cmd "content"
  pure (Value.obj [("supported", .bool (Spring.isSupportedLanguage path content))])

/-- `spring_module`: whether library roots make a Spring module. -/
def springModuleCommand (cmd : Value) : Decode Value := do
  let roots ← decodeStrings "roots" (← need cmd "roots")
  pure (Value.obj [("spring", .bool (Spring.isSpringModule roots))])

/-- `file_supported`: whether a file in a module is served. -/
def fileSupportedCommand (cmd : Value) : Decode Value := do
  let roots ← decodeStrings "roots" (← need cmd "roots")
  let path ← needString cmd "path"
  let content ← needString cmd "content"
  pure (Value.obj [("supported", .bool (Spring.isFileSupported roots path content))])

end Console

end LspBridge
