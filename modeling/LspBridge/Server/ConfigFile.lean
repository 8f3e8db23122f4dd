import LspBridge.Server.Config
import LspBridge.Toml.Reader
import LspBridge.Text.Blank
/-!
# Configuration files

A configuration written in TOML. The root table may hold only these keys: `command` and
`root_path` (required strings), `name`, `working_dir` and `client_name` (strings), `args` (strings),
`env` (a table of strings), `request_timeout_ms`, `startup_timeout_ms` and `shutdown_grace_ms`
(integers from 0 to `2 ^ 64 - 1`), `enable_snippets` (a boolean), `initialization_options` and
`settings` (any value, as JSON), and `restart`, a table of `mode` (`"manual"`, the default, or
`"automatic"`), `max_restarts` (default 3) and `backoff_ms` (default 1000) and nothing else. A
`request_timeout_ms` of 0 means waiting forever.

A command of blanks only is refused. When the file is read from disk, a relative `root_path` or
`working_dir` is joined to the file's directory.
-/

namespace LspBridge

namespace Server

/-- Why a configuration cannot be had.

`malformed`: the text is no TOML, or a key is unknown, missing or of the wrong type. `emptyCommand`:
the command is empty or blank. `unreadable`: the file cannot be read: its path and the system's
reason. -/
inductive ConfigError where
  | malformed
  | emptyCommand
  | unreadable (path reason : String)
  deriving DecidableEq, Repr

/-- The text of a configuration error that has one of its own. -/
def ConfigError.text : ConfigError → String
  | .malformed => "invalid configuration"
  | .emptyCommand => "invalid configuration: `command` must not be empty"
  | .unreadable path reason => path ++ ": " ++ reason

/-- The keys a configuration file may have. -/
def fileKeys : List String :=
  ["name", "command", "args", "env", "root_path", "working_dir", "request_timeout_ms",
    "startup_timeout_ms", "shutdown_grace_ms", "enable_snippets", "client_name",
    "initialization_options", "settings", "restart"]

/-- Reading one field of a configuration file. -/
abbrev FieldRead := Except ConfigError

/-- A string. -/
def asString : Toml.Value → FieldRead String
  | .string s => pure s
  | _ => .error .malformed

/-- A boolean. -/
def asBool : Toml.Value → FieldRead Bool
  | .bool b => pure b
  | _ => .error .malformed

/-- An unsigned 64-bit integer. -/
def asU64 : Toml.Value → FieldRead Nat
  | .integer n => if 0 ≤ n ∧ n < Int.pow 2 64 then pure n.toNat else .error .malformed
  | _ => .error .malformed

/-- Any value, as JSON. -/
def asJson (v : Toml.Value) : FieldRead Json.Value :=
  match v.toJson? with
  | some j => pure j
  | none => .error .malformed

/-- A list of strings. -/
def asStrings : Toml.Value → FieldRead (List String)
  | .array items => items.mapM asString
  | _ => .error .malformed

/-- A table of strings. -/
def asStringTable : Toml.Value → FieldRead (List (String × String))
  | .table entries => entries.mapM fun (k, v) => do pure (k, ← asString v)
  | _ => .error .malformed

/-- An optional field, read when present. -/
def optionalField {α : Type} (entries : List (String × Toml.Value)) (key : String)
    (read : Toml.Value → FieldRead α) : FieldRead (Option α) :=
  match Toml.lookup key entries with
  | some v => some <$> read v
  | none => pure none

/-- A required field. -/
def requiredField {α : Type} (entries : List (String × Toml.Value)) (key : String)
    (read : Toml.Value → FieldRead α) : FieldRead α :=
  match Toml.lookup key entries with
  | some v => read v
  | none => .error .malformed

/-- The restart mode: `true` for automatic. -/
def asMode : Toml.Value → FieldRead Bool
  | .string "manual" => pure false
  | .string "automatic" => pure true
  | _ => .error .malformed

/-- The `restart` table, or its three fields in order as an array. -/
def asRestart : Toml.Value → FieldRead RestartPolicy
  | .table entries => do
    unless entries.all (fun (k, _) => ["mode", "max_restarts", "backoff_ms"].contains k) do
      .error .malformed
    let automatic ← (optionalField entries "mode" asMode).map (·.getD false)
    let maxRestarts ← optionalField entries "max_restarts" asU64
    let backoff ← optionalField entries "backoff_ms" asU64
    pure (if automatic then .automatic (maxRestarts.getD 3) (backoff.getD 1000) else .manual)
  | .array [mode, maxRestarts, backoff] => do
    let automatic ← asMode mode
    let maxRestarts ← asU64 maxRestarts
    let backoff ← asU64 backoff
    pure (if automatic then .automatic maxRestarts backoff else .manual)
  | _ => .error .malformed

/-- A configuration from the root table of a file. `base` is the file's directory, against which
relative paths resolve. -/
def Config.ofTable (entries : List (String × Toml.Value)) (base : Option String) :
    Except ConfigError Config := do
  unless entries.all (fun (k, _) => fileKeys.contains k) do .error .malformed
  let name ← optionalField entries "name" asString
  let command ← requiredField entries "command" asString
  let args ← (optionalField entries "args" asStrings).map (·.getD [])
  let env ← (optionalField entries "env" asStringTable).map (·.getD [])
  let rootPath ← requiredField entries "root_path" asString
  let workingDir ← optionalField entries "working_dir" asString
  let requestTimeout ← optionalField entries "request_timeout_ms" asU64
  let startupTimeout ← optionalField entries "startup_timeout_ms" asU64
  let shutdownGrace ← optionalField entries "shutdown_grace_ms" asU64
  let enableSnippets ← optionalField entries "enable_snippets" asBool
  let clientName ← optionalField entries "client_name" asString
  let initializationOptions ← optionalField entries "initialization_options" asJson
  let settings ← optionalField entries "settings" asJson
  let restart ← (optionalField entries "restart" asRestart).map (·.getD .manual)
  if (Text.trimBlank command).isEmpty then .error .emptyCommand
  let resolve := fun (p : String) => match base with
    | some dir => if Path.isAbsolute p then p else Path.join dir p
    | none => p
  let base := Config.new command (resolve rootPath)
  pure { base with
    name := name.getD base.name
    args
    env := Config.sortEnv env
    workingDir := workingDir.map resolve
    requestTimeout := match requestTimeout with
      | some 0 => none
      | some ms => some ms
      | none => base.requestTimeout
    startupTimeout := startupTimeout.getD base.startupTimeout
    shutdownGrace := shutdownGrace.getD base.shutdownGrace
    enableSnippets := enableSnippets.getD base.enableSnippets
    clientName := clientName.getD base.clientName
    initializationOptions
    settings
    restart }

/-- A configuration from TOML text; relative paths stay as written unless `base` is given. -/
def Config.ofToml (text : String) (base : Option String) : Except ConfigError Config :=
  match Toml.read text with
  | .ok entries => Config.ofTable entries base
  | .error _ => .error .malformed

end Server

end LspBridge
