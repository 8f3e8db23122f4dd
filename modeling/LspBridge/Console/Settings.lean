import LspBridge.Console.Basic
import LspBridge.Console.Scratch
import LspBridge.Server.ConfigFile
import LspBridge.Server.State
/-!
# Console commands on configurations

Building configurations from TOML, from a command and root, for the Spring Boot server, step by
step, and from a file in a scratch directory; restart delays; and the lifecycle's allowed steps.

A configuration answers as an object of all its fields, the durations in ms (`null` for waiting
forever), the environment as an object, and the restart policy as `{"mode": "manual"}` or
`{"mode": "automatic", "max_restarts", "backoff_ms"}`.
-/

namespace LspBridge

namespace Console

open Json Server

/-- The JSON view of a restart policy. -/
def restartValue : RestartPolicy → Value
  | .manual => Value.obj [("mode", .string "manual")]
  | .automatic maxRestarts backoff =>
    Value.obj [("mode", .string "automatic"), ("max_restarts", Value.nat maxRestarts),
      ("backoff_ms", Value.nat backoff)]

/-- The JSON view of a configuration. -/
def configValue (c : Config) : Value :=
  Value.obj [("name", .string c.name), ("command", .string c.command), ("args", Value.strs c.args),
    ("env", Value.obj (c.env.map fun (k, v) => (k, .string v))),
    ("root_path", .string c.rootPath),
    ("working_dir", Value.ofOption (c.workingDir.map .string)),
    ("effective_working_dir", .string c.effectiveWorkingDir),
    ("request_timeout_ms", Value.ofOption (c.requestTimeout.map Value.nat)),
    ("startup_timeout_ms", Value.nat c.startupTimeout),
    ("shutdown_grace_ms", Value.nat c.shutdownGrace),
    ("enable_snippets", .bool c.enableSnippets), ("client_name", .string c.clientName),
    ("initialization_options", Value.ofOption c.initializationOptions),
    ("settings", Value.ofOption c.settings), ("restart", restartValue c.restart)]

/-- The answer for a configuration error: its text when it has one of its own. -/
def configErrorValue : ConfigError → Value
  | .malformed => errorKind "Config"
  | e => Value.obj [("error", .string "Config"), ("message", .string e.text)]

/-- The answer for a configuration or its error. -/
def configOutcomeValue : Except ConfigError Config → Value
  | .ok c => configValue c
  | .error e => configErrorValue e

/-- A restart policy given as `{mode, max_restarts?, backoff_ms?}`. -/
def decodeRestart (v : Value) : Decode RestartPolicy := do
  match ← needString v "mode" with
  | "manual" => pure .manual
  | "automatic" =>
    pure (.automatic (((v.get? "max_restarts").bind Value.asNat?).getD 3)
      (((v.get? "backoff_ms").bind Value.asNat?).getD 1000))
  | mode => bad ("mode " ++ mode)

/-- A list of strings. -/
def decodeStrings (key : String) (v : Value) : Decode (List String) :=
  match v.asArray? >>= fun items => items.mapM Value.asString? with
  | some xs => pure xs
  | none => bad key

/-- `config_toml`: a configuration from TOML text. -/
def configTomlCommand (cmd : Value) : Decode Value := do
  pure (configOutcomeValue (Config.ofToml (← needString cmd "toml") none))

/-- `config_new`: the default configuration for a command and root. -/
def configNewCommand (cmd : Value) : Decode Value := do
  pure (configValue (Config.new (← needString cmd "command") (← needString cmd "root_path")))

/-- `config_spring_boot`: the Spring Boot server's configuration. -/
def configSpringBootCommand (cmd : Value) : Decode Value := do
  pure (configValue (Config.springBoot (← needString cmd "java") (← needString cmd "jar")
    (← needString cmd "root_path")))

/-- `config_build`: a new configuration with each given field set in turn. -/
def configBuildCommand (cmd : Value) : Decode Value := do
  let c := Config.new (← needString cmd "command") (← needString cmd "root_path")
  let c ← match cmd.get? "args" with
    | some v => do pure { c with args := ← decodeStrings "args" v }
    | none => pure c
  let c ← match cmd.get? "env" with
    | some v => match v.asObject? >>= fun ms => ms.mapM fun (k, x) => x.asString?.map (k, ·) with
      | some env => pure { c with env := Config.sortEnv env }
      | none => bad "env"
    | none => pure c
  let c ← match cmd.get? "request_timeout_ms" with
    | some .null => pure { c with requestTimeout := none }
    | some v => match v.asNat? with
      | some ms => pure { c with requestTimeout := some ms }
      | none => bad "request_timeout_ms"
    | none => pure c
  let c ← match cmd.get? "startup_timeout_ms" with
    | some v => match v.asNat? with
      | some ms => pure { c with startupTimeout := ms }
      | none => bad "startup_timeout_ms"
    | none => pure c
  let c ← match cmd.get? "shutdown_grace_ms" with
    | some v => match v.asNat? with
      | some ms => pure { c with shutdownGrace := ms }
      | none => bad "shutdown_grace_ms"
    | none => pure c
  let c := match cmd.get? "settings" with
    | some v => { c with settings := some v }
    | none => c
  let c ← match cmd.get? "restart" with
    | some v => do pure { c with restart := ← decodeRestart v }
    | none => pure c
  pure (configValue c)

/-- `config_load`: a configuration read from a file in a fresh scratch directory, written there
first when `toml` is given. Relative paths in it resolve against the file's directory. -/
def configLoadCommand (cmd : Value) : Decode Value := do
  let file := ((cmd.get? "file").bind Value.asString?).getD "sts.toml"
  let scratch : Scratch := {}
  let scratch := match (cmd.get? "toml").bind Value.asString? with
    | some text => scratch.withFile file text
    | none => scratch
  let path := Path.join scratchDir file
  match scratch.read file with
  | .error reason => pure (configErrorValue (.unreadable path reason))
  | .ok text => pure (configOutcomeValue (Config.ofToml text (Path.parent? path)))

/-- `restart_delay`: the delay before the next automatic restart. -/
def restartDelayCommand (cmd : Value) : Decode Value := do
  let policy ← decodeRestart (← need cmd "policy")
  let sofar ← needNat cmd "restarts_so_far"
  pure (Value.obj [("delay_ms", Value.ofOption ((policy.delay? sofar).map Value.nat))])

/-- A lifecycle state named by a field. -/
def decodeState (cmd : Value) (key : String) : Decode SessionState := do
  let name ← needString cmd key
  match SessionState.ofName? name with
  | some s => pure s
  | none => bad ("unknown state " ++ name)

/-- `state_transition`: whether the lifecycle may step from one state to another. -/
def stateTransitionCommand (cmd : Value) : Decode Value := do
  let before ← decodeState cmd "from"
  let after ← decodeState cmd "to"
  pure (Value.obj [("allowed", .bool (before.canStep after)),
    ("from_is_running", .bool before.isRunning), ("from", .string before.name),
    ("to", .string after.name)])

end Console

end LspBridge
