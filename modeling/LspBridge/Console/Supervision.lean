import LspBridge.Console.Session
/-!
# Scripted supervisors

`supervisor` runs a script against a supervisor. The setup's `config` is the server's TOML
configuration (by default `command = "java"`, `root_path = "/work/demo"`); a configuration that
does not load makes the whole answer its error. Every launch creates a scripted server, numbered
from 0, whose process runs until the script makes it exit or the supervisor kills it. The router
answers the client's standard requests with the configuration's settings, and has the Spring Tools
handlers unless `sts` is false.

Besides the steps every script has, a supervisor script starts, stops and restarts the server,
makes its next launch fail, sends a typed hover request and typed notifications. Each step answers
with the lifecycle state and generation, whether a running session is reachable, its capabilities,
the events of the step, and how each launched process stands.
-/

namespace LspBridge

namespace Console

open Json Rpc Client Server
open Engine

/-- The JSON view of a session event. -/
def eventValue : SessionEvent → Value
  | .stateChanged g before after =>
    Value.obj [("type", .string "state_changed"), ("generation", Value.nat g),
      ("from", .string before.name), ("to", .string after.name)]
  | .crashed g reason =>
    Value.obj [("type", .string "crashed"), ("generation", Value.nat g),
      ("reason", .string reason.tag), ("text", .string reason.text)]
  | .restartScheduled g attempt delay =>
    Value.obj [("type", .string "restart_scheduled"), ("generation", Value.nat g),
      ("attempt", Value.nat attempt), ("delay_ms", Value.nat delay)]

/-- The capabilities of the running session, while its connection is open. -/
def runningCapabilities (w : World) : Option Negotiated :=
  match w.runningPeer, w.supervision.session with
  | some _, some r => r.capabilities
  | _, _ => none

/-- The JSON view of negotiated capabilities. -/
def capabilitiesValue (n : Negotiated) : Value :=
  Value.obj [("raw", n.rawValue), ("server_info", serverInfoValue n.serverInfo)]

/-- How a launched server's process stands. -/
def processValue (k : Conn) : Value :=
  match k.exit with
  | none => .string "running"
  | some code => Value.obj [("exit", Value.ofOption (code.map Value.int))]

/-- The printed form of the supervisor. -/
def supervisorText (s : Supervision) : String :=
  "Supervisor \x7b server: " ++ Text.quoted s.config.name ++ ", state: " ++ s.state.debugName ++
    ", generation: " ++ toString s.generation ++ ", .. \x7d"

/-- `inspect`: the router, the supervisor and the running session's connection. -/
def inspectSupervisor (b : Bench) : Value :=
  let w := b.world
  let s := w.supervision
  okValue (Value.obj [("router", .string w.router.debugText),
    ("supervisor", .string (supervisorText s)), ("config_name", .string s.config.name),
    ("state_watch", .string s.state.name),
    ("peer", Value.ofOption (w.runningPeer.map fun c => .string (peerText (w.conn c))))])

/-- The method and shape of a typed notification `notify_typed` names. -/
def typedNotification : String → Option (String × Shape)
  | "did_open" => some ("textDocument/didOpen", Lsp.didOpenParams)
  | "did_change_configuration" =>
    some ("workspace/didChangeConfiguration", Lsp.didChangeConfigurationParams)
  | _ => none

/-- `notify_typed`: a notification whose params are read by its type first. -/
def notifyTypedStep (b : Bench) (step : Value) : Outcome := do
  let kind ← needString step "kind"
  match typedNotification kind with
  | none => bad ("notification kind " ++ kind)
  | some (method, shape) =>
    match shape.normalize? (step.field "params") with
    | none => bad "invalid notification params"
    | some params =>
      match b.world.runningPeer with
      | none => pure (rpcErrorValue .serverUnavailable, b)
      | some c =>
        match b.world.notify c method params with
        | .ok w => pure (okNull, { b with world := w })
        | .error e => pure (rpcErrorValue e, b)

/-- `request_hover`: a typed hover request, its result read as a hover. -/
def requestHoverStep (b : Bench) (i : Nat) (step : Value) : Outcome :=
  match Lsp.hoverParams.normalize? (step.field "params") with
  | none => bad "invalid hover params"
  | some params =>
    pure (okNull, b.start (.call i .running (.fresh "textDocument/hover" params .byDefault)
      (some Lsp.hoverResult)))

/-- Steps only a supervisor script has. -/
def supervisorStep (b : Bench) (i : Nat) (op : String) (step : Value) : Outcome :=
  match op with
  | "start" => pure (okNull, b.start (.lifecycle (some i) .start .locking))
  | "stop" => pure (okNull, b.start (.lifecycle (some i) .stop .locking))
  | "restart" => pure (okNull, b.start (.lifecycle (some i) .restart .locking))
  | "fail_next_launch" => do
    let reason ← needString step "reason"
    pure (okNull, b.update fun w => w.modifySup fun s => { s with failNext := some reason })
  | "request_hover" => requestHoverStep b i step
  | "notify_typed" => notifyTypedStep b step
  | "inspect" => pure (inspectSupervisor b, b)
  | _ => bad ("unknown step op " ++ op)

/-- The answer of a supervisor step. -/
def supervisorAnswer (op result : Value) (before : Marks) (b : Bench) : Value :=
  let w := b.world
  let s := w.supervision
  Value.obj (stepFields op result before w ++ [
    ("sent", .array ((w.sent.drop before.sent).map fun (k, m) =>
      Value.obj [("server", Value.nat k), ("msg", sentMessageValue m)])),
    ("events", .array ((w.events.drop before.events).map eventValue)),
    ("state", .string s.state.name), ("generation", Value.nat s.generation),
    ("peer", .bool w.runningPeer.isSome),
    ("capabilities", Value.ofOption ((runningCapabilities w).map capabilitiesValue)),
    ("processes", .array (w.conns.toList.map processValue))])

/-- The bench of a supervisor with a configuration. -/
def supervisorBench (cmd : Value) (config : Config) : Bench :=
  let sts := flag cmd "sts" true
  let router := installClientDefaults {} config.settings
  let router := if sts then installSts router else router
  { host := .supervisor, sts,
    world := { router, model := modelOf cmd, sup := some { config, processId := pidPlaceholder } } }

/-- `supervisor`: runs a script against a supervisor. -/
def supervisorCommand (cmd : Value) : Decode Value := do
  let text := ((cmd.get? "config").bind Value.asString?).getD defaultToml
  match Config.ofToml text none with
  | .error e => pure (configErrorValue e)
  | .ok config =>
    let steps := ((cmd.get? "steps").bind Value.asArray?).getD []
    pure (Value.obj [("steps", .array (runSteps supervisorStep supervisorAnswer
      (supervisorBench cmd config) steps))])

end Console

end LspBridge
