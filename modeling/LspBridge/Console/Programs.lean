import LspBridge.Console.Supervision
/-!
# Scripted server programs

`process` runs a supervisor whose servers are started as programs on a model computer. The
computer has one server program, which follows the script given as `fake` (`{"launches": [...]}`,
one behaviour per launch, the last repeating), and a fresh scratch directory holding that script as
`fake.json`. Each step runs to its end, letting time pass as it needs: `start`, `stop`, `restart`,
`call`, `notify`, `sleep` and `wait_event` (for the next event of a type, within a timeout). Each
step answers with its result, the events it saw, the state, the generation and the raw capabilities
of the running session; the whole answer adds what the servers received, launch by launch.

Paths in answers are written with placeholders: `@DIR@` for the scratch directory, `@FAKE@` for the
server program and `@BRIDGE@` for the bridge program; inputs may use the first two.
-/

namespace LspBridge

namespace Console

open Json Rpc Client Server Machine
open Engine

/-- Where scratch directories are made. -/
def scratchRoot : String := "/tmp/sts-oracle/1"

/-- The path of the server program. -/
def serverProgramPath : String := "/opt/sts-oracle/fake-lsp"

/-- The path of the bridge program. -/
def bridgeProgramPath : String := "/opt/sts-oracle/sts-bridge"

/-- The scratch directory of a command. -/
def scratchFor (name : String) : String := scratchRoot ++ "/" ++ name

/-- Input text with its placeholders filled in. -/
def fillPlaceholders (dir : String) (text : String) : String :=
  (text.replace "@DIR@" dir).replace "@FAKE@" serverProgramPath

/-- A text with the scratch directory and the programs written as placeholders. -/
def placeholderText (dir : String) (text : String) : String :=
  ((text.replace dir "@DIR@").replace serverProgramPath "@FAKE@").replace bridgeProgramPath
    "@BRIDGE@"

mutual

/-- Every string of a value written with placeholders. -/
def withPlaceholders (dir : String) : Value → Value
  | .string s => .string (placeholderText dir s)
  | .array items => .array (placeholderItems dir items)
  | .object members => .object (placeholderMembers dir members)
  | v => v

/-- Items written with placeholders. -/
def placeholderItems (dir : String) : List Value → List Value
  | [] => []
  | v :: rest => withPlaceholders dir v :: placeholderItems dir rest

/-- Member values written with placeholders. -/
def placeholderMembers (dir : String) : List (String × Value) → List (String × Value)
  | [] => []
  | (k, v) :: rest => (k, withPlaceholders dir v) :: placeholderMembers dir rest

end

/-- A scripted reply: `"ignore"`, `{"error": e}`, `{"result": r}`, or the default. -/
def decodeReply (default : Reply) : Option Value → Reply
  | some (.string "ignore") => .ignore
  | some v =>
    match v.get? "error", v.get? "result" with
    | some e, _ => .error e
    | none, some r => .result r
    | none, none => default
  | none => default

/-- One launch's behaviour. -/
def decodeBehaviour (v : Value) : Behaviour :=
  let nat := fun (key : String) => (v.get? key).bind Value.asNat?
  let int := fun (key : String) => (v.get? key).bind Value.asInt?
  let exitTimer := match nat "exit_after_ms" with
    | some ms => [(ms, Timed.exit ((int "exit_after_code").getD 0))]
    | none => []
  let interruptTimer := match nat "sigint_parent_ms" with
    | some ms => [(ms, Timed.interrupt)]
    | none => []
  let d : Behaviour := {}
  { onInitialize := decodeReply d.onInitialize (v.get? "init")
    echoEnv := ((v.get? "echo_env").bind Value.asArray?).getD [] |>.filterMap Value.asString?
    requests := ((v.get? "requests").bind Value.asArray?).getD []
    timed := exitTimer ++ interruptTimer
    closeOutput := flag v "close_stdout" false
    onShutdown := decodeReply d.onShutdown (v.get? "shutdown")
    exitCode := (int "exit_code").getD 0
    eofCode := (int "eof_code").getD 0
    hangOnEof := flag v "hang_on_eof" false }

/-- The behaviours of a script. -/
def decodeScript (v : Value) : List Behaviour :=
  (((v.get? "launches").bind Value.asArray?).getD []).map decodeBehaviour

/-- A disk with the programs and a scratch directory holding the script, if one is given. -/
def scratchDisk (dir : String) (fake : Option Value) : Disk :=
  let d : Disk := {}
  let d := d.putWithParents (placeOf serverProgramPath) .program
  let d := d.putWithParents (placeOf bridgeProgramPath) .program
  let d := d.putWithParents (placeOf dir) .directory
  match fake with
  | some v => d.putWithParents (placeOf (dir ++ "/fake.json")) (.file v.render)
  | none => d

/-- The computer of a command run in a scratch directory. -/
def computerFor (dir : String) (cwd : String) (fake : Option Value)
    (environment : List (String × String)) : Computer :=
  { disk := scratchDisk dir fake, cwd, environment, serverProgram := serverProgramPath,
    script := fake.map decodeScript }

/-- The configuration `process` uses when none is given. -/
def defaultProcessToml : String :=
  "name = \"fake\"\ncommand = \"@FAKE@\"\nargs = [\"--fake-lsp\", \"@DIR@/fake.json\"]\n" ++
  "root_path = \"@DIR@\"\nshutdown_grace_ms = 300\nstartup_timeout_ms = 5000\n" ++
  "request_timeout_ms = 5000\n"

/-- A supervisor that starts programs on a computer. -/
def programWorld (config : Config) (computer : Computer) (sts : Bool) : World :=
  let router := installClientDefaults {} config.settings
  let router := if sts then installSts router else router
  { router, sup := some { config, processId := pidPlaceholder, computer := some computer } }

/-- Whether a task reported under a handle. -/
def reported (h : Nat) (w : World) : Bool := w.done.any (·.1 == h)

/-- Starts a task under a handle and lets time pass until it reports: its report, if it did. -/
def runTask (w : World) (h : Nat) (t : Task) : Option Report × World :=
  let (w, _) := w.spawn t
  let (w, _) := World.runUntil (reported h) none advanceFuel w
  (w.done.lookup h, w)

/-- The result of a task that ran to its end. -/
def finalValue : Option Report → Value
  | some r => reportValue r
  | none => okNull

/-- The name of an event's type. -/
def eventType : SessionEvent → String
  | .stateChanged .. => "state_changed"
  | .crashed .. => "crashed"
  | .restartScheduled .. => "restart_scheduled"

/-- Runs one step of a `process` script. -/
def programStep (w : World) (i : Nat) (step : Value) : Decode (Value × World) := do
  let w := { w with done := [] }
  match step.field "op" with
  | .string "start" =>
    let (r, w) := runTask w i (.lifecycle (some i) .start .locking)
    pure (finalValue r, w)
  | .string "stop" =>
    let (r, w) := runTask w i (.lifecycle (some i) .stop .locking)
    pure (finalValue r, w)
  | .string "restart" =>
    let (r, w) := runTask w i (.lifecycle (some i) .restart .locking)
    pure (finalValue r, w)
  | .string "call" =>
    let method ← needString step "method"
    let call := Call.fresh method (step.field "params") .byDefault
    let (r, w) := runTask w i (.call i .running call none)
    pure (finalValue r, w)
  | .string "notify" =>
    let method ← needString step "method"
    match w.runningPeer with
    | none => pure (rpcErrorValue .serverUnavailable, w)
    | some c =>
      match w.notify c method (step.field "params") with
      | .ok w => pure (okNull, w.settle)
      | .error e => pure (rpcErrorValue e, w)
  | .string "sleep" => pure (okNull, w.advance (← needNat step "ms"))
  | .string "wait_event" =>
    let kind := ((step.get? "type").bind Value.asString?).getD "crashed"
    let timeout := ((step.get? "timeout_ms").bind Value.asNat?).getD 3000
    let before := w.events.length
    let (w, found) := World.runUntil
      (fun w => (w.events.drop before).any (eventType · == kind)) (some (w.now + timeout))
      advanceFuel w
    pure (okValue (.bool found), w)
  | .string op => bad ("unknown step op " ++ op)
  | op => bad ("unknown step op " ++ op.render)

/-- The answer of a `process` step. -/
def programAnswer (op result : Value) (eventsBefore : Nat) (w : World) : Value :=
  let s := w.supervision
  Value.obj [("op", op), ("result", result),
    ("events", .array ((w.events.drop eventsBefore).map eventValue)),
    ("state", .string s.state.name), ("generation", Value.nat s.generation),
    ("capabilities", Value.ofOption ((runningCapabilities w).map (·.rawValue)))]

/-- Runs the steps of a `process` script. -/
def programSteps (w : World) (i : Nat) : List Value → List Value × World
  | [] => ([], w)
  | step :: rest =>
    let before := w.events.length
    let (result, w) := match programStep w i step with
      | .ok (v, w) => (v, w)
      | .error e => (e.answer, w)
    let answer := programAnswer (step.field "op") result before w
    let (answers, w) := programSteps w (i + 1) rest
    (answer :: answers, w)

/-- What the servers received, launch by launch, in order. -/
def transcriptValue (w : World) : Value :=
  .array (w.sent.map fun (c, m) => Value.obj [("launch", Value.nat c), ("msg", m.toValue)])

/-- `process`: a supervisor of server programs, step by step. -/
def processCommand (cmd : Value) : Decode Value := do
  let dir := scratchFor "process"
  let text :=
    fillPlaceholders dir (((cmd.get? "config").bind Value.asString?).getD defaultProcessToml)
  match Config.ofToml text none with
  | .error e => pure (withPlaceholders dir (configErrorValue e))
  | .ok config =>
    let computer := computerFor dir "/" (cmd.get? "fake") []
    let w := programWorld config computer (flag cmd "sts" true)
    let steps := ((cmd.get? "steps").bind Value.asArray?).getD []
    let (answers, w) := programSteps w 0 steps
    pure (withPlaceholders dir
      (Value.obj [("steps", .array answers), ("transcript", transcriptValue w)]))

end Console

end LspBridge
