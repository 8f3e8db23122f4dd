import LspBridge.Console.Programs
import LspBridge.Cli.Args
/-!
# The bridge program

`bridge` runs the bridge program with the given arguments in a fresh scratch directory, on the
model computer of `process`, and tells how it ended: its exit code (`null` when a signal ended
it), what it printed, the last `Error: ` line of its error output, what the servers received, and
how many files its log directory `logs` holds.

The bridge reads its command line; help goes to its output and a refused command line to its error
output, with exit code 2. It then sets up logging (into a file in the directory `log_dir` names,
when that directory can be made), builds its configuration (from `--config`, or from `--java`,
`--jar` and `--root`, with `--max-restarts` turning on automatic restarts a second apart), and
starts the server. A failure ends it with exit code 1 and the error's debugging view. With
`--probe` it prints the server's capabilities as indented JSON; otherwise it waits for an
interrupt, which comes from `sigint_ms` or from the server. Then it stops the server and exits
with 0. An interrupt before it waits for one ends it at once, as does a watchdog after 10 s.
-/

namespace LspBridge

namespace Console

open Json Rpc Client Server Machine
open Engine

/-- When the watchdog ends the bridge, in ms. -/
def watchdogMs : Nat := 10000

/-- The second between automatic restarts the bridge asks for. -/
def bridgeBackoffMs : Nat := 1000

/-- The name of the bridge's log file. -/
def logFileName : String := "sts-bridge.1.log"

/-- The detail of a configuration that cannot be loaded from a path. -/
def loadDetail (path : String) : ConfigError → String
  | .malformed => path ++ ": invalid configuration"
  | .emptyCommand => "`command` must not be empty"
  | .unreadable p reason => p ++ ": " ++ reason

/-- The configuration the bridge's arguments describe, read from the computer's disk. -/
def bridgeConfig (m : Computer) (a : Cli.Args) : Except Server.Error Config := do
  let config ← match a.config, a.jar with
    | some path, _ =>
      match m.disk.read m.cwd path with
      | .error reason => .error (.config (path ++ ": " ++ reason))
      | .ok text =>
        match Config.ofToml text (Path.parent? path) with
        | .ok c => pure c
        | .error e => .error (.config (loadDetail path e))
    | none, some jar => pure (Config.springBoot a.java jar a.root)
    | none, none => .error (.config "either --config or --jar is required")
  match a.maxRestarts with
  | some n => pure { config with restart := .automatic n bridgeBackoffMs }
  | none => pure config

/-- How a run of the bridge ended.

`exit`: the exit code; none when a signal ended it. `stdout`: what it printed. `stderr`: its error
output, when it refused its command line. `error`: the debugging view of the error it ended with.
`world`: the state of the client when it ended. `disk`: the disk when it ended. -/
structure Ending where
  exit : Option Int
  stdout : String := ""
  stderr : Option String := none
  error : Option String := none
  world : World := {}
  disk : Disk

/-- Whether a SIGINT has come by now: from the host at its time, or from a server. -/
def interrupted (sigintAt : Option Nat) (seen : Nat) (w : World) : Bool :=
  decide (w.interrupts > seen) || (sigintAt.map fun t => decide (t ≤ w.now)).getD false

/-- Runs a lifecycle operation of the bridge under a handle until it reports, unless a signal or
the watchdog ends the bridge first (a SIGINT only while `fatal`). -/
def bridgeOp (w : World) (h : Nat) (op : LifecycleOp) (sigintAt : Option Nat) (fatal : Bool) :
    Option Report × World :=
  let (w, _) := w.spawn (.lifecycle (some h) op .locking)
  let seen := w.interrupts
  let limit := if fatal then min watchdogMs (sigintAt.getD watchdogMs) else watchdogMs
  let stop := fun w => reported h w || (fatal && interrupted sigintAt seen w)
  let (w, _) := World.runUntil stop (some limit) advanceFuel w
  if reported h w then (w.done.lookup h, w) else (none, w)

/-- Runs the bridge with parsed arguments on a computer. -/
def runBridge (m : Computer) (a : Cli.Args) (sigintAt : Option Nat) : Ending :=
  match bridgeConfig m a with
  | .error e => { exit := some 1, error := some e.debugText, disk := m.disk }
  | .ok config =>
    let w := programWorld config m true
    match bridgeOp w 0 .start sigintAt true with
    | (none, w) => { exit := none, world := w, disk := m.disk }
    | (some (.lifecycle (.error e)), w) =>
      { exit := some 1, error := some e.debugText, world := w, disk := m.disk }
    | (some _, w) =>
      let stdout := if a.probe then
          match runningCapabilities w with
          | some caps => caps.rawValue.pretty ++ "\n"
          | none => ""
        else ""
      let waited : Option World :=
        if a.probe then some w
        else
          let seen := w.interrupts
          let limit := min watchdogMs (sigintAt.getD watchdogMs)
          let (w, _) := World.runUntil (interrupted sigintAt seen) (some limit) advanceFuel w
          if interrupted sigintAt seen w then some w else none
      match waited with
      | none => { exit := none, stdout, world := w, disk := m.disk }
      | some w =>
        match bridgeOp w 1 .stop sigintAt a.probe with
        | (none, w) => { exit := none, stdout, world := w, disk := m.disk }
        | (some _, w) => { exit := some 0, stdout, world := w, disk := m.disk }

/-- The disk after the bridge set up logging: a log file in the directory that
`STS_BRIDGE_LOG_DIR` names, when that directory can be made. -/
def withLogFile (m : Computer) : Disk :=
  match m.environment.lookup "STS_BRIDGE_LOG_DIR" with
  | some dir =>
    match m.disk.createDirAll m.cwd dir with
    | some d => d.put (placeOf (Path.join m.cwd dir ++ "/" ++ logFileName)) (.file "")
    | none => m.disk
  | none => m.disk

/-- Runs the bridge's command line on a computer: help and a refused command line end it at once;
otherwise it sets up logging and runs. -/
def runCommandLine (m : Computer) (args : List String) (sigintAt : Option Nat) : Ending :=
  match Cli.parse args with
  | .help => { exit := some 0, stdout := Cli.helpText, disk := m.disk }
  | .refused message => { exit := some 2, stderr := some message, disk := m.disk }
  | .run a => runBridge { m with disk := withLogFile m } a sigintAt

/-- The answer of a bridge run. -/
def endingValue (dir : String) (e : Ending) : Value :=
  withPlaceholders dir (Value.obj [
    ("exit", Value.ofOption (e.exit.map Value.int)),
    ("stdout", .string e.stdout),
    ("stderr", Value.ofOption (e.stderr.map .string)),
    ("error_line", Value.ofOption (e.error.map fun d => .string ("Error: " ++ d))),
    ("transcript", transcriptValue e.world),
    ("log_files", Value.ofOption ((e.disk.entryCount? (placeOf (dir ++ "/logs"))).map Value.nat))])

/-- `bridge`: runs the bridge program. -/
def bridgeCommand (cmd : Value) : Decode Value := do
  let dir := scratchFor "bridge"
  let args := ((((cmd.get? "args").bind Value.asArray?).getD []).filterMap Value.asString?).map
    (fillPlaceholders dir)
  let fake := cmd.get? "fake"
  let disk := scratchDisk dir fake
  let disk := match (cmd.get? "config").bind Value.asString? with
    | some text => disk.put (placeOf (dir ++ "/sts.toml")) (.file (fillPlaceholders dir text))
    | none => disk
  let logDir : Option String := match cmd.get? "log_dir" with
    | some (.bool true) => some (dir ++ "/logs")
    | some (.string s) => some (dir ++ "/" ++ s)
    | _ => none
  let environment := (((cmd.get? "rust_log").bind Value.asString?).map ("RUST_LOG", ·)).toList ++
    (logDir.map ("STS_BRIDGE_LOG_DIR", ·)).toList
  let sigintAt := (cmd.get? "sigint_ms").bind Value.asNat?
  let computer := { computerFor dir dir fake environment with disk }
  pure (endingValue dir (runCommandLine computer args sigintAt))

end Console

end LspBridge
