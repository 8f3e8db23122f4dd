import LspBridge.Console.Bridge
/-!
# The command line

`sts-bridge [OPTIONS]`: the bridge's command line, run on a model computer that holds the working
directory and the configuration file named by `--config`, and that has no other programs. Help and
refused command lines are answered as always; a run ends with the error that stopped the bridge.
-/

namespace LspBridge

namespace Console

/-- The environment variables the bridge reads, as set here. -/
def bridgeEnvironment : IO (List (String × String)) := do
  let rustLog ← IO.getEnv "RUST_LOG"
  let logDir ← IO.getEnv "STS_BRIDGE_LOG_DIR"
  pure ((rustLog.map ("RUST_LOG", ·)).toList ++ (logDir.map ("STS_BRIDGE_LOG_DIR", ·)).toList)

/-- The model computer: the working directory, and the configuration file when it can be read. -/
def hostComputer (cwd : String) (args : List String) : IO Machine.Computer := do
  let disk : Machine.Disk := {}
  let disk := disk.putWithParents (Machine.placeOf cwd) .directory
  let disk ← match Cli.parse args with
    | .run { config := some path, .. } =>
      let full := Path.join cwd path
      try
        let text ← IO.FS.readFile full
        pure (disk.putWithParents (Machine.placeOf full) (.file text))
      catch _ => pure disk
    | _ => pure disk
  pure { disk, cwd, environment := ← bridgeEnvironment, serverProgram := "", script := none }

end Console

end LspBridge

/-- Runs the bridge's command line and prints what it prints. -/
def main (args : List String) : IO UInt32 := do
  let cwd := (← IO.currentDir).toString
  let ending := LspBridge.Console.runCommandLine (← LspBridge.Console.hostComputer cwd args)
    args none
  IO.print ending.stdout
  if let some message := ending.stderr then IO.eprint message
  if let some detail := ending.error then IO.eprintln ("Error: " ++ detail)
  pure (ending.exit.getD 130).toNat.toUInt32
