import LspBridge.Json.Value
import LspBridge.Path
/-!
# Server configuration

How one language server is launched and talked to: the command and its arguments, extra
environment, the workspace root sent in `initialize`, the working directory, the timeouts, the
client's name and options, the settings served to `workspace/configuration`, and what happens after
a crash.

A new configuration is named after its command's file stem (the command itself when it has none),
waits 30 s for calls, 60 s for the handshake and 5 s for shutdown, announces snippet support, calls
itself `sts-lsp`, and leaves crashes to the host. All durations are in milliseconds.
-/

namespace LspBridge

namespace Server

/-- What happens after the server exits unexpectedly.

`manual`: report the crash and wait for the host. `automatic`: restart after `backoff` ms, at most
`maxRestarts` times until the host starts the server again. -/
inductive RestartPolicy where
  | manual
  | automatic (maxRestarts : Nat) (backoff : Nat)
  deriving DecidableEq, Repr

/-- The delay before the next automatic restart after `restartsSoFar` restarts, or none when the
host decides. -/
def RestartPolicy.delay? : RestartPolicy → Nat → Option Nat
  | .manual, _ => none
  | .automatic maxRestarts backoff, restartsSoFar =>
    if restartsSoFar < maxRestarts then some backoff else none

/-- How to launch and talk to one language server.

`name`: the name used in logs. `command`: the executable. `args`: its arguments. `env`: extra
environment variables, sorted by name. `rootPath`: the workspace root sent in `initialize`.
`workingDir`: the process's working directory; the workspace root when none. `requestTimeout`: the
default call timeout in ms; none waits forever. `startupTimeout`: the bound on the `initialize`
exchange, in ms. `shutdownGrace`: how long shutdown and exit may take before the process is killed,
in ms. `enableSnippets`: whether completion items may be snippets. `clientName`: `clientInfo.name`
in `initialize`. `initializationOptions`: `initializationOptions` in `initialize`. `settings`:
settings served to `workspace/configuration`. `restart`: crash handling. -/
structure Config where
  name : String
  command : String
  args : List String := []
  env : List (String × String) := []
  rootPath : String
  workingDir : Option String := none
  requestTimeout : Option Nat := some 30000
  startupTimeout : Nat := 60000
  shutdownGrace : Nat := 5000
  enableSnippets : Bool := true
  clientName : String := "sts-lsp"
  initializationOptions : Option Json.Value := none
  settings : Option Json.Value := none
  restart : RestartPolicy := .manual
  deriving Inhabited

/-- The JVM options the Spring Boot language server gets by default. -/
def defaultVmArgs : List String := ["-Xmx1g", "-Xms512m"]

/-- The name of a command: the stem of its file name, or the command itself when that is empty or
missing. -/
def commandName (command : String) : String :=
  match Path.fileStem? command with
  | some stem => if stem.isEmpty then command else stem
  | none => command

namespace Config

/-- A configuration for `command` rooted at `rootPath`, with the defaults. -/
def new (command rootPath : String) : Config :=
  { name := commandName command, command, rootPath }

/-- The Spring Boot language server jar under `java`, with the default JVM options. -/
def springBoot (java jar rootPath : String) : Config :=
  { new java rootPath with
    name := "spring-boot"
    args := defaultVmArgs ++ ["-jar", jar] }

/-- The directory the process starts in. -/
def effectiveWorkingDir (c : Config) : String := c.workingDir.getD c.rootPath

/-- Sorts environment entries by name, a later entry replacing an earlier one of the same name. -/
def sortEnv (entries : List (String × String)) : List (String × String) :=
  entries.foldl (fun acc (k, v) => insert k v acc) []
where
  /-- Inserts into a sorted list, replacing an equal name. -/
  insert (k v : String) : List (String × String) → List (String × String)
    | [] => [(k, v)]
    | (k', v') :: rest =>
      if k < k' then (k, v) :: (k', v') :: rest
      else if k = k' then (k, v) :: rest
      else (k', v') :: insert k v rest

end Config

end Server

end LspBridge
