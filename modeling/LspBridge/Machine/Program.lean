import LspBridge.Machine.Disk
import LspBridge.Rpc.Message
/-!
# The machine and its scripted server program

The machine the client runs on: its disk, its working directory, the environment it hands to the
programs it starts, and one program on it that serves as a language server. That program follows a
script, one behaviour per launch (the last one repeats; with no script at all it cannot run).

Starting a program goes as the system does it: it moves into the working directory first (which
must be a directory), then runs the command. A command with a `/` is a path from that directory;
one without is looked up among the installed programs, of which there are none besides the server
program at its full path. Only a program can be run; a directory or a text file is refused.

The server reads its input in order, each message a moment after it arrived (`readDelay`). While
it waits for the client's answer to one of its requests, it reads and drops everything else.

A behaviour says how the server answers `initialize` and `shutdown`, which requests it sends once
initialized (each with an id waits for the client's answer before the next), when it exits or
interrupts the program that started it, whether it closes its output, with which codes it exits on
`exit` and when its input ends, and which environment variables it reports among its capabilities.
-/

namespace LspBridge

namespace Machine

open Json

/-- How the server answers a request its behaviour names.

`ignore`: it does not answer. `error`: it answers with this error object. `result`: it answers with
this result. -/
inductive Reply where
  | ignore
  | error (e : Value)
  | result (v : Value)
  deriving Repr, Inhabited

/-- What the server does when a timer fires.

`read`: it reads the next message of its input. `exit`: it exits with a code. `interrupt`: it
interrupts the program that started it. -/
inductive Timed where
  | read
  | exit (code : Int)
  | interrupt
  deriving DecidableEq, Repr, Inhabited

/-- How the server behaves in one launch.

`onInitialize`: its answer to `initialize`. `echoEnv`: environment variables it reports, with its
working directory, as experimental capabilities. `requests`: messages it sends once initialized, in
order. `timed`: what it does, and how many ms after it was initialized. `closeOutput`: whether it
closes its output once initialized. `onShutdown`: its answer to `shutdown`. `exitCode`: its exit
code on `exit`. `eofCode`: its exit code when its input ends. `hangOnEof`: whether it keeps running
when its input ends. -/
structure Behaviour where
  onInitialize : Reply := .result (Value.obj [("capabilities", Value.obj [])])
  echoEnv : List String := []
  requests : List Value := []
  timed : List (Nat × Timed) := []
  closeOutput : Bool := false
  onShutdown : Reply := .result .null
  exitCode : Int := 0
  eofCode : Int := 0
  hangOnEof : Bool := false
  deriving Repr, Inhabited

/-- How long, in ms, the server takes to read a message after it arrived. -/
def readDelay : Nat := 1

/-- The code a server exits with when it cannot read its script. -/
def unreadableScriptCode : Int := 1

/-- A launched server: its behaviour and how far it got.

`launch`: its launch number. `behaviour`: its behaviour; none when it could not read its script.
`experimental`: its experimental capabilities, when it reports any. `queue`: messages still to send
once initialized. `awaiting`: whether it waits for the client's answer to its last request. `inbox`:
what arrived on its input and is not read yet, in order; none marks the end of input. -/
structure ServerProcess where
  launch : Nat
  behaviour : Option Behaviour
  experimental : Option Value := none
  queue : List Value := []
  awaiting : Bool := false
  inbox : List (Option Rpc.Message) := []
  deriving Inhabited

/-- The computer the client runs on.

`disk`: the files. `cwd`: the working directory of the client. `environment`: the client's
environment, which started programs inherit. `serverProgram`: the path of the server program.
`script`: the server's behaviour per launch; none when it has no readable script. -/
structure Computer where
  disk : Disk
  cwd : String
  environment : List (String × String) := []
  serverProgram : String
  script : Option (List Behaviour)
  deriving Repr, Inhabited

namespace Computer

/-- The absolute form of a path as the client resolves it: canonical when it exists, else joined to
the working directory when relative, else as written. -/
def absolute (m : Computer) (path : String) : String :=
  match m.disk.canonical? m.cwd path with
  | some p => p
  | none => if Path.isAbsolute path then path else Path.join m.cwd path

/-- The behaviour of a launch. -/
def behaviourOf (m : Computer) (launch : Nat) : Option Behaviour :=
  m.script.map fun bs => (bs[launch]? <|> bs.getLast?).getD {}

/-- Starts a command in a working directory with extra environment variables: the new process, or
the system's reason. -/
def spawn (m : Computer) (command : String) (workingDir : String) (env : List (String × String))
    (launch : Nat) : Except String ServerProcess := do
  let dir ← match m.disk.walk m.cwd workingDir with
    | .found place .directory => pure (placeText place)
    | .found _ _ => .error notDirectory
    | .missing _ => .error noEntry
    | .broken reason => .error reason
  unless command.contains '/' do .error noEntry
  match m.disk.walk dir command with
  | .found place .program =>
    if placeText place != m.serverProgram then .error permissionDenied
    else
      let behaviour := m.behaviourOf launch
      let lookup := fun (name : String) =>
        match env.lookup name <|> m.environment.lookup name with
        | some v => Value.string v
        | none => .null
      let experimental := behaviour.bind fun b =>
        if b.echoEnv.isEmpty then none
        else some (Value.obj [("env", Value.obj (b.echoEnv.map fun n => (n, lookup n))),
          ("cwd", .string dir)])
      pure { launch, behaviour, experimental }
  | .found _ _ => .error permissionDenied
  | .missing _ => .error noEntry
  | .broken reason => .error reason

end Computer

end Machine

end LspBridge
