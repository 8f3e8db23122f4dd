import LspBridge.Cli.Similarity
/-!
# The bridge's command line

`sts-bridge [OPTIONS]` takes:

* `-c`, `--config <PATH>`: a TOML launch configuration, which replaces the next three;
* `--jar <PATH>`: the Spring Boot language server jar, required unless a configuration is given;
* `--java <PATH>`: the Java executable, `java` by default;
* `-r`, `--root <DIR>`: the workspace root, `.` by default;
* `--max-restarts <N>`: restart a crashed server up to `N` times;
* `--probe`: print the negotiated capabilities and exit;
* `-v`, `--verbose`: verbose logging;
* `-h`, `--help`: print the help text.

A long option takes its value after `=` or as the next argument; a short one right after its
letter (with or without `=`) or as the next argument, and flags may be grouped (`-vh`). Every option
may be given once. The arguments are read from left to right and the first problem ends the
reading, with a message in the usual form: what is wrong, a tip when a known option is close to an
unknown one, a usage line, and a pointer to `--help`. A value given as the next argument is taken
in when the following option is read, or at the end; only then is it checked: a path must not be
empty and a count must be a number. Once all is read, a missing `--jar` (without `--config`) is
the last problem looked for.

A usage line shows the options given so far when there are any (`sts-bridge --verbose --jar
<PATH>`), and `sts-bridge [OPTIONS]` otherwise.
-/

namespace LspBridge

namespace Cli

/-- What an option's value is read as.

`path`: a path, which must not be empty. `text`: any text. `count`: an unsigned count. -/
inductive ValueKind where
  | path
  | text
  | count
  deriving DecidableEq, Repr, Inhabited

/-- An option of the command line.

`long`: its long name. `short`: its letter, if it has one. `valueName`: the name of its value, if it
takes one. `kind`: what its value is read as. -/
structure Spec where
  long : String
  short : Option Char := none
  valueName : Option String := none
  kind : ValueKind := .text
  deriving DecidableEq, Repr, Inhabited

/-- The options, in order. -/
def specs : List Spec :=
  [{ long := "config", short := some 'c', valueName := some "PATH", kind := .path },
   { long := "jar", valueName := some "PATH", kind := .path },
   { long := "java", valueName := some "PATH" },
   { long := "root", short := some 'r', valueName := some "DIR", kind := .path },
   { long := "max-restarts", valueName := some "N", kind := .count },
   { long := "probe" },
   { long := "verbose", short := some 'v' },
   { long := "help", short := some 'h' }]

/-- How an option is written in messages: `--long` or `--long <VALUE>`. -/
def Spec.display (s : Spec) : String :=
  match s.valueName with
  | some v => "--" ++ s.long ++ " <" ++ v ++ ">"
  | none => "--" ++ s.long

/-- The help text. -/
def helpText : String :=
  "Run the Spring Boot language server under supervision\n\n" ++
  "Usage: sts-bridge [OPTIONS]\n\n" ++
  "Options:\n" ++
  "  -c, --config <PATH>     TOML launch configuration; replaces --java, --jar and --root\n" ++
  "      --jar <PATH>        Spring Boot language server jar\n" ++
  "      --java <PATH>       Java executable [default: java]\n" ++
  "  -r, --root <DIR>        Workspace root [default: .]\n" ++
  "      --max-restarts <N>  Restart a crashed server up to N times\n" ++
  "      --probe             Print the negotiated capabilities and exit\n" ++
  "  -v, --verbose           Verbose logging\n" ++
  "  -h, --help              Print help\n"

/-- The arguments of a run.

`config`: the configuration file. `jar`: the server jar. `java`: the Java executable. `root`: the
workspace root. `maxRestarts`: how many automatic restarts are allowed, when given. `probe`: whether
to print the capabilities and exit. `verbose`: whether to log verbosely. -/
structure Args where
  config : Option String := none
  jar : Option String := none
  java : String := "java"
  root : String := "."
  maxRestarts : Option Nat := none
  probe : Bool := false
  verbose : Bool := false
  deriving DecidableEq, Repr, Inhabited

/-- What reading the command line comes to.

`run`: a run with these arguments. `help`: printing the help text. `refused`: a refusal, with the
whole message. -/
inductive Parsed where
  | run (args : Args)
  | help
  | refused (message : String)
  deriving DecidableEq, Repr

/-- The usage line for the options given so far. -/
def usageLine (used : List Spec) : String :=
  let used := used.foldl (fun acc s => if acc.contains s then acc else acc ++ [s]) []
  if used.isEmpty then "Usage: sts-bridge [OPTIONS]"
  else "Usage: sts-bridge" ++ String.join (used.map fun s => " " ++ s.display)

/-- A refusal message: the problem, an optional tip, an optional usage line, and the pointer to
`--help`. -/
def refusal (problem : String) (tip : Option String) (usage : Option String) : String :=
  "error: " ++ problem ++
    (match tip with
      | some t => "\n\n  tip: " ++ t
      | none => "") ++
    (match usage with
      | some u => "\n\n" ++ u
      | none => "") ++
    "\n\nFor more information, try '--help'.\n"

/-- The reason an unsigned count does not parse, if it does not. -/
def countError? (s : String) : Option String :=
  let digits := if s.startsWith "+" then s.drop 1 |>.toString else s
  if s.isEmpty then some "cannot parse integer from empty string"
  else if digits.isEmpty || !digits.all Char.isDigit then some "invalid digit found in string"
  else if digits.toNat?.getD 0 ≥ Nat.pow 2 64 then some "number too large to fit in target type"
  else none

/-- The refusal of a missing value. -/
def missingValue (s : Spec) : String :=
  refusal ("a value is required for '" ++ s.display ++ "' but none was supplied") none none

/-- Why a value cannot be read as an option's, if it cannot. -/
def valueProblem? (s : Spec) (v : String) : Option String :=
  match s.kind with
  | .path => if v.isEmpty then some (missingValue s) else none
  | .text => none
  | .count => (countError? v).map fun e =>
    refusal ("invalid value '" ++ v ++ "' for '" ++ s.display ++ "': " ++ e) none none

/-- The value of an unsigned count that parses. -/
def countValue (s : String) : Nat :=
  (if s.startsWith "+" then (s.drop 1).toString else s).toNat?.getD 0

/-- What has been read so far.

`given`: the options given, with their values, in the order they were taken in. `pending`: an option
still waiting to be taken in, with the value read for it if any. `trailing`: whether a `--` ended
the options. -/
structure Reading where
  given : List (Spec × Option String) := []
  pending : Option (Spec × Option String) := none
  trailing : Bool := false
  deriving Inhabited

namespace Reading

/-- The options given so far. -/
def used (r : Reading) : List Spec := r.given.map Prod.fst

/-- Takes in an option with its value, if it takes one: a missing value, a repeated option and an
unreadable count are refused. -/
def take (r : Reading) (s : Spec) (value : Option String) : Except String Reading :=
  if s.valueName.isSome && value.isNone then .error (missingValue s)
  else if r.given.any (·.1 == s) then
    .error (refusal ("the argument '" ++ s.display ++ "' cannot be used multiple times") none
      (some (usageLine [])))
  else
    match value.bind (valueProblem? s) with
    | some problem => .error problem
    | none => .ok { r with given := r.given ++ [(s, value)] }

/-- Takes in the waiting option, if any. -/
def settle (r : Reading) : Except String Reading :=
  match r.pending with
  | some (s, v) => { r with pending := none }.take s v
  | none => .ok r

/-- The options given once the waiting option is taken in, whether or not that succeeds: one
without a value is left out, a repeated one loses its earlier use, and any other counts as given
even when its value is refused. -/
def usedAfterSettle (r : Reading) : List Spec :=
  match r.pending with
  | some (s, some _) => if r.used.contains s then r.used.filter (· != s) else r.used ++ [s]
  | _ => r.used

end Reading

/-- What one argument does to the reading.

`next`: reading goes on. `help`: the help text is asked for. -/
inductive Step where
  | next (r : Reading)
  | help
  deriving Inhabited

/-- An option given on its own: a flag is taken in (`--help` asks for help), an option with an
attached value is taken in, one without waits for its value. -/
def useOption (r : Reading) (s : Spec) (attached : Option String) : Except String Step := do
  let r ← r.settle
  if s.long == "help" then pure .help
  else if s.valueName.isSome then
    match attached with
    | some v => pure (.next (← r.take s (some v)))
    | none => pure (.next { r with pending := some (s, none) })
  else pure (.next (← r.take s none))

/-- The refusal of an unknown long option, after the waiting option is taken in. -/
def unknownArgument (r : Reading) (arg : String) (tip : Option Spec) : String :=
  refusal ("unexpected argument '" ++ arg ++ "' found")
    (tip.map fun s => "a similar argument exists: '--" ++ s.long ++ "'")
    (some (usageLine (r.usedAfterSettle ++ tip.toList)))

/-- Reads a long option, `--name` or `--name=value`. -/
def readLong (r : Reading) (body : String) : Except String Step :=
  let (name, attached) := match body.splitOn "=" with
    | [n] => (n, none)
    | n :: rest => (n, some ("=".intercalate rest))
    | [] => (body, none)
  if name.isEmpty then
    .error (refusal ("unexpected argument '--" ++ body ++ "' found") none (some (usageLine [])))
  else
  match specs.find? (·.long == name) with
  | some s =>
    if s.valueName.isNone && attached.isSome then
      .error (refusal ("unexpected value '" ++ attached.getD "" ++ "' for '" ++ s.display ++
        "' found; no more were expected") none (some (usageLine (r.used ++ [s]))))
    else useOption r s attached
  | none =>
    let tip := (suggestion? name (specs.map (·.long))).bind fun l => specs.find? (·.long == l)
    .error (unknownArgument r ("--" ++ name) tip)

/-- Reads a group of short options after a `-`. -/
def readShort (r : Reading) : List Char → Except String Step
  | [] => .ok (.next r)
  | c :: rest =>
    match specs.find? (·.short == some c) with
    | none => .error (refusal ("unexpected argument '-" ++ String.singleton c ++ "' found") none
        (some (usageLine [])))
    | some s =>
      if s.valueName.isSome then
        let value := match rest with
          | [] => none
          | '=' :: v => some (String.ofList v)
          | v => some (String.ofList v)
        useOption r s value
      else
        match useOption r s none with
        | .ok (.next r) => readShort r rest
        | other => other

/-- Reads one argument. -/
def readArg (r : Reading) (arg : String) : Except String Step :=
  if r.trailing then
    .error (refusal ("unexpected argument '" ++ arg ++ "' found") none (some (usageLine [])))
  else if arg == "--" then .ok (.next { r with trailing := true })
  else if arg.startsWith "--" then readLong r (arg.drop 2).toString
  else if arg.startsWith "-" && arg.length > 1 then readShort r (arg.drop 1).toString.toList
  else
    match r.pending with
    | some (s, none) => .ok (.next { r with pending := some (s, some arg) })
    | _ => .error (refusal ("unexpected argument '" ++ arg ++ "' found") none
        (some (usageLine [])))

/-- The value of an option given. -/
def valueOf (given : List (Spec × Option String)) (long : String) : Option String :=
  (given.find? (·.1.long == long)).bind Prod.snd

/-- Whether a flag was given. -/
def flagGiven (given : List (Spec × Option String)) (long : String) : Bool :=
  given.any (·.1.long == long)

/-- The arguments of a reading that has taken everything in, unless `--jar` is missing. -/
def finish (r : Reading) : Parsed :=
  let g := r.given
  match valueOf g "config", valueOf g "jar" with
  | none, none =>
    let jar := (specs.find? (·.long == "jar")).getD {long := "jar"}
    .refused (refusal ("the following required arguments were not provided:\n  " ++ jar.display)
      none (some (usageLine (r.used ++ [jar]))))
  | config, jar =>
    .run { config, jar
           java := (valueOf g "java").getD "java"
           root := (valueOf g "root").getD "."
           maxRestarts := (valueOf g "max-restarts").map countValue
           probe := flagGiven g "probe"
           verbose := flagGiven g "verbose" }

/-- Reads the arguments from a reading on. -/
def readFrom (r : Reading) : List String → Parsed
  | [] =>
    match r.settle with
    | .ok r => finish r
    | .error m => .refused m
  | arg :: rest =>
    match readArg r arg with
    | .ok (.next r) => readFrom r rest
    | .ok .help => .help
    | .error m => .refused m

/-- Reads the command line (without the program's name). -/
def parse (args : List String) : Parsed := readFrom {} args

end Cli

end LspBridge
