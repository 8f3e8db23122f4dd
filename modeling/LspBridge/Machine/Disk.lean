import LspBridge.Path
/-!
# Disks

A small model of the files a program sees: directories, text files and programs, each at a place,
the list of names that leads to it from the root.

A path is walked the way the system walks it, from the root when it is absolute and from the
working directory otherwise. `.` stays, `..` goes up (the root is its own parent), and a name goes
down; every step before the last must stand on a directory, else the walk breaks with the system's
reason (`No such file or directory`, or `Not a directory` when it stands on a file). The last name
may be missing. There are no links, so the place a walk ends at is the path's canonical form.
-/

namespace LspBridge

namespace Machine

/-- The system's reason for a missing file. -/
def noEntry : String := "No such file or directory (os error 2)"

/-- The system's reason for a path through a file. -/
def notDirectory : String := "Not a directory (os error 20)"

/-- The system's reason for reading a directory. -/
def isDirectory : String := "Is a directory (os error 21)"

/-- The system's reason for running what is not a program. -/
def permissionDenied : String := "Permission denied (os error 13)"

/-- What is at a place.

`directory`: a directory. `file`: a file of text. `program`: a program that can be run. -/
inductive Node where
  | directory
  | file (text : String)
  | program
  deriving DecidableEq, Repr, Inhabited

/-- Where a walk ends.

`found`: at a place holding a node. `missing`: at a missing last name, in an existing directory.
`broken`: nowhere: the reason. -/
inductive Walk where
  | found (place : List String) (node : Node)
  | missing (place : List String)
  | broken (reason : String)
  deriving DecidableEq, Repr

/-- Files and directories by place; the root is always a directory.

`nodes`: the nodes, the root's place being the empty list. -/
structure Disk where
  nodes : List (List String × Node) := [([], .directory)]
  deriving Repr, Inhabited

/-- The path text of a place. -/
def placeText (place : List String) : String :=
  if place.isEmpty then "/" else String.join (place.map ("/" ++ ·))

/-- The place of an absolute path text that has only names in it. -/
def placeOf (path : String) : List String :=
  (Path.components path).filterMap fun
    | .name n => some n
    | _ => none

namespace Disk

/-- The node at a place. -/
def nodeAt? (d : Disk) (place : List String) : Option Node := d.nodes.lookup place

/-- Puts a node at a place, replacing what was there. -/
def put (d : Disk) (place : List String) (n : Node) : Disk :=
  { nodes := d.nodes.filter (·.1 != place) ++ [(place, n)] }

/-- Puts a node at a place with the directories above it. -/
def putWithParents (d : Disk) (place : List String) (n : Node) : Disk :=
  let above := (List.range place.length).map fun k => place.take k
  let d := above.foldl (fun acc p => if (acc.nodeAt? p).isSome then acc else acc.put p .directory) d
  d.put place n

/-- Walks components from a place. -/
def walkFrom (d : Disk) : List String → List Path.Component → Walk
  | here, [] =>
    match d.nodeAt? here with
    | some n => .found here n
    | none => .missing here
  | here, c :: rest =>
    match d.nodeAt? here with
    | none => .broken noEntry
    | some .directory =>
      match c with
      | .root => d.walkFrom [] rest
      | .current => d.walkFrom here rest
      | .parent => d.walkFrom here.dropLast rest
      | .name n =>
        if rest.isEmpty then
          match d.nodeAt? (here ++ [n]) with
          | some node => .found (here ++ [n]) node
          | none => .missing (here ++ [n])
        else d.walkFrom (here ++ [n]) rest
    | some _ => .broken notDirectory
termination_by _ cs => cs.length

/-- Walks a path from a working directory. -/
def walk (d : Disk) (cwd : String) (path : String) : Walk :=
  let start := if Path.isAbsolute path then [] else placeOf cwd
  match d.walkFrom start (Path.components path) with
  | .found place n =>
    if path.endsWith "/" && n != .directory then .broken notDirectory else .found place n
  | w => w

/-- The canonical path of an existing file or directory. -/
def canonical? (d : Disk) (cwd : String) (path : String) : Option String :=
  match d.walk cwd path with
  | .found place _ => some (placeText place)
  | _ => none

/-- Reads a file: its text, or the system's reason. -/
def read (d : Disk) (cwd : String) (path : String) : Except String String :=
  match d.walk cwd path with
  | .found place _ =>
    match d.nodeAt? place with
    | some (.file text) => .ok text
    | some .directory => .error isDirectory
    | _ => .error permissionDenied
  | .missing _ => .error noEntry
  | .broken reason => .error reason

/-- Makes a directory and those above it; none when a file is in the way. -/
def createDirAll (d : Disk) (cwd : String) (path : String) : Option Disk :=
  let start := if Path.isAbsolute path then [] else placeOf cwd
  go d start (Path.components path)
where
  /-- Makes the rest of the components. -/
  go (d : Disk) (here : List String) : List Path.Component → Option Disk
    | [] => if d.nodeAt? here == some .directory then some d else none
    | c :: rest =>
      match d.nodeAt? here with
      | some .directory =>
        match c with
        | .root => go d [] rest
        | .current => go d here rest
        | .parent => go d here.dropLast rest
        | .name n =>
          let next := here ++ [n]
          let d := if (d.nodeAt? next).isNone then d.put next .directory else d
          go d next rest
      | _ => none

/-- The number of entries in the directory at a place, if there is one. -/
def entryCount? (d : Disk) (place : List String) : Option Nat :=
  if d.nodeAt? place == some .directory then
    some (d.nodes.filter fun (p, _) =>
      p.length == place.length + 1 && p.take place.length == place).length
  else none

end Disk

end Machine

end LspBridge
