import LspBridge.Path
/-!
# Scratch directories

Commands that work on files get a fresh, empty scratch directory, written `@DIR@` in answers, and
may put one file in it (creating the directories on its way). Reading a path then ends as the
system would: the file's text, or the reason it cannot be read. Every component before the last
must be an existing directory (else the path names a missing file, or goes through a file); the last
must be the file itself. A `..` above the scratch directory leads to a directory holding nothing
else of interest.
-/

namespace LspBridge

namespace Console

/-- How the scratch directory is written in answers. -/
def scratchDir : String := "@DIR@"

/-- A scratch directory: the directories made in it and the files written to it, as component lists
relative to it.

`dirs`: the directories, the scratch directory itself as the empty list. `files`: the files and
their texts. -/
structure Scratch where
  dirs : List (List String) := [[]]
  files : List (List String × String) := []

/-- Where a path relative to the scratch directory leads, if it stays in it: `.` is skipped and
`..` goes up; `none` once it leaves. -/
def walk (comps : List Path.Component) : Option (List String) :=
  comps.foldl (fun acc c => acc.bind fun here => match c with
    | .name n => some (here ++ [n])
    | .parent => if here.isEmpty then none else some here.dropLast
    | .current => some here
    | .root => none) (some [])

namespace Scratch

/-- A file written at a path relative to the scratch directory, with the directories above it. -/
def withFile (s : Scratch) (rel : String) (text : String) : Scratch :=
  match walk (Path.components rel) with
  | some target =>
    let above := (List.range target.length).map fun k => target.take k
    { dirs := s.dirs ++ above.filter (fun d => !s.dirs.contains d),
      files := (target, text) :: s.files.filter (·.1 != target) }
  | none => s

/-- Whether a location is a directory. -/
def isDir (s : Scratch) (place : List String) : Bool := s.dirs.contains place

/-- The text of the file at a location, if one is there. -/
def fileAt? (s : Scratch) (place : List String) : Option String := (s.files.lookup place)

/-- Reads a path relative to the scratch directory: its text, or the system's reason. -/
def read (s : Scratch) (rel : String) : Except String String :=
  let comps := Path.components rel
  let noEntry := "No such file or directory (os error 2)"
  let notDir := "Not a directory (os error 20)"
  let isADir := "Is a directory (os error 21)"
  -- Every proper prefix must be a directory.
  let prefixes := (List.range comps.length).map fun k => comps.take k
  let stuck := prefixes.findSome? fun p =>
    match walk p with
    | some here =>
      if s.isDir here then none
      else if (s.fileAt? here).isSome then some notDir
      else some noEntry
    | none => if p.getLast? == some .parent then none else some noEntry
  match stuck with
  | some reason => .error reason
  | none =>
    match walk comps with
    | some here =>
      if s.isDir here then .error isADir
      else match s.fileAt? here with
        | some text => if rel.endsWith "/" then .error notDir else .ok text
        | none => .error noEntry
    | none => .error (if comps.getLast? == some .parent then isADir else noEntry)

end Scratch

end Console

end LspBridge
