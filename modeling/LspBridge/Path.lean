/-!
# POSIX paths

Paths as text, split into components the way POSIX path handling does: a leading `/` is the root,
empty parts and `.` parts are dropped (a `.` is kept only as the first component of a relative
path), `..` is the parent, and everything else is a name. On this view rest the file name (the
last component when it is a name), its stem (the name up to its last dot, unless the dot is the
first character), the parent, and joining (an absolute path replaces the base; otherwise a `/`
separates the two unless the base is empty or already ends in one).
-/

namespace LspBridge

namespace Path

/-- A component of a path.

`root`: the root `/`. `current`: `.` at the start of a relative path. `parent`: `..`. `name`: a
name. -/
inductive Component where
  | root
  | current
  | parent
  | name (s : String)
  deriving DecidableEq, Repr

/-- Whether a path starts at the root. -/
def isAbsolute (p : String) : Bool := p.startsWith "/"

/-- The components after the root, from the parts between slashes. -/
def partsComponents : Bool → List String → List Component
  | _, [] => []
  | first, part :: rest =>
    if part.isEmpty then partsComponents first rest
    else if part == "." then
      if first then .current :: partsComponents false rest else partsComponents false rest
    else if part == ".." then .parent :: partsComponents false rest
    else .name part :: partsComponents false rest

/-- The components of a path. -/
def components (p : String) : List Component :=
  let parts := p.splitOn "/"
  if isAbsolute p then .root :: partsComponents false parts else partsComponents true parts

/-- The text of a component. -/
def Component.text : Component → String
  | .root => "/"
  | .current => "."
  | .parent => ".."
  | .name s => s

/-- The last component, when it is a name. -/
def fileName? (p : String) : Option String :=
  match (components p).getLast? with
  | some (.name s) => some s
  | _ => none

/-- The file name without its extension: up to the last dot, unless that dot starts the name. -/
def fileStem? (p : String) : Option String :=
  (fileName? p).map fun name =>
    let cs := name.toList
    match (cs.reverse.dropWhile (· ≠ '.')) with
    | [] => name
    | _ :: before =>
      if before.isEmpty then name else String.ofList before.reverse

/-- The extension of the file name: after its last dot, unless that dot starts the name. -/
def extension? (p : String) : Option String :=
  (fileName? p).bind fun name =>
    let cs := name.toList
    match cs.reverse.span (· ≠ '.') with
    | (_, []) => none
    | (after, _ :: before) =>
      if before.isEmpty then none else some (String.ofList after.reverse)

/-- `path` appended to `base`: an absolute `path` replaces `base`; otherwise a slash separates
them unless `base` is empty or ends in one. -/
def join (base path : String) : String :=
  if isAbsolute path then path
  else if base.isEmpty || base.endsWith "/" then base ++ path
  else base ++ "/" ++ path

/-- The path without its last component, when that is a name, `.` or `..`; trailing slashes and
the separators before the last component go too. -/
def parent? (p : String) : Option String :=
  let cs := (p.toList.reverse.dropWhile (· = '/'))
  match (components p).getLast? with
  | some .root | none => none
  | some _ =>
    let withoutLast := cs.dropWhile (· ≠ '/')
    let trimmed := withoutLast.dropWhile (· = '/')
    if trimmed.isEmpty && !withoutLast.isEmpty then some "/"
    else some (String.ofList trimmed.reverse)

end Path

end LspBridge
