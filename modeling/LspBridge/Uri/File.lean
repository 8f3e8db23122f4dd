import LspBridge.Uri.Reference
import LspBridge.Path
import LspBridge.Text.Utf8
/-!
# File URLs

Between file-system paths and `file:` URLs.

From a path: an absolute path becomes `file://` followed by `/` and each component after the root,
percent-encoded, or `file:///` when there is none. Encoded are the controls, space, `"`, `#`, `%`,
`/`, `<`, `>`, `?`, `` ` ``, `\`, `{`, `}` and every non-ASCII byte, as `%XX` in upper case. A
relative path is first resolved against the working directory `/`; a path of dot components alone
names the root and is written as `/`. The URL counts only if it is a URI reference
(`Uri.isReference`), which characters such as `[` or `|` break.

To a path, as a URL reader sees the text: it needs a scheme; the path must be hierarchical, and
the host must be empty or `localhost`. The segments, with `.` dropped and `..` removing the segment
before it, are joined with `/` after a leading one, each percent-decoded; bytes that are not UTF-8
become replacement characters.
-/

namespace LspBridge

namespace Uri

/-- Whether a byte is written as a percent escape in a file URL's path segment. -/
def encodesInSegment (b : UInt8) : Bool :=
  b < 0x20 || b ≥ 0x7F || "\"#%/<>?`\\{} ".toList.any fun c => c.toNat == b.toNat

/-- An upper-case hexadecimal digit. -/
def upperHex (n : Nat) : Char :=
  if n < 10 then Char.ofNat (0x30 + n) else Char.ofNat (0x41 + n - 10)

/-- A path segment, percent-encoded for a file URL. -/
def encodeSegment (s : String) : String :=
  String.ofList ((Utf8.encode s).flatMap fun b =>
    if encodesInSegment b then ['%', upperHex (b.toNat / 16), upperHex (b.toNat % 16)]
    else [Char.ofNat b.toNat])

/-- The file URL of an absolute path, before any check. -/
def fileUrlText (path : String) : String :=
  let parts := (Path.components path).drop 1
  if parts.isEmpty then "file:///"
  else "file://" ++ String.join (parts.map fun c => "/" ++ encodeSegment c.text)

/-- The working directory that relative paths resolve against. -/
def workingDirectory : String := "/"

/-- The URI of an absolute path, if its file URL is a URI reference. -/
def ofAbsolutePath? (absolute : String) : Option String :=
  let url := fileUrlText absolute
  if isReference url then some url else none

/-- Whether a path reaches only the root directory: its components are the root, `.` and `..`
alone, so that it exists wherever it is resolved from `/` and its canonical form is `/`. -/
def namesRoot (path : String) : Bool :=
  (Path.components path).all fun c => c matches .root | .current | .parent

/-- The URI of a path, if its file URL is a URI reference. A path that names the root through dot
components is taken in its canonical form `/`. -/
def ofPath? (path : String) : Option String :=
  if namesRoot path && !path.isEmpty then ofAbsolutePath? "/"
  else ofAbsolutePath? (if Path.isAbsolute path then path else Path.join workingDirectory path)

/-- Bytes of a segment with its percent escapes decoded; a `%` without two hex digits stays. -/
def percentDecode : List Char → List UInt8
  | '%' :: a :: b :: rest =>
    if isHex a && isHex b then
      let v := fun (c : Char) => if isDigit c then c.toNat - 0x30
        else if 'a' ≤ c && c ≤ 'f' then c.toNat - 0x61 + 10 else c.toNat - 0x41 + 10
      (v a * 16 + v b).toUInt8 :: percentDecode rest
    else Utf8.encodeChar '%' ++ percentDecode (a :: b :: rest)
  | c :: rest => Utf8.encodeChar c ++ percentDecode rest
  | [] => []

/-- Whether a segment is `.`, also written `%2e`. -/
def isSingleDot (s : String) : Bool := s == "." || s.toLower == "%2e"

/-- Whether a segment is `..`, with either dot possibly written `%2e`. -/
def isDoubleDot (s : String) : Bool :=
  let l := s.toLower
  l == ".." || l == ".%2e" || l == "%2e." || l == "%2e%2e"

/-- Whether a segment is a drive letter such as `C:` or `C|`. -/
def isDriveLetter (s : String) : Bool :=
  match s.toList with
  | [a, b] => isAlpha a && (b == ':' || b == '|')
  | _ => false

/-- The segments of a hierarchical path after its leading slash, with dot segments resolved.
`file` marks a file URL, where a leading drive letter is written with `:` and is never removed. -/
def resolveSegments (file : Bool) : List String → List String → List String
  | acc, [] => acc.reverse
  | acc, [s] =>
    if isSingleDot s then (("" :: acc)).reverse
    else if isDoubleDot s then ("" :: popSegment file acc).reverse
    else (normalizeDrive file acc s :: acc).reverse
  | acc, s :: rest =>
    if isSingleDot s then resolveSegments file acc rest
    else if isDoubleDot s then resolveSegments file (popSegment file acc) rest
    else resolveSegments file (normalizeDrive file acc s :: acc) rest
where
  /-- Removes the last segment, unless it is the leading drive letter of a file URL. -/
  popSegment (file : Bool) : List String → List String
    | [] => []
    | [d] => if file && isDriveLetter d then [d] else []
    | _ :: rest => rest
  /-- Writes a leading drive letter of a file URL with a colon. -/
  normalizeDrive (file : Bool) (acc : List String) (s : String) : String :=
    if file && acc.isEmpty && isDriveLetter s then String.ofList (s.toList.take 1 ++ [':']) else s

/-- The schemes with a host of their own and special path rules. -/
def specialSchemes : List String := ["ftp", "file", "http", "https", "ws", "wss"]

/-- The host of an authority: without user information and port, in lower case. -/
def authorityHost (authority : List Char) : String :=
  let afterUser := match splitAt '@' authority with
    | (_, some rest) => rest
    | (rest, none) => rest
  let host := match afterUser with
    | '[' :: _ => afterUser.takeWhile (· ≠ ']') ++ [']']
    | _ => afterUser.takeWhile (· ≠ ':')
  (String.ofList host).toLower

/-- The file-system path of a URL's path and host, if the host allows one. -/
def pathOfSegments (file : Bool) (host : String) (path : List Char) : Option String :=
  if !(host.isEmpty || host == "localhost") then none
  else
    let segments := ((String.ofList path).splitOn "/").drop 1
    let resolved := resolveSegments file [] (if segments.isEmpty then [""] else segments)
    let bytes := resolved.flatMap fun s => 0x2F :: percentDecode s.toList
    let n := bytes.length
    let bytes := match bytes.drop (n - 2) with
      | [a, b] =>
        if n > 2 && isAlpha (Char.ofNat a.toNat) && (b == 0x3A || b == 0x7C) then bytes ++ [0x2F]
        else bytes
      | _ => bytes
    some (Utf8.decodeLossy bytes)

/-- The file-system path a URL names, if it names one. -/
def toPath? (s : String) : Option String :=
  let cs := s.toList
  match scheme? cs with
  | none => none
  | some (schemeChars, rest) =>
    let scheme := (String.ofList schemeChars).toLower
    let (beforeFragment, _) := splitAt '#' rest
    let (hier, _) := splitAt '?' beforeFragment
    if scheme == "file" then
      match hier with
      | '/' :: '/' :: more =>
        let (authority, path) := more.span (· ≠ '/')
        let host := (String.ofList authority).toLower
        if isDriveLetter host then pathOfSegments true "" ('/' :: authority ++ path)
        else pathOfSegments true host (if path.isEmpty then ['/'] else path)
      | '/' :: _ => pathOfSegments true "" hier
      | _ => pathOfSegments true "" ('/' :: hier)
    else if specialSchemes.contains scheme then
      let more := hier.dropWhile (· == '/')
      let (authority, path) := more.span (· ≠ '/')
      pathOfSegments false (authorityHost authority) (if path.isEmpty then ['/'] else path)
    else
      match hier with
      | '/' :: '/' :: more =>
        let (authority, path) := more.span (· ≠ '/')
        pathOfSegments false (authorityHost authority) (if path.isEmpty then ['/'] else path)
      | '/' :: _ => pathOfSegments false "" hier
      | _ => none

/-- The name of the workspace folder at a URI: the text after its last `/`, trailing slashes
aside, or nothing. -/
def folderName (uri : String) : String :=
  let trimmed := (uri.toList.reverse.dropWhile (· = '/')).reverse
  String.ofList (trimmed.reverse.takeWhile (· ≠ '/')).reverse

end Uri

end LspBridge
