/-!
# URI references

Whether a text is a URI reference by the grammar of RFC 3986: either a URI (a scheme, `:`, and a
hierarchical part) or a relative reference, each with an optional query after `?` and fragment
after `#`. The hierarchical part is `//` with an authority and a path of `/`-prefixed segments, or a
path alone. An authority is an optional user part before `@`, a host (an IP literal in brackets or
a registered name) and an optional port of digits. Every character outside the delimiters must
belong to the class of its component, or be a `%` with two hexadecimal digits. A relative
reference without authority may not have a `:` in its first segment, which would read as a scheme.
-/

namespace LspBridge

namespace Uri

/-- An ASCII letter. -/
def isAlpha (c : Char) : Bool := ('A' ≤ c && c ≤ 'Z') || ('a' ≤ c && c ≤ 'z')

/-- An ASCII digit. -/
def isDigit (c : Char) : Bool := '0' ≤ c && c ≤ '9'

/-- A hexadecimal digit. -/
def isHex (c : Char) : Bool := isDigit c || ('a' ≤ c && c ≤ 'f') || ('A' ≤ c && c ≤ 'F')

/-- `unreserved`: letters, digits and `-._~`. -/
def isUnreserved (c : Char) : Bool := isAlpha c || isDigit c || "-._~".toList.contains c

/-- `sub-delims`. -/
def isSubDelim (c : Char) : Bool := "!$&'()*+,;=".toList.contains c

/-- `pchar`, less the percent escapes. -/
def isPchar (c : Char) : Bool := isUnreserved c || isSubDelim c || c == ':' || c == '@'

/-- A scheme character after the first letter. -/
def isSchemeChar (c : Char) : Bool := isAlpha c || isDigit c || c == '+' || c == '-' || c == '.'

/-- Whether every character is in the class or starts a percent escape with two hex digits. -/
def allIn (cls : Char → Bool) : List Char → Bool
  | [] => true
  | '%' :: a :: b :: rest => isHex a && isHex b && allIn cls rest
  | '%' :: _ => false
  | c :: rest => cls c && allIn cls rest

/-- A segment: `pchar`s. -/
def isSegment (cs : List Char) : Bool := allIn isPchar cs

/-- A query or fragment: `pchar`s, `/` and `?`. -/
def isQuery (cs : List Char) : Bool := allIn (fun c => isPchar c || c == '/' || c == '?') cs

/-- Splits at the first occurrence of a character, dropping it. -/
def splitAt (sep : Char) (cs : List Char) : List Char × Option (List Char) :=
  match cs.span (· ≠ sep) with
  | (before, _ :: after) => (before, some after)
  | (before, []) => (before, none)

/-- A decimal octet of an IPv4 address: 0 to 255 without leading zeros. -/
def isDecOctet (cs : List Char) : Bool :=
  !cs.isEmpty && cs.length ≤ 3 && cs.all isDigit && (cs.length == 1 || cs.head? != some '0') &&
    cs.foldl (fun acc c => acc * 10 + (c.toNat - '0'.toNat)) 0 ≤ 255

/-- An IPv4 address in dotted-decimal form. -/
def isIPv4 (cs : List Char) : Bool :=
  match (String.ofList cs).splitOn "." with
  | [a, b, c, d] => [a, b, c, d].all fun p => isDecOctet p.toList
  | _ => false

/-- One to four hexadecimal digits. -/
def isH16 (cs : List Char) : Bool := !cs.isEmpty && cs.length ≤ 4 && cs.all isHex

/-- Pieces of an IPv6 address without `::`: `h16` groups, the last of which may be an IPv4
address counting as two; `count` is how many 16-bit pieces they make, if they are well formed. -/
def h16Pieces (parts : List String) : Option Nat :=
  match parts.reverse with
  | [] => some 0
  | last :: restRev =>
    let lastCount :=
      if isIPv4 last.toList then some 2 else if isH16 last.toList then some 1 else none
    match lastCount with
    | none => none
    | some n => if restRev.all (fun p => isH16 p.toList) then some (n + restRev.length) else none

/-- An IPv6 address: eight pieces, or fewer with one `::` standing for the rest. -/
def isIPv6 (cs : List Char) : Bool :=
  let s := String.ofList cs
  match s.splitOn "::" with
  | [whole] =>
    match h16Pieces (whole.splitOn ":") with
    | some 8 => true
    | _ => false
  | [before, after] =>
    let left := if before.isEmpty then some 0 else
      (let ps := before.splitOn ":"
       if ps.all (fun p => isH16 p.toList) then some ps.length else none)
    let right := if after.isEmpty then some 0 else h16Pieces (after.splitOn ":")
    match left, right with
    | some l, some r => l + r ≤ 7
    | _, _ => false
  | _ => false

/-- `IPvFuture`: `v`, hexadecimal digits, a dot, and unreserved, sub-delims or colons. -/
def isIPvFuture : List Char → Bool
  | v :: rest =>
    (v == 'v' || v == 'V') &&
      (let hex := rest.takeWhile isHex
       match rest.drop hex.length with
       | '.' :: tail => !hex.isEmpty && !tail.isEmpty &&
           tail.all fun c => isUnreserved c || isSubDelim c || c == ':'
       | _ => false)
  | [] => false

/-- A host and optional port: `[IP-literal]` or a registered name, then `:` and digits. -/
def isHostPort (cs : List Char) : Bool :=
  match cs with
  | '[' :: rest =>
    match splitAt ']' rest with
    | (inside, some after) =>
      (isIPv6 inside || isIPvFuture inside) &&
        (match after with
         | [] => true
         | ':' :: port => port.all isDigit
         | _ => false)
    | (_, none) => false
  | _ =>
    let (host, port) := splitAt ':' cs
    allIn (fun c => isUnreserved c || isSubDelim c) host &&
      (match port with
       | some p => p.all isDigit
       | none => true)

/-- An authority: optional user information before `@`, then host and port. -/
def isAuthority (cs : List Char) : Bool :=
  match splitAt '@' cs with
  | (user, some hostPort) =>
    allIn (fun c => isUnreserved c || isSubDelim c || c == ':') user && isHostPort hostPort
  | (hostPort, none) => isHostPort hostPort

/-- A path of segments separated by `/`. -/
def isSegments (cs : List Char) : Bool :=
  ((String.ofList cs).splitOn "/").all fun s => isSegment s.toList

/-- A hierarchical or relative part: `//authority` and an absolute-or-empty path, or a path. In a
relative reference (`relative = true`) the first segment of a path that does not start with `/`
may not hold a colon. -/
def isHierPart (relative : Bool) (cs : List Char) : Bool :=
  match cs with
  | '/' :: '/' :: rest =>
    let (authority, path) := rest.span (· ≠ '/')
    isAuthority authority && isSegments path
  | '/' :: _ => isSegments cs
  | _ =>
    let first := cs.takeWhile (· ≠ '/')
    isSegments cs && !(relative && first.contains ':')

/-- The scheme and the rest after its colon, if the text starts with one. -/
def scheme? (cs : List Char) : Option (List Char × List Char) :=
  match cs with
  | c :: rest =>
    if isAlpha c then
      let more := rest.takeWhile isSchemeChar
      match rest.drop more.length with
      | ':' :: after => some (c :: more, after)
      | _ => none
    else none
  | [] => none

/-- Whether a text is a URI reference. -/
def isReference (s : String) : Bool :=
  let cs := s.toList
  let (beforeFragment, fragment) := splitAt '#' cs
  let (beforeQuery, query) := splitAt '?' beforeFragment
  let tailOk := (fragment.map isQuery).getD true && (query.map isQuery).getD true
  tailOk &&
    match scheme? beforeQuery with
    | some (_, rest) => isHierPart false rest
    | none => isHierPart true beforeQuery

end Uri

end LspBridge
