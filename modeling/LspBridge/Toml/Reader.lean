import LspBridge.Toml.Value
/-!
# Reading TOML

`Toml.read` reads a TOML 1.0 document into its root table. Lines end in a line feed, or a carriage
return and a line feed. A line holds nothing, a comment, a `key = value` pair, a `[table]` header
or an `[[array.of.tables]]` header, with spaces or tabs around, and a comment after it.

The document is built as a tree whose tables remember how they came to be: from a header, as the
parent of a header's table, from a dotted key, or as an inline table or element of an array
(frozen). The rules that follow are TOML's:

* a key is defined once;
* a table is opened by a header once; a table that only exists as a parent may be opened later;
* a dotted key extends only tables made by dotted keys;
* nothing extends an inline table or a plain array;
* `[[a]]` appends a table to the array of tables `a`, and headers and keys below it go into the
  last table of the array.

Numbers follow the TOML grammar: decimal integers without leading zeros, `0x`, `0o` and `0b`
integers, underscores only between digits, and floats with a fraction, an exponent or both, or
`inf` and `nan` with an optional sign. A float is the nearest double to its decimal value.
-/

namespace LspBridge

namespace Toml

/-- Why a text is no TOML document.

`unexpected`: a character the grammar does not allow here. `unexpectedEnd`: the text ends inside a
construct. `badValue`: a number or date-time that is not well-formed. `duplicateKey`: a key defined
twice. `cannotExtend`: a table opened twice, or a table or array that may not be extended. -/
inductive Fault where
  | unexpected (c : Char)
  | unexpectedEnd
  | badValue (text : String)
  | duplicateKey (key : String)
  | cannotExtend (key : String)
  deriving Repr

/-- The fault of the first character of the rest, or of its end. -/
def unexpectedAt {α : Type} : List Char → Except Fault α
  | c :: _ => .error (.unexpected c)
  | [] => .error .unexpectedEnd

section Lexical

/-- Spaces and tabs. -/
def isSpace (c : Char) : Bool := c == ' ' || c == '\t'

/-- Drops spaces and tabs. -/
def skipSpace : List Char → List Char
  | c :: rest => if isSpace c then skipSpace rest else c :: rest
  | [] => []

/-- A character that may stand in a comment: tab, or anything but a control character. -/
def commentChar (c : Char) : Bool :=
  c == '\t' || (c.toNat ≥ 0x20 && c.toNat != 0x7F)

/-- Skips a comment, from its `#` to the end of the line (the line end stays). -/
def skipComment : List Char → Except Fault (List Char)
  | [] => .ok []
  | '\n' :: rest => .ok ('\n' :: rest)
  | '\r' :: '\n' :: rest => .ok ('\r' :: '\n' :: rest)
  | c :: rest => if commentChar c then skipComment rest else .error (.unexpected c)

/-- The end of a line: spaces, an optional comment, then a line end or the end of the text. -/
def lineEnd (cs : List Char) : Except Fault (List Char) := do
  let cs := skipSpace cs
  let cs ← match cs with
    | '#' :: rest => skipComment rest
    | _ => pure cs
  match cs with
  | [] => pure []
  | '\n' :: rest => pure rest
  | '\r' :: '\n' :: rest => pure rest
  | other => unexpectedAt other

/-- Skips blanks, line ends and comments, as between the items of an array. -/
def skipBlankLines : Nat → List Char → Except Fault (List Char)
  | 0, cs => .ok cs
  | fuel + 1, cs =>
    match skipSpace cs with
    | '\n' :: rest => skipBlankLines fuel rest
    | '\r' :: '\n' :: rest => skipBlankLines fuel rest
    | '#' :: rest => do
      let rest ← skipComment rest
      skipBlankLines fuel rest
    | other => .ok other

/-- A character of a bare key. -/
def isBareKeyChar (c : Char) : Bool :=
  ('A' ≤ c && c ≤ 'Z') || ('a' ≤ c && c ≤ 'z') || ('0' ≤ c && c ≤ '9') || c == '_' ||
    c == '-'

/-- The value of a hexadecimal digit. -/
def hexValue? (c : Char) : Option Nat :=
  if '0' ≤ c ∧ c ≤ '9' then some (c.toNat - '0'.toNat)
  else if 'a' ≤ c ∧ c ≤ 'f' then some (c.toNat - 'a'.toNat + 10)
  else if 'A' ≤ c ∧ c ≤ 'F' then some (c.toNat - 'A'.toNat + 10)
  else none

/-- Reads `n` hexadecimal digits as a number. -/
def hexDigits? : Nat → List Char → Option (Nat × List Char)
  | 0, cs => some (0, cs)
  | n + 1, c :: rest => do
    let d ← hexValue? c
    let (v, rest') ← hexDigits? n rest
    some (d * Nat.pow 16 n + v, rest')
  | _ + 1, [] => none

/-- A character that may stand in a string as it is: tab, or anything but a control character. -/
def stringChar (c : Char) : Bool := commentChar c

/-- Reads an escape, after its backslash. -/
def escape : List Char → Except Fault (Char × List Char)
  | 'b' :: r => .ok ('\x08', r)
  | 't' :: r => .ok ('\t', r)
  | 'n' :: r => .ok ('\n', r)
  | 'f' :: r => .ok ('\x0c', r)
  | 'r' :: r => .ok ('\r', r)
  | '"' :: r => .ok ('"', r)
  | '\\' :: r => .ok ('\\', r)
  | 'u' :: r =>
    match hexDigits? 4 r with
    | some (n, r') => if n.isValidChar then .ok (Char.ofNat n, r') else .error (.badValue "\\u")
    | none => unexpectedAt r
  | 'U' :: r =>
    match hexDigits? 8 r with
    | some (n, r') => if n.isValidChar then .ok (Char.ofNat n, r') else .error (.badValue "\\U")
    | none => unexpectedAt r
  | other => unexpectedAt other

/-- Reads a basic string after its opening quote. -/
def basicString : Nat → List Char → List Char → Except Fault (String × List Char)
  | 0, _, cs => unexpectedAt cs
  | _ + 1, acc, '"' :: rest => .ok (String.ofList acc.reverse, rest)
  | fuel + 1, acc, '\\' :: rest => do
    let (c, rest') ← escape rest
    basicString fuel (c :: acc) rest'
  | fuel + 1, acc, c :: rest =>
    if stringChar c then basicString fuel (c :: acc) rest else .error (.unexpected c)
  | _ + 1, _, [] => .error .unexpectedEnd

/-- Reads a literal string after its opening apostrophe. -/
def literalString : Nat → List Char → List Char → Except Fault (String × List Char)
  | 0, _, cs => unexpectedAt cs
  | _ + 1, acc, '\'' :: rest => .ok (String.ofList acc.reverse, rest)
  | fuel + 1, acc, c :: rest =>
    if stringChar c then literalString fuel (c :: acc) rest else .error (.unexpected c)
  | _ + 1, _, [] => .error .unexpectedEnd

/-- Drops a line end directly after the opening delimiter of a multi-line string. -/
def dropFirstNewline : List Char → List Char
  | '\n' :: rest => rest
  | '\r' :: '\n' :: rest => rest
  | cs => cs

/-- After a line-ending backslash: drops blanks and line ends up to the next other character. -/
def skipLineContinuation : List Char → List Char
  | c :: rest =>
    if isSpace c || c == '\n' then skipLineContinuation rest
    else if c == '\r' then
      match rest with
      | '\n' :: r => skipLineContinuation r
      | _ => c :: rest
    else c :: rest
  | [] => []

/-- Whether a backslash starts a line continuation: only blanks up to a line end follow it. -/
def isLineContinuation (cs : List Char) : Bool :=
  match skipSpace cs with
  | '\n' :: _ => true
  | '\r' :: '\n' :: _ => true
  | _ => false

/-- Reads a multi-line basic string after its opening delimiter. Up to two quotes may end the
content just before the closing delimiter. -/
def multilineBasic : Nat → List Char → List Char → Except Fault (String × List Char)
  | 0, _, cs => unexpectedAt cs
  | _ + 1, acc, '"' :: '"' :: '"' :: '"' :: '"' :: rest =>
    .ok (String.ofList ('"' :: '"' :: acc).reverse, rest)
  | _ + 1, acc, '"' :: '"' :: '"' :: '"' :: rest => .ok (String.ofList ('"' :: acc).reverse, rest)
  | _ + 1, acc, '"' :: '"' :: '"' :: rest => .ok (String.ofList acc.reverse, rest)
  | fuel + 1, acc, '\\' :: rest =>
    if isLineContinuation rest then multilineBasic fuel acc (skipLineContinuation rest)
    else do
      let (c, rest') ← escape rest
      multilineBasic fuel (c :: acc) rest'
  | fuel + 1, acc, '\r' :: '\n' :: rest => multilineBasic fuel ('\n' :: acc) rest
  | fuel + 1, acc, c :: rest =>
    if stringChar c || c == '\n' then multilineBasic fuel (c :: acc) rest
    else .error (.unexpected c)
  | _ + 1, _, [] => .error .unexpectedEnd

/-- Reads a multi-line literal string after its opening delimiter. -/
def multilineLiteral : Nat → List Char → List Char → Except Fault (String × List Char)
  | 0, _, cs => unexpectedAt cs
  | _ + 1, acc, '\'' :: '\'' :: '\'' :: '\'' :: '\'' :: rest =>
    .ok (String.ofList ('\'' :: '\'' :: acc).reverse, rest)
  | _ + 1, acc, '\'' :: '\'' :: '\'' :: '\'' :: rest =>
    .ok (String.ofList ('\'' :: acc).reverse, rest)
  | _ + 1, acc, '\'' :: '\'' :: '\'' :: rest => .ok (String.ofList acc.reverse, rest)
  | fuel + 1, acc, '\r' :: '\n' :: rest => multilineLiteral fuel ('\n' :: acc) rest
  | fuel + 1, acc, c :: rest =>
    if stringChar c || c == '\n' then multilineLiteral fuel (c :: acc) rest
    else .error (.unexpected c)
  | _ + 1, _, [] => .error .unexpectedEnd

/-- Reads one key part: bare, quoted or literal. -/
def simpleKey (cs : List Char) : Except Fault (String × List Char) :=
  match cs with
  | '"' :: rest => basicString (rest.length + 1) [] rest
  | '\'' :: rest => literalString (rest.length + 1) [] rest
  | _ =>
    let bare := cs.takeWhile isBareKeyChar
    if bare.isEmpty then unexpectedAt cs else .ok (String.ofList bare, cs.drop bare.length)

/-- Reads a key of dot-separated parts, with blanks allowed around the dots. -/
def dottedKey : Nat → List Char → Except Fault ((List String) × List Char)
  | 0, cs => unexpectedAt cs
  | fuel + 1, cs => do
    let (k, rest) ← simpleKey cs
    match skipSpace rest with
    | '.' :: more =>
      let (ks, rest') ← dottedKey fuel (skipSpace more)
      pure (k :: ks, rest')
    | _ => pure ([k], rest)

end Lexical

section Scalars

/-- Whether a character may belong to a number or date-time token. -/
def isTokenChar (c : Char) : Bool :=
  ('0' ≤ c && c ≤ '9') || ('a' ≤ c && c ≤ 'z') || ('A' ≤ c && c ≤ 'Z') || c == '_' ||
    c == '+' ||
    c == '-' || c == '.' || c == ':'

/-- Whether a text is digits, with single underscores only between digits, over a digit class. -/
def digitsWithUnderscores (isDigit : Char → Bool) : List Char → Bool
  | [] => false
  | c :: rest => isDigit c && go rest
where
  /-- After a digit. -/
  go : List Char → Bool
    | [] => true
    | '_' :: d :: rest => isDigit d && go rest
    | '_' :: [] => false
    | d :: rest => isDigit d && go rest

/-- A decimal digit. -/
def isDec (c : Char) : Bool := '0' ≤ c && c ≤ '9'

/-- The value of digits in a base, underscores skipped. -/
def digitsValue (base : Nat) (cs : List Char) : Nat :=
  cs.foldl (fun acc c => if c == '_' then acc else acc * base + (hexValue? c).getD 0) 0

/-- Splits an optional sign. -/
def splitSign : List Char → Bool × Bool × List Char
  | '+' :: rest => (true, false, rest)
  | '-' :: rest => (true, true, rest)
  | cs => (false, false, cs)

/-- Whether digits form a decimal integer part without a leading zero. -/
def decimalIntPart (cs : List Char) : Bool :=
  digitsWithUnderscores isDec cs && (cs.length == 1 || cs.head? != some '0')

/-- Reads an integer token. -/
def integer? (token : List Char) : Option Int :=
  match token with
  | '0' :: 'x' :: rest =>
    if digitsWithUnderscores (fun c => (hexValue? c).isSome) rest then some (digitsValue 16 rest)
    else none
  | '0' :: 'o' :: rest =>
    if digitsWithUnderscores (fun c => '0' ≤ c && c ≤ '7') rest then some (digitsValue 8 rest)
    else none
  | '0' :: 'b' :: rest =>
    if digitsWithUnderscores (fun c => c == '0' || c == '1') rest then some (digitsValue 2 rest)
    else none
  | _ =>
    let (_, negative, digits) := splitSign token
    if decimalIntPart digits then
      let n := digitsValue 10 digits
      some (if negative then -(n : Int) else n)
    else none

/-- The nearest double to `digits * 10 ^ exp` with a sign, or none when it overflows. -/
def nearestDouble (negative : Bool) (digits : Nat) (exp : Int) : Option Binary64 :=
  if 0 ≤ exp then Binary64.ofRatio? negative (digits * Nat.pow 10 exp.toNat) 1
  else Binary64.ofRatio? negative digits (Nat.pow 10 exp.natAbs)

/-- Reads a float token: `none` if it is no float, `some none` for an infinity or NaN. -/
def float? (token : List Char) : Option (Option Binary64) :=
  let (_, negative, body) := splitSign token
  if body == "inf".toList || body == "nan".toList then some none
  else
    let intPart := body.takeWhile fun c => isDec c || c == '_'
    let rest := body.drop intPart.length
    if !decimalIntPart intPart then none
    else
      let (frac, rest) := match rest with
        | '.' :: r =>
          let f := r.takeWhile fun c => isDec c || c == '_'
          (some f, r.drop f.length)
        | r => (none, r)
      let expPart := match rest with
        | 'e' :: r => some r
        | 'E' :: r => some r
        | _ => none
      let fracOk := match frac with
        | some f => digitsWithUnderscores isDec f
        | none => true
      let (expOk, expValue) := match expPart with
        | some r =>
          let (_, eneg, edigits) := splitSign r
          (digitsWithUnderscores isDec edigits,
            if eneg then -(digitsValue 10 edigits : Int) else digitsValue 10 edigits)
        | none => (rest.isEmpty, 0)
      if frac.isNone && expPart.isNone then none
      else if !fracOk || !expOk then none
      else
        let fracDigits := (frac.getD []).filter (· != '_')
        let digits := digitsValue 10 (intPart ++ fracDigits)
        match nearestDouble negative digits (expValue - fracDigits.length) with
        | some x => some (some x)
        | none => some none

/-- Reads exactly two digits. -/
def twoDigits? : List Char → Option (Nat × List Char)
  | a :: b :: rest => if isDec a && isDec b then some (digitsValue 10 [a, b], rest) else none
  | _ => none

/-- Whether a year is a leap year. -/
def isLeapYear (y : Nat) : Bool := y % 4 == 0 && (y % 100 != 0 || y % 400 == 0)

/-- The number of days of a month. -/
def daysInMonth (y m : Nat) : Nat :=
  if m == 2 then (if isLeapYear y then 29 else 28)
  else if m == 4 || m == 6 || m == 9 || m == 11 then 30 else 31

/-- Reads a full date `YYYY-MM-DD`. -/
def fullDate? (cs : List Char) : Option (List Char × List Char) :=
  match cs with
  | a :: b :: c :: d :: '-' :: rest =>
    if !([a, b, c, d].all isDec) then none
    else do
      let (m, rest) ← twoDigits? rest
      let rest ← match rest with
        | '-' :: r => some r
        | _ => none
      let (day, rest') ← twoDigits? rest
      let y := digitsValue 10 [a, b, c, d]
      if 1 ≤ m && m ≤ 12 && 1 ≤ day && day ≤ daysInMonth y m then
        some (cs.take 10, rest')
      else none
  | _ => none

/-- Reads a time `HH:MM:SS` with an optional fraction. -/
def partialTime? (cs : List Char) : Option (List Char × List Char) := do
  let (h, r) ← twoDigits? cs
  let r ← match r with
    | ':' :: r => some r
    | _ => none
  let (m, r) ← twoDigits? r
  let r ← match r with
    | ':' :: r => some r
    | _ => none
  let (s, r) ← twoDigits? r
  if h > 23 || m > 59 || s > 60 then none
  else
    match r with
    | '.' :: r' =>
      let frac := r'.takeWhile isDec
      if frac.isEmpty then none else some (cs.take (9 + frac.length), r'.drop frac.length)
    | _ => some (cs.take 8, r)

/-- Reads a zone offset: `Z` or `±HH:MM`, upper-casing the letter. -/
def offset? : List Char → Option (List Char × List Char)
  | 'Z' :: r => some (['Z'], r)
  | 'z' :: r => some (['Z'], r)
  | s :: a :: b :: ':' :: c :: d :: r =>
    if (s == '+' || s == '-') && [a, b, c, d].all isDec &&
        digitsValue 10 [a, b] ≤ 23 && digitsValue 10 [c, d] ≤ 59 then
      some ([s, a, b, ':', c, d], r)
    else none
  | _ => none

/-- Reads a date-time, a date or a time, giving its text with `T` between date and time and an
upper-case zone letter, and the rest. -/
def datetime? (cs : List Char) : Option (String × List Char) :=
  match fullDate? cs with
  | some (date, rest) =>
    let timePart := match rest with
      | 'T' :: r | 't' :: r => partialTime? r
      | ' ' :: r => partialTime? r
      | _ => none
    match timePart with
    | some (time, rest') =>
      match offset? rest' with
      | some (zone, rest'') => some (String.ofList (date ++ ['T'] ++ time ++ zone), rest'')
      | none => some (String.ofList (date ++ ['T'] ++ time), rest')
    | none => some (String.ofList date, rest)
  | none =>
    match partialTime? cs with
    | some (time, rest) => some (String.ofList time, rest)
    | none => none

/-- Reads a number, boolean or date-time. -/
def scalar (cs : List Char) : Except Fault (Value × List Char) :=
  match datetime? cs with
  | some (text, rest) =>
    if (rest.head?.map isTokenChar).getD false then unexpectedAt rest
    else .ok (.datetime text, rest)
  | none =>
    let token := cs.takeWhile isTokenChar
    let rest := cs.drop token.length
    if token == "true".toList then .ok (.bool true, rest)
    else if token == "false".toList then .ok (.bool false, rest)
    else
      match integer? token with
      | some n => .ok (.integer n, rest)
      | none =>
        match float? token with
        | some x => .ok (.float x, rest)
        | none =>
          if token.isEmpty then unexpectedAt cs else .error (.badValue (String.ofList token))

end Scalars

section Tree

/-- How a table came to be.

`header`: opened by a header. `implicit`: only the parent of a header's table. `dotted`: made by a
dotted key. -/
inductive Origin where
  | header
  | implicit
  | dotted
  deriving DecidableEq

/-- A node of the document tree.

`leaf`: a frozen value: a scalar, a plain array or an inline table. `table`: a table that keys and
headers may still extend, as its origin allows. `tables`: an array of tables, each given by its
entries. -/
inductive Node where
  | leaf (v : Value)
  | table (origin : Origin) (entries : List (String × Node))
  | tables (items : List (List (String × Node)))

/-- Replaces the entry of a key by what `f` makes of it, adding it when missing. -/
def updateEntry (k : String) (f : Option Node → Except Fault Node) :
    List (String × Node) → Except Fault (List (String × Node))
  | [] => do pure [(k, ← f none)]
  | (k', n) :: rest =>
    if k = k' then do pure ((k, ← f (some n)) :: rest)
    else do pure ((k', n) :: (← updateEntry k f rest))

/-- Applies `f` to the entries of the last table of an array of tables. -/
def updateLast (f : List (String × Node) → Except Fault (List (String × Node))) :
    List (List (String × Node)) → Except Fault (List (List (String × Node)))
  | [] => .error .unexpectedEnd
  | [t] => do pure [← f t]
  | t :: rest => do pure (t :: (← updateLast f rest))

/-- Descends into the table at a key for a header: `f` works on its entries. -/
def descend (k : String) (f : List (String × Node) → Except Fault (List (String × Node))) :
    List (String × Node) → Except Fault (List (String × Node)) :=
  updateEntry k fun
    | none => do pure (.table .implicit (← f []))
    | some (.table o es) => do pure (.table o (← f es))
    | some (.tables items) => do pure (.tables (← updateLast f items))
    | some (.leaf _) => .error (.cannotExtend k)

/-- Opens the table `[path]`. -/
def openTable : List String → List (String × Node) → Except Fault (List (String × Node))
  | [], es => .ok es
  | [k], es => updateEntry k (fun
    | none => .ok (.table .header [])
    | some (.table .implicit entries) => .ok (.table .header entries)
    | _ => .error (.cannotExtend k)) es
  | k :: rest, es => descend k (openTable rest) es

/-- Appends a table to the array of tables `[[path]]`. -/
def openTableArray : List String → List (String × Node) → Except Fault (List (String × Node))
  | [], es => .ok es
  | [k], es => updateEntry k (fun
    | none => .ok (.tables [[]])
    | some (.tables items) => .ok (.tables (items ++ [[]]))
    | _ => .error (.cannotExtend k)) es
  | k :: rest, es => descend k (openTableArray rest) es

/-- Defines a dotted key in a table's entries. -/
def defineKey (v : Value) :
    List String → List (String × Node) → Except Fault (List (String × Node))
  | [], es => .ok es
  | [k], es => updateEntry k (fun
    | none => .ok (.leaf v)
    | some _ => .error (.duplicateKey k)) es
  | k :: rest, es => updateEntry k (fun
    | none => do pure (.table .dotted (← defineKey v rest []))
    | some (.table .dotted entries) => do pure (.table .dotted (← defineKey v rest entries))
    | _ => .error (.cannotExtend k)) es

/-- Defines a key in the table at a header path, going into the last table of each array of
tables on the way. -/
def defineAt (v : Value) (key : List String) :
    List String → List (String × Node) → Except Fault (List (String × Node))
  | [], es => defineKey v key es
  | k :: rest, es => descend k (defineAt v key rest) es

mutual

/-- The value of a node. -/
def Node.value : Node → Value
  | .leaf v => v
  | .table _ entries => .table (Node.entriesValue entries)
  | .tables items => .array (Node.tablesValue items)

/-- The values of entries. -/
def Node.entriesValue : List (String × Node) → List (String × Value)
  | [] => []
  | (k, n) :: rest => (k, n.value) :: Node.entriesValue rest

/-- The tables of an array of tables. -/
def Node.tablesValue : List (List (String × Node)) → List Value
  | [] => []
  | t :: rest => .table (Node.entriesValue t) :: Node.tablesValue rest

end

end Tree

section Values

mutual

/-- Reads a value. The fuel bounds the nesting of arrays and inline tables and the number of
items, each of which takes at least one character. -/
def value : Nat → List Char → Except Fault (Value × List Char)
  | 0, cs => unexpectedAt cs
  | fuel + 1, cs =>
    match cs with
    | '"' :: '"' :: '"' :: rest =>
      let body := dropFirstNewline rest
      (multilineBasic (body.length + 1) [] body).map fun (s, r) => (.string s, r)
    | '"' :: rest => (basicString (rest.length + 1) [] rest).map fun (s, r) => (.string s, r)
    | '\'' :: '\'' :: '\'' :: rest =>
      let body := dropFirstNewline rest
      (multilineLiteral (body.length + 1) [] body).map fun (s, r) => (.string s, r)
    | '\'' :: rest => (literalString (rest.length + 1) [] rest).map fun (s, r) => (.string s, r)
    | '[' :: rest => arrayItems fuel [] rest
    | '{' :: rest =>
      match skipSpace rest with
      | '}' :: r => .ok (.table [], r)
      | r => inlineEntries fuel [] r
    | _ => scalar cs

/-- Reads array items after `[` or a comma. -/
def arrayItems : Nat → List Value → List Char → Except Fault (Value × List Char)
  | 0, _, cs => unexpectedAt cs
  | fuel + 1, acc, cs => do
    let cs ← skipBlankLines (cs.length + 1) cs
    match cs with
    | ']' :: rest => pure (.array acc.reverse, rest)
    | _ =>
      let (v, rest) ← value fuel cs
      let rest ← skipBlankLines (rest.length + 1) rest
      match rest with
      | ',' :: more => arrayItems fuel (v :: acc) more
      | ']' :: more => pure (.array (v :: acc).reverse, more)
      | other => unexpectedAt other

/-- Reads inline-table entries from a key. -/
def inlineEntries :
    Nat → List (String × Node) → List Char → Except Fault (Value × List Char)
  | 0, _, cs => unexpectedAt cs
  | fuel + 1, acc, cs => do
    let (key, rest) ← dottedKey (cs.length + 1) cs
    let rest ← match skipSpace rest with
      | '=' :: r => pure (skipSpace r)
      | other => unexpectedAt other
    let (v, rest) ← value fuel rest
    let acc ← defineKey v key acc
    match skipSpace rest with
    | ',' :: more => inlineEntries fuel acc (skipSpace more)
    | '}' :: more => pure (.table (Node.entriesValue acc), more)
    | other => unexpectedAt other

end

end Values

/-- Reads the lines of a document. `current` is the path of the table of the last header. -/
def lines : Nat → List String → List (String × Node) → List Char →
    Except Fault (List (String × Node))
  | 0, _, root, _ => .ok root
  | fuel + 1, current, root, cs =>
    match skipSpace cs with
    | [] => .ok root
    | '\n' :: rest => lines fuel current root rest
    | '\r' :: '\n' :: rest => lines fuel current root rest
    | '#' :: rest => do
      let rest ← lineEnd ('#' :: rest)
      lines fuel current root rest
    | '[' :: '[' :: rest => do
      let (key, rest) ← dottedKey (rest.length + 1) (skipSpace rest)
      let rest ← match skipSpace rest with
        | ']' :: ']' :: r => pure r
        | other => unexpectedAt other
      let rest ← lineEnd rest
      let root ← openTableArray key root
      lines fuel key root rest
    | '[' :: rest => do
      let (key, rest) ← dottedKey (rest.length + 1) (skipSpace rest)
      let rest ← match skipSpace rest with
        | ']' :: r => pure r
        | other => unexpectedAt other
      let rest ← lineEnd rest
      let root ← openTable key root
      lines fuel key root rest
    | other => do
      let (key, rest) ← dottedKey (other.length + 1) other
      let rest ← match skipSpace rest with
        | '=' :: r => pure (skipSpace r)
        | bad => unexpectedAt bad
      let (v, rest) ← value (rest.length + 1) rest
      let rest ← lineEnd rest
      let root ← defineAt v key current root
      lines fuel current root rest

/-- Reads a TOML document into the entries of its root table. -/
def read (text : String) : Except Fault (List (String × Value)) := do
  let cs := text.toList
  let root ← lines (cs.length + 1) [] [] cs
  pure (Node.entriesValue root)

end Toml

end LspBridge
