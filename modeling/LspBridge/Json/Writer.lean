import LspBridge.Json.Value
import LspBridge.Decimal.Shortest
/-!
# Writing JSON text

`Value.render` writes a value compactly: no blank anywhere, members in key order. `Value.pretty`
writes one item or member per line, indented by two spaces a level, with `": "` after a key; an
empty array or object stays `[]` or `{}`.

Strings escape the quote, the backslash and the control characters below `U+0020`: as `\b`, `\t`,
`\n`, `\f`, `\r` where those exist and as `\u00XX` in lower-case hexadecimal otherwise. All else,
the solidus and non-ASCII characters included, is written as it is.

A double is written with the fewest digits that read back (`Decimal.shortest`): positionally with
a `.0` when it is an integer below `10 ^ 16`, positionally when its point falls among its first
sixteen digits or at most five places before them, and otherwise as digits with an exponent,
`1e+300`, `1.5e-7`. Zero is `0.0` or `-0.0`.
-/

namespace LspBridge

namespace Json

/-- The lower-case hexadecimal digit of a value below sixteen. -/
def hexDigit (n : Nat) : Char :=
  if n < 10 then Char.ofNat (0x30 + n) else Char.ofNat (0x61 + n - 10)

/-- The escaped form of one string character. -/
def escapeChar (c : Char) : List Char :=
  if c = '"' then ['\\', '"']
  else if c = '\\' then ['\\', '\\']
  else if c = '\n' then ['\\', 'n']
  else if c = '\r' then ['\\', 'r']
  else if c = '\t' then ['\\', 't']
  else if c = '\x08' then ['\\', 'b']
  else if c = '\x0c' then ['\\', 'f']
  else if c.toNat < 0x20 then
    ['\\', 'u', '0', '0', hexDigit (c.toNat / 16), hexDigit (c.toNat % 16)]
  else [c]

/-- A string as a quoted JSON string. -/
def quote (s : String) : String :=
  String.ofList ('"' :: (s.toList.flatMap escapeChar ++ ['"']))

/-- The decimal digits of a natural number. -/
def natText (n : Nat) : String := toString n

/-- A double as the writer spells it (see the module comment). -/
def doubleText (x : Binary64) : String :=
  let sign := if x.negative then "-" else ""
  if x.significand = 0 then sign ++ "0.0"
  else
    let s := Decimal.shortest x.significand x.exponent
    let digits := natText s.digits
    let n : Int := digits.length
    let k := s.exponent
    let kk := n + k
    let body :=
      if 0 ≤ k && kk ≤ 16 then
        digits ++ String.ofList (List.replicate k.toNat '0') ++ ".0"
      else if 0 < kk && kk ≤ 16 then
        String.ofList (digits.toList.take kk.toNat) ++ "." ++
          String.ofList (digits.toList.drop kk.toNat)
      else if -5 < kk && kk ≤ 0 then
        "0." ++ String.ofList (List.replicate (-kk).toNat '0') ++ digits
      else
        let e := kk - 1
        let expText := if e < 0 then "-" ++ natText e.natAbs else "+" ++ natText e.toNat
        let mantissa :=
          if digits.length = 1 then digits
          else String.ofList (digits.toList.take 1) ++ "." ++ String.ofList (digits.toList.drop 1)
        mantissa ++ "e" ++ expText
    sign ++ body

/-- A number as JSON text. -/
def Number.render : Number → String
  | .unsigned n => natText n
  | .signed n => if n < 0 then "-" ++ natText n.natAbs else natText n.toNat
  | .double x => doubleText x

namespace Value

mutual

/-- The compact text of a value. -/
def render : Value → String
  | .null => "null"
  | .bool true => "true"
  | .bool false => "false"
  | .number n => n.render
  | .string s => quote s
  | .array items => "[" ++ renderItems items ++ "]"
  | .object members => "\x7b" ++ renderMembers members ++ "\x7d"

/-- Items joined by commas. -/
def renderItems : List Value → String
  | [] => ""
  | [v] => render v
  | v :: rest => render v ++ "," ++ renderItems rest

/-- Members joined by commas. -/
def renderMembers : List (String × Value) → String
  | [] => ""
  | [(k, v)] => quote k ++ ":" ++ render v
  | (k, v) :: rest => quote k ++ ":" ++ render v ++ "," ++ renderMembers rest

end

/-- Two spaces per level. -/
def indent (level : Nat) : String := String.ofList (List.replicate (2 * level) ' ')

mutual

/-- The indented text of a value whose first line is already placed at `level`. -/
def prettyAt (level : Nat) : Value → String
  | .array [] => "[]"
  | .object [] => "\x7b\x7d"
  | .array items => "[\n" ++ prettyItems (level + 1) items ++ "\n" ++ indent level ++ "]"
  | .object members =>
    "\x7b\n" ++ prettyMembers (level + 1) members ++ "\n" ++ indent level ++ "\x7d"
  | v => render v

/-- Items on lines of their own. -/
def prettyItems (level : Nat) : List Value → String
  | [] => ""
  | [v] => indent level ++ prettyAt level v
  | v :: rest => indent level ++ prettyAt level v ++ ",\n" ++ prettyItems level rest

/-- Members on lines of their own. -/
def prettyMembers (level : Nat) : List (String × Value) → String
  | [] => ""
  | [(k, v)] => indent level ++ quote k ++ ": " ++ prettyAt level v
  | (k, v) :: rest =>
    indent level ++ quote k ++ ": " ++ prettyAt level v ++ ",\n" ++ prettyMembers level rest

end

/-- The indented text of a value. -/
def pretty (v : Value) : String := prettyAt 0 v

end Value

end Json

end LspBridge
