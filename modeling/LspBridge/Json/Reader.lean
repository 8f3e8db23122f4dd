import LspBridge.Json.Value
import LspBridge.Text.Utf8
/-!
# Reading JSON text

`Json.read` turns bytes into a `Value` by the JSON grammar (RFC 8259) with these rules of its own:

* blanks are space, tab, line feed and carriage return, and may surround the value;
* strings hold well-formed UTF-8 and no control character below `U+0020`; a `\u` escape of a
  surrogate must be a high one directly followed by the escape of a low one;
* arrays and objects nest at most 127 deep; a repeated key keeps its last value;
* an integer that fits 64 bits is kept exactly, as unsigned, or as negative down to `-2 ^ 63`;
  `-0`, larger integers and every number with a fraction or an exponent become a double.

The double is computed in steps, not rounded once: the significand (at most the first digits that
fit 64 bits, later ones counting only as powers of ten) becomes the nearest double, which is then
multiplied or divided by the double nearest to a power of ten, after dividing by `1e308` while the
exponent is below `-308`. A product beyond the largest double is refused; an exponent too long for
32 bits gives zero when it is negative or the significand is zero, and is refused otherwise.
-/

namespace LspBridge

namespace Json

/-- Why bytes are no JSON text.

`unexpectedEnd`: the input ends inside a value. `unexpectedByte`: a byte that the grammar does not
allow here. `badString`: a string holds a control character, bad UTF-8 or a bad escape. `badNumber`:
a number has no digits where it needs one, or a leading zero. `numberOutOfRange`: a number beyond
the largest double. `tooDeep`: arrays and objects nest too deep. `trailing`: something follows the
value. -/
inductive ReadError where
  | unexpectedEnd
  | unexpectedByte (b : UInt8)
  | badString
  | badNumber
  | numberOutOfRange
  | tooDeep
  | trailing
  deriving DecidableEq, Repr

/-- Arrays and objects may nest one level less than this. -/
def depthLimit : Nat := 128

/-- The largest unsigned 64-bit integer. -/
def u64Max : Nat := Nat.pow 2 64 - 1

/-- The largest signed 32-bit integer. -/
def i32Max : Int := Int.pow 2 31 - 1

/-- Whether `acc * 10 + d` passes `limit`, tested without computing it. -/
def overflows (acc d limit : Nat) : Bool :=
  acc ≥ limit / 10 && (acc > limit / 10 || d > limit % 10)

/-- Clamps to the signed 32-bit range. -/
def clampI32 (n : Int) : Int := max (-Int.pow 2 31) (min i32Max n)

/-- Whether a byte is a blank between tokens. -/
def isBlank (b : UInt8) : Bool := b == 0x20 || b == 0x0A || b == 0x09 || b == 0x0D

/-- Whether a byte is an ASCII digit. -/
def isDigit (b : UInt8) : Bool := 0x30 ≤ b && b ≤ 0x39

/-- The value of a digit byte. -/
def digitValue (b : UInt8) : Nat := b.toNat - 0x30

/-- Drops leading blanks. -/
def skipBlank : List UInt8 → List UInt8
  | b :: rest => if isBlank b then skipBlank rest else b :: rest
  | [] => []

/-- Drops leading digits. -/
def skipDigits : List UInt8 → List UInt8
  | b :: rest => if isDigit b then skipDigits rest else b :: rest
  | [] => []

/-- The number of leading digits. -/
def countDigits : List UInt8 → Nat
  | b :: rest => if isDigit b then countDigits rest + 1 else 0
  | [] => 0

section Numbers

/-- The largest power of ten the number reader multiplies or divides by in one step. -/
def pow10Limit : Nat := 308

/-- The last step of `scaleByPow10`, for an exponent of at most `pow10Limit` either way. -/
def scaleOnce (x : Binary64) (exp : Int) : Option Binary64 :=
  if 0 ≤ exp then x.mul? (Binary64.pow10 exp.toNat) else x.div? (Binary64.pow10 exp.natAbs)

/-- Divides `steps` times by `10 ^ pow10Limit`, stopping early at zero, then scales once. -/
def shrinkThenScale (x : Binary64) (exp : Int) : Nat → Option Binary64
  | 0 => scaleOnce x exp
  | steps + 1 =>
    if x.isZero then some x
    else
      match x.div? (Binary64.pow10 pow10Limit) with
      | some y => shrinkThenScale y (exp + pow10Limit) steps
      | none => none

/-- The power-of-ten step of the number reader: `x * 10 ^ exp` with `x` already a double, by one
multiplication or division by a power of ten up to `1e308`, dividing by `1e308` first as often as
the exponent needs to come within `-308`, and stopping at zero. `none` when the product passes the
largest double, or when the exponent passes `308` and the double is not zero. -/
def scaleByPow10 (x : Binary64) (exp : Int) : Option Binary64 :=
  if exp.natAbs ≤ pow10Limit then scaleOnce x exp
  else if x.isZero then some x
  else if 0 ≤ exp then none
  else shrinkThenScale x exp ((exp.natAbs - pow10Limit + pow10Limit - 1) / pow10Limit)

/-- The double the reader gives for `± significand * 10 ^ exp`. -/
def doubleOfParts (positive : Bool) (significand : Nat) (exp : Int) :
    Except ReadError Number :=
  match scaleByPow10 (Binary64.ofNat significand) exp with
  | some x => .ok (.double (if positive then x else x.neg))
  | none => .error .numberOutOfRange

/-- The number of an integer without fraction or exponent. -/
def integerNumber (positive : Bool) (significand : Nat) : Number :=
  if positive then .unsigned significand
  else if significand = 0 || Nat.pow 2 63 < significand then
    .double (Binary64.ofNat significand).neg
  else .signed (-(significand : Int))

/-- Reads the digits of an exponent, after its sign and first digit. -/
def exponentDigits (positive : Bool) (significand : Nat) (start : Int) (expPositive : Bool) :
    Nat → List UInt8 → Except ReadError (Number × List UInt8)
  | exp, b :: rest =>
    if isDigit b then
      if overflows exp (digitValue b) i32Max.toNat then
        if significand ≠ 0 && expPositive then .error .numberOutOfRange
        else
          let zero := if positive then Binary64.zero else Binary64.zero.neg
          .ok (.double zero, skipDigits rest)
      else exponentDigits positive significand start expPositive (exp * 10 + digitValue b) rest
    else
      let final := clampI32 (if expPositive then start + exp else start - exp)
      (doubleOfParts positive significand final).map (·, b :: rest)
  | exp, [] =>
    let final := clampI32 (if expPositive then start + exp else start - exp)
    (doubleOfParts positive significand final).map (·, [])

/-- Reads an exponent part, after its `e` or `E`. -/
def exponentPart (positive : Bool) (significand : Nat) (start : Int) (bytes : List UInt8) :
    Except ReadError (Number × List UInt8) :=
  let (expPositive, rest) := match bytes with
    | 0x2B :: r => (true, r)
    | 0x2D :: r => (false, r)
    | r => (true, r)
  match rest with
  | [] => .error .unexpectedEnd
  | b :: r =>
    if isDigit b then exponentDigits positive significand start expPositive (digitValue b) r
    else .error .badNumber

/-- Ends a number after its digits: an exponent part may follow. -/
def afterDigits (positive : Bool) (significand : Nat) (exp : Int) :
    List UInt8 → Except ReadError (Number × List UInt8)
  | b :: rest =>
    if b == 0x65 || b == 0x45 then exponentPart positive significand exp rest
    else (doubleOfParts positive significand exp).map (·, b :: rest)
  | [] => (doubleOfParts positive significand exp).map (·, [])

/-- Reads fraction digits, after the point; `seen` counts those taken into the significand. -/
def fractionDigits (positive : Bool) (before : Int) :
    Nat → Nat → List UInt8 → Except ReadError (Number × List UInt8)
  | significand, seen, b :: rest =>
    if isDigit b then
      if overflows significand (digitValue b) u64Max then
        afterDigits positive significand (before - seen) (skipDigits (b :: rest))
      else fractionDigits positive before (significand * 10 + digitValue b) (seen + 1) rest
    else if seen = 0 then .error .badNumber
    else afterDigits positive significand (before - seen) (b :: rest)
  | significand, seen, [] =>
    if seen = 0 then .error .unexpectedEnd
    else afterDigits positive significand (before - seen) []

/-- Continues after the integer digits: a fraction, an exponent, or the end of an integer. -/
def afterInteger (positive : Bool) (significand : Nat) :
    List UInt8 → Except ReadError (Number × List UInt8)
  | 0x2E :: rest => fractionDigits positive 0 significand 0 rest
  | b :: rest =>
    if b == 0x65 || b == 0x45 then exponentPart positive significand 0 rest
    else .ok (integerNumber positive significand, b :: rest)
  | [] => .ok (integerNumber positive significand, [])

/-- Continues an integer whose digits no longer fit 64 bits: each further digit counts as a power
of ten. -/
def longInteger (positive : Bool) (significand : Nat) (bytes : List UInt8) :
    Except ReadError (Number × List UInt8) :=
  let extra : Int := countDigits bytes
  match skipDigits bytes with
  | 0x2E :: rest => fractionDigits positive extra significand 0 rest
  | b :: rest =>
    if b == 0x65 || b == 0x45 then exponentPart positive significand extra rest
    else (doubleOfParts positive significand extra).map (·, b :: rest)
  | [] => (doubleOfParts positive significand extra).map (·, [])

/-- Reads the integer digits after the first, which is not zero. -/
def integerDigits (positive : Bool) : Nat → List UInt8 → Except ReadError (Number × List UInt8)
  | significand, b :: rest =>
    if isDigit b then
      if overflows significand (digitValue b) u64Max then
        longInteger positive significand (b :: rest)
      else integerDigits positive (significand * 10 + digitValue b) rest
    else afterInteger positive significand (b :: rest)
  | significand, [] => afterInteger positive significand []

/-- Reads a number, from its sign or first digit. -/
def readNumber (bytes : List UInt8) : Except ReadError (Number × List UInt8) :=
  let (positive, rest) := match bytes with
    | 0x2D :: r => (false, r)
    | r => (true, r)
  match rest with
  | [] => .error .unexpectedEnd
  | 0x30 :: r =>
    match r with
    | b :: _ => if isDigit b then .error .badNumber else afterInteger positive 0 r
    | [] => afterInteger positive 0 r
  | b :: r => if isDigit b then integerDigits positive (digitValue b) r else .error .badNumber

end Numbers

section Strings

/-- The value of a hexadecimal digit. -/
def hexValue? (b : UInt8) : Option Nat :=
  if 0x30 ≤ b && b ≤ 0x39 then some (b.toNat - 0x30)
  else if 0x61 ≤ b && b ≤ 0x66 then some (b.toNat - 0x61 + 10)
  else if 0x41 ≤ b && b ≤ 0x46 then some (b.toNat - 0x41 + 10)
  else none

/-- Reads four hexadecimal digits. -/
def hex4? : List UInt8 → Option (Nat × List UInt8)
  | a :: b :: c :: d :: rest => do
    let a ← hexValue? a
    let b ← hexValue? b
    let c ← hexValue? c
    let d ← hexValue? d
    some (((a * 16 + b) * 16 + c) * 16 + d, rest)
  | _ => none

/-- Reads what follows `\u`: a character outside the surrogates, or a high surrogate followed by
the escape of a low one. -/
def unicodeEscape? (bytes : List UInt8) : Option (Char × List UInt8) := do
  let (n, rest) ← hex4? bytes
  if 0xDC00 ≤ n && n ≤ 0xDFFF then none
  else if n < 0xD800 || 0xDBFF < n then
    (Utf8.scalar? n).map (·, rest)
  else
    match rest with
    | 0x5C :: 0x75 :: rest' => do
      let (m, rest'') ← hex4? rest'
      if 0xDC00 ≤ m && m ≤ 0xDFFF then
        (Utf8.scalar? (0x10000 + (n - 0xD800) * 1024 + (m - 0xDC00))).map (·, rest'')
      else none
    | _ => none

/-- Reads what follows a backslash. -/
def escape? : List UInt8 → Option (Char × List UInt8)
  | 0x22 :: r => some ('"', r)
  | 0x5C :: r => some ('\\', r)
  | 0x2F :: r => some ('/', r)
  | 0x62 :: r => some ('\x08', r)
  | 0x66 :: r => some ('\x0c', r)
  | 0x6E :: r => some ('\n', r)
  | 0x72 :: r => some ('\r', r)
  | 0x74 :: r => some ('\t', r)
  | 0x75 :: r => unicodeEscape? r
  | _ => none

/-- Reads string content up to and including the closing quote. The fuel is the byte count, and
each character takes at least one byte. -/
def stringBody : Nat → List UInt8 → List Char → Except ReadError (String × List UInt8)
  | _, [], _ => .error .unexpectedEnd
  | 0, _ :: _, _ => .error .unexpectedEnd
  | fuel + 1, b :: rest, acc =>
    if b == 0x22 then .ok (String.ofList acc.reverse, rest)
    else if b == 0x5C then
      match escape? rest with
      | some (c, rest') => stringBody fuel rest' (c :: acc)
      | none => .error .badString
    else if b < 0x20 then .error .badString
    else
      match Utf8.decodeChar? (b :: rest) with
      | some (c, rest') => stringBody fuel rest' (c :: acc)
      | none => .error .badString

/-- Reads a string, after its opening quote. -/
def readString (bytes : List UInt8) : Except ReadError (String × List UInt8) :=
  stringBody bytes.length bytes []

end Strings

/-- Reads a literal word, after its first letter. -/
def literal (rest : List UInt8) (word : List UInt8) (v : Value) :
    Except ReadError (Value × List UInt8) :=
  if word.isPrefixOf rest then .ok (v, rest.drop word.length)
  else
    match rest with
    | b :: _ => .error (.unexpectedByte b)
    | [] => .error .unexpectedEnd

mutual

/-- Reads one value after blanks. `depth` is how many more levels may open; the fuel bounds the
length of the chain of calls, each of which takes at least one byte. -/
def readValue : Nat → Nat → List UInt8 → Except ReadError (Value × List UInt8)
  | 0, _, _ => .error .unexpectedEnd
  | fuel + 1, depth, bytes =>
    match skipBlank bytes with
    | [] => .error .unexpectedEnd
    | b :: rest =>
      if b == 0x6E then literal rest [0x75, 0x6C, 0x6C] .null
      else if b == 0x74 then literal rest [0x72, 0x75, 0x65] (.bool true)
      else if b == 0x66 then literal rest [0x61, 0x6C, 0x73, 0x65] (.bool false)
      else if b == 0x22 then (readString rest).map fun (s, r) => (.string s, r)
      else if b == 0x2D || isDigit b then (readNumber (b :: rest)).map fun (n, r) => (.number n, r)
      else if b == 0x5B then
        if depth ≤ 1 then .error .tooDeep
        else
          match skipBlank rest with
          | 0x5D :: r => .ok (.array [], r)
          | r => readItems fuel (depth - 1) r []
      else if b == 0x7B then
        if depth ≤ 1 then .error .tooDeep
        else
          match skipBlank rest with
          | 0x7D :: r => .ok (.object [], r)
          | r => readMembers fuel (depth - 1) r []
      else .error (.unexpectedByte b)

/-- Reads array items, from the start of an item. -/
def readItems : Nat → Nat → List UInt8 → List Value → Except ReadError (Value × List UInt8)
  | 0, _, _, _ => .error .unexpectedEnd
  | fuel + 1, depth, bytes, acc =>
    match readValue fuel depth bytes with
    | .error e => .error e
    | .ok (v, rest) =>
      match skipBlank rest with
      | 0x2C :: r =>
        match skipBlank r with
        | 0x5D :: _ => .error (.unexpectedByte 0x5D)
        | r' => readItems fuel depth r' (v :: acc)
      | 0x5D :: r => .ok (.array (v :: acc).reverse, r)
      | b :: _ => .error (.unexpectedByte b)
      | [] => .error .unexpectedEnd

/-- Reads object members, from the opening quote of a key. -/
def readMembers : Nat → Nat → List UInt8 → List (String × Value) →
    Except ReadError (Value × List UInt8)
  | 0, _, _, _ => .error .unexpectedEnd
  | fuel + 1, depth, bytes, acc =>
    match bytes with
    | 0x22 :: afterQuote =>
      match readString afterQuote with
      | .error e => .error e
      | .ok (key, rest) =>
        match skipBlank rest with
        | 0x3A :: r =>
          match readValue fuel depth r with
          | .error e => .error e
          | .ok (v, rest') =>
            let acc := insertMember key v acc
            match skipBlank rest' with
            | 0x2C :: r' => readMembers fuel depth (skipBlank r') acc
            | 0x7D :: r' => .ok (.object acc, r')
            | b :: _ => .error (.unexpectedByte b)
            | [] => .error .unexpectedEnd
        | b :: _ => .error (.unexpectedByte b)
        | [] => .error .unexpectedEnd
    | b :: _ => .error (.unexpectedByte b)
    | [] => .error .unexpectedEnd

end

/-- Reads a whole JSON text: one value, with blanks around it and nothing else. -/
def read (bytes : List UInt8) : Except ReadError Value :=
  match readValue (bytes.length + 2) depthLimit bytes with
  | .error e => .error e
  | .ok (v, rest) =>
    match skipBlank rest with
    | [] => .ok v
    | _ => .error .trailing

/-- Reads the UTF-8 bytes of a string as JSON text. -/
def readText (s : String) : Except ReadError Value := read (Utf8.encode s)

end Json

end LspBridge
