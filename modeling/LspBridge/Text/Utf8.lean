/-!
# UTF-8

Characters to bytes and back, as RFC 3629 writes them: one to four bytes per character, no
overlong form, no surrogate code point and nothing above `U+10FFFF`. Decoding refuses every
sequence that encoding cannot produce.
-/

namespace LspBridge

namespace Utf8

/-- Whether a byte continues a multi-byte character (`10xxxxxx`). -/
def isTail (b : UInt8) : Bool := b &&& 0xC0 == 0x80

/-- The bytes of one character. -/
def encodeChar (c : Char) : List UInt8 :=
  let n := c.toNat
  if n < 0x80 then [n.toUInt8]
  else if n < 0x800 then [(0xC0 + n / 64).toUInt8, (0x80 + n % 64).toUInt8]
  else if n < 0x10000 then
    [(0xE0 + n / 4096).toUInt8, (0x80 + n / 64 % 64).toUInt8, (0x80 + n % 64).toUInt8]
  else
    [(0xF0 + n / 262144).toUInt8, (0x80 + n / 4096 % 64).toUInt8,
      (0x80 + n / 64 % 64).toUInt8, (0x80 + n % 64).toUInt8]

/-- The bytes of a string. -/
def encode (s : String) : List UInt8 := s.toList.flatMap encodeChar

/-- The character a code point names, if it is a scalar value. -/
def scalar? (n : Nat) : Option Char :=
  if n.isValidChar then some (Char.ofNat n) else none

/-- The first character of a byte sequence and the bytes after it, if the sequence starts with a
well-formed character. -/
def decodeChar? : List UInt8 → Option (Char × List UInt8)
  | [] => none
  | b :: rest =>
    let n := b.toNat
    if n < 0x80 then (scalar? n).map (·, rest)
    else if n < 0xC2 then none
    else if n < 0xE0 then
      match rest with
      | c :: rest' =>
        if isTail c then (scalar? ((n % 32) * 64 + c.toNat % 64)).map (·, rest') else none
      | _ => none
    else if n < 0xF0 then
      match rest with
      | c :: d :: rest' =>
        let v := (n % 16) * 4096 + (c.toNat % 64) * 64 + d.toNat % 64
        if isTail c && isTail d && 0x800 ≤ v then (scalar? v).map (·, rest') else none
      | _ => none
    else if n < 0xF5 then
      match rest with
      | c :: d :: e :: rest' =>
        let v := (n % 8) * 262144 + (c.toNat % 64) * 4096 + (d.toNat % 64) * 64 + e.toNat % 64
        if isTail c && isTail d && isTail e && 0x10000 ≤ v && v < 0x110000 then
          (scalar? v).map (·, rest')
        else none
      | _ => none
    else none

/-- Decodes a whole byte sequence, or `none` if it is not well-formed UTF-8. -/
def decode? (bytes : List UInt8) : Option String :=
  go bytes.length bytes []
where
  /-- Decodes with a bound on the number of characters, which the byte count gives. -/
  go : Nat → List UInt8 → List Char → Option String
    | _, [], acc => some (String.ofList acc.reverse)
    | 0, _ :: _, _ => none
    | fuel + 1, bytes@(_ :: _), acc =>
      match decodeChar? bytes with
      | some (c, rest) => go fuel rest (c :: acc)
      | none => none

/-- How many bytes after a lead byte may continue a sequence, and the range of the first of them
(later ones are `0x80` to `0xBF`). -/
def expected (lead : Nat) : Nat × Nat × Nat :=
  if 0xC2 ≤ lead && lead ≤ 0xDF then (1, 0x80, 0xBF)
  else if lead == 0xE0 then (2, 0xA0, 0xBF)
  else if lead == 0xED then (2, 0x80, 0x9F)
  else if 0xE1 ≤ lead && lead ≤ 0xEF then (2, 0x80, 0xBF)
  else if lead == 0xF0 then (3, 0x90, 0xBF)
  else if lead == 0xF4 then (3, 0x80, 0x8F)
  else if 0xF1 ≤ lead && lead ≤ 0xF3 then (3, 0x80, 0xBF)
  else (0, 0, 0)

/-- How many bytes after the lead byte continue a sequence that nonetheless ends too early. -/
def validTail (count lo hi : Nat) : List UInt8 → Nat
  | b :: rest =>
    if count = 0 then 0
    else if lo ≤ b.toNat && b.toNat ≤ hi then validTail (count - 1) 0x80 0xBF rest + 1
    else 0
  | [] => 0

/-- Decodes bytes, each maximal ill-formed part becoming one replacement character `U+FFFD`. -/
def decodeLossy (bytes : List UInt8) : String :=
  go bytes.length bytes []
where
  /-- Decodes with a bound on the number of steps, each of which takes at least one byte. -/
  go : Nat → List UInt8 → List Char → String
    | _, [], acc => String.ofList acc.reverse
    | 0, _ :: _, acc => String.ofList acc.reverse
    | fuel + 1, b :: rest, acc =>
      match decodeChar? (b :: rest) with
      | some (c, rest') => go fuel rest' (c :: acc)
      | none =>
        let (count, lo, hi) := expected b.toNat
        go fuel (rest.drop (validTail count lo hi rest)) ('\uFFFD' :: acc)

end Utf8

end LspBridge
