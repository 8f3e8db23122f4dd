import LspBridge.Text.Invisible
/-!
# Quoted strings

A string shown between double quotes, as error messages quote a header line or a value: the quote
and the backslash get a backslash, NUL, tab, carriage return and line feed are written `\0`, `\t`,
`\r`, `\n`, an invisible character (`Text.isInvisible`) is written by its code point as `\u{hex}`
in lower-case hexadecimal without leading zeros, and every other character stands as it is.
-/

namespace LspBridge

namespace Text

/-- The lower-case hexadecimal digits of a number, without leading zeros. -/
def hexDigits (n : Nat) : List Char :=
  (Nat.toDigits 16 n)

/-- The quoted form of one character. -/
def quoteChar (c : Char) : List Char :=
  if c = '\x00' then ['\\', '0']
  else if c = '\t' then ['\\', 't']
  else if c = '\r' then ['\\', 'r']
  else if c = '\n' then ['\\', 'n']
  else if c = '\\' then ['\\', '\\']
  else if c = '"' then ['\\', '"']
  else if isInvisible c then ['\\', 'u', '\x7b'] ++ hexDigits c.toNat ++ ['\x7d']
  else [c]

/-- A string between double quotes, escaped as the module comment says. -/
def quoted (s : String) : String :=
  String.ofList ('"' :: s.toList.flatMap quoteChar ++ ['"'])

end Text

end LspBridge
