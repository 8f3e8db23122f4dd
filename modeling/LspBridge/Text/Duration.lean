/-!
# Durations as text

A duration of whole milliseconds written the way diagnostics show it: whole seconds with a decimal
fraction and `s` from one second on (`1s`, `1.5s`, `61.001s`), milliseconds below (`100ms`), and
`0ns` for nothing. The fraction has no trailing zeros.
-/

namespace LspBridge

namespace Text

/-- The digits of `frac` as a fraction of `1000`, without trailing zeros. -/
def millisFraction (frac : Nat) : String :=
  let digits := [frac / 100, frac / 10 % 10, frac % 10]
  let kept := (digits.reverse.dropWhile (· == 0)).reverse
  String.ofList (kept.map fun d => Char.ofNat (0x30 + d))

/-- A duration of `ms` milliseconds as text. -/
def durationText (ms : Nat) : String :=
  if ms = 0 then "0ns"
  else if ms < 1000 then toString ms ++ "ms"
  else
    let frac := millisFraction (ms % 1000)
    toString (ms / 1000) ++ (if frac.isEmpty then "" else "." ++ frac) ++ "s"

end Text

end LspBridge
