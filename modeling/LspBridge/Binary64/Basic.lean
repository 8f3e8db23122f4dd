/-!
# Finite doubles as exact rationals

A finite IEEE 754 double is kept as a sign, an integral significand and the exponent of the
significand's last bit, so that its value is `± significand * 2 ^ exponent` with no error at all.
Each operation is exact rational arithmetic followed by a single rounding to the nearest double,
a tie going to the even significand: this is what the hardware computes for `*`, `/` and for the
conversion of an integer.

A value is *normal* when its significand has 53 bits and *subnormal* when its significand is
shorter and its exponent is the least one, `minExponent`.
-/

namespace LspBridge

/-- A finite double, worth `(-1) ^ negative * significand * 2 ^ exponent`.

`negative`: the sign bit; zero has one too. `significand`: the significand, hidden bit included:
below `2 ^ 53`. `exponent`: the exponent of the significand's last bit, at least `minExponent`. -/
structure Binary64 where
  negative : Bool
  significand : Nat
  exponent : Int
  deriving DecidableEq, Repr

namespace Binary64

/-- The exponent of the last bit of a subnormal double, the least exponent there is. -/
def minExponent : Int := -1074

/-- The exponent of the last bit of the largest finite doubles. -/
def maxExponent : Int := 971

/-- Positive zero. -/
def zero : Binary64 := ⟨false, 0, minExponent⟩

/-- The same magnitude with the other sign. -/
def neg (x : Binary64) : Binary64 := { x with negative := !x.negative }

/-- Whether the value is zero, of either sign. -/
def isZero (x : Binary64) : Bool := x.significand == 0

/-- `den * 2 ^ l ≤ num`, for an exponent of either sign. -/
def scaledLe (den : Nat) (l : Int) (num : Nat) : Bool :=
  if 0 ≤ l then den * Nat.pow 2 l.toNat ≤ num else den ≤ num * Nat.pow 2 (-l).toNat

/-- The largest `l` with `den * 2 ^ l ≤ num`, for positive `num` and `den`. The two bit lengths
put it at `log2 num - log2 den` or one below. -/
def log2Floor (num den : Nat) : Int :=
  let l : Int := (Nat.log2 num : Int) - (Nat.log2 den : Int)
  if scaledLe den l num then l else l - 1

/-- `n / d` rounded to the nearest integer, a tie going to the even one. -/
def roundHalfEven (n d : Nat) : Nat :=
  let q := n / d
  let r := n % d
  if 2 * r < d then q
  else if d < 2 * r then q + 1
  else if q % 2 = 0 then q else q + 1

/-- `num / (den * 2 ^ e)` rounded to the nearest integer, ties to even. -/
def roundScaled (num den : Nat) (e : Int) : Nat :=
  if 0 ≤ e then roundHalfEven num (den * Nat.pow 2 e.toNat)
  else roundHalfEven (num * Nat.pow 2 (-e).toNat) den

/-- The double nearest to `num / den` (for `den > 0`) with the given sign, ties to an even
significand, or `none` when the magnitude rounds beyond the largest finite double. The last bit
sits at `2 ^ e` with `e` the larger of `minExponent` and `log2 (num / den) - 52`; a significand
that rounds up to `2 ^ 53` moves to the next exponent. -/
def ofRatio? (negative : Bool) (num den : Nat) : Option Binary64 :=
  if num = 0 then some ⟨negative, 0, minExponent⟩
  else
    let e := max minExponent (log2Floor num den - 52)
    let q := roundScaled num den e
    let (q, e) := if q = Nat.pow 2 53 then (Nat.pow 2 52, e + 1) else (q, e)
    if maxExponent < e then none else some ⟨negative, q, e⟩

/-- The value as a fraction `num / den` of its magnitude. -/
def toRatio (x : Binary64) : Nat × Nat :=
  if 0 ≤ x.exponent then (x.significand * Nat.pow 2 x.exponent.toNat, 1)
  else (x.significand, Nat.pow 2 (-x.exponent).toNat)

/-- The double nearest to a natural number. Every natural number below `2 ^ 1024` has one. -/
def ofNat (n : Nat) : Binary64 := (ofRatio? false n 1).getD zero

/-- The rounded product, or `none` when it overflows. -/
def mul? (x y : Binary64) : Option Binary64 :=
  let (a, b) := x.toRatio
  let (c, d) := y.toRatio
  ofRatio? (x.negative != y.negative) (a * c) (b * d)

/-- The rounded quotient by a nonzero double, or `none` when it overflows. -/
def div? (x y : Binary64) : Option Binary64 :=
  let (a, b) := x.toRatio
  let (c, d) := y.toRatio
  ofRatio? (x.negative != y.negative) (a * d) (b * c)

/-- The double nearest to `10 ^ k`, as the decimal literal `1ek` denotes it. -/
def pow10 (k : Nat) : Binary64 := ofNat (Nat.pow 10 k)

end Binary64

end LspBridge
