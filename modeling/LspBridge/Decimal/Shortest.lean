import LspBridge.Binary64.Basic
/-!
# Shortest decimal of a double

The decimal written for a double is the one with the fewest significant digits that reads back as
that double; of those, the nearest to it; of two equally near, the one with the even last digit.

A decimal reads back as the double `m * 2 ^ e` when it lies in the interval of reals that round
to it: half a unit of the last place on either side, the lower half being half as wide when `m`
is the least significand of a binade above the subnormals, both ends included exactly when `m` is
even. If some decimal of `n` digits lies in that interval, then one of the double's two neighbours
on the grid of `n`-digit decimals does, so for `n = 1, 2, …` only those two are tried.
-/

namespace LspBridge

namespace Decimal

/-- The number of decimal digits of `n`, counting `0` as one digit. -/
def digitCount (n : Nat) : Nat :=
  if h : n < 10 then 1 else digitCount (n / 10) + 1
termination_by n
decreasing_by omega

/-- `a * 10 ^ p ≤ b * 2 ^ q`, decided in exact arithmetic for exponents of either sign. -/
def scaledLe (a : Nat) (p : Int) (b : Nat) (q : Int) : Bool :=
  a * Nat.pow 10 p.toNat * Nat.pow 2 (-q).toNat ≤ b * Nat.pow 2 q.toNat * Nat.pow 10 (-p).toNat

/-- The largest `k` with `10 ^ k * den ≤ num`, for positive `num` and `den`: the digit counts put
it at their difference or one below. -/
def log10Floor (num den : Nat) : Int :=
  let k : Int := (digitCount num : Int) - (digitCount den : Int)
  let fits := if 0 ≤ k then den * Nat.pow 10 k.toNat ≤ num else den ≤ num * Nat.pow 10 (-k).toNat
  if fits then k else k - 1

/-- A decimal `digits * 10 ^ exponent`.

`digits`: the significant digits as a number. `exponent`: the power of ten of the last digit. -/
structure Scientific where
  digits : Nat
  exponent : Int
  deriving DecidableEq, Repr

/-- Drops trailing zeros of the digits into the exponent; zero itself is left alone. -/
def Scientific.trim (s : Scientific) : Scientific :=
  if h : s.digits ≠ 0 ∧ s.digits % 10 = 0 then
    Scientific.trim ⟨s.digits / 10, s.exponent + 1⟩
  else s
termination_by s.digits
decreasing_by omega

/-- The interval of reals that round to the positive double `m * 2 ^ e`, scaled by `2 ^ (2 - e)` so
that its ends are the integers `low` and `high` and the double itself is `4 * m`.

`low`: the lower end, times `2 ^ (2 - e)`. `high`: the upper end, times `2 ^ (2 - e)`. `closed`:
whether the ends themselves round to the double. -/
structure RoundingInterval where
  low : Nat
  high : Nat
  closed : Bool

/-- The rounding interval of `m * 2 ^ e`. -/
def RoundingInterval.of (m : Nat) (e : Int) : RoundingInterval :=
  let narrowBelow := m = Nat.pow 2 52 ∧ Binary64.minExponent < e
  { low := if narrowBelow then 4 * m - 1 else 4 * m - 2
    high := 4 * m + 2
    closed := m % 2 = 0 }

/-- Whether the decimal `c * 10 ^ j` lies in the interval of the double with exponent `e`. -/
def RoundingInterval.contains (r : RoundingInterval) (e : Int) (c : Nat) (j : Int) : Bool :=
  let t := e - 2
  let aboveLow := if r.closed then scaledLe r.low (-j) c (-t) else
    !(scaledLe c j r.low t)
  let belowHigh := if r.closed then scaledLe c j r.high t else
    !(scaledLe r.high (-j) c (-t))
  aboveLow && belowHigh

/-- The decimal of `digits` significant digits nearest to the positive double `m * 2 ^ e` that
rounds back to it, if there is one: the floor and the ceiling of the double on that grid are tried,
the nearer first. -/
def nearestOfLength (m : Nat) (e : Int) (top : Int) (digits : Nat) : Option Scientific :=
  let r := RoundingInterval.of m e
  let j : Int := top + 1 - digits
  let t := e - 2
  -- value = 4m * 2^t; below = floor (value / 10^j)
  let num := 4 * m * Nat.pow 2 t.toNat * Nat.pow 10 (-j).toNat
  let den := Nat.pow 2 (-t).toNat * Nat.pow 10 j.toNat
  let below := num / den
  let above := below + 1
  let okBelow := r.contains e below j
  let okAbove := r.contains e above j
  if okBelow && okAbove then
    -- compare 2 * value with (2 * below + 1) * 10 ^ j
    let twice := 2 * num
    let mid := (2 * below + 1) * den
    if twice < mid then some ⟨below, j⟩
    else if mid < twice then some ⟨above, j⟩
    else if below % 2 = 0 then some ⟨below, j⟩ else some ⟨above, j⟩
  else if okBelow then some ⟨below, j⟩
  else if okAbove then some ⟨above, j⟩
  else none

/-- Tries lengths `digits, digits + 1, …` up to seventeen, which always suffices. -/
def searchLength (m : Nat) (e : Int) (top : Int) (digits : Nat) (fuel : Nat) : Scientific :=
  match fuel with
  | 0 => ⟨m, e⟩
  | fuel + 1 =>
    match nearestOfLength m e top digits with
    | some s => s
    | none => searchLength m e top (digits + 1) fuel

/-- The shortest decimal that reads back as the positive double `m * 2 ^ e`, nearest of those,
ties to an even last digit, with trailing zeros moved into the exponent. -/
def shortest (m : Nat) (e : Int) : Scientific :=
  let (num, den) := Binary64.toRatio ⟨false, m, e⟩
  let top := log10Floor num den
  (searchLength m e top 1 17).trim

end Decimal

end LspBridge
