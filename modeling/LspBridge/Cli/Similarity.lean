/-!
# Similarity of words

The Jaro similarity of two words, used to suggest a known option for a mistyped one.

Characters of the two words match when they are equal, not already matched, and no further apart
than half the longer length less one; each character of the first word takes the first such
character of the second. With `m` matches and `t` half the number of matched pairs that are out of
order, the similarity is `(m / |a| + m / |b| + (m - t) / m) / 3`, and 0 without matches (1 for two
empty words). It is kept as an exact fraction, so that comparisons do not round.
-/

namespace LspBridge

namespace Cli

/-- A similarity as a fraction: numerator and denominator.

`num`: the numerator. `den`: the denominator, positive. -/
structure Score where
  num : Nat
  den : Nat
  deriving DecidableEq, Repr, Inhabited

namespace Score

/-- Whether one score is below another. -/
def lt (a b : Score) : Bool := a.num * b.den < b.num * a.den

/-- Whether a score is above seven tenths. -/
def aboveSevenTenths (a : Score) : Bool := 7 * a.den < 10 * a.num

end Score

/-- The characters of the second word matched by those of the first, marked in order, and the
marks of the first word. -/
def matchFlags (a b : List Char) : List Bool × List Bool :=
  let range := (max a.length b.length / 2) - 1
  let step := fun (acc : List Bool × List Bool) (ic : Nat × Char) =>
    let (aFlags, bFlags) := acc
    let (i, ch) := ic
    let lo := i - range
    let hi := min b.length (i + range + 1)
    let found := (List.range hi).find? fun j =>
      lo ≤ j && b[j]? == some ch && bFlags[j]? == some false
    match found with
    | some j => (aFlags ++ [true], bFlags.set j true)
    | none => (aFlags ++ [false], bFlags)
  (a.zipIdx.map fun (ch, i) => (i, ch)).foldl step ([], b.map fun _ => false)

/-- The Jaro similarity of two words. -/
def jaro (a b : List Char) : Score :=
  if a.isEmpty && b.isEmpty then ⟨1, 1⟩
  else if a.isEmpty || b.isEmpty then ⟨0, 1⟩
  else
    let (aFlags, bFlags) := matchFlags a b
    let aMatched := (a.zip aFlags).filterMap fun (c, f) => if f then some c else none
    let bMatched := (b.zip bFlags).filterMap fun (c, f) => if f then some c else none
    let m := aMatched.length
    if m == 0 then ⟨0, 1⟩
    else
      let t := ((aMatched.zip bMatched).filter fun (x, y) => x != y).length / 2
      let la := a.length
      let lb := b.length
      ⟨m * lb * m + m * la * m + (m - t) * la * lb, 3 * la * lb * m⟩

/-- The most similar candidate above seven tenths; of equally similar ones, the last. -/
def suggestion? (word : String) (candidates : List String) : Option String :=
  let scored := candidates.filterMap fun c =>
    let s := jaro word.toList c.toList
    if s.aboveSevenTenths then some (c, s) else none
  (scored.foldl (fun best (c, s) => match best with
    | some (_, b) => if s.lt b then best else some (c, s)
    | none => some (c, s)) none).map Prod.fst

end Cli

end LspBridge
