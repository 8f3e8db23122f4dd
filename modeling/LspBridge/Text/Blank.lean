/-!
# Blank characters

The characters of the Unicode `White_Space` property: the ASCII blanks from tab to carriage
return and the space, next line, no-break space, ogham space mark, the typographic spaces from en
quad to hair space, line and paragraph separator, narrow no-break space, medium mathematical space
and ideographic space. Trimming a text removes such characters from both ends.
-/

namespace LspBridge

namespace Text

/-- Whether a character has the `White_Space` property. -/
def isBlank (c : Char) : Bool :=
  let n := c.toNat
  (0x09 ≤ n && n ≤ 0x0D) || n == 0x20 || n == 0x85 || n == 0xA0 || n == 0x1680 ||
    (0x2000 ≤ n && n ≤ 0x200A) || n == 0x2028 || n == 0x2029 || n == 0x202F || n == 0x205F ||
    n == 0x3000

/-- Drops blank characters from the front. -/
def dropBlank : List Char → List Char
  | [] => []
  | c :: rest => if isBlank c then dropBlank rest else c :: rest

/-- A text without the blank characters at either end. -/
def trimBlank (s : String) : String :=
  String.ofList (dropBlank (dropBlank s.toList).reverse).reverse

/-- Every ASCII blank of core's class is a blank here. -/
theorem isBlank_of_isWhitespace (c : Char) (h : c.isWhitespace = true) : isBlank c = true := by
  simp only [Char.isWhitespace, Bool.or_eq_true, decide_eq_true_eq] at h
  simp only [isBlank, Bool.or_eq_true, Bool.and_eq_true, decide_eq_true_eq, beq_iff_eq]
  rcases h with ((h | h) | h) | h <;> simp [h]

end Text

end LspBridge
