import LspBridge.Spring.Support
import LspBridge.Proofs.Framing
import Mathlib
/-!
# The root element's namespace follows the prolog grammar

`Spring.rootNamespace` finds the namespace of a document's root element without a full XML
reader. Here the documents it is meant for are written as syntax: byte order marks, then a prolog
of blanks, processing instructions `<?..?>`, comments `<!--..-->` and declarations `<!..>`, then
the root element's start tag and anything after it. For every such document the scanner returns
the value of the first attribute that declares the namespace of the element's prefix, `xmlns` for
a name without one and `xmlns:p` for `p:local`, and nothing when the tag has no such attribute
(`rootNamespace_follows_prolog`).

The internal subset of a declaration is where the scanner and XML part ways. The scanner follows
quotes and brackets through the whole declaration, comments and instructions of the subset
included, so a lone apostrophe in a comment there opens a quote that never closes
(`rootNamespace_apostrophe_in_subset_comment`). In the grammar here every quote of a declaration
opens or closes a literal, and brackets only open and close internal subsets: markup declarations
fit, and so do comments and instructions whose quotes come in pairs and that hold no bracket.
-/

namespace LspBridge

namespace Spring

open Text

/-! ### The grammar -/

/-- The two quotes of XML. -/
def IsQuote (c : Char) : Prop := c = '"' ∨ c = apostrophe

/-- A character of a name: no blank, and none of the characters that mark up a tag. -/
def NameChar (c : Char) : Prop :=
  isBlank c = false ∧ c ≠ '<' ∧ c ≠ '>' ∧ c ≠ '/' ∧ c ≠ '=' ∧ c ≠ '!' ∧ c ≠ '?' ∧ ¬ IsQuote c

/-- A literal: a quote, text without that quote, and the quote again. -/
structure Literal where
  quote : Char
  body : List Char
  isQuote : IsQuote quote
  unquoted : quote ∉ body

def Literal.text (l : Literal) : List Char := l.quote :: l.body ++ [l.quote]

/-- A piece of a declaration: one character, or a literal. -/
inductive Piece where
  | char (c : Char)
  | literal (l : Literal)

namespace Piece

def text : Piece → List Char
  | char c => [c]
  | literal l => l.text

/-- A piece that may stand at bracket depth `depth`: a character that is no quote and no bracket,
and `>` only inside brackets; or any literal. -/
def Fits (depth : Nat) : Piece → Prop
  | char c => ¬ IsQuote c ∧ c ≠ '[' ∧ c ≠ ']' ∧ (c = '>' → depth ≠ 0)
  | literal _ => True

end Piece

/-- A part of a declaration after its keyword: a piece, or an internal subset in brackets. -/
inductive DeclPart where
  | piece (p : Piece) (fits : p.Fits 0)
  | subset (pieces : List Piece) (fit : ∀ p ∈ pieces, p.Fits 1)

def DeclPart.text : DeclPart → List Char
  | piece p _ => p.text
  | subset pieces _ => '[' :: pieces.flatMap Piece.text ++ [']']

/-- What may stand before the root element: blanks, a processing instruction, a comment, or a
declaration, `<!` with a keyword of letters and then its parts. -/
inductive Misc where
  | space (blanks : List Char) (blank : ∀ c ∈ blanks, isBlank c = true)
  | instruction (body : List Char) (unclosed : ¬ ['?', '>'] <:+: body)
  | comment (body : List Char) (unclosed : ¬ ['-', '-', '>'] <:+: body)
  | declaration (keyword : List Char) (letters : ∀ c ∈ keyword, c.isAlpha = true)
      (named : keyword ≠ []) (parts : List DeclPart)

def Misc.text : Misc → List Char
  | space blanks _ => blanks
  | instruction body _ => '<' :: '?' :: body ++ ['?', '>']
  | comment body _ => '<' :: '!' :: '-' :: '-' :: body ++ ['-', '-', '>']
  | declaration keyword _ _ parts => '<' :: '!' :: keyword ++ parts.flatMap DeclPart.text ++ ['>']

/-- An attribute with the blanks around it: one blank or more, the name, blanks, `=`, blanks, and
the value as a literal. -/
structure Attribute where
  lead : List Char
  name : List Char
  before : List Char
  after : List Char
  value : Literal
  separated : lead ≠ []
  blank : ∀ c ∈ lead ++ before ++ after, isBlank c = true
  named : name ≠ []
  nameChars : ∀ c ∈ name, NameChar c

def Attribute.text (a : Attribute) : List Char :=
  a.lead ++ a.name ++ a.before ++ '=' :: a.after ++ a.value.text

/-- A start tag: `<`, the element's name, `p:local` with a prefix or `local` without, the
attributes, blanks, and `>`, or `/>` for an empty element. -/
structure StartTag where
  namePrefix : Option (List Char)
  localName : List Char
  attributes : List Attribute
  trail : List Char
  empty : Bool
  prefixed : ∀ p, namePrefix = some p → p ≠ [] ∧ ∀ c ∈ p, NameChar c ∧ c ≠ ':'
  named : localName ≠ []
  localChars : ∀ c ∈ localName, NameChar c ∧ c ≠ ':'
  blank : ∀ c ∈ trail, isBlank c = true

/-- The name of the attribute that declares the namespace of an element with this prefix. -/
def namespaceAttribute : Option (List Char) → List Char
  | none => ['x', 'm', 'l', 'n', 's']
  | some p => ['x', 'm', 'l', 'n', 's', ':'] ++ p

namespace StartTag

def name (t : StartTag) : List Char :=
  match t.namePrefix with
  | none => t.localName
  | some p => p ++ ':' :: t.localName

def ending (t : StartTag) : List Char := if t.empty then ['/', '>'] else ['>']

def text (t : StartTag) : List Char :=
  '<' :: t.name ++ t.attributes.flatMap Attribute.text ++ t.trail ++ t.ending

/-- The namespace the tag declares for its element: the value of its first attribute named for
the element's prefix. -/
def declaredNamespace (t : StartTag) : Option String :=
  (t.attributes.find? fun a => decide (a.name = namespaceAttribute t.namePrefix)).map
    fun a => String.ofList a.value.body

end StartTag

/-- A document of the grammar: byte order marks, the prolog, the root element's start tag, and
anything after it. -/
def documentText (boms : Nat) (prolog : List Misc) (tag : StartTag) (rest : List Char) :
    List Char :=
  List.replicate boms byteOrderMark ++ prolog.flatMap Misc.text ++ tag.text ++ rest

/-! ### The end of an instruction or a comment -/

/-- `afterFirst` finds the pattern right after `text` when no occurrence of it begins inside
`text`. -/
theorem afterFirst_append {pat : List Char} (nonempty : pat ≠ []) {text : List Char}
    (rest : List Char) (late : ∀ s, s ≠ [] → s <:+ text → ¬ pat <+: s ++ pat ++ rest) :
    afterFirst pat (text ++ pat ++ rest) = some rest := by
  induction text with
  | nil =>
    obtain ⟨c, cs, rfl⟩ := List.exists_cons_of_ne_nil nonempty
    simp [afterFirst, List.isPrefixOf_iff_prefix]
  | cons c text ih =>
    have here : ¬ pat <+: c :: text ++ pat ++ rest :=
      late _ (List.cons_ne_nil c text) (List.suffix_refl _)
    rw [List.cons_append, List.cons_append, afterFirst, if_neg]
    · exact ih fun s ne suffix => late s ne (suffix.trans (List.suffix_cons c text))
    · rwa [List.isPrefixOf_iff_prefix, ← List.cons_append, ← List.cons_append]

/-- A pattern that overlaps itself nowhere is found right after a text that does not hold it. -/
theorem afterFirst_of_not_infix {pat : List Char} (nonempty : pat ≠ [])
    (unbordered : ∀ s, s ≠ [] → s.length < pat.length → ¬ pat <+: s ++ pat)
    {body : List Char} (unclosed : ¬ pat <:+: body) (rest : List Char) :
    afterFirst pat (body ++ pat ++ rest) = some rest := by
  refine afterFirst_append nonempty rest fun s ne suffix early => ?_
  by_cases long : pat.length ≤ s.length
  · -- the occurrence lies inside `body`
    have inside : pat <+: s := List.prefix_of_prefix_length_le early
      (by rw [List.append_assoc]; exact List.prefix_append s (pat ++ rest)) long
    exact unclosed (inside.isInfix.trans suffix.isInfix)
  · -- the occurrence starts inside `body` and runs on into the pattern
    have across : pat <+: s ++ pat := List.prefix_of_prefix_length_le early
      (List.prefix_append (s ++ pat) rest) (by simp)
    exact unbordered s ne (by omega) across

theorem afterFirst_instruction {body : List Char} (unclosed : ¬ ['?', '>'] <:+: body)
    (rest : List Char) : afterFirst ['?', '>'] (body ++ ['?', '>'] ++ rest) = some rest := by
  refine afterFirst_of_not_infix (by simp) (fun s ne short => ?_) unclosed rest
  rcases s with _ | ⟨a, _ | ⟨b, t⟩⟩
  · exact absurd rfl ne
  · simp
  · simp only [List.length_cons, List.length_nil] at short
    omega

theorem afterFirst_comment {body : List Char} (unclosed : ¬ ['-', '-', '>'] <:+: body)
    (rest : List Char) :
    afterFirst ['-', '-', '>'] (body ++ ['-', '-', '>'] ++ rest) = some rest := by
  refine afterFirst_of_not_infix (by simp) (fun s ne short => ?_) unclosed rest
  rcases s with _ | ⟨a, _ | ⟨b, _ | ⟨c, t⟩⟩⟩
  · exact absurd rfl ne
  · simp
  · simp
  · simp only [List.length_cons, List.length_nil] at short
    omega

/-! ### Skipping a declaration -/

theorem isQuote_iff (c : Char) : (c == '"' || c == apostrophe) = true ↔ IsQuote c := by
  simp [IsQuote]

/-- Inside a quote the scanner passes over everything up to the same quote. -/
theorem skipDeclaration_quoted {q : Char} {body : List Char} (unquoted : q ∉ body) (depth : Nat)
    (rest : List Char) :
    skipDeclaration depth (some q) (body ++ q :: rest) = skipDeclaration depth none rest := by
  induction body with
  | nil => simp [skipDeclaration]
  | cons c body ih =>
    have other : c ≠ q := fun same => unquoted (same ▸ List.mem_cons_self)
    rw [List.cons_append, skipDeclaration]
    simp only [beq_iff_eq, other, if_false]
    exact ih fun mem => unquoted (List.mem_cons_of_mem c mem)

theorem skipDeclaration_literal (l : Literal) (depth : Nat) (rest : List Char) :
    skipDeclaration depth none (l.text ++ rest) = skipDeclaration depth none rest := by
  have opens : (l.quote == '"' || l.quote == apostrophe) = true := (isQuote_iff _).mpr l.isQuote
  simp only [Literal.text, List.cons_append, List.append_assoc, skipDeclaration, opens, if_true]
  exact skipDeclaration_quoted l.unquoted depth rest

/-- The scanner passes over a piece that fits the depth it is at, and keeps that depth. -/
theorem skipDeclaration_piece {depth : Nat} {p : Piece} (fits : p.Fits depth) (rest : List Char) :
    skipDeclaration depth none (p.text ++ rest) = skipDeclaration depth none rest := by
  cases p with
  | char c =>
    obtain ⟨plain, notOpen, notClose, closes⟩ := fits
    have notQuote : (c == '"' || c == apostrophe) = false := by
      rw [← Bool.not_eq_true, isQuote_iff]
      exact plain
    have stays : (c == '>' && depth == 0) = false := by
      by_cases angle : c = '>'
      · simp [closes angle]
      · simp [angle]
    simp [Piece.text, skipDeclaration, notQuote, notOpen, notClose, stays]
  | literal l => exact skipDeclaration_literal l depth rest

theorem skipDeclaration_pieces {depth : Nat} {ps : List Piece} (fit : ∀ p ∈ ps, p.Fits depth)
    (rest : List Char) :
    skipDeclaration depth none (ps.flatMap Piece.text ++ rest) =
      skipDeclaration depth none rest := by
  induction ps with
  | nil => rfl
  | cons p ps ih =>
    rw [List.flatMap_cons, List.append_assoc, skipDeclaration_piece (fit p List.mem_cons_self)]
    exact ih fun p' mem => fit p' (List.mem_cons_of_mem p mem)

/-- An internal subset is entered at depth one and left at depth zero. -/
theorem skipDeclaration_part (part : DeclPart) (rest : List Char) :
    skipDeclaration 0 none (part.text ++ rest) = skipDeclaration 0 none rest := by
  cases part with
  | piece p fits => exact skipDeclaration_piece fits rest
  | subset pieces fit =>
    have enter : skipDeclaration 0 none ('[' :: (pieces.flatMap Piece.text ++ ']' :: rest)) =
        skipDeclaration 1 none (pieces.flatMap Piece.text ++ ']' :: rest) := by
      simp [skipDeclaration, apostrophe]
    have leave : skipDeclaration 1 none (']' :: rest) = skipDeclaration 0 none rest := by
      simp [skipDeclaration, apostrophe]
    simp only [DeclPart.text, List.cons_append, List.nil_append, List.append_assoc]
    rw [enter, skipDeclaration_pieces fit, leave]

theorem skipDeclaration_parts (parts : List DeclPart) (rest : List Char) :
    skipDeclaration 0 none (parts.flatMap DeclPart.text ++ rest) = skipDeclaration 0 none rest := by
  induction parts with
  | nil => rfl
  | cons part parts ih =>
    rw [List.flatMap_cons, List.append_assoc, skipDeclaration_part, ih]

/-- A letter is a piece that fits outside brackets. -/
theorem fits_of_isAlpha {c : Char} (letter : c.isAlpha = true) : (Piece.char c).Fits 0 := by
  refine ⟨?_, ?_, ?_, ?_⟩
  · rintro (rfl | rfl) <;> revert letter <;> decide
  all_goals rintro rfl; revert letter; decide

/-- The scanner passes over a declaration's keyword and parts, and stops after its `>`. -/
theorem skipDeclaration_declaration {keyword : List Char}
    (letters : ∀ c ∈ keyword, c.isAlpha = true) (parts : List DeclPart) (rest : List Char) :
    skipDeclaration 0 none (keyword ++ parts.flatMap DeclPart.text ++ '>' :: rest) = some rest := by
  have word : keyword = (keyword.map Piece.char).flatMap Piece.text := by
    simp [List.flatMap_map, Piece.text]
  have fit : ∀ p ∈ keyword.map Piece.char, p.Fits 0 := by
    simp only [List.mem_map]
    rintro p ⟨c, mem, rfl⟩
    exact fits_of_isAlpha (letters c mem)
  rw [word, List.append_assoc, skipDeclaration_pieces fit, skipDeclaration_parts]
  simp [skipDeclaration, apostrophe]

/-! ### Reading the start tag -/

theorem dropBlank_blank_append {lead : List Char} (blank : ∀ c ∈ lead, isBlank c = true)
    (cs : List Char) : dropBlank (lead ++ cs) = dropBlank cs := by
  induction lead with
  | nil => rfl
  | cons c lead ih =>
    rw [List.cons_append, dropBlank, if_pos (blank c List.mem_cons_self)]
    exact ih fun c' mem => blank c' (List.mem_cons_of_mem c mem)

theorem isBlank_of_isQuote {c : Char} (quote : IsQuote c) : isBlank c = false := by
  rcases quote with rfl | rfl <;> decide

/-- A span stops at the first element that fails the test. -/
theorem span_append_cons {α : Type} {p : α → Bool} {l₁ l₂ : List α} {c : α}
    (pass : ∀ x ∈ l₁, p x = true) (stop : p c = false) :
    (l₁ ++ c :: l₂).span p = (l₁, c :: l₂) := by
  rw [List.span_eq_takeWhile_dropWhile, List.takeWhile_append_of_pos pass,
    List.dropWhile_append_of_pos pass, List.takeWhile_cons_of_neg (by simp [stop]),
    List.dropWhile_cons_of_neg (by simp [stop]), List.append_nil]

/-- An attribute declares the prefix's namespace exactly when it is named for it. -/
theorem declaresPrefix_iff (q : Option (List Char)) (attr : List Char) :
    declaresPrefix q attr = true ↔ attr = namespaceAttribute q := by
  unfold declaresPrefix
  by_cases xmlns : "xmlns".toList.isPrefixOf attr
  · obtain ⟨t, rfl⟩ := List.isPrefixOf_iff_prefix.mp xmlns
    rw [if_pos xmlns]
    -- what follows `xmlns` is nothing, a colon and a prefix, or something else
    rcases t with _ | ⟨c, t⟩
    · cases q <;> simp [namespaceAttribute]
    · by_cases colon : c = ':'
      · subst colon
        cases q <;> simp [namespaceAttribute]
      · cases q <;> simp [namespaceAttribute, colon]
  · rw [if_neg xmlns]
    have other : attr ≠ namespaceAttribute q := by
      rintro rfl
      cases q <;> simp [namespaceAttribute] at xmlns
    cases q <;> simp [other]

/-- One attribute: its value is the answer when it declares the prefix's namespace, and the
scan goes on after it otherwise. -/
theorem attributeNamespace_attribute (q : Option (List Char)) (a : Attribute) (fuel : Nat)
    (more : List Char) :
    attributeNamespace q (fuel + 1) (a.text ++ more) =
      if declaresPrefix q a.name then some (String.ofList a.value.body)
      else attributeNamespace q fuel more := by
  obtain ⟨n, ns, named⟩ := List.exists_cons_of_ne_nil a.named
  have first : NameChar n := a.nameChars n (by rw [named]; exact List.mem_cons_self)
  have blanks : ∀ x ∈ a.before ++ a.after, isBlank x = true := fun x mem =>
    a.blank x (by simp only [List.mem_append] at mem ⊢; tauto)
  -- the blanks in front go, and the name comes first
  have front : dropBlank (a.text ++ more) =
      a.name ++ a.before ++ '=' :: (a.after ++ a.value.text ++ more) := by
    have lead : ∀ x ∈ a.lead, isBlank x = true := fun x mem => a.blank x (by simp [mem])
    simp only [Attribute.text, List.append_assoc, List.cons_append]
    rw [dropBlank_blank_append lead, named, List.cons_append, dropBlank_of_not_blank first.1]
  -- the name runs up to `=`, and less the blanks before `=` it is the attribute's name
  have equals : (a.name ++ a.before ++ '=' :: (a.after ++ a.value.text ++ more)).span
      (· ≠ '=') = (a.name ++ a.before, '=' :: (a.after ++ a.value.text ++ more)) := by
    refine span_append_cons (fun x mem => ?_) (by simp)
    rcases List.mem_append.mp mem with inName | inBefore
    · simpa using (a.nameChars x inName).2.2.2.2.1
    · have blank := blanks x (List.mem_append_left _ inBefore)
      exact decide_eq_true fun same => absurd (same ▸ blank) (by decide)
  have trimmed : (dropBlank (a.name ++ a.before).reverse).reverse = a.name := by
    obtain ⟨m, ms, last⟩ := List.exists_cons_of_ne_nil (List.reverse_ne_nil_iff.mpr a.named)
    have ends : NameChar m := a.nameChars m (by
      rw [← List.mem_reverse, last]
      exact List.mem_cons_self)
    have backwards : ∀ x ∈ a.before.reverse, isBlank x = true := fun x mem =>
      blanks x (List.mem_append_left _ (List.mem_reverse.mp mem))
    rw [List.reverse_append, dropBlank_blank_append backwards, last,
      dropBlank_of_not_blank ends.1, ← last, List.reverse_reverse]
  have quoted : dropBlank (a.after ++ a.value.text ++ more) =
      a.value.quote :: (a.value.body ++ a.value.quote :: more) := by
    rw [List.append_assoc, dropBlank_blank_append fun x mem =>
      blanks x (List.mem_append_right _ mem)]
    simp only [Literal.text, List.cons_append, List.append_assoc]
    exact dropBlank_of_not_blank (isBlank_of_isQuote a.value.isQuote) _
  have closes : (a.value.body ++ a.value.quote :: more).span (· ≠ a.value.quote) =
      (a.value.body, a.value.quote :: more) :=
    span_append_cons (fun x mem => by
      have other : x ≠ a.value.quote := fun same => a.value.unquoted (same ▸ mem)
      simpa using other) (by simp)
  rw [attributeNamespace, front]
  split
  · next gone => simp at gone
  · next _ closed =>
    rw [named] at closed
    exact absurd (List.cons.inj closed).1 first.2.2.1
  · next _ closed =>
    rw [named] at closed
    exact absurd (List.cons.inj closed).1 first.2.2.2.1
  · rw [equals]
    dsimp only
    rw [quoted]
    dsimp only
    rw [if_pos ((isQuote_iff _).mpr a.value.isQuote), closes]
    dsimp only
    rw [trimmed]

/-- The end of the tag, blanks and then `>` or `/>`, ends the scan with no namespace. -/
theorem attributeNamespace_ending (q : Option (List Char)) (t : StartTag) (fuel : Nat)
    (rest : List Char) : attributeNamespace q (fuel + 1) (t.trail ++ t.ending ++ rest) = none := by
  rw [attributeNamespace, List.append_assoc, dropBlank_blank_append t.blank]
  cases empty : t.empty <;> simp [StartTag.ending, empty, dropBlank, isBlank]

/-- The run over the attributes: the scan answers with the first attribute that declares the
prefix's namespace, and with none when it reaches the end of the tag. -/
theorem attributeNamespace_attributes (q : Option (List Char)) {tail : List Char}
    (ends : ∀ fuel, attributeNamespace q (fuel + 1) tail = none) (attrs : List Attribute)
    (fuel : Nat) (enough : (attrs.flatMap Attribute.text).length < fuel) :
    attributeNamespace q fuel (attrs.flatMap Attribute.text ++ tail) =
      (attrs.find? fun a => declaresPrefix q a.name).map fun a => String.ofList a.value.body := by
  induction attrs generalizing fuel with
  | nil =>
    obtain ⟨fuel, rfl⟩ := Nat.exists_eq_add_one.mpr enough
    simpa using ends fuel
  | cons a attrs ih =>
    obtain ⟨fuel, rfl⟩ := Nat.exists_eq_add_one.mpr (Nat.lt_of_le_of_lt (Nat.zero_le _) enough)
    rw [List.flatMap_cons, List.append_assoc, attributeNamespace_attribute]
    by_cases declares : declaresPrefix q a.name
    · simp [declares]
    · rw [if_neg declares,
        List.find?_cons_of_neg (p := fun a : Attribute => declaresPrefix q a.name) declares]
      -- each attribute takes one round of the scan and at least one character
      have shown : a.text ≠ [] := by simp [Attribute.text, a.separated]
      have longer := List.length_pos_iff.mpr shown
      rw [List.flatMap_cons, List.length_append] at enough
      exact ih fuel (by omega)

namespace StartTag

/-- The characters of the element's name: those of its prefix, a colon and its local part. -/
theorem name_chars (t : StartTag) : ∀ c ∈ t.name, isBlank c = false ∧ c ≠ '/' ∧ c ≠ '>' := by
  intro c mem
  have named : ∀ c, NameChar c → isBlank c = false ∧ c ≠ '/' ∧ c ≠ '>' :=
    fun c chars => ⟨chars.1, chars.2.2.2.1, chars.2.2.1⟩
  unfold name at mem
  cases given : t.namePrefix with
  | none =>
    rw [given] at mem
    exact named c (t.localChars c mem).1
  | some p =>
    rw [given] at mem
    rcases List.mem_append.mp mem with inPrefix | inRest
    · exact named c ((t.prefixed p given).2 c inPrefix).1
    · rcases List.mem_cons.mp inRest with rfl | inLocal
      · decide
      · exact named c (t.localChars c inLocal).1

/-- The name starts with a character of a name. -/
theorem name_head (t : StartTag) : ∃ c cs, t.name = c :: cs ∧ NameChar c := by
  obtain ⟨l, ls, named⟩ := List.exists_cons_of_ne_nil t.named
  unfold name
  cases given : t.namePrefix with
  | none => exact ⟨l, ls, named, (t.localChars l (by simp [named])).1⟩
  | some p =>
    obtain ⟨nonempty, chars⟩ := t.prefixed p given
    obtain ⟨c, cs, rfl⟩ := List.exists_cons_of_ne_nil nonempty
    exact ⟨c, cs ++ ':' :: t.localName, rfl, (chars c List.mem_cons_self).1⟩

/-- Right after the name comes a blank, `/` or `>`. -/
theorem after_name (t : StartTag) (rest : List Char) :
    ∃ c more, t.attributes.flatMap Attribute.text ++ (t.trail ++ t.ending ++ rest) = c :: more ∧
      (isBlank c = true ∨ c = '/' ∨ c = '>') := by
  cases attrs : t.attributes with
  | cons a as =>
    obtain ⟨l, ls, lead⟩ := List.exists_cons_of_ne_nil a.separated
    exact ⟨l, ls ++ a.name ++ a.before ++ '=' :: a.after ++ a.value.text ++
      as.flatMap Attribute.text ++ t.trail ++ t.ending ++ rest,
      by simp [Attribute.text, lead], .inl (a.blank l (by simp [lead]))⟩
  | nil =>
    cases trail : t.trail with
    | cons b bs =>
      exact ⟨b, bs ++ t.ending ++ rest, by simp, .inl (t.blank b (by simp [trail]))⟩
    | nil =>
      cases empty : t.empty
      · exact ⟨'>', rest, by simp [ending, empty], by simp⟩
      · exact ⟨'/', '>' :: rest, by simp [ending, empty], by simp⟩

/-- The scanner's reading of the element's prefix: what stands before the first colon of the
name, if it has one. -/
theorem prefix_of_name (t : StartTag) :
    (if t.name.contains ':' then some (t.name.takeWhile (· ≠ ':')) else none) = t.namePrefix := by
  unfold name
  cases given : t.namePrefix with
  | none =>
    have noColon : ':' ∉ t.localName := fun mem => (t.localChars ':' mem).2 rfl
    simp [noColon]
  | some p =>
    have noColon : ∀ c ∈ p, decide (c ≠ ':') = true := fun c mem =>
      decide_eq_true ((t.prefixed p given).2 c mem).2
    rw [List.takeWhile_append_of_pos noColon, List.takeWhile_cons_of_neg (by simp),
      List.append_nil]
    simp

/-- The tag's namespace as the scan over its attributes finds it. -/
theorem declaredNamespace_eq (t : StartTag) :
    t.declaredNamespace = (t.attributes.find? fun a => declaresPrefix t.namePrefix a.name).map
      fun a => String.ofList a.value.body := by
  have same : (fun a : Attribute => declaresPrefix t.namePrefix a.name) =
      fun a => decide (a.name = namespaceAttribute t.namePrefix) := by
    funext a
    exact Bool.eq_iff_iff.mpr (by rw [declaresPrefix_iff, decide_eq_true_iff])
  rw [declaredNamespace, same]

end StartTag

/-- The start tag, read from its name on: the namespace it declares for its element. -/
theorem startTagNamespace_tag (t : StartTag) (rest : List Char) :
    startTagNamespace
      (t.name ++ (t.attributes.flatMap Attribute.text ++ (t.trail ++ t.ending ++ rest))) =
      t.declaredNamespace := by
  obtain ⟨c, more, after, stops⟩ := t.after_name rest
  obtain ⟨n, ns, named, -⟩ := t.name_head
  have name : (t.name ++ c :: more).takeWhile (fun c => !(isBlank c || c == '/' || c == '>')) =
      t.name := by
    rw [List.takeWhile_append_of_pos (fun x mem => by simp [t.name_chars x mem]),
      List.takeWhile_cons_of_neg, List.append_nil]
    rcases stops with stop | rfl | rfl
    · simp [stop]
    all_goals simp
  -- the name is neither empty nor the whole of the tag
  have kept : (t.name.length == (t.name ++ c :: more).length || t.name.isEmpty) = false := by
    rw [Bool.or_eq_false_iff, List.length_append, List.length_cons]
    exact ⟨beq_false_of_ne (by omega), by simp [named]⟩
  -- the scan of the attributes has a round for each of them, and more
  have enough : (t.attributes.flatMap Attribute.text).length < (t.name ++ c :: more).length := by
    have total := congrArg List.length after
    simp only [List.length_append, List.length_cons, named] at total ⊢
    omega
  have scan := attributeNamespace_attributes t.namePrefix (attributeNamespace_ending _ t · rest)
    t.attributes _ enough
  rw [after] at scan
  rw [after]
  unfold startTagNamespace
  simp only [name]
  rw [if_neg (by simp only [kept]; decide), StartTag.prefix_of_name, List.drop_left, scan,
    StartTag.declaredNamespace_eq]

/-! ### The prolog -/

theorem StartTag.text_append (t : StartTag) (rest : List Char) :
    t.text ++ rest =
      '<' ::
        (t.name ++ (t.attributes.flatMap Attribute.text ++ (t.trail ++ t.ending ++ rest))) := by
  simp [StartTag.text]

/-- Blanks in front do not change what the prolog scanner reads. -/
theorem prologNamespace_blank_append {lead : List Char} (blank : ∀ c ∈ lead, isBlank c = true)
    (fuel : Nat) (cs : List Char) :
    prologNamespace (fuel + 1) (lead ++ cs) = prologNamespace (fuel + 1) cs := by
  rw [prologNamespace, prologNamespace, dropBlank_blank_append blank]

/-- An instruction, a comment or a declaration takes one round of the scan, which goes on right
after it. -/
theorem prologNamespace_markup (m : Misc) (markup : ∀ blanks blank, m ≠ .space blanks blank)
    (fuel : Nat) (more : List Char) :
    prologNamespace (fuel + 1) (m.text ++ more) = prologNamespace fuel more := by
  have angle : isBlank '<' = false := by decide
  cases m with
  | space blanks blank => exact absurd rfl (markup blanks blank)
  | instruction body unclosed =>
    have front : (Misc.instruction body unclosed).text ++ more =
        '<' :: '?' :: (body ++ ['?', '>'] ++ more) := by simp [Misc.text]
    rw [front]
    simp only [prologNamespace, dropBlank_of_not_blank angle]
    rw [afterFirst_instruction unclosed]
    rfl
  | comment body unclosed =>
    have front : (Misc.comment body unclosed).text ++ more =
        '<' :: '!' :: '-' :: '-' :: (body ++ ['-', '-', '>'] ++ more) := by simp [Misc.text]
    rw [front]
    simp only [prologNamespace, dropBlank_of_not_blank angle]
    rw [afterFirst_comment unclosed]
    rfl
  | declaration keyword letters named parts =>
    -- a keyword of letters does not start a comment
    obtain ⟨k, ks, rfl⟩ := List.exists_cons_of_ne_nil named
    have notDash : k ≠ '-' := fun dash =>
      absurd (letters k List.mem_cons_self) (by rw [dash]; decide)
    have skip := skipDeclaration_declaration letters parts more
    simp only [List.cons_append, List.append_assoc] at skip
    simp [Misc.text, prologNamespace, dropBlank_of_not_blank angle, notDash, skip]

/-- The run over the prolog: past its items, however many blanks stand between them, the scan
reaches the start tag and reads its namespace. -/
theorem prologNamespace_prolog (tag : StartTag) (rest : List Char) (prolog : List Misc) :
    ∀ lead : List Char, (∀ c ∈ lead, isBlank c = true) → ∀ fuel,
      (prolog.flatMap Misc.text).length < fuel →
      prologNamespace fuel (lead ++ prolog.flatMap Misc.text ++ tag.text ++ rest) =
        tag.declaredNamespace := by
  induction prolog with
  | nil =>
    intro lead blank fuel enough
    obtain ⟨fuel, rfl⟩ := Nat.exists_eq_add_one.mpr enough
    obtain ⟨n, ns, named, first⟩ := tag.name_head
    rw [List.flatMap_nil, List.append_nil, List.append_assoc, prologNamespace_blank_append blank,
      StartTag.text_append, named, List.cons_append]
    -- the name starts neither an instruction nor a declaration
    have notQuestion : n ≠ '?' := first.2.2.2.2.2.2.1
    have notBang : n ≠ '!' := first.2.2.2.2.2.1
    have read := startTagNamespace_tag tag rest
    rw [named] at read
    simp only [prologNamespace, dropBlank_of_not_blank (show isBlank '<' = false by decide)]
    simpa [notQuestion, notBang] using read
  | cons m prolog ih =>
    intro lead blank fuel enough
    rw [List.flatMap_cons] at enough ⊢
    by_cases spaced : ∃ blanks blank', m = .space blanks blank'
    · -- blanks join those in front, and the round is not over
      obtain ⟨blanks, blank', rfl⟩ := spaced
      have joined : ∀ c ∈ lead ++ blanks, isBlank c = true := fun c mem =>
        (List.mem_append.mp mem).elim (blank c) (blank' c)
      have shorter : (prolog.flatMap Misc.text).length < fuel := by
        rw [List.length_append] at enough
        omega
      rw [Misc.text, ← List.append_assoc]
      exact ih (lead ++ blanks) joined fuel shorter
    · -- markup takes a round of the scan and at least one character
      have markup : ∀ blanks blank', m ≠ .space blanks blank' := fun blanks blank' same =>
        spaced ⟨blanks, blank', same⟩
      have opened : m.text ≠ [] := by
        cases m <;> simp_all [Misc.text]
      obtain ⟨fuel, rfl⟩ := Nat.exists_eq_add_one.mpr (Nat.lt_of_le_of_lt (Nat.zero_le _) enough)
      have shorter : (prolog.flatMap Misc.text).length < fuel := by
        have := List.length_pos_iff.mpr opened
        rw [List.length_append] at enough
        omega
      have shape : lead ++ (m.text ++ prolog.flatMap Misc.text) ++ tag.text ++ rest =
          lead ++ (m.text ++ ([] ++ prolog.flatMap Misc.text ++ tag.text ++ rest)) := by
        simp
      rw [shape, prologNamespace_blank_append blank, prologNamespace_markup m markup]
      exact ih [] (by simp) fuel shorter

/-! ### The document -/

/-- After its byte order marks a document of the grammar starts with a blank or `<`. -/
theorem head_after_marks (prolog : List Misc) (tag : StartTag) (rest : List Char) :
    ∃ c more, prolog.flatMap Misc.text ++ tag.text ++ rest = c :: more ∧
      (isBlank c = true ∨ c = '<') := by
  induction prolog with
  | nil => exact ⟨'<', _, rfl, .inr rfl⟩
  | cons m prolog ih =>
    cases m with
    | space blanks blank =>
      cases blanks with
      | nil => exact ih
      | cons b bs => exact ⟨b, _, rfl, .inl (blank b List.mem_cons_self)⟩
    | instruction body unclosed => exact ⟨'<', _, rfl, .inr rfl⟩
    | comment body unclosed => exact ⟨'<', _, rfl, .inr rfl⟩
    | declaration keyword letters named parts => exact ⟨'<', _, rfl, .inr rfl⟩

/-- Root namespace detection follows the prolog grammar: for every document of byte order marks,
a prolog of blanks, instructions, comments and declarations, and a start tag, the scanner returns
the value of the tag's first attribute named `xmlns`, or `xmlns:p` when the element's name has the
prefix `p`, and nothing when there is none. -/
theorem rootNamespace_follows_prolog (boms : Nat) (prolog : List Misc) (tag : StartTag)
    (rest : List Char) :
    rootNamespace (String.ofList (documentText boms prolog tag rest)) = tag.declaredNamespace := by
  obtain ⟨c, more, front, first⟩ := head_after_marks prolog tag rest
  have unmarked : (c == byteOrderMark) = false := by
    rcases first with blank | rfl
    · exact beq_false_of_ne fun same => absurd (same ▸ blank) (by decide)
    · decide
  -- the byte order marks go, and the prolog comes first
  have marks : (documentText boms prolog tag rest).dropWhile (· == byteOrderMark) =
      prolog.flatMap Misc.text ++ tag.text ++ rest := by
    rw [documentText, List.append_assoc, List.append_assoc,
      List.dropWhile_append_of_pos (by simp), ← List.append_assoc, front,
      List.dropWhile_cons_of_neg (by simp [unmarked])]
  have enough :
      (prolog.flatMap Misc.text).length < (documentText boms prolog tag rest).length + 1 := by
    simp only [documentText, List.length_append]
    omega
  have scan := prologNamespace_prolog tag rest prolog [] (by simp) _ enough
  rw [List.nil_append] at scan
  rw [rootNamespace, String.toList_ofList, String.length_ofList, marks, scan]

example : rootNamespace "<!DOCTYPE beans [<!-- the beans -->]><beans xmlns=\"http://www.springframework.org/schema/beans\"/>" =
    some "http://www.springframework.org/schema/beans" := by
  decide +kernel

/-- A lone apostrophe in a comment of the internal subset, which XML allows: the scanner takes it
for the start of a literal that runs to the end of the input, and finds no namespace. -/
theorem rootNamespace_apostrophe_in_subset_comment :
    rootNamespace "<!DOCTYPE beans [<!-- the app\x27s beans -->]><beans xmlns=\"http://www.springframework.org/schema/beans\"/>" =
      none := by
  decide +kernel

end Spring

end LspBridge
