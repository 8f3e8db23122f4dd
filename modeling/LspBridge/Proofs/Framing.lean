import LspBridge.Rpc.Frame
import Mathlib
/-!
# Frames read back as they were written

Writing a frame puts `Content-Length: N`, two line endings and the payload on the wire. This file
shows that a reader of a finished stream gives back exactly what a writer put there: fed the
frames of any list of payloads that fit its limit, `Frame.readAll` returns the payloads in order
and a clean end. Cut the stream after any number of bytes and it returns the payloads whose frames
fit wholly before the cut, then a clean end if the cut falls between two frames and a truncated
end otherwise; a cut never makes the reader fail on a header.

The header a writer produces is ASCII, so its bytes decode back to it, its line holds no line
feed and no carriage return, and its digits read back as the length they print (`parseLength?`
takes numbers below `2 ^ 64`, as the length of a payload in memory is).
-/

namespace LspBridge

namespace Utf8

theorem encode_append (s t : String) : encode (s ++ t) = encode s ++ encode t := by
  simp [encode, String.toList_append, List.flatMap_append]

/-- The one byte of a character below `U+0080`. -/
theorem encodeChar_of_lt {c : Char} (ascii : c.toNat < 0x80) :
    encodeChar c = [c.toNat.toUInt8] := by
  simp [encodeChar, ascii]

theorem flatMap_encodeChar_of_ascii {cs : List Char} (ascii : ∀ c ∈ cs, c.toNat < 0x80) :
    cs.flatMap encodeChar = cs.map fun c => c.toNat.toUInt8 := by
  induction cs with
  | nil => rfl
  | cons c rest ih =>
      have head : encodeChar c = [c.toNat.toUInt8] := encodeChar_of_lt (ascii c (by simp))
      simp [head, ih fun d mem => ascii d (by simp [mem])]

theorem toNat_toUInt8_of_ascii {c : Char} (ascii : c.toNat < 0x80) :
    c.toNat.toUInt8.toNat = c.toNat := by
  simp
  omega

theorem decodeChar?_ascii {c : Char} (ascii : c.toNat < 0x80) (rest : List UInt8) :
    decodeChar? (c.toNat.toUInt8 :: rest) = some (c, rest) := by
  simp [decodeChar?, toNat_toUInt8_of_ascii ascii, ascii, scalar?]
  omega

theorem decode?_go_ascii {cs : List Char} (ascii : ∀ c ∈ cs, c.toNat < 0x80) (acc : List Char)
    {fuel : Nat} (enough : cs.length ≤ fuel) :
    decode?.go fuel (cs.map fun c => c.toNat.toUInt8) acc =
      some (String.ofList (acc.reverse ++ cs)) := by
  induction cs generalizing acc fuel with
  | nil => simp [decode?.go]
  | cons c rest ih =>
      obtain ⟨fuel, rfl⟩ : ∃ f, fuel = f + 1 := ⟨fuel - 1, by simp at enough; omega⟩
      have first := decodeChar?_ascii (ascii c (by simp)) (rest.map fun c => c.toNat.toUInt8)
      simp only [List.map_cons, decode?.go, first]
      rw [ih (fun d mem => ascii d (by simp [mem])) (c :: acc) (by simp at enough; omega)]
      simp

/-- Decoding reads an ASCII text back from its bytes. -/
theorem decode?_encode_of_ascii {s : String} (ascii : ∀ c ∈ s.toList, c.toNat < 0x80) :
    decode? (encode s) = some s := by
  have bytes : encode s = s.toList.map fun c => c.toNat.toUInt8 :=
    flatMap_encodeChar_of_ascii ascii
  rw [decode?, bytes, decode?_go_ascii ascii [] (by simp)]
  simp

end Utf8

namespace Text

theorem dropBlank_of_not_blank {c : Char} (kept : isBlank c = false) (rest : List Char) :
    dropBlank (c :: rest) = c :: rest := by
  simp [dropBlank, kept]

theorem isBlank_of_isDigit {c : Char} (digit : c.isDigit = true) : isBlank c = false := by
  have range := Char.isDigit_iff_toNat.mp digit
  simp only [Char.reduceToNat] at range
  simp [isBlank]
  omega

theorem dropBlank_of_digits {ds : List Char} (digits : ∀ c ∈ ds, c.isDigit = true) :
    dropBlank ds = ds := by
  cases ds with
  | nil => rfl
  | cons d rest => exact dropBlank_of_not_blank (isBlank_of_isDigit (digits d (by simp))) rest

/-- Trimming a value written after one space leaves its digits. -/
theorem trimBlank_space_digits {ds : List Char} (digits : ∀ c ∈ ds, c.isDigit = true) :
    trimBlank (String.ofList (' ' :: ds)) = String.ofList ds := by
  have space : isBlank ' ' = true := by decide
  have backwards : ∀ c ∈ ds.reverse, c.isDigit = true := by simpa using digits
  simp only [trimBlank, String.toList_ofList, dropBlank, space, if_true]
  rw [dropBlank_of_digits digits, dropBlank_of_digits backwards, List.reverse_reverse]

end Text

namespace Frame

/-- The header line of a frame whose payload has `n` bytes, without its line ending. -/
def lengthLine (n : Nat) : String := "Content-Length: " ++ toString n

-- stated by `rfl`: the equation Lean derives itself takes seconds to check through `String`
theorem lengthLine_eq (n : Nat) : lengthLine n = "Content-Length: " ++ toString n :=
  rfl

theorem toList_lengthLine (n : Nat) :
    (lengthLine n).toList = "Content-Length: ".toList ++ Nat.toDigits 10 n := by
  simp [lengthLine_eq, String.toList_append]

/-- A header line is printable ASCII: its name is fixed text and its value decimal digits. -/
theorem lengthLine_printable (n : Nat) :
    ∀ c ∈ (lengthLine n).toList, 32 ≤ c.toNat ∧ c.toNat < 0x80 := by
  intro c mem
  rw [toList_lengthLine, List.mem_append] at mem
  rcases mem with named | digit
  · have fixed : ∀ c ∈ "Content-Length: ".toList, 32 ≤ c.toNat ∧ c.toNat < 0x80 := by
      simp
    exact fixed c named
  · have range := Char.isDigit_iff_toNat.mp
      (Nat.isDigit_of_mem_toDigits (by decide) (by decide) digit)
    simp only [Char.reduceToNat] at range
    omega

theorem encode_lengthLine (n : Nat) :
    Utf8.encode (lengthLine n) = (lengthLine n).toList.map fun c => c.toNat.toUInt8 :=
  Utf8.flatMap_encodeChar_of_ascii fun c mem => (lengthLine_printable n c mem).2

/-- No byte of a header line is a control byte, so neither a line feed nor a carriage return. -/
theorem printable_of_mem_lengthLine {n : Nat} {b : UInt8} (mem : b ∈ Utf8.encode (lengthLine n)) :
    32 ≤ b.toNat := by
  rw [encode_lengthLine, List.mem_map] at mem
  obtain ⟨c, member, rfl⟩ := mem
  have printable := lengthLine_printable n c member
  rw [Utf8.toNat_toUInt8_of_ascii printable.2]
  exact printable.1

theorem length_lengthLine {n : Nat} (bounded : n < 2 ^ 64) :
    16 ≤ (Utf8.encode (lengthLine n)).length ∧ (Utf8.encode (lengthLine n)).length ≤ 36 := by
  have digits : (Nat.toDigits 10 n).length ≤ 20 :=
    (Nat.length_toDigits_le_iff (by decide) (by decide)).mpr
      (Nat.lt_of_lt_of_le bounded (by decide))
  have fixed : "Content-Length: ".toList.length = 16 := by decide
  simp only [encode_lengthLine, List.length_map, toList_lengthLine, List.length_append, fixed]
  omega

/-- The decimal digits a writer prints read back as their number. -/
theorem parseLength?_toString {n : Nat} (bounded : n < 2 ^ 64) :
    parseLength? (toString n) = some n := by
  have value : (Nat.toDigits 10 n).foldl (fun acc c => acc * 10 + (c.toNat - '0'.toNat)) 0 = n := by
    have read := Nat.ofDigitChars_ten_toDigits (n := n)
    rw [Nat.ofDigitChars_eq_foldl] at read
    simpa only [Nat.mul_comm] using read
  simp only [parseLength?, Nat.toString_eq_repr, Nat.toList_repr]
  split
  · -- a digit is never a sign
    rename_i rest signed
    have plus := Nat.isDigit_of_mem_toDigits (b := 10) (n := n) (c := '+') (by decide) (by decide)
      (by rw [signed]; simp)
    exact absurd plus (by decide)
  · have digits : (Nat.toDigits 10 n).all Char.isDigit = true :=
      List.all_eq_true.mpr fun c mem => Nat.isDigit_of_mem_toDigits (by decide) (by decide) mem
    rw [value, digits]
    simpa using bounded

/-- The header line a writer produces gives the payload length back. -/
theorem headerLength_lengthLine {n : Nat} (bounded : n < 2 ^ 64) :
    headerLength (Utf8.encode (lengthLine n)) = .ok (some n) := by
  have decoded : Utf8.decode? (Utf8.encode (lengthLine n)) = some (lengthLine n) :=
    Utf8.decode?_encode_of_ascii fun c mem => (lengthLine_printable n c mem).2
  -- the only colon of the line is the one after the name
  have named : (lengthLine n).toList.span (· ≠ ':') =
      ("Content-Length".toList, ':' :: ' ' :: Nat.toDigits 10 n) := by
    have fixed : "Content-Length: ".toList = "Content-Length".toList ++ [':', ' '] := by simp
    have noColon : ∀ c ∈ "Content-Length".toList, decide (c ≠ ':') = true := by simp
    rw [toList_lengthLine, fixed, List.append_assoc, List.span_eq_takeWhile_dropWhile,
      List.takeWhile_append_of_pos noColon, List.dropWhile_append_of_pos noColon]
    simp
  have name : isContentLength (Text.trimBlank (String.ofList "Content-Length".toList)) = true := by
    decide
  have value : Text.trimBlank (String.ofList (' ' :: Nat.toDigits 10 n)) = toString n :=
    Text.trimBlank_space_digits fun c mem =>
      Nat.isDigit_of_mem_toDigits (by decide) (by decide) mem
  simp only [headerLength, decoded, named, name, value, parseLength?_toString bounded, if_true]

/-- A line ending within the limit is found, with the bytes after it. -/
theorem splitLine_append_lf {line : List UInt8} (noLF : ∀ b ∈ line, b ≠ 0x0A) {limit : Nat}
    (short : line.length < limit) (rest : List UInt8) :
    splitLine limit (line ++ 0x0A :: rest) = some (line, rest) := by
  induction line generalizing limit with
  | nil =>
      obtain ⟨limit, rfl⟩ : ∃ l, limit = l + 1 := ⟨limit - 1, by simp at short; omega⟩
      simp [splitLine]
  | cons b line ih =>
      obtain ⟨limit, rfl⟩ : ∃ l, limit = l + 1 := ⟨limit - 1, by simp at short; omega⟩
      have other : (b == 0x0A) = false := by simpa using noLF b (by simp)
      have found := ih (fun c mem => noLF c (by simp [mem])) (by simp at short; omega)
      simp [splitLine, other, found]

/-- A line is found exactly where a line feed ends it within the limit. -/
theorem splitLine_eq_some_iff {limit : Nat} {bytes line rest : List UInt8} :
    splitLine limit bytes = some (line, rest) ↔
      bytes = line ++ 0x0A :: rest ∧ 0x0A ∉ line ∧ line.length < limit := by
  constructor
  · intro found
    induction bytes generalizing limit line with
    | nil => cases limit <;> simp [splitLine] at found
    | cons b more ih =>
      cases limit with
      | zero => simp [splitLine] at found
      | succ limit =>
        by_cases lf : b = 0x0A
        · subst lf
          simp only [splitLine, beq_self_eq_true, if_true, Option.some.injEq, Prod.mk.injEq] at found
          obtain ⟨rfl, rfl⟩ := found
          simp
        · have other : (b == 0x0A) = false := by simpa using lf
          simp only [splitLine, other, Bool.false_eq_true, if_false] at found
          obtain ⟨⟨line', after'⟩, inner, same⟩ := Option.map_eq_some_iff.mp found
          simp only [Prod.mk.injEq] at same
          obtain ⟨rfl, rfl⟩ := same
          obtain ⟨split, noLF, short⟩ := ih inner
          refine ⟨by simp [split], ?_, by simpa using short⟩
          simp only [List.mem_cons, not_or]
          exact ⟨Ne.symm lf, noLF⟩
  · rintro ⟨rfl, noLF, short⟩
    exact splitLine_append_lf (fun b mem same => noLF (same ▸ mem)) short rest

theorem splitLine_eq_none_iff {limit : Nat} {bytes : List UInt8} :
    splitLine limit bytes = none ↔ 0x0A ∉ bytes.take limit := by
  induction bytes generalizing limit with
  | nil => cases limit <;> simp [splitLine]
  | cons b more ih =>
    cases limit with
    | zero => simp [splitLine]
    | succ limit =>
      by_cases lf : b = 0x0A
      · subst lf
        simp [splitLine]
      · have other : (b == 0x0A) = false := by simpa using lf
        simp [splitLine, other, ih, Ne.symm lf]

/-- Without a line feed there is no line, whatever the limit. -/
theorem splitLine_of_no_lf {bytes : List UInt8} (noLF : ∀ b ∈ bytes, b ≠ 0x0A) (limit : Nat) :
    splitLine limit bytes = none := by
  rw [splitLine_eq_none_iff]
  exact fun mem => noLF _ (List.mem_of_mem_take mem) rfl

theorem dropCarriageReturn_append_cr (line : List UInt8) :
    dropCarriageReturn (line ++ [0x0D]) = line := by
  simp [dropCarriageReturn]

/-- A finished input that stops inside a header line, or after a header, is truncated. -/
theorem headers_of_no_lf {bytes : List UInt8} (noLF : ∀ b ∈ bytes, b ≠ 0x0A)
    (short : bytes.length < maxHeaderLine) {seen : Bool} (started : bytes ≠ [] ∨ seen = true)
    (fuel : Nat) (length : Option Nat) :
    headers true (fuel + 1) length seen bytes = .error .truncated := by
  have notEnded : (bytes.isEmpty && !seen) = false := by
    cases started with
    | inl nonempty => simp [nonempty]
    | inr header => simp [header]
  simp [headers, splitLine_of_no_lf noLF, Nat.not_le.mpr short, notEnded]

/-- The first line of a header block, its carriage return included, holds no line feed. -/
theorem noLF_lengthLine_cr (n : Nat) :
    ∀ b ∈ Utf8.encode (lengthLine n) ++ [0x0D], b ≠ 0x0A := by
  intro b mem
  rcases List.mem_append.mp mem with line | cr
  · have printable := printable_of_mem_lengthLine line
    intro lf
    rw [lf] at printable
    exact absurd printable (by decide)
  · simp only [List.mem_singleton] at cr
    rw [cr]
    decide

/-- The first line of a frame's header block records its length. -/
theorem headers_lengthLine {n : Nat} (bounded : n < 2 ^ 64) (closed : Bool) (fuel : Nat)
    (rest : List UInt8) :
    headers closed (fuel + 1) none false (Utf8.encode (lengthLine n) ++ 0x0D :: 0x0A :: rest) =
      headers closed fuel (some n) true rest := by
  have sized := length_lengthLine bounded
  have found : splitLine maxHeaderLine (Utf8.encode (lengthLine n) ++ 0x0D :: 0x0A :: rest) =
      some (Utf8.encode (lengthLine n) ++ [0x0D], rest) := by
    have short : (Utf8.encode (lengthLine n) ++ [0x0D]).length < maxHeaderLine := by
      simp [maxHeaderLine]
      omega
    simpa using splitLine_append_lf (noLF_lengthLine_cr n) short rest
  have nonempty : (Utf8.encode (lengthLine n)).isEmpty = false := by
    rw [List.isEmpty_eq_false_iff, ← List.length_pos_iff]
    omega
  simp [headers, found, dropCarriageReturn_append_cr, nonempty, headerLength_lengthLine bounded]

/-- A blank line after a header ends the block. -/
theorem headers_blank (closed : Bool) (fuel : Nat) (length : Option Nat) (rest : List UInt8) :
    headers closed (fuel + 1) length true (0x0D :: 0x0A :: rest) = .ok (length, rest) := by
  have found : splitLine maxHeaderLine ([0x0D] ++ 0x0A :: rest) = some ([0x0D], rest) :=
    splitLine_append_lf (by simp) (by simp [maxHeaderLine]) rest
  have blank : dropCarriageReturn [0x0D] = [] := dropCarriageReturn_append_cr []
  simp only [List.cons_append, List.nil_append] at found
  simp [headers, found, blank]

/-- The header block a writer produces: the length line, then a blank line. -/
theorem headers_frame {n : Nat} (bounded : n < 2 ^ 64) (closed : Bool) (fuel : Nat)
    (rest : List UInt8) :
    headers closed (fuel + 2) none false
      (Utf8.encode (lengthLine n) ++ 0x0D :: 0x0A :: 0x0D :: 0x0A :: rest) =
      .ok (some n, rest) := by
  rw [headers_lengthLine bounded, headers_blank]

theorem encode_eq (p : List UInt8) :
    encode p = Utf8.encode (lengthLine p.length) ++ 0x0D :: 0x0A :: 0x0D :: 0x0A :: p := by
  have ending : Utf8.encode "\r\n\r\n" = [0x0D, 0x0A, 0x0D, 0x0A] := by decide
  rw [encode, Utf8.encode_append, ending]
  simp [lengthLine_eq]

theorem length_encode (p : List UInt8) :
    (encode p).length = (Utf8.encode (lengthLine p.length)).length + 4 + p.length := by
  simp [encode_eq]
  omega

section Payload

variable {maxFrame : Nat} {p : List UInt8} (fits : p.length ≤ maxFrame)
  (bounded : p.length < 2 ^ 64)
include fits bounded

/-- A whole frame is read back with the bytes after it untouched. -/
theorem next_encode_append (closed : Bool) (rest : List UInt8) :
    next maxFrame closed (encode p ++ rest) = .frame p rest := by
  have block : headers closed ((encode p ++ rest).length + 1) none false (encode p ++ rest) =
      .ok (some p.length, p ++ rest) := by
    obtain ⟨fuel, enough⟩ : ∃ fuel, (encode p ++ rest).length + 1 = fuel + 2 :=
      ⟨(encode p ++ rest).length - 1, by simp [length_encode]; omega⟩
    rw [enough, encode_eq]
    simp only [List.append_assoc, List.cons_append]
    exact headers_frame bounded closed fuel (p ++ rest)
  rw [next, block]
  simp [Nat.not_lt.mpr fits]

omit fits in
/-- A cut inside the header block of a frame leaves a truncated input. -/
theorem next_take_header {j : Nat} (started : 0 < j)
    (inside : j < (Utf8.encode (lengthLine p.length)).length + 4) :
    next maxFrame true ((encode p).take j) = .truncated := by
  have sized := length_lengthLine bounded
  rw [encode_eq]
  rcases Nat.lt_or_ge j ((Utf8.encode (lengthLine p.length)).length + 2) with early | late
  · -- the cut falls inside the length line, before its line feed
    have within : (Utf8.encode (lengthLine p.length) ++ 0x0D :: 0x0A :: 0x0D :: 0x0A :: p).take j =
        (Utf8.encode (lengthLine p.length) ++ [0x0D]).take j := by
      rw [show Utf8.encode (lengthLine p.length) ++ 0x0D :: 0x0A :: 0x0D :: 0x0A :: p =
          (Utf8.encode (lengthLine p.length) ++ [0x0D]) ++ 0x0A :: 0x0D :: 0x0A :: p by simp,
        List.take_append_of_le_length (by simp; omega)]
    have noLF : ∀ b ∈ (Utf8.encode (lengthLine p.length) ++ [0x0D]).take j, b ≠ 0x0A :=
      fun b mem => noLF_lengthLine_cr p.length b (List.mem_of_mem_take mem)
    have cutLength : ((Utf8.encode (lengthLine p.length) ++ [0x0D]).take j).length = j := by
      simp
      omega
    have nonempty : (Utf8.encode (lengthLine p.length) ++ [0x0D]).take j ≠ [] := by
      rw [← List.length_pos_iff, cutLength]
      exact started
    obtain ⟨fuel, rfl⟩ : ∃ fuel, j = fuel + 1 := ⟨j - 1, by omega⟩
    rw [within, next, cutLength,
      headers_of_no_lf noLF (by rw [cutLength]; simp [maxHeaderLine]; omega) (.inl nonempty)]
  · -- the length line is whole, the blank line after it is not
    obtain ⟨i, rfl⟩ : ∃ i, j = (Utf8.encode (lengthLine p.length)).length + 2 + i :=
      ⟨j - ((Utf8.encode (lengthLine p.length)).length + 2), by omega⟩
    have after : (Utf8.encode (lengthLine p.length) ++ 0x0D :: 0x0A :: 0x0D :: 0x0A :: p).take
        ((Utf8.encode (lengthLine p.length)).length + 2 + i) =
        Utf8.encode (lengthLine p.length) ++ 0x0D :: 0x0A :: (0x0D :: 0x0A :: p).take i := by
      rw [Nat.add_assoc, List.take_length_add_append, Nat.add_comm]
      rfl
    have cutShort : ∀ b ∈ (0x0D :: 0x0A :: p).take i, b ≠ 0x0A := by
      rcases (by omega : i = 0 ∨ i = 1) with none | one
      · simp [none]
      · simp [one]
    have cutLength : ((0x0D :: 0x0A :: p).take i).length = i := by
      simp
      omega
    obtain ⟨fuel, enough⟩ : ∃ fuel, (Utf8.encode (lengthLine p.length) ++
        0x0D :: 0x0A :: (0x0D :: 0x0A :: p).take i).length = fuel + 1 :=
      ⟨(Utf8.encode (lengthLine p.length)).length + 1 + i, by simp [cutLength]; omega⟩
    rw [after, next, headers_lengthLine bounded, enough,
      headers_of_no_lf cutShort (by rw [cutLength]; simp [maxHeaderLine]; omega) (.inr rfl)]

/-- A cut inside the payload of a frame leaves a truncated input. -/
theorem next_take_payload {m : Nat} (short : m < p.length) :
    next maxFrame true
      (Utf8.encode (lengthLine p.length) ++ 0x0D :: 0x0A :: 0x0D :: 0x0A :: p.take m) =
      .truncated := by
  obtain ⟨fuel, enough⟩ : ∃ fuel, (Utf8.encode (lengthLine p.length) ++
      0x0D :: 0x0A :: 0x0D :: 0x0A :: p.take m).length + 1 = fuel + 2 :=
    ⟨(Utf8.encode (lengthLine p.length)).length + 3 + (p.take m).length, by simp; omega⟩
  rw [next, enough, headers_frame bounded]
  -- the length is within the limit, but fewer payload bytes arrived
  simp [Nat.not_lt.mpr fits]
  omega

/-- A finished input that stops inside a frame is truncated, wherever the cut falls. -/
theorem next_take_encode {j : Nat} (started : 0 < j) (inside : j < (encode p).length) :
    next maxFrame true ((encode p).take j) = .truncated := by
  rcases Nat.lt_or_ge j ((Utf8.encode (lengthLine p.length)).length + 4) with header | payload
  · exact next_take_header bounded started header
  · obtain ⟨m, rfl⟩ : ∃ m, j = (Utf8.encode (lengthLine p.length)).length + 4 + m :=
      ⟨j - ((Utf8.encode (lengthLine p.length)).length + 4), by omega⟩
    have cut : (encode p).take ((Utf8.encode (lengthLine p.length)).length + 4 + m) =
        Utf8.encode (lengthLine p.length) ++ 0x0D :: 0x0A :: 0x0D :: 0x0A :: p.take m := by
      rw [encode_eq, Nat.add_assoc, List.take_length_add_append, Nat.add_comm]
      rfl
    have short : m < p.length := by
      rw [length_encode] at inside
      omega
    rw [cut]
    exact next_take_payload fits bounded short

end Payload

theorem next_nil (maxFrame : Nat) : next maxFrame true [] = .finished :=
  rfl

theorem readAllFrom_nil (maxFrame fuel : Nat) : readAllFrom maxFrame fuel [] = ([], .clean) := by
  cases fuel with
  | zero => rfl
  | succ fuel => simp [readAllFrom, next_nil]

section Payload

variable {maxFrame : Nat} {p : List UInt8} (fits : p.length ≤ maxFrame)
  (bounded : p.length < 2 ^ 64)
include fits bounded

theorem readAllFrom_encode_append (fuel : Nat) (rest : List UInt8) :
    readAllFrom maxFrame (fuel + 1) (encode p ++ rest) =
      (p :: (readAllFrom maxFrame fuel rest).1, (readAllFrom maxFrame fuel rest).2) := by
  simp [readAllFrom, next_encode_append fits bounded]

theorem readAllFrom_take_encode {j : Nat} (started : 0 < j) (inside : j < (encode p).length)
    (fuel : Nat) : readAllFrom maxFrame (fuel + 1) ((encode p).take j) = ([], .truncated) := by
  simp [readAllFrom, next_take_encode fits bounded started inside]

end Payload

section Stream

variable {maxFrame : Nat} (bounded : maxFrame < 2 ^ 64)
include bounded

/-- The frames of a stream are read back in order, and the stream ends cleanly. -/
theorem readAllFrom_flatMap_encode {ps : List (List UInt8)}
    (fits : ∀ p ∈ ps, p.length ≤ maxFrame)
    {fuel : Nat} (enough : (ps.flatMap encode).length < fuel) :
    readAllFrom maxFrame fuel (ps.flatMap encode) = (ps, .clean) := by
  induction ps generalizing fuel with
  | nil => exact readAllFrom_nil maxFrame fuel
  | cons p rest ih =>
      have first : p.length ≤ maxFrame := fits p (by simp)
      have sized := length_encode p
      simp only [List.flatMap_cons, List.length_append] at enough
      obtain ⟨fuel, rfl⟩ : ∃ f, fuel = f + 1 := ⟨fuel - 1, by omega⟩
      have later : readAllFrom maxFrame fuel (rest.flatMap encode) = (rest, .clean) :=
        ih (fun q mem => fits q (by simp [mem])) (by omega)
      rw [List.flatMap_cons, readAllFrom_encode_append first (by omega) fuel, later]

/-- A stream cut after `k` bytes gives the frames that lie wholly before the cut, then a clean end
if the cut falls between frames and a truncated one otherwise. -/
theorem readAllFrom_take_flatMap_encode {ps : List (List UInt8)}
    (fits : ∀ p ∈ ps, p.length ≤ maxFrame) (k : Nat)
    (within : k ≤ (ps.flatMap encode).length) (fuel : Nat) (enough : k < fuel) :
    ∃ n ≤ ps.length, ((ps.take n).flatMap encode).length ≤ k ∧
      (n < ps.length → k < ((ps.take (n + 1)).flatMap encode).length) ∧
      readAllFrom maxFrame fuel ((ps.flatMap encode).take k) =
        (ps.take n, if ((ps.take n).flatMap encode).length = k then .clean else .truncated) := by
  induction ps generalizing k fuel with
  | nil =>
      simp only [List.flatMap_nil, List.length_nil, Nat.le_zero] at within
      subst within
      exact ⟨0, Nat.le_refl 0, by simp, by simp, by simp [readAllFrom_nil]⟩
  | cons p rest ih =>
      have first : p.length ≤ maxFrame := fits p (by simp)
      have sized := length_encode p
      obtain ⟨fuel, rfl⟩ : ∃ f, fuel = f + 1 := ⟨fuel - 1, by omega⟩
      rcases Nat.lt_or_ge k (encode p).length with inside | past
      · -- the cut falls inside the first frame, or before it
        have cut : ((p :: rest).flatMap encode).take k = (encode p).take k := by
          rw [List.flatMap_cons, List.take_append_of_le_length (Nat.le_of_lt inside)]
        refine ⟨0, by simp, by simp, fun _ => by simpa using inside, ?_⟩
        rw [cut]
        rcases Nat.eq_zero_or_pos k with empty | started
        · subst empty
          simp [readAllFrom_nil]
        · rw [readAllFrom_take_encode first (by omega) started inside]
          simp [Nat.ne_of_lt started]
      · -- the first frame is whole, and the rest of the cut is a cut of the later frames
        obtain ⟨k, rfl⟩ : ∃ k', k = (encode p).length + k' :=
          ⟨k - (encode p).length, by omega⟩
        simp only [List.flatMap_cons, List.length_append] at within
        obtain ⟨n, fewer, before, after, read⟩ :=
          ih (fun q mem => fits q (by simp [mem])) k (by omega) fuel (by omega)
        have cut : ((p :: rest).flatMap encode).take ((encode p).length + k) =
            encode p ++ (rest.flatMap encode).take k := by
          rw [List.flatMap_cons, List.take_length_add_append]
        refine ⟨n + 1, by simp; omega, by simpa using before, fun more => ?_, ?_⟩
        · simpa using after (by simp at more; omega)
        · rw [cut, readAllFrom_encode_append first (by omega) fuel, read]
          simp

end Stream

/-- Reading a finished stream gives back every payload written to it, in order, with a clean end;
cut after any `k` of its bytes, it gives the payloads whose frames lie wholly before the cut, then a
clean end exactly when the cut falls between frames and a truncated end otherwise. -/
theorem readAll_written_frames {maxFrame : Nat} {ps : List (List UInt8)}
    (bounded : maxFrame < 2 ^ 64) (fits : ∀ p ∈ ps, p.length ≤ maxFrame) :
    readAll maxFrame (ps.flatMap encode) = (ps, .clean) ∧
    ∀ k ≤ (ps.flatMap encode).length, ∃ n ≤ ps.length,
      ((ps.take n).flatMap encode).length ≤ k ∧
      (n < ps.length → k < ((ps.take (n + 1)).flatMap encode).length) ∧
      readAll maxFrame ((ps.flatMap encode).take k) =
        (ps.take n, if ((ps.take n).flatMap encode).length = k then .clean else .truncated) := by
  constructor
  · exact readAllFrom_flatMap_encode bounded fits (Nat.lt_succ_self _)
  · intro k within
    have cutLength : ((ps.flatMap encode).take k).length = k := by
      rw [List.length_take]
      omega
    unfold readAll
    exact readAllFrom_take_flatMap_encode bounded fits k within _ (by omega)

/-- A stream of a payload made of a line ending and an empty payload, with a limit of two bytes. -/
theorem readAll_written_frames_line_ending :
    2 < 2 ^ 64 ∧ (∀ p ∈ [[0x0D, 0x0A], []], List.length p ≤ 2) ∧
    (readAll 2 ([[0x0D, 0x0A], []].flatMap encode) = ([[0x0D, 0x0A], []], .clean) ∧
    ∀ k ≤ ([[0x0D, 0x0A], []].flatMap encode).length, ∃ n ≤ [[0x0D, 0x0A], []].length,
      (([[0x0D, 0x0A], []].take n).flatMap encode).length ≤ k ∧
      (n < [[0x0D, 0x0A], []].length →
        k < (([[0x0D, 0x0A], []].take (n + 1)).flatMap encode).length) ∧
      readAll 2 (([[0x0D, 0x0A], []].flatMap encode).take k) =
        ([[0x0D, 0x0A], []].take n,
          if (([[0x0D, 0x0A], []].take n).flatMap encode).length = k then .clean
          else .truncated)) :=
  ⟨by decide, by decide, readAll_written_frames (by decide) (by decide)⟩

end Frame

end LspBridge
