import LspBridge.Proofs.StreamReading
import Mathlib
/-!
# The header grammar of a frame

`Frame.readAll` reads the frames of a finished input. Here the rules it reads by are written as a
grammar over the bytes, with no reference to how the reader scans them, and the reader is shown to
follow the grammar exactly (`readAll_eq_iff_reads`): it returns the frames and the end that the
grammar derives for the input, and the grammar derives nothing else.

The grammar:

* A line is the bytes up to a line feed that comes within `maxHeaderLine` bytes, the line feed
  included; its content is those bytes less the line feed and one carriage return at the end
  (`LineAt`).
* A blank line before the first header is skipped; after one it ends the block.
* Any other line is UTF-8 text with a colon (`HeaderAt`). When its name, before the first colon and
  trimmed of `White_Space`, is `content-length` in some letter case, its trimmed value is a length
  as `IsLengthText` writes one, the same in every such line of the block; other headers are passed
  over.
* The next `maxHeaderLine` bytes without a line feed are a fault. An input that ends inside a line,
  or after a header, ends inside the frame; one that ends before any header ends cleanly.
* After the block a frame needs a length, no more than the limit, and that many further bytes.

`Block` derives how a header block reads, and `Reads` the frames of a whole input.
-/

namespace LspBridge

namespace Frame

/-! ### The grammar -/

/-- `text` writes the length `n` as a machine-size number: an optional `+`, then one or more
decimal digits whose value is below `2 ^ 64`. -/
def IsLengthText (text : String) (n : Nat) : Prop :=
  ∃ digits : List Char, (text.toList = digits ∨ text.toList = '+' :: digits) ∧ digits ≠ [] ∧
    (∀ c ∈ digits, c.isDigit) ∧
    Nat.ofDigits 10 (digits.reverse.map fun c => c.toNat - '0'.toNat) = n ∧ n < 2 ^ 64

/-- The input starts with a line whose line feed comes within the first `maxHeaderLine` bytes:
`content` is what stands before the line feed less one carriage return at its end, and `rest` what
follows the line feed. -/
def LineAt (bytes content rest : List UInt8) : Prop :=
  ∃ line, bytes = line ++ 0x0A :: rest ∧ 0x0A ∉ line ∧ line.length < maxHeaderLine ∧
    (line = content ++ [0x0D] ∨ (line = content ∧ content.getLast? ≠ some 0x0D))

/-- The input starts with a header line `name:value`: UTF-8 text whose first colon has `name`
before it and `value` after it. -/
def HeaderAt (bytes : List UInt8) (name value : String) (rest : List UInt8) : Prop :=
  ∃ content text, LineAt bytes content rest ∧ Utf8.decode? content = some text ∧
    text.toList = name.toList ++ ':' :: value.toList ∧ ':' ∉ name.toList

/-- How the header block at the front of a finished input reads: `Block seen length bytes r`, where
`seen` says whether a header came before and `length` is the length given so far. The result is the
length and the bytes after the blank line that ends the block, or how the reading ends.

`finish`: the input ends between lines: cleanly before the first header, inside the frame after it.
`cut`: the input ends inside a line shorter than the limit. `overlong`: the next `maxHeaderLine`
bytes hold no line feed. `skip`: a blank line before the first header is skipped. `close`: a blank
line after a header ends the block. `notUtf8`: a header line that is not UTF-8. `noColon`: a header
line without a colon. `other`: a header other than Content-Length is passed over. `invalid`: a
Content-Length whose value is no length. `conflict`: a Content-Length that differs from one given
before. `given`: a Content-Length that agrees with any given before. -/
inductive Block : Bool → Option Nat → List UInt8 → Except End (Option Nat × List UInt8) → Prop
  | finish (seen : Bool) (length : Option Nat) :
    Block seen length [] (.error (if seen then .truncated else .clean))
  | cut {bytes : List UInt8} (seen : Bool) (length : Option Nat) (started : bytes ≠ [])
    (noLF : 0x0A ∉ bytes) (short : bytes.length < maxHeaderLine) :
    Block seen length bytes (.error .truncated)
  | overlong {bytes : List UInt8} (seen : Bool) (length : Option Nat)
    (noLF : 0x0A ∉ bytes.take maxHeaderLine) (long : maxHeaderLine ≤ bytes.length) :
    Block seen length bytes (.error (.failed .lineTooLong))
  | skip {bytes rest : List UInt8} {length : Option Nat} {r : Except End (Option Nat × List UInt8)}
    (blank : LineAt bytes [] rest) (later : Block false length rest r) :
    Block false length bytes r
  | close {bytes rest : List UInt8} (length : Option Nat) (blank : LineAt bytes [] rest) :
    Block true length bytes (.ok (length, rest))
  | notUtf8 {bytes content rest : List UInt8} (seen : Bool) (length : Option Nat)
    (line : LineAt bytes content rest) (invalid : Utf8.decode? content = none) :
    Block seen length bytes (.error (.failed .notUtf8))
  | noColon {bytes content rest : List UInt8} {text : String} (seen : Bool) (length : Option Nat)
    (line : LineAt bytes content rest) (filled : content ≠ []) (decoded : Utf8.decode? content = some text)
    (missing : ':' ∉ text.toList) :
    Block seen length bytes (.error (.failed (.malformedLine text)))
  | other {bytes rest : List UInt8} {name value : String} {seen : Bool} {length : Option Nat}
    {r : Except End (Option Nat × List UInt8)} (line : HeaderAt bytes name value rest)
    (named : isContentLength (Text.trimBlank name) = false) (later : Block true length rest r) :
    Block seen length bytes r
  | invalid {bytes rest : List UInt8} {name value : String} (seen : Bool) (length : Option Nat)
    (line : HeaderAt bytes name value rest) (named : isContentLength (Text.trimBlank name) = true)
    (bad : ∀ n, ¬ IsLengthText (Text.trimBlank value) n) :
    Block seen length bytes (.error (.failed (.invalidLength (Text.trimBlank value))))
  | conflict {bytes rest : List UInt8} {name value : String} {n m : Nat} (seen : Bool)
    (line : HeaderAt bytes name value rest) (named : isContentLength (Text.trimBlank name) = true)
    (number : IsLengthText (Text.trimBlank value) n) (differs : m ≠ n) :
    Block seen (some m) bytes (.error (.failed .conflictingLength))
  | given {bytes rest : List UInt8} {name value : String} {n : Nat} {seen : Bool}
    {length : Option Nat} {r : Except End (Option Nat × List UInt8)}
    (line : HeaderAt bytes name value rest) (named : isContentLength (Text.trimBlank name) = true)
    (number : IsLengthText (Text.trimBlank value) n) (agrees : ∀ m, length = some m → m = n)
    (later : Block true (some n) rest r) :
    Block seen length bytes r

/-- The frames of a finished input and how reading it ends: `Reads maxFrame bytes frames e`.

`stop`: the input ends, or breaks the rules, within a header block. `missing`: a header block with
no Content-Length. `oversized`: a length above the limit. `short`: fewer bytes after the block than
its length. `frame`: a whole frame, then the frames after it. -/
inductive Reads (maxFrame : Nat) : List UInt8 → List (List UInt8) → End → Prop
  | stop {bytes : List UInt8} {e : End} (block : Block false none bytes (.error e)) :
    Reads maxFrame bytes [] e
  | missing {bytes rest : List UInt8} (block : Block false none bytes (.ok (none, rest))) :
    Reads maxFrame bytes [] (.failed .missingLength)
  | oversized {bytes rest : List UInt8} {n : Nat} (block : Block false none bytes (.ok (some n, rest)))
    (large : maxFrame < n) :
    Reads maxFrame bytes [] (.failed (.tooLarge n maxFrame))
  | short {bytes rest : List UInt8} {n : Nat} (block : Block false none bytes (.ok (some n, rest)))
    (fits : n ≤ maxFrame) (few : rest.length < n) :
    Reads maxFrame bytes [] .truncated
  | frame {bytes payload rest : List UInt8} {frames : List (List UInt8)} {e : End}
    (block : Block false none bytes (.ok (some payload.length, payload ++ rest)))
    (fits : payload.length ≤ maxFrame) (later : Reads maxFrame rest frames e) :
    Reads maxFrame bytes (payload :: frames) e

/-- How a reading ends, told by the step of the reader that ended it. -/
def Step.toEnd : Step → End
  | .failed e => .failed e
  | .finished => .clean
  | _ => .truncated

/-! ### Lines -/

theorem dropCarriageReturn_eq_iff {line content : List UInt8} :
    dropCarriageReturn line = content ↔
      line = content ++ [0x0D] ∨ (line = content ∧ content.getLast? ≠ some 0x0D) := by
  rcases List.eq_nil_or_concat' line with rfl | ⟨init, last, rfl⟩
  · constructor
    · rintro rfl
      exact .inr ⟨rfl, by simp [dropCarriageReturn]⟩
    · rintro (appended | ⟨rfl, -⟩)
      · simp at appended
      · rfl
  · by_cases cr : last = 0x0D
    · subst cr
      constructor
      · intro dropped
        simp only [dropCarriageReturn, List.getLast?_concat, beq_self_eq_true, if_true,
          List.dropLast_concat] at dropped
        exact .inl (by rw [dropped])
      · rintro (same | ⟨rfl, last⟩)
        · simp only [List.append_cancel_right_eq] at same
          simp [dropCarriageReturn, same]
        · simp at last
    · have kept : (init ++ [last]).getLast? ≠ some 0x0D := by simpa using cr
      have stays : dropCarriageReturn (init ++ [last]) = init ++ [last] := by
        simp [dropCarriageReturn, cr]
      rw [stays]
      constructor
      · rintro rfl
        exact .inr ⟨rfl, kept⟩
      · rintro (same | ⟨rfl, -⟩)
        · have ends := congrArg List.getLast? same
          simp only [List.getLast?_concat, Option.some.injEq] at ends
          exact absurd ends cr
        · rfl

/-- A line of the grammar is the line the reader cuts. -/
theorem lineAt_iff {bytes content rest : List UInt8} :
    LineAt bytes content rest ↔
      ∃ line, splitLine maxHeaderLine bytes = some (line, rest) ∧
        dropCarriageReturn line = content := by
  simp only [LineAt, splitLine_eq_some_iff, dropCarriageReturn_eq_iff, and_assoc]

/-! ### Lengths -/

/-- Reading decimal digits left to right gives their value. -/
theorem foldl_digits (digits : List Char) :
    digits.foldl (fun acc c => acc * 10 + (c.toNat - '0'.toNat)) 0 =
      Nat.ofDigits 10 (digits.reverse.map fun c => c.toNat - '0'.toNat) := by
  induction digits using List.reverseRecOn with
  | nil => rfl
  | append_singleton digits c ih =>
    simp only [List.foldl_append, List.foldl_cons, List.foldl_nil, ih, List.reverse_append,
      List.reverse_cons, List.reverse_nil, List.nil_append, List.cons_append, List.map_cons,
      Nat.ofDigits_cons]
    ring

/-- The digits of a length field are what follows its sign, if it has one. -/
theorem parseLength?_eq (text : String) : ∃ digits,
    (text.toList = '+' :: digits ∨ (text.toList = digits ∧ text.toList.head? ≠ some '+')) ∧
      parseLength? text = if digits.isEmpty || !digits.all Char.isDigit then none else
        if digits.foldl (fun acc c => acc * 10 + (c.toNat - '0'.toNat)) 0 < Nat.pow 2 64 then
          some (digits.foldl (fun acc c => acc * 10 + (c.toNat - '0'.toNat)) 0) else none := by
  cases h : text.toList with
  | nil => exact ⟨[], .inr ⟨rfl, by simp⟩, by simp [parseLength?, h]⟩
  | cons c rest =>
    by_cases plus : c = '+'
    · subst plus
      exact ⟨rest, .inl rfl, by simp [parseLength?, h]⟩
    · refine ⟨c :: rest, .inr ⟨rfl, by simpa using plus⟩, ?_⟩
      simp only [parseLength?, h]
      split
      · rename_i r signed
        simp only [List.cons.injEq] at signed
        exact absurd signed.1 plus
      · rfl

/-- A length field reads as a number exactly when it is written as one. -/
theorem parseLength?_eq_some_iff {text : String} {n : Nat} :
    parseLength? text = some n ↔ IsLengthText text n := by
  obtain ⟨digits, shape, parsed⟩ := parseLength?_eq text
  rw [parsed, foldl_digits]
  constructor
  · intro read
    split at read
    · cases read
    · rename_i valid
      simp only [Bool.or_eq_true, Bool.not_eq_true', not_or, Bool.not_eq_false,
        List.isEmpty_iff, List.all_eq_true] at valid
      split at read
      · rename_i bounded
        cases read
        refine ⟨digits, ?_, valid.1, valid.2, rfl, by simpa [Nat.pow_eq] using bounded⟩
        rcases shape with signed | ⟨bare, -⟩
        · exact .inr signed
        · exact .inl bare
      · cases read
  · rintro ⟨written, unsigned, filled, nosign, value, bounded⟩
    -- the digits of the grammar are the digits after the sign
    have same : written = digits := by
      rcases shape with signed | ⟨bare, first⟩ <;> rcases unsigned with bare' | signed'
      · have digit := nosign '+' (by simp [← bare', signed])
        exact absurd digit (by decide)
      · simpa [signed] using signed'.symm
      · simpa [bare] using bare'.symm
      · simp [signed'] at first
    subst same
    have valid : (written.isEmpty || !written.all Char.isDigit) = false := by
      simp [filled, List.all_eq_true.mpr nosign]
    rw [value]
    simp only [valid, Bool.false_eq_true, if_false]
    rw [if_pos (by rw [Nat.pow_eq]; exact bounded)]

/-! ### One header line -/

theorem span_first_colon {name value : List Char} (first : ':' ∉ name) :
    (name ++ ':' :: value).span (· ≠ ':') = (name, ':' :: value) := by
  have before : ∀ c ∈ name, decide (c ≠ ':') = true := fun c mem =>
    decide_eq_true fun same => first (same ▸ mem)
  rw [List.span_eq_takeWhile_dropWhile, List.takeWhile_append_of_pos before,
    List.dropWhile_append_of_pos before]
  simp

theorem span_no_colon {text : List Char} (missing : ':' ∉ text) :
    text.span (· ≠ ':') = (text, []) := by
  have all : ∀ c ∈ text, decide (c ≠ ':') = true := fun c mem =>
    decide_eq_true fun same => missing (same ▸ mem)
  rw [List.span_eq_takeWhile_dropWhile, List.takeWhile_eq_self_iff.mpr all,
    List.dropWhile_eq_nil_iff.mpr all]

/-- A text has no colon, or a first one. -/
theorem colon_cases (text : List Char) :
    ':' ∉ text ∨ ∃ name value, text = name ++ ':' :: value ∧ ':' ∉ name := by
  induction text with
  | nil => exact .inl (by simp)
  | cons c rest ih =>
    by_cases colon : c = ':'
    · exact .inr ⟨[], rest, by simp [colon], by simp⟩
    · rcases ih with missing | ⟨name, value, split, first⟩
      · exact .inl (by simp [Ne.symm colon, missing])
      · exact .inr ⟨c :: name, value, by simp [split], by simp [Ne.symm colon, first]⟩

/-- What one header line says, by its form: it is not UTF-8; it has no colon; it is a header other
than Content-Length; it is a Content-Length whose value is no number, or one whose value is. -/
theorem headerLength_cases (content : List UInt8) :
    (Utf8.decode? content = none ∧ headerLength content = .error .notUtf8) ∨
    (∃ text, Utf8.decode? content = some text ∧ ':' ∉ text.toList ∧
      headerLength content = .error (.malformedLine text)) ∨
    (∃ text name value, Utf8.decode? content = some text ∧
      text.toList = name.toList ++ ':' :: value.toList ∧ ':' ∉ name.toList ∧
      ((isContentLength (Text.trimBlank name) = false ∧ headerLength content = .ok none) ∨
        (isContentLength (Text.trimBlank name) = true ∧
          parseLength? (Text.trimBlank value) = none ∧
          headerLength content = .error (.invalidLength (Text.trimBlank value))) ∨
        (∃ n, isContentLength (Text.trimBlank name) = true ∧
          parseLength? (Text.trimBlank value) = some n ∧
          headerLength content = .ok (some n)))) := by
  cases decoded : Utf8.decode? content with
  | none => exact .inl ⟨rfl, by simp [headerLength, decoded]⟩
  | some text =>
    rcases colon_cases text.toList with missing | ⟨name, value, split, first⟩
    · exact .inr (.inl ⟨text, rfl, missing, by simp only [headerLength, decoded, span_no_colon missing]⟩)
    · refine .inr (.inr ⟨text, String.ofList name, String.ofList value, rfl, by simpa using split,
        by simpa using first, ?_⟩)
      have spans : text.toList.span (· ≠ ':') = (name, ':' :: value) := by
        rw [split]
        exact span_first_colon first
      cases named : isContentLength (Text.trimBlank (String.ofList name))
      · exact .inl ⟨rfl, by simp only [headerLength, decoded, spans, named, Bool.false_eq_true, if_false]⟩
      · cases parsed : parseLength? (Text.trimBlank (String.ofList value)) with
        | none => exact .inr (.inl ⟨rfl, rfl, by simp only [headerLength, decoded, spans, named, parsed, if_true]⟩)
        | some n =>
          exact .inr (.inr ⟨n, rfl, rfl, by simp only [headerLength, decoded, spans, named, parsed, if_true]⟩)

/-- A header line of the grammar, cut at its first colon, tells what `headerLength` reads. -/
theorem headerLength_of_split {content : List UInt8} {text name value : String}
    (decoded : Utf8.decode? content = some text)
    (split : text.toList = name.toList ++ ':' :: value.toList) (first : ':' ∉ name.toList) :
    (isContentLength (Text.trimBlank name) = false → headerLength content = .ok none) ∧
    (isContentLength (Text.trimBlank name) = true → parseLength? (Text.trimBlank value) = none →
      headerLength content = .error (.invalidLength (Text.trimBlank value))) ∧
    (∀ n, isContentLength (Text.trimBlank name) = true →
      parseLength? (Text.trimBlank value) = some n → headerLength content = .ok (some n)) := by
  have spans : text.toList.span (· ≠ ':') = (name.toList, ':' :: value.toList) := by
    rw [split]
    exact span_first_colon first
  refine ⟨fun named => ?_, fun named parsed => ?_, fun n named parsed => ?_⟩
  · simp only [headerLength, decoded, spans, String.ofList_toList, named, Bool.false_eq_true,
      if_false]
  · simp only [headerLength, decoded, spans, String.ofList_toList, named, parsed, if_true]
  · simp only [headerLength, decoded, spans, String.ofList_toList, named, parsed, if_true]

theorem decode?_nil : Utf8.decode? [] = some "" := rfl

/-- A header line is not blank: its text holds a colon. -/
theorem HeaderAt.filled {bytes rest : List UInt8} {name value : String}
    (header : HeaderAt bytes name value rest) :
    ∃ content text, LineAt bytes content rest ∧ content ≠ [] ∧ Utf8.decode? content = some text ∧
      text.toList = name.toList ++ ':' :: value.toList ∧ ':' ∉ name.toList := by
  obtain ⟨content, text, line, decoded, split, first⟩ := header
  refine ⟨content, text, line, ?_, decoded, split, first⟩
  rintro rfl
  rw [decode?_nil, Option.some.injEq] at decoded
  subst decoded
  simp at split

/-! ### Header blocks -/

section Steps

variable {closed : Bool} {fuel : Nat} {length : Option Nat} {seen : Bool}
  {bytes content rest : List UInt8}

/-- A blank line before the first header is passed over. -/
theorem headers_skip (line : LineAt bytes [] rest) :
    headers closed (fuel + 1) length false bytes = headers closed fuel length false rest := by
  obtain ⟨cut, found, dropped⟩ := lineAt_iff.mp line
  simp [headers, found, dropped]

/-- A blank line after a header ends the block. -/
theorem headers_close (line : LineAt bytes [] rest) :
    headers closed (fuel + 1) length true bytes = .ok (length, rest) := by
  obtain ⟨cut, found, dropped⟩ := lineAt_iff.mp line
  simp [headers, found, dropped]

/-- A line whose content breaks the header rules ends the block with that fault. -/
theorem headers_fault {e : HeaderError} (line : LineAt bytes content rest) (filled : content ≠ [])
    (fault : headerLength content = .error e) :
    headers closed (fuel + 1) length seen bytes = .error (.failed e) := by
  obtain ⟨cut, found, rfl⟩ := lineAt_iff.mp line
  simp [headers, found, filled, fault]

/-- A header other than Content-Length is passed over. -/
theorem headers_other (line : LineAt bytes content rest) (filled : content ≠ [])
    (passed : headerLength content = .ok none) :
    headers closed (fuel + 1) length seen bytes = headers closed fuel length true rest := by
  obtain ⟨cut, found, rfl⟩ := lineAt_iff.mp line
  simp [headers, found, filled, passed]

/-- A Content-Length that differs from the one before ends the block. -/
theorem headers_conflict {n m : Nat} (line : LineAt bytes content rest) (filled : content ≠ [])
    (given : headerLength content = .ok (some n)) (differs : m ≠ n) :
    headers closed (fuel + 1) (some m) seen bytes = .error (.failed .conflictingLength) := by
  obtain ⟨cut, found, rfl⟩ := lineAt_iff.mp line
  simp [headers, found, filled, given, differs]

/-- A Content-Length that agrees with any before is recorded. -/
theorem headers_given {n : Nat} (line : LineAt bytes content rest) (filled : content ≠ [])
    (given : headerLength content = .ok (some n)) (agrees : ∀ m, length = some m → m = n) :
    headers closed (fuel + 1) length seen bytes = headers closed fuel (some n) true rest := by
  obtain ⟨cut, found, rfl⟩ := lineAt_iff.mp line
  cases length with
  | none => simp [headers, found, filled, given]
  | some m => simp [headers, found, filled, given, agrees m rfl]

end Steps

/-- The reader follows the grammar: what it makes of a header block, read with a line to spare, is
what the grammar derives. -/
theorem block_headers {fuel : Nat} {length : Option Nat} {seen : Bool} {bytes : List UInt8}
    (enough : bytes.length < fuel) :
    Block seen length bytes ((headers true fuel length seen bytes).mapError Step.toEnd) := by
  induction fuel generalizing length seen bytes with
  | zero => omega
  | succ fuel ih =>
    cases found : splitLine maxHeaderLine bytes with
    | none =>
      have noLF := splitLine_eq_none_iff.mp found
      by_cases long : maxHeaderLine ≤ bytes.length
      · have step : headers true (fuel + 1) length seen bytes = .error (.failed .lineTooLong) := by
          simp [headers, found, long]
        rw [step]
        exact .overlong seen length noLF long
      · rw [List.take_of_length_le (by omega)] at noLF
        have step : headers true (fuel + 1) length seen bytes =
            .error (if bytes.isEmpty && !seen then .finished else .truncated) := by
          simp only [headers, found, long, if_false, Bool.not_true, Bool.false_eq_true]
          split <;> rfl
        rw [step]
        cases bytes with
        | nil =>
          cases seen
          · exact .finish false length
          · exact .finish true length
        | cons b more => exact .cut seen length (by simp) noLF (by omega)
    | some split =>
      obtain ⟨line, rest⟩ := split
      have shorter : rest.length < fuel := by
        have := length_lt_of_splitLine found
        omega
      have cut : LineAt bytes (dropCarriageReturn line) rest := lineAt_iff.mpr ⟨line, found, rfl⟩
      by_cases blank : dropCarriageReturn line = []
      · rw [blank] at cut
        cases seen
        · rw [headers_skip cut]
          exact .skip cut (ih shorter)
        · rw [headers_close cut]
          exact .close length cut
      · rcases headerLength_cases (dropCarriageReturn line) with ⟨invalid, said⟩ |
          ⟨text, decoded, missing, said⟩ | ⟨text, name, value, decoded, split, first, said⟩
        · rw [headers_fault cut blank said]
          exact .notUtf8 seen length cut invalid
        · rw [headers_fault cut blank said]
          exact .noColon seen length cut blank decoded missing
        · have header : HeaderAt bytes name value rest := ⟨_, text, cut, decoded, split, first⟩
          rcases said with ⟨named, said⟩ | ⟨named, parsed, said⟩ | ⟨n, named, parsed, said⟩
          · rw [headers_other cut blank said]
            exact .other header named (ih shorter)
          · rw [headers_fault cut blank said]
            refine .invalid seen length header named fun n number => ?_
            rw [← parseLength?_eq_some_iff, parsed] at number
            cases number
          · have number := parseLength?_eq_some_iff.mp parsed
            cases length with
            | none =>
              rw [headers_given cut blank said (by simp)]
              exact .given header named number (by simp) (ih shorter)
            | some m =>
              by_cases same : m = n
              · subst same
                rw [headers_given cut blank said (by simp)]
                exact .given header named number (by simp) (ih shorter)
              · rw [headers_conflict cut blank said same]
                exact .conflict seen header named number same

/-- The grammar describes the reader: a header block it derives is what the reader makes of the
bytes, read with a line to spare. -/
theorem headers_of_block {seen : Bool} {length : Option Nat} {bytes : List UInt8}
    {r : Except End (Option Nat × List UInt8)} (block : Block seen length bytes r) {fuel : Nat}
    (enough : bytes.length < fuel) :
    (headers true fuel length seen bytes).mapError Step.toEnd = r := by
  induction block generalizing fuel with
  | finish seen length =>
    obtain ⟨fuel, rfl⟩ : ∃ f, fuel = f + 1 := ⟨fuel - 1, by simp at enough; omega⟩
    cases seen <;> rfl
  | cut seen length started noLF short =>
    obtain ⟨fuel, rfl⟩ : ∃ f, fuel = f + 1 := ⟨fuel - 1, by omega⟩
    rw [headers_of_no_lf (fun b mem same => noLF (same ▸ mem)) short (.inl started)]
    rfl
  | overlong seen length noLF long =>
    obtain ⟨fuel, rfl⟩ : ∃ f, fuel = f + 1 := ⟨fuel - 1, by omega⟩
    simp [headers, splitLine_eq_none_iff.mpr noLF, long, Except.mapError, Step.toEnd]
  | skip blank later ih =>
    obtain ⟨fuel, rfl⟩ : ∃ f, fuel = f + 1 := ⟨fuel - 1, by omega⟩
    obtain ⟨cut, found, -⟩ := lineAt_iff.mp blank
    have shorter := length_lt_of_splitLine found
    rw [headers_skip blank]
    exact ih (by omega)
  | close length blank =>
    obtain ⟨fuel, rfl⟩ : ∃ f, fuel = f + 1 := ⟨fuel - 1, by omega⟩
    rw [headers_close blank]
    rfl
  | @notUtf8 bytes content rest seen length line invalid =>
    obtain ⟨fuel, rfl⟩ : ∃ f, fuel = f + 1 := ⟨fuel - 1, by omega⟩
    have filled : content ≠ [] := fun empty => by simp [empty, decode?_nil] at invalid
    have fault : headerLength content = .error .notUtf8 := by simp [headerLength, invalid]
    rw [headers_fault line filled fault]
    rfl
  | @noColon bytes content rest text seen length line filled decoded missing =>
    obtain ⟨fuel, rfl⟩ : ∃ f, fuel = f + 1 := ⟨fuel - 1, by omega⟩
    have fault : headerLength content = .error (.malformedLine text) := by
      simp only [headerLength, decoded, span_no_colon missing]
    rw [headers_fault line filled fault]
    rfl
  | other header named later ih =>
    obtain ⟨fuel, rfl⟩ : ∃ f, fuel = f + 1 := ⟨fuel - 1, by omega⟩
    obtain ⟨content, text, line, filled, decoded, split, first⟩ := header.filled
    obtain ⟨cut, found, -⟩ := lineAt_iff.mp line
    have shorter := length_lt_of_splitLine found
    rw [headers_other line filled ((headerLength_of_split decoded split first).1 named)]
    exact ih (by omega)
  | @invalid bytes rest name value seen length header named bad =>
    obtain ⟨fuel, rfl⟩ : ∃ f, fuel = f + 1 := ⟨fuel - 1, by omega⟩
    obtain ⟨content, text, line, filled, decoded, split, first⟩ := header.filled
    have unread : parseLength? (Text.trimBlank value) = none := by
      cases parsed : parseLength? (Text.trimBlank value) with
      | none => rfl
      | some n => exact absurd (parseLength?_eq_some_iff.mp parsed) (bad n)
    rw [headers_fault line filled ((headerLength_of_split decoded split first).2.1 named unread)]
    rfl
  | conflict seen header named number differs =>
    obtain ⟨fuel, rfl⟩ : ∃ f, fuel = f + 1 := ⟨fuel - 1, by omega⟩
    obtain ⟨content, text, line, filled, decoded, split, first⟩ := header.filled
    rw [headers_conflict line filled ((headerLength_of_split decoded split first).2.2 _ named
      (parseLength?_eq_some_iff.mpr number)) differs]
    rfl
  | given header named number agrees later ih =>
    obtain ⟨fuel, rfl⟩ : ∃ f, fuel = f + 1 := ⟨fuel - 1, by omega⟩
    obtain ⟨content, text, line, filled, decoded, split, first⟩ := header.filled
    obtain ⟨cut, found, -⟩ := lineAt_iff.mp line
    have shorter := length_lt_of_splitLine found
    rw [headers_given line filled ((headerLength_of_split decoded split first).2.2 _ named
      (parseLength?_eq_some_iff.mpr number)) agrees]
    exact ih (by omega)

/-! ### Frames -/

/-- A header block read to its end gives its result back through `Step.toEnd`. -/
theorem mapError_eq_ok {h : Except Step (Option Nat × List UInt8)} {p : Option Nat × List UInt8} :
    h.mapError Step.toEnd = .ok p ↔ h = .ok p := by
  cases h <;> simp [Except.mapError]

/-- The reader of a whole input follows the grammar. -/
theorem reads_readAllFrom {maxFrame fuel : Nat} {bytes : List UInt8} (enough : bytes.length < fuel) :
    Reads maxFrame bytes (readAllFrom maxFrame fuel bytes).1 (readAllFrom maxFrame fuel bytes).2 := by
  induction fuel generalizing bytes with
  | zero => omega
  | succ fuel ih =>
    have block : Block false none bytes
        ((headers true (bytes.length + 1) none false bytes).mapError Step.toEnd) :=
      block_headers (Nat.lt_succ_self bytes.length)
    rcases next_cases (rfl : next maxFrame true bytes = _) with
      ⟨n, rest, headed, fits, whole, framed⟩ | ⟨n, rest, headed, fits, few, waits⟩ |
      ⟨n, rest, headed, large, failed⟩ | ⟨rest, headed, failed⟩ | headed
    · -- a whole frame, and the frames after it
      have shorter := length_lt_of_next framed
      rw [readAllFrom_of_frame framed]
      have sized : (rest.take n).length = n := List.length_take_of_le whole
      rw [headed] at block
      refine .frame ?_ (by omega) (ih (by omega))
      rw [sized, List.take_append_drop]
      exact block
    · rw [headed] at block
      simp only [if_true] at waits
      have ended : readAllFrom maxFrame (fuel + 1) bytes = ([], .truncated) := by
        simp [readAllFrom, waits]
      rw [ended]
      exact .short block fits few
    · rw [headed] at block
      have ended : readAllFrom maxFrame (fuel + 1) bytes = ([], .failed (.tooLarge n maxFrame)) := by
        simp [readAllFrom, failed]
      rw [ended]
      exact .oversized block large
    · rw [headed] at block
      have ended : readAllFrom maxFrame (fuel + 1) bytes = ([], .failed .missingLength) := by
        simp [readAllFrom, failed]
      rw [ended]
      exact .missing block
    · rw [headed] at block
      -- the block ended the reading: a fault, or the end of the input
      have ended : readAllFrom maxFrame (fuel + 1) bytes =
          ([], (next maxFrame true bytes).toEnd) := by
        rcases headers_error_cases headed with ⟨e, failed⟩ | waits | ⟨-, ended | ended⟩ <;>
          simp [readAllFrom, *, Step.toEnd]
      rw [ended]
      exact .stop block

/-- The grammar describes the reader of a whole input. -/
theorem readAllFrom_of_reads {maxFrame : Nat} {bytes : List UInt8} {frames : List (List UInt8)}
    {e : End} (reads : Reads maxFrame bytes frames e) {fuel : Nat} (enough : bytes.length < fuel) :
    readAllFrom maxFrame fuel bytes = (frames, e) := by
  induction reads generalizing fuel with
  | @stop bytes e block =>
    obtain ⟨fuel, rfl⟩ : ∃ f, fuel = f + 1 := ⟨fuel - 1, by omega⟩
    have headed := headers_of_block block (Nat.lt_succ_self bytes.length)
    cases h : headers true (bytes.length + 1) none false bytes with
    | ok p =>
      rw [h] at headed
      cases headed
    | error step =>
      rw [h] at headed
      have stepped : next maxFrame true bytes = step := by simp [next, h]
      simp only [Except.mapError, Except.error.injEq] at headed
      subst headed
      rcases headers_error_cases h with ⟨e, rfl⟩ | rfl | ⟨-, rfl | rfl⟩ <;>
        simp [readAllFrom, stepped, Step.toEnd]
  | @missing bytes rest block =>
    obtain ⟨fuel, rfl⟩ : ∃ f, fuel = f + 1 := ⟨fuel - 1, by omega⟩
    have headed := mapError_eq_ok.mp (headers_of_block block (Nat.lt_succ_self bytes.length))
    simp [readAllFrom, next, headed]
  | @oversized bytes rest n block large =>
    obtain ⟨fuel, rfl⟩ : ∃ f, fuel = f + 1 := ⟨fuel - 1, by omega⟩
    have headed := mapError_eq_ok.mp (headers_of_block block (Nat.lt_succ_self bytes.length))
    simp [readAllFrom, next, headed, large]
  | @short bytes rest n block fits few =>
    obtain ⟨fuel, rfl⟩ : ∃ f, fuel = f + 1 := ⟨fuel - 1, by omega⟩
    have headed := mapError_eq_ok.mp (headers_of_block block (Nat.lt_succ_self bytes.length))
    simp [readAllFrom, next, headed, Nat.not_lt.mpr fits, Nat.not_le.mpr few]
  | @frame bytes payload rest frames e block fits later ih =>
    obtain ⟨fuel, rfl⟩ : ∃ f, fuel = f + 1 := ⟨fuel - 1, by omega⟩
    have headed := mapError_eq_ok.mp (headers_of_block block (Nat.lt_succ_self bytes.length))
    have framed : next maxFrame true bytes = .frame payload rest := by
      simp [next, headed, Nat.not_lt.mpr fits]
    have shorter := length_lt_of_next framed
    rw [readAllFrom_of_frame framed, ih (by omega)]

/-- Reading a finished input frame by frame follows the header grammar exactly: it returns the
frames, and the end, that the grammar derives for the input, and no others. -/
theorem readAll_eq_iff_reads (maxFrame : Nat) (bytes : List UInt8) (frames : List (List UInt8))
    (e : End) : readAll maxFrame bytes = (frames, e) ↔ Reads maxFrame bytes frames e := by
  constructor
  · intro read
    have reads : Reads maxFrame bytes (readAllFrom maxFrame (bytes.length + 1) bytes).1
        (readAllFrom maxFrame (bytes.length + 1) bytes).2 :=
      reads_readAllFrom (Nat.lt_succ_self bytes.length)
    rw [← readAll, read] at reads
    exact reads
  · intro reads
    exact readAllFrom_of_reads reads (Nat.lt_succ_self bytes.length)

end Frame

end LspBridge
