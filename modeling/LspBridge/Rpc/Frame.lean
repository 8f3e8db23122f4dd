import LspBridge.Text.Utf8
import LspBridge.Text.Blank
import LspBridge.Text.Quoted
/-!
# Content-Length framing

A frame is a block of `Name: value` header lines, a blank line, and exactly as many payload bytes
as its `Content-Length` header says. Writing a frame puts `Content-Length: N\r\n\r\n` before the
payload.

Reading takes lines up to a line feed, at most `maxHeaderLine` bytes with the line feed, and cuts
the line feed and then one carriage return. Blank lines before the first header are skipped; after
it, a blank line ends the block. Every other line must be UTF-8 and hold a colon; a line whose name
before the first colon is `content-length` in any letter case, blanks around it aside, gives the
length as a decimal number with an optional `+`, the same in every such line. The payload must
then fit `maxFrame`.

`Frame.next` reads one frame from the bytes that have arrived so far, knowing whether more may
come: it gives the frame and the bytes after it, a clean end (the input ended between frames), a
failure, or a request to wait for more bytes. Fed the whole input at once, it is the reader of a
finished stream.
-/

namespace LspBridge

namespace Frame

/-- The longest header line, its line feed included. -/
def maxHeaderLine : Nat := 8192

/-- The payload limit a reader has unless told otherwise. -/
def defaultMaxFrame : Nat := 64 * 1024 * 1024

/-- Why a header block is refused.

`lineTooLong`: no line feed within `maxHeaderLine` bytes. `notUtf8`: a header line that is not
UTF-8. `malformedLine`: a header line without a colon. `invalidLength`: a `Content-Length` value
that is no number. `conflictingLength`: two `Content-Length` headers that disagree. `missingLength`:
no `Content-Length` header. `tooLarge`: a payload longer than the limit. -/
inductive HeaderError where
  | lineTooLong
  | notUtf8
  | malformedLine (line : String)
  | invalidLength (value : String)
  | conflictingLength
  | missingLength
  | tooLarge (length limit : Nat)
  deriving DecidableEq, Repr

/-- The text of a header error. -/
def HeaderError.text : HeaderError → String
  | .lineTooLong => "header line exceeds " ++ toString maxHeaderLine ++ " bytes"
  | .notUtf8 => "header is not valid UTF-8"
  | .malformedLine line => "malformed header line " ++ Text.quoted line
  | .invalidLength value => "invalid Content-Length " ++ Text.quoted value
  | .conflictingLength => "conflicting Content-Length headers"
  | .missingLength => "missing Content-Length header"
  | .tooLarge length limit =>
    "frame of " ++ toString length ++ " bytes exceeds limit of " ++ toString limit

/-- What the reader makes of the bytes that have arrived.

`frame`: a whole frame, and the bytes after it. `finished`: the input ended between frames.
`truncated`: the input ended inside a frame. `failed`: a header block that breaks the rules.
`needMore`: more bytes are needed to decide. -/
inductive Step where
  | frame (payload rest : List UInt8)
  | finished
  | truncated
  | failed (e : HeaderError)
  | needMore
  deriving DecidableEq, Repr

/-- The bytes of one frame. -/
def encode (payload : List UInt8) : List UInt8 :=
  Utf8.encode ("Content-Length: " ++ toString payload.length ++ "\r\n\r\n") ++ payload

/-- The bytes before the first line feed among the first `limit` bytes, and the bytes after that
line feed. -/
def splitLine : Nat → List UInt8 → Option (List UInt8 × List UInt8)
  | 0, _ => none
  | _, [] => none
  | limit + 1, b :: rest =>
    if b == 0x0A then some ([], rest)
    else (splitLine limit rest).map fun (line, after) => (b :: line, after)

/-- A line without one trailing carriage return. -/
def dropCarriageReturn (line : List UInt8) : List UInt8 :=
  if line.getLast? == some 0x0D then line.dropLast else line

/-- Whether a header name is `content-length` in any ASCII letter case. -/
def isContentLength (name : String) : Bool :=
  (name.toList.map Char.toLower) == "content-length".toList

/-- A decimal number with an optional leading `+`, as a length field is written. -/
def parseLength? (s : String) : Option Nat :=
  let digits := match s.toList with
    | '+' :: rest => rest
    | cs => cs
  if digits.isEmpty || !digits.all Char.isDigit then none
  else
    let n := digits.foldl (fun acc c => acc * 10 + (c.toNat - '0'.toNat)) 0
    if n < Nat.pow 2 64 then some n else none

/-- What one header line says about the length: nothing (another header), a length, or a fault. -/
def headerLength (line : List UInt8) : Except HeaderError (Option Nat) :=
  match Utf8.decode? line with
  | none => .error .notUtf8
  | some text =>
    -- the name is what stands before the first colon, the value all after it
    match text.toList.span (· ≠ ':') with
    | (name, _ :: value) =>
      if isContentLength (Text.trimBlank (String.ofList name)) then
        let value := Text.trimBlank (String.ofList value)
        match parseLength? value with
        | some n => .ok (some n)
        | none => .error (.invalidLength value)
      else .ok none
    | (_, []) => .error (.malformedLine text)

/-- Reads header lines. `length` is the length seen so far and `seen` whether a header was; the
fuel bounds the number of lines, each of which takes at least one byte. -/
def headers (closed : Bool) : Nat → Option Nat → Bool → List UInt8 →
    Except Step (Option Nat × List UInt8)
  | 0, _, _, _ => .error .needMore
  | fuel + 1, length, seen, bytes =>
    match splitLine maxHeaderLine bytes with
    | none =>
      if maxHeaderLine ≤ bytes.length then .error (.failed .lineTooLong)
      else if !closed then .error .needMore
      else if bytes.isEmpty && !seen then .error .finished
      else .error .truncated
    | some (line, rest) =>
      let line := dropCarriageReturn line
      if line.isEmpty then
        if seen then .ok (length, rest) else headers closed fuel length seen rest
      else
        match headerLength line with
        | .error e => .error (.failed e)
        | .ok none => headers closed fuel length true rest
        | .ok (some n) =>
          match length with
          | some m => if m ≠ n then .error (.failed .conflictingLength)
            else headers closed fuel (some n) true rest
          | none => headers closed fuel (some n) true rest

/-- Reads the next frame from the bytes that have arrived; `closed` says that no more will. -/
def next (maxFrame : Nat) (closed : Bool) (bytes : List UInt8) : Step :=
  match headers closed (bytes.length + 1) none false bytes with
  | .error step => step
  | .ok (none, _) => .failed .missingLength
  | .ok (some n, rest) =>
    if maxFrame < n then .failed (.tooLarge n maxFrame)
    else if n ≤ rest.length then .frame (rest.take n) (rest.drop n)
    else if closed then .truncated
    else .needMore

/-- How reading a whole input ended.

`clean`: between frames. `truncated`: inside a frame. `failed`: with a bad header block. `io`: with
a read of the stream that failed. -/
inductive End where
  | clean
  | truncated
  | failed (e : HeaderError)
  | io (detail : String)
  deriving DecidableEq, Repr

/-- How a reading that meets the end of the bytes ends when the stream failed there instead of
ending: the read that fails ends it, with the failure. -/
def End.atFailure : Option String → End → End
  | some d, .clean => .io d
  | some d, .truncated => .io d
  | _, e => e

/-- Reads every frame of a finished input, up to its end or its first fault. The fuel bounds the
number of frames, each of which takes at least one byte. -/
def readAllFrom (maxFrame : Nat) : Nat → List UInt8 → List (List UInt8) × End
  | 0, _ => ([], .clean)
  | fuel + 1, bytes =>
    match next maxFrame true bytes with
    | .frame payload rest =>
      let (more, e) := readAllFrom maxFrame fuel rest
      (payload :: more, e)
    | .finished => ([], .clean)
    | .truncated => ([], .truncated)
    | .failed e => ([], .failed e)
    | .needMore => ([], .truncated)

/-- Every frame of a finished input, and how it ended. -/
def readAll (maxFrame : Nat) (bytes : List UInt8) : List (List UInt8) × End :=
  readAllFrom maxFrame (bytes.length + 1) bytes

end Frame

end LspBridge
