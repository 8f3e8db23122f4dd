import LspBridge.Rpc.Error
/-!
# The command console: requests and answers

The console takes one JSON command object and gives one JSON answer object. This module holds what
every command shares: reading fields of the command, refusing a command that lacks one (a
`BadInput` answer naming what is wrong), byte strings given as text or as hexadecimal, and the JSON
views of messages and errors that answers use.

A byte string answers as a JSON string when it is UTF-8 and as `{"hex": …}` in lower-case
hexadecimal otherwise. Texts that embed a third-party error text are cut after the marker that
introduces it (`Console.redact`).
-/

namespace LspBridge

namespace Console

open Json Rpc

/-- Why a command cannot be run: its text is the answer's message.

`message`: what is wrong with the command. -/
structure BadInput where
  message : String

/-- A step of reading a command. -/
abbrev Decode := Except BadInput

/-- Refuses a command with the given message. -/
def bad {α : Type} (message : String) : Decode α := .error ⟨message⟩

/-- The answer to a command that cannot be run. -/
def BadInput.answer (e : BadInput) : Value :=
  Value.obj [("error", .string "BadInput"), ("message", .string e.message)]

/-- A field that must be present; its absence is refused with the field's name. -/
def need (cmd : Value) (key : String) : Decode Value :=
  match cmd.get? key with
  | some v => pure v
  | none => bad key

/-- A string field that must be present. -/
def needString (cmd : Value) (key : String) : Decode String := do
  match (← need cmd key) with
  | .string s => pure s
  | _ => bad key

/-- A natural-number field that must be present. -/
def needNat (cmd : Value) (key : String) : Decode Nat := do
  match (← need cmd key).asNat? with
  | some n => pure n
  | none => bad key

/-- An optional field: absent and null both read as none. -/
def optional (cmd : Value) (key : String) : Option Value :=
  match cmd.get? key with
  | some .null | none => none
  | some v => some v

/-- A boolean field with a default. -/
def flag (cmd : Value) (key : String) (default : Bool) : Bool :=
  ((cmd.get? key).bind Value.asBool?).getD default

/-- The value of a hexadecimal digit character. -/
def hexCharValue? (c : Char) : Option Nat :=
  if '0' ≤ c ∧ c ≤ '9' then some (c.toNat - '0'.toNat)
  else if 'a' ≤ c ∧ c ≤ 'f' then some (c.toNat - 'a'.toNat + 10)
  else if 'A' ≤ c ∧ c ≤ 'F' then some (c.toNat - 'A'.toNat + 10)
  else none

/-- Bytes written as hexadecimal digit pairs; blanks between them are ignored. -/
def hexBytes? (s : String) : Option (List UInt8) :=
  go (s.toList.filter fun c => !c.isWhitespace)
where
  /-- Reads digit pairs. -/
  go : List Char → Option (List UInt8)
    | [] => some []
    | a :: b :: rest => do
      let hi ← hexCharValue? a
      let lo ← hexCharValue? b
      let tail ← go rest
      some ((hi * 16 + lo).toUInt8 :: tail)
    | [_] => none

/-- A byte-string field, given as text in `key` or as hexadecimal in `key_hex`. -/
def needBytes (cmd : Value) (key : String) : Decode (List UInt8) :=
  match cmd.get? key with
  | some (.string s) => pure (Utf8.encode s)
  | _ =>
    match cmd.get? (key ++ "_hex") with
    | some (.string s) =>
      match hexBytes? s with
      | some bs => pure bs
      | none => bad ("invalid " ++ key ++ "_hex")
    | _ => bad ("missing " ++ key ++ " or " ++ key ++ "_hex")

/-- Two lower-case hexadecimal digits of a byte. -/
def byteHex (b : UInt8) : List Char :=
  [Json.hexDigit (b.toNat / 16), Json.hexDigit (b.toNat % 16)]

/-- A byte string in an answer. -/
def bytesValue (bs : List UInt8) : Value :=
  match Utf8.decode? bs with
  | some s => .string s
  | none => Value.obj [("hex", .string (String.ofList (bs.flatMap byteHex)))]

/-- The markers after which a text embeds a third-party error text, which answers leave out. -/
def redactMarkers : List String :=
  ["invalid JSON payload: ", "malformed error object: ", "serialization failed: "]

/-- The position just before `": "` of the first `invalid <word> params: ` in a text, if any. -/
def paramsMarkerEnd? (cs : List Char) : Option Nat :=
  go cs 0
where
  /-- Tries each start position. -/
  go : List Char → Nat → Option Nat
    | [], _ => none
    | c :: rest, i =>
      let here := c :: rest
      if "invalid ".toList.isPrefixOf here then
        let afterInvalid := here.drop 8
        let word := afterInvalid.takeWhile (· ≠ ' ')
        if !word.isEmpty && " params: ".toList.isPrefixOf (afterInvalid.drop word.length) then
          some (i + 8 + word.length + 7)
        else go rest (i + 1)
      else go rest (i + 1)

/-- The position of the end of the first marker word (before its `": "`) in a text, if any. -/
def markerEnd? (cs : List Char) (marker : List Char) : Option Nat :=
  go cs 0
where
  /-- Tries each start position. -/
  go : List Char → Nat → Option Nat
    | [], _ => none
    | c :: rest, i =>
      if marker.isPrefixOf (c :: rest) then some (i + marker.length - 2) else go rest (i + 1)

/-- A text cut after the first marker of an embedded third-party error text. -/
def redact (s : String) : String :=
  let cs := s.toList
  let ends := (redactMarkers.filterMap fun m => markerEnd? cs m.toList) ++
    (paramsMarkerEnd? cs).toList
  match ends.min? with
  | some n => String.ofList (cs.take n)
  | none => s

/-- The JSON view of a message. -/
def messageValue : Message → Value
  | .request id method params =>
    Value.obj [("kind", .string "request"), ("id", id.toValue), ("method", .string method),
      ("params", params)]
  | .notification method params =>
    Value.obj [("kind", .string "notification"), ("method", .string method), ("params", params)]
  | .response id (.ok result) =>
    Value.obj [("kind", .string "response"), ("id", id.toValue), ("result", result)]
  | .response id (.error e) =>
    Value.obj [("kind", .string "response"), ("id", id.toValue), ("error", e.toValue)]

/-- A message view whose error text, if any, is cut as `redact` says. -/
def sentMessageValue : Message → Value
  | .response id (.error e) =>
    messageValue (.response id (.error { e with message := redact e.message }))
  | m => messageValue m

/-- The JSON view of an error of the message layer. -/
def rpcErrorValue (e : Rpc.Error) : Value :=
  let base := Value.obj [("error", .string e.kind), ("message", .string (redact e.text))]
  match e with
  | .response r => base.insert "response" r.toValue
  | _ => base

/-- `{"ok": v}` -/
def okValue (v : Value) : Value := Value.obj [("ok", v)]

/-- The JSON view of an outcome of the message layer. -/
def rpcOutcomeValue : Except Rpc.Error Value → Value
  | .ok v => okValue v
  | .error e => rpcErrorValue e

/-- An answer that is only an error kind. -/
def errorKind (kind : String) : Value := Value.obj [("error", .string kind)]

end Console

end LspBridge
