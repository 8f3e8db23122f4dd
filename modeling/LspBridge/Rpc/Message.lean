import LspBridge.Json.Reader
import LspBridge.Json.Writer
import LspBridge.Json.Shape
/-!
# JSON-RPC messages

A message is a request (an id, a method and params), a notification (a method and params) or a
response (an id and either a result or an error object). `Message.encode` writes the wire object
`{"jsonrpc": "2.0", …}` with null params left out; `Message.decode` classifies a payload by the
members it has, checking in this order:

1. the payload is JSON, and an object;
2. a `jsonrpc` member, if present, is the string `"2.0"`;
3. an `id` member that is present and not null is a 64-bit signed integer or a string;
4. a `method` member makes a request (with an id) or a notification (without); it must be a
   string;
5. otherwise a non-null `error` with a null or absent `result` is an error object, a present
   `result` with a null or absent `error` is a result, both is refused and neither is refused;
6. a response needs an id.

Members other than these are ignored, and absent params read as null.
-/

namespace LspBridge

namespace Rpc

open Json

/-- The id that pairs a request with its response.

`number`: a signed 64-bit integer; outbound ids are always of this kind. `text`: a string, as some
servers use for their own requests. -/
inductive RequestId where
  | number (n : Int)
  | text (s : String)
  deriving DecidableEq, Repr, Inhabited, Hashable

/-- The JSON form of an id. -/
def RequestId.toValue : RequestId → Value
  | .number n => Value.int n
  | .text s => .string s

/-- An id read from JSON: an integer of 64 signed bits or a string. -/
def RequestId.ofValue? : Value → Option RequestId
  | .number (.unsigned n) => if n < Nat.pow 2 63 then some (.number n) else none
  | .number (.signed n) => some (.number n)
  | .string s => some (.text s)
  | _ => none

/-- The error object of a failed response.

`code`: a signed 32-bit error code. `message`: a short description. `data`: more information; a null
`data` member reads as none. -/
structure ResponseError where
  code : Int
  message : String
  data : Option Value := none
  deriving Inhabited

namespace ResponseError

/-- Invalid method parameters. -/
def invalidParams : Int := -32602

/-- The method is not there. -/
def methodNotFound : Int := -32601

/-- An internal error, such as a handler that failed. -/
def internalError : Int := -32603

/-- The request failed although its parameters were valid. -/
def requestFailed : Int := -32803

/-- The shape of an error object: a 32-bit code, a message and optional data, as an object or as
an array of two or three items. -/
def shape : Shape :=
  .recordOf [Shape.req "code" Shape.i32, Shape.req "message" Shape.text,
    Shape.optD "data" .any]

/-- The JSON form, without `data` when there is none. -/
def toValue (e : ResponseError) : Value :=
  let base := Value.obj [("code", Value.int e.code), ("message", .string e.message)]
  match e.data with
  | some d => base.insert "data" d
  | none => base

/-- Reads an error object. -/
def ofValue? (v : Value) : Option ResponseError := do
  let n ← shape.normalize? v
  let code ← (n.field "code").asInt?
  let message ← (n.field "message").asString?
  some { code, message, data := n.get? "data" }

/-- The error's text: its message, then its code in parentheses. -/
def text (e : ResponseError) : String := e.message ++ " (" ++ toString e.code ++ ")"

end ResponseError

/-- A JSON-RPC message.

`request`: a request, which expects exactly one response. `response`: a response to an earlier
request: its result or its error. `notification`: a notification, which expects nothing back. -/
inductive Message where
  | request (id : RequestId) (method : String) (params : Value)
  | response (id : RequestId) (outcome : Except ResponseError Value)
  | notification (method : String) (params : Value)
  deriving Inhabited

/-- Why a payload is no message. Texts taken from the payload are kept as its JSON.

`invalidJson`: the payload is not JSON. `notObject`: the payload is JSON but not an object.
`unsupportedVersion`: the `jsonrpc` member is not `"2.0"`. `invalidId`: the `id` member is neither a
64-bit integer nor a string. `methodNotString`: the `method` member is not a string.
`malformedError`: the `error` member is not an error object. `resultAndError`: both a result and an
error. `noContent`: no method, result or error. `errorWithoutId`: an error response without an id.
`resultWithoutId`: a result without an id. -/
inductive DecodeError where
  | invalidJson
  | notObject
  | unsupportedVersion (version : Value)
  | invalidId (id : Value)
  | methodNotString (method : Value)
  | malformedError
  | resultAndError
  | noContent
  | errorWithoutId (error : ResponseError)
  | resultWithoutId

/-- The text of a decoding failure. -/
def DecodeError.text : DecodeError → String
  | .invalidJson => "invalid JSON payload"
  | .notObject => "message is not a JSON object"
  | .unsupportedVersion v => "unsupported jsonrpc version " ++ v.render
  | .invalidId v => "invalid id " ++ v.render
  | .methodNotString v => "method must be a string, got " ++ v.render
  | .malformedError => "malformed error object"
  | .resultAndError => "response carries both result and error"
  | .noContent => "message has neither method nor result/error"
  | .errorWithoutId e => "error response without id: " ++ e.text
  | .resultWithoutId => "response without id"

namespace Message

/-- The method of a request or notification. -/
def method? : Message → Option String
  | .request _ m _ => some m
  | .notification m _ => some m
  | .response _ _ => none

/-- The wire object of a message. -/
def toValue : Message → Value
  | .request id method params =>
    let base :=
      Value.obj [("jsonrpc", .string "2.0"), ("id", id.toValue), ("method", .string method)]
    if params.isNull then base else base.insert "params" params
  | .notification method params =>
    let base := Value.obj [("jsonrpc", .string "2.0"), ("method", .string method)]
    if params.isNull then base else base.insert "params" params
  | .response id (.ok result) =>
    Value.obj [("jsonrpc", .string "2.0"), ("id", id.toValue), ("result", result)]
  | .response id (.error e) =>
    Value.obj [("jsonrpc", .string "2.0"), ("id", id.toValue), ("error", e.toValue)]

/-- The payload of a message: its wire object as compact JSON. -/
def encode (m : Message) : List UInt8 := Utf8.encode m.toValue.render

/-- The outcome of a response without its id, from its `result` and `error` members. -/
def outcomeOf (result error : Option Value) :
    Except DecodeError (Except ResponseError Value) :=
  let error := error.filter (!·.isNull)
  match result, error with
  | none, some e | some .null, some e =>
    match ResponseError.ofValue? e with
    | some err => .ok (.error err)
    | none => .error .malformedError
  | some r, none => .ok (.ok r)
  | some _, some _ => .error .resultAndError
  | none, none => .error .noContent

/-- Checks that a `jsonrpc` member, if there is one, is the string `"2.0"`. -/
def checkVersion (v : Value) : Except DecodeError Unit :=
  match v.get? "jsonrpc" with
  | some version =>
    if version.asString? != some "2.0" then .error (.unsupportedVersion version) else pure ()
  | none => pure ()

/-- The id of a message object: none when the member is absent or null. -/
def idOf (v : Value) : Except DecodeError (Option RequestId) :=
  match v.get? "id" with
  | none | some .null => pure none
  | some raw => match RequestId.ofValue? raw with
    | some id => pure (some id)
    | none => .error (.invalidId raw)

/-- Classifies a message object by its members, once its id is read. -/
def classify (v : Value) (id : Option RequestId) : Except DecodeError Message := do
  let params := v.field "params"
  match v.get? "method" with
  | some (.string method) =>
    match id with
    | some id => pure (.request id method params)
    | none => pure (.notification method params)
  | some other => .error (.methodNotString other)
  | none =>
    let outcome ← outcomeOf (v.get? "result") (v.get? "error")
    match id, outcome with
    | some id, outcome => pure (.response id outcome)
    | none, .error e => .error (.errorWithoutId e)
    | none, .ok _ => .error .resultWithoutId

/-- Classifies a JSON value as a message. -/
def ofValue (v : Value) : Except DecodeError Message := do
  let .object _ := v | .error .notObject
  checkVersion v
  let id ← idOf v
  classify v id

/-- Decodes a payload. -/
def decode (payload : List UInt8) : Except DecodeError Message :=
  match Json.read payload with
  | .ok v => ofValue v
  | .error _ => .error .invalidJson

end Message

end Rpc

end LspBridge
