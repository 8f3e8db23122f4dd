import LspBridge.Console.Basic
/-!
# Console commands on the wire format

Commands that exercise framing and the message codec on their own: reading every frame of a byte
string, writing one frame, decoding a payload, and encoding a message given by its JSON view
(`{"kind", "id"?, "method"?, "params"?, "result"?, "error"?}`).
-/

namespace LspBridge

namespace Console

open Json Rpc

/-- A request id given in a command. -/
def decodeId (v : Value) : Decode RequestId :=
  match RequestId.ofValue? v with
  | some id => pure id
  | none => bad "id must be an i64 or a string"

/-- An error object given in a command; a present `data`, null included, is kept. -/
def decodeResponseError (v : Value) : Decode ResponseError := do
  let code ← match (← need v "code").asInt? with
    | some n => pure n
    | none => bad "code"
  let message ← needString v "message"
  pure { code, message, data := v.get? "data" }

/-- A message given by its JSON view. -/
def decodeMessage (v : Value) : Decode Message := do
  let kind ← need v "kind"
  match kind with
  | .string "request" =>
    let id ← decodeId (← need v "id")
    let method ← needString v "method"
    pure (.request id method (v.field "params"))
  | .string "notification" =>
    let method ← needString v "method"
    pure (.notification method (v.field "params"))
  | .string "response" =>
    let id ← decodeId (← need v "id")
    match v.get? "error" with
    | some e => pure (.response id (.error (← decodeResponseError e)))
    | none => pure (.response id (.ok (v.field "result")))
  | .string other => bad ("unknown kind " ++ other)
  | other => bad ("unknown kind " ++ other.render)

/-- How reading a whole input ended, as an answer shows it. -/
def frameEndValue : Frame.End → Value
  | .clean => .string "clean"
  | .truncated => rpcErrorValue .eof
  | .failed e => rpcErrorValue (.framing e)
  | .io d => rpcErrorValue (.io d)

/-- `read_frames`: every frame of a byte string and how the input ended. -/
def readFramesCommand (cmd : Value) : Decode Value := do
  let data ← needBytes cmd "data"
  let maxFrame := ((cmd.get? "max_frame").bind Value.asNat?).getD Frame.defaultMaxFrame
  let (frames, e) := Frame.readAll maxFrame data
  pure (Value.obj [("frames", .array (frames.map bytesValue)), ("end", frameEndValue e)])

/-- `write_frame`: the bytes of one frame. -/
def writeFrameCommand (cmd : Value) : Decode Value := do
  let payload ← needBytes cmd "payload"
  pure (Value.obj [("bytes", bytesValue (Frame.encode payload))])

/-- The answer for a decoded payload or its failure. -/
def decodedValue : Except DecodeError Message → Value
  | .ok m => messageValue m
  | .error e => rpcErrorValue (Error.ofDecode e)

/-- `decode`: a payload as a message, with its method and its encoding. -/
def decodeCommand (cmd : Value) : Decode Value := do
  let payload ← needBytes cmd "payload"
  match Message.decode payload with
  | .ok m =>
    pure (Value.obj [("message", messageValue m),
      ("method", Value.ofOption (m.method?.map Value.string)),
      ("encoded", bytesValue m.encode)])
  | .error e => pure (rpcErrorValue (Error.ofDecode e))

/-- `encode`: a message's encoding and that encoding decoded again. -/
def encodeCommand (cmd : Value) : Decode Value := do
  let m ← decodeMessage (← need cmd "message")
  let bytes := m.encode
  pure (Value.obj [("encoded", bytesValue bytes), ("decoded", decodedValue (Message.decode bytes))])

/-- `message_method`: the method of a message, null for a response. -/
def messageMethodCommand (cmd : Value) : Decode Value := do
  let m ← decodeMessage (← need cmd "message")
  pure (Value.obj [("method", Value.ofOption (m.method?.map Value.string))])

end Console

end LspBridge
