import LspBridge.Rpc.Message
import LspBridge.Rpc.Frame
/-!
# Errors of the message layer

What can go wrong on a connection: a bad header block or a stream that ends inside a frame (fatal
to the connection), a malformed message (dropped, the connection goes on), and for a caller a
server that is gone, a deadline, a local cancellation, an error response, or a value that has no
typed form.
-/

namespace LspBridge

namespace Rpc

/-- An error of the message layer.

`framing`: a header block that breaks the framing rules. `protocol`: a malformed message, or a reply
of the wrong form. `io`: a failure of the underlying streams. `eof`: the stream ended inside a
frame. `serverUnavailable`: the server is not running, or stopped while the call was in flight.
`timeout`: the call did not complete within its deadline. `cancelled`: the call was cancelled
locally. `response`: the server answered with an error. `serialize`: a value had no typed form, or a
typed value no JSON form. -/
inductive Error where
  | framing (e : Frame.HeaderError)
  | protocol (detail : String)
  | io (detail : String)
  | eof
  | serverUnavailable
  | timeout (method : String)
  | cancelled (method : String)
  | response (e : ResponseError)
  | serialize
  deriving Inhabited

namespace Error

/-- The kind of an error, as a single word. -/
def kind : Error → String
  | .framing _ => "Framing"
  | .protocol _ => "Protocol"
  | .io _ => "Io"
  | .eof => "Eof"
  | .serverUnavailable => "ServerUnavailable"
  | .timeout _ => "Timeout"
  | .cancelled _ => "Cancelled"
  | .response _ => "Response"
  | .serialize => "Serialize"

/-- The text of an error. -/
def text : Error → String
  | .framing e => "framing error: " ++ e.text
  | .protocol d => "protocol error: " ++ d
  | .io d => d
  | .eof => "the underlying channel reached EOF"
  | .serverUnavailable => "language server unavailable"
  | .timeout m => "request timed out: " ++ m
  | .cancelled m => "request cancelled: " ++ m
  | .response e => e.text
  | .serialize => "serialization failed"

/-- The protocol error of a payload that is no message. -/
def ofDecode (e : DecodeError) : Error := .protocol e.text

end Error

end Rpc

namespace Frame

/-- The result of a reader's run, by how its input ended. -/
def End.result : End → Except Rpc.Error Unit
  | .clean => .ok ()
  | .truncated => .error .eof
  | .failed e => .error (.framing e)
  | .io d => .error (.io d)

end Frame

end LspBridge
