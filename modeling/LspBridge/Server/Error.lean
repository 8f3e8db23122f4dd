import LspBridge.Rpc.Error
import LspBridge.Text.Quoted
/-!
# Errors of the supervisor

Launching, configuring and initializing a language server can fail in its own ways; failures of
single calls on a running session are errors of the message layer.
-/

namespace LspBridge

namespace Server

/-- An error of the supervisor.

`spawn`: the process could not be started: the command and the system's reason. `handshake`: the
`initialize` exchange failed or timed out. `rpc`: a failure of the message layer. `config`: the
configuration is invalid. -/
inductive Error where
  | spawn (command reason : String)
  | handshake (reason : String)
  | rpc (e : Rpc.Error)
  | config (detail : String)
  deriving Inhabited

namespace Error

/-- The kind of an error, as a single word. -/
def kind : Error → String
  | .spawn _ _ => "Spawn"
  | .handshake _ => "Handshake"
  | .rpc _ => "Rpc"
  | .config _ => "Config"

/-- The text of an error. -/
def text : Error → String
  | .spawn command reason => "failed to spawn " ++ command ++ ": " ++ reason
  | .handshake reason => "initialize handshake failed: " ++ reason
  | .rpc e => e.text
  | .config detail => "invalid configuration: " ++ detail

/-- The debugging view of an error of the message layer. -/
def rpcDebugText : Rpc.Error → String
  | .framing e => "Framing(" ++ Text.quoted e.text ++ ")"
  | .protocol d => "Protocol(" ++ Text.quoted d ++ ")"
  | .io d => "Io(" ++ Text.quoted d ++ ")"
  | .eof => "Eof"
  | .serverUnavailable => "ServerUnavailable"
  | .timeout m => "Timeout(" ++ Text.quoted m ++ ")"
  | .cancelled m => "Cancelled(" ++ Text.quoted m ++ ")"
  | .response e =>
    "Response(ResponseError \x7b code: ErrorCode(" ++ toString e.code ++ "), message: " ++
      Text.quoted e.message ++ ", data: " ++
      (match e.data with
        | some v => "Some(" ++ v.render ++ ")"
        | none => "None") ++ " \x7d)"
  | .serialize => "Serialize(\"serialization failed\")"

/-- The debugging view of an error, as a program that ends with it prints it. -/
def debugText : Error → String
  | .spawn command reason =>
    "Spawn \x7b command: " ++ Text.quoted command ++ ", reason: " ++ Text.quoted reason ++ " \x7d"
  | .handshake reason => "Handshake(" ++ Text.quoted reason ++ ")"
  | .rpc e => "Rpc(" ++ rpcDebugText e ++ ")"
  | .config detail => "Config(" ++ Text.quoted detail ++ ")"

end Error

end Server

end LspBridge
