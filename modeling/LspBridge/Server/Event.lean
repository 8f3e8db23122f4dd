import LspBridge.Server.State
/-!
# Session events

What a supervisor reports about its sessions, each tagged with the generation (the count of launch
attempts) it concerns: a change of state, a crash with its reason, and an automatic restart that
has been scheduled, with its attempt number and delay.

A crash reason is a failed launch, a failed handshake, an exit of the process (with its code, or
none for a signal), a failed channel, or the server closing its output.
-/

namespace LspBridge

namespace Server

/-- Why a session crashed.

`spawn`: the process could not be launched. `handshake`: the handshake failed or timed out.
`exited`: the process exited; no code means a signal ended it. `transport`: the channel to the
server failed. `disconnected`: the server closed its output and did not exit. -/
inductive CrashReason where
  | spawn (reason : String)
  | handshake (reason : String)
  | exited (code : Option Int)
  | transport (reason : String)
  | disconnected
  deriving DecidableEq, Repr

namespace CrashReason

/-- The one-word tag of a reason. -/
def tag : CrashReason → String
  | .spawn _ => "spawn"
  | .handshake _ => "handshake"
  | .exited _ => "exited"
  | .transport _ => "transport"
  | .disconnected => "disconnected"

/-- The text of a reason. -/
def text : CrashReason → String
  | .spawn r => "spawn failed: " ++ r
  | .handshake r => "initialize failed: " ++ r
  | .exited (some code) => "exited with code " ++ toString code
  | .exited none => "terminated by signal"
  | .transport r => "channel failed: " ++ r
  | .disconnected => "server closed its output"

end CrashReason

/-- An event of a supervised server.

`stateChanged`: the state changed. `crashed`: the session of this generation crashed.
`restartScheduled`: an automatic restart is due after `delay` ms. -/
inductive SessionEvent where
  | stateChanged (generation : Nat) (before after : SessionState)
  | crashed (generation : Nat) (reason : CrashReason)
  | restartScheduled (generation : Nat) (attempt : Nat) (delay : Nat)
  deriving DecidableEq, Repr

end Server

end LspBridge
