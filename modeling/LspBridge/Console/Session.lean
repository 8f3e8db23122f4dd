import LspBridge.Console.Script
/-!
# Scripted sessions

`session` runs a script against a bare client: one connection, held by the host, its reader
running from the start, outbound ids counting from 0.

The setup chooses the handlers: the Spring Tools ones (`sts`, default true) with a Java model made
from the `model` tables (or none at all with `java_model: "none"`), and the client's standard
answers (`defaults`, default true) with the `settings` given (a present `null` counts as given). It
also sets the connection's default timeout (`default_timeout_ms`) and largest inbound frame
(`max_frame`).

Each step answers with the connection's call count, whether it is closed, and how the reader's run
ended (`"running"` until it has).
-/

namespace LspBridge

namespace Console

open Json Rpc Client Server
open Engine

/-- The Java model a setup describes. -/
def modelOf (cmd : Value) : Sts.JavaModel :=
  match cmd.get? "java_model" with
  | some (.string "none") => .empty
  | _ => .tables (Sts.ModelTables.ofValue (cmd.field "model"))

/-- The router a session setup describes. -/
def sessionRouter (cmd : Value) : Router :=
  let r : Router := {}
  let r := if flag cmd "defaults" true then installClientDefaults r (cmd.get? "settings") else r
  if flag cmd "sts" true then installSts r else r

/-- The bench of a session: connection 0 held by the host, its reader started. -/
def sessionBench (cmd : Value) : Bench :=
  let conn : Conn := {
    defaultTimeout := (optional cmd "default_timeout_ms").bind Value.asNat?
    maxFrame := ((optional cmd "max_frame").bind Value.asNat?).getD Frame.defaultMaxFrame
    hostHeld := true }
  let w : World := { conns := #[conn], router := sessionRouter cmd, model := modelOf cmd }
  { host := .session, sts := flag cmd "sts" true
    world := (w.spawn (.reader 0 false none)).1.settle }

/-- Text of a call timeout, as a duration prints. -/
def timeoutText : Option Nat → String
  | some ms => "Some(" ++ Text.durationText ms ++ ")"
  | none => "None"

/-- The printed form of a connection's client end. -/
def peerText (k : Conn) : String :=
  "Peer \x7b pending: " ++ toString k.pending.size ++ ", closed: " ++ toString k.pending.closed ++
    ", default_timeout: " ++ timeoutText k.defaultTimeout ++ " \x7d"

/-- Steps only a session has. -/
def sessionStep (b : Bench) (_ : Nat) (op : String) (_ : Value) : Outcome :=
  match op with
  | "inspect" =>
    let k := b.world.conn 0
    pure (okValue (Value.obj [
      ("default_timeout_ms", Value.ofOption (k.defaultTimeout.map Value.nat)),
      ("peer", .string (peerText k)), ("router", .string b.world.router.debugText)]), b)
  | _ => bad ("unknown step op " ++ op)

/-- How the reader's run stands. -/
def loopValue : Option (Except Rpc.Error Unit) → Value
  | none => .string "running"
  | some (.ok _) => okNull
  | some (.error e) => rpcErrorValue e

/-- The answer of a session step. -/
def sessionAnswer (op result : Value) (before : Marks) (b : Bench) : Value :=
  let w := b.world
  let k := w.conn 0
  Value.obj (stepFields op result before w ++ [
    ("sent", .array ((w.sent.drop before.sent).map fun (_, m) => sentMessageValue m)),
    ("pending", Value.nat k.pending.size), ("closed", .bool k.pending.closed),
    ("loop", loopValue k.ended)])

/-- `session`: runs a script against a bare client. -/
def sessionCommand (cmd : Value) : Decode Value := do
  let steps := ((cmd.get? "steps").bind Value.asArray?).getD []
  pure (Value.obj [("steps", .array (runSteps sessionStep sessionAnswer (sessionBench cmd) steps))])

end Console

end LspBridge
