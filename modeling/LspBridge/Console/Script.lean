import LspBridge.Engine.Scheduler
import LspBridge.Console.Wire
import LspBridge.Console.Lifecycle
/-!
# Scripted clients

A script drives a client against scripted servers, one step at a time, on a clock that moves only
when a step says so. After every step everything that can run has run. Each step answers with its
own result and with what happened meanwhile: the host actions that ended (`done`, by handle), what
the Java model noted, and what the servers received.

Two kinds of client are scripted. A bare session talks over one connection that the host holds for
good, whether or not it is closed. A supervised client reaches only the supervisor's running
session: calls without one fail as unavailable, and the steps that need the connection itself
(`close`, `publish`) are refused with `NoPeer`.

A step that starts something that goes on (a call, a publication, a lifecycle operation) gets the
step's index as its handle; a request sent with `start_call` is kept under it until a `wait` or
`drop` step takes it.
-/

namespace LspBridge

namespace Console

open Json Rpc Client Server
open Engine

/-- Which kind of client a script drives.

`session`: a bare session over connection 0. `supervisor`: a supervisor of launched servers. -/
inductive Host where
  | session
  | supervisor
  deriving DecidableEq, Repr, Inhabited

/-- A scripted client with its servers.

`host`: the kind of client. `sts`: whether the Spring Tools handlers and classpath listeners are
installed. `world`: the client, the servers and the clock. -/
structure Bench where
  host : Host
  sts : Bool
  world : World
  deriving Inhabited

/-- What a step gives back: its result, and the bench after it. -/
abbrev Outcome := Decode (Value × Bench)

namespace Bench

/-- Changes the world. -/
def update (b : Bench) (f : World → World) : Bench := { b with world := f b.world }

/-- The connection host calls go to: connection 0 of a session, or the supervisor's running
session. -/
def peer? (b : Bench) : Option Nat :=
  match b.host with
  | .session => some 0
  | .supervisor => b.world.runningPeer

/-- The server a step names (the latest one unless `server` says which), if it exists. -/
def server? (b : Bench) (step : Value) : Option Nat :=
  let count := b.world.conns.size
  let k := match (step.get? "server").bind Value.asNat? with
    | some k => some k
    | none => if count == 0 then none else some (count - 1)
  k.filter (· < count)

/-- Starts a task for the host. -/
def start (b : Bench) (t : Task) : Bench := b.update fun w => (w.spawn t).1

end Bench

/-- `{"ok": null}` -/
def okNull : Value := okValue .null

/-- The answer of an error of the lifecycle. -/
def serverErrorValue (e : Server.Error) : Value :=
  Value.obj [("error", .string e.kind), ("message", .string (redact e.text))]

/-- The JSON view of what an ended host action reports. -/
def reportValue : Report → Value
  | .call r => rpcOutcomeValue r
  | .count n => okValue (Value.nat n)
  | .lifecycle (.ok _) => okNull
  | .lifecycle (.error e) => serverErrorValue e

/-- Inserts a report into a list sorted by handle, after those of the same handle. -/
def insertReport (e : Nat × Report) : List (Nat × Report) → List (Nat × Report)
  | [] => [e]
  | f :: rest => if e.1 < f.1 then e :: f :: rest else f :: insertReport e rest

/-- The `done` list of a step: the reports, sorted by handle. -/
def doneValue (reports : List (Nat × Report)) : Value :=
  .array ((reports.foldl (fun acc r => insertReport r acc) []).map fun (h, r) =>
    Value.obj [("call", Value.nat h), ("outcome", reportValue r)])

/-- How long a call may take, as a step gives it: absent is the default, null is forever. -/
def decodeLimit (step : Value) : Limit :=
  match step.get? "timeout_ms" with
  | none => .byDefault
  | some v => .given v.asNat?

/-- `call`: a call reported under the step's handle. -/
def callStep (b : Bench) (i : Nat) (step : Value) : Outcome := do
  let method ← needString step "method"
  let target := match b.host with
    | .session => Target.conn 0
    | .supervisor => Target.running
  pure (okNull,
    b.start (.call i target (.fresh method (step.field "params") (decodeLimit step)) none))

/-- `start_call`: a request sent now and kept under the step's handle. -/
def startCallStep (b : Bench) (i : Nat) (step : Value) : Outcome := do
  let method ← needString step "method"
  match b.peer? with
  | none => pure (rpcErrorValue .serverUnavailable, b)
  | some c =>
    match b.world.issue c method (step.field "params") with
    | (.error e, w) => pure (rpcErrorValue e, { b with world := w })
    | (.ok id, w) =>
      pure (okValue (Value.obj [("id", id.toValue), ("method", .string method)]),
        { b with world := { w with kept := w.kept ++ [(i, (c, id, method))] } })

/-- Takes a kept request out of the host's hands. -/
def takeKept (b : Bench) (step : Value) :
    Decode (Option ((Nat × RequestId × String) × Bench)) := do
  let h ← needNat step "call"
  match b.world.kept.lookup h with
  | none => pure none
  | some k => pure (some (k, b.update fun w => { w with kept := w.kept.filter (·.1 != h) }))

/-- `wait`: waits for a kept request, reported under its handle. -/
def waitStep (b : Bench) (step : Value) : Outcome := do
  let h ← needNat step "call"
  match ← takeKept b step with
  | none => pure (errorKind "NoHandle", b)
  | some ((c, id, method), b) =>
    let limit := (optional step "timeout_ms").bind Value.asNat?
    pure (okNull, b.start (.call h (.conn c) (.issued c id method limit) none))

/-- `drop`: gives up a kept request. -/
def dropStep (b : Bench) (step : Value) : Outcome := do
  match ← takeKept b step with
  | none => pure (errorKind "NoHandle", b)
  | some ((c, id, _), b) => pure (okNull, b.update fun w => (w.forget c id).2)

/-- `cancel`: cancels a call in flight; whether it was. -/
def cancelStep (b : Bench) (step : Value) : Outcome := do
  let id ← decodeId (← need step "id")
  match b.peer? with
  | none => pure (okValue (.bool false), b)
  | some c =>
    let (found, w) := b.world.cancel c id
    pure (okValue (.bool found), { b with world := w })

/-- `notify`: sends a notification. -/
def notifyStep (b : Bench) (step : Value) : Outcome := do
  let method ← needString step "method"
  match b.peer? with
  | none => pure (rpcErrorValue .serverUnavailable, b)
  | some c =>
    match b.world.notify c method (step.field "params") with
    | .ok w => pure (okNull, { b with world := w })
    | .error e => pure (rpcErrorValue e, b)

/-- `close`: closes the connection; the number of calls it ended. -/
def closeStep (b : Bench) : Outcome :=
  match b.peer? with
  | none => pure (errorKind "NoPeer", b)
  | some c =>
    let (n, w) := b.world.closePeer c
    pure (okValue (Value.nat n), { b with world := w })

/-- `publish`: reports a classpath change to every registered listener, each by its own
`workspace/executeCommand` call; the number that succeeded is reported under the step's handle. -/
def publishStep (b : Bench) (i : Nat) (step : Value) : Outcome := do
  if !b.sts then bad "sts not installed"
  else match b.peer? with
    | none => pure (errorKind "NoPeer", b)
    | some c =>
      let projectUri ← needString step "project_uri"
      let name ← needString step "name"
      let update : Sts.ClasspathUpdate :=
        { projectUri, name, deleted := flag step "deleted" false
          classpath := step.field "classpath" }
      pure (okNull, b.update fun w => w.publish i c update)

/-- `listeners`: the registered classpath listeners. -/
def listenersStep (b : Bench) : Outcome := do
  if !b.sts then bad "sts not installed"
  else
    let ids := b.world.listeners
    pure (okValue (Value.obj [("ids", Value.strs ids), ("len", Value.nat ids.length),
      ("empty", .bool ids.isEmpty)]), b)

/-- `router`: asks or changes which methods have handlers. -/
def routerStep (b : Bench) (step : Value) : Outcome := do
  let action ← needString step "action"
  let method ← needString step "method"
  let r := b.world.router
  let (answer, r) ← match action with
    | "handles_request" => pure (r.handlesRequest method, r)
    | "handles_notification" => pure (r.handlesNotification method, r)
    | "remove_request" => pure (r.removeRequest method)
    | "remove_notification" => pure (r.removeNotification method)
    | other => bad ("router action " ++ other)
  pure (okValue (.bool answer), b.update fun w => { w with router := r })

/-- A request handler as `add_handler` describes it. -/
def decodeRequestHandler (step : Value) (behavior : String) : Decode RequestHandler :=
  match behavior with
  | "echo" => pure .echo
  | "error" =>
    match step.get? "error" with
    | some e => do pure (.fail (← decodeResponseError e))
    | none => pure (.fail defaultFailure)
  | "panic" => pure .panic
  | "sleep" => pure (.sleep (((step.get? "ms").bind Value.asNat?).getD 0))
  | _ => pure (.constant .null)

/-- `add_handler`: registers a handler, replacing any for the same method. -/
def addHandlerStep (b : Bench) (step : Value) : Outcome := do
  let kind ← needString step "kind"
  let method ← needString step "method"
  let behavior := ((step.get? "behavior").bind Value.asString?).getD ""
  match kind with
  | "request" =>
    let h ← decodeRequestHandler step behavior
    pure (okNull, b.update fun w => { w with router := w.router.onRequest method h })
  | "notification" =>
    let h : NotificationHandler := if behavior == "panic" then .panic else .record
    pure (okNull, b.update fun w => { w with router := w.router.onNotification method h })
  | other => bad ("handler kind " ++ other)

/-- The answer when the server cannot write. -/
def refusalValue : World.WriteRefusal → Value
  | .closed => errorKind "ServerClosed"
  | .failed => errorKind "ServerWriteFailed"

/-- The server a step names writes bytes. -/
def serverWriteStep (b : Bench) (step : Value) (bytes : List UInt8) : Outcome :=
  match b.server? step with
  | none => pure (errorKind "NoServer", b)
  | some k =>
    match b.world.serverWrite k bytes with
    | .ok w => pure (okNull, { b with world := w })
    | .error r => pure (refusalValue r, b)

/-- `server_send`: the server writes a message as compact JSON in one frame. -/
def serverSendStep (b : Bench) (step : Value) : Outcome := do
  let message ← need step "message"
  serverWriteStep b step (Frame.encode (Utf8.encode message.render))

/-- `server_raw`: the server writes raw bytes. -/
def serverRawStep (b : Bench) (step : Value) : Outcome := do
  serverWriteStep b step (← needBytes step "data")

/-- `server_reply`: the server answers the last request it received with a method. -/
def serverReplyStep (b : Bench) (step : Value) : Outcome := do
  let method ← needString step "method"
  match b.server? step with
  | none => pure (errorKind "NoServer", b)
  | some k =>
    match (b.world.conn k).lastRequests.lookup method with
    | none => pure (errorKind "NoRequest", b)
    | some id =>
      let r ← match step.get? "error" with
        | some e => do pure (.error (← decodeResponseError e))
        | none => pure (.ok (step.field "result"))
      serverWriteStep b step (Frame.encode (Message.response id r).encode)

/-- A change of the server a step names. -/
def serverChangeStep (b : Bench) (step : Value) (f : World → Nat → World) : Outcome :=
  match b.server? step with
  | none => pure (errorKind "NoServer", b)
  | some k => pure (okNull, b.update fun w => f w k)

/-- The server stops reading what the client writes. -/
def stopReading (w : World) (k : Nat) : World :=
  w.modifyConn k fun c => { c with serverReading := false }

/-- The server exits: it stops reading, its process ends with the code, its streams close. -/
def serverExit (code : Option Int) (w : World) (k : Nat) : World :=
  let w := (w.modifyConn k fun c => { c with serverReading := false, exit := some code })
  let w := w.wakeMonitorOnProcess k
  (w.modifyConn k fun c => { c with serverGone := true, inboundClosed := true }).wakeReader k

/-- `advance`: moves the clock. -/
def advanceStep (b : Bench) (step : Value) : Outcome := do
  let ms ← needNat step "ms"
  pure (okNull, b.update (·.advance ms))

/-- Runs a step that every kind of script knows; none for another op. -/
def commonStep (b : Bench) (i : Nat) (op : String) (step : Value) : Option Outcome :=
  match op with
  | "call" => some (callStep b i step)
  | "start_call" => some (startCallStep b i step)
  | "wait" => some (waitStep b step)
  | "drop" => some (dropStep b step)
  | "cancel" => some (cancelStep b step)
  | "notify" => some (notifyStep b step)
  | "close" => some (closeStep b)
  | "publish" => some (publishStep b i step)
  | "listeners" => some (listenersStep b)
  | "router" => some (routerStep b step)
  | "add_handler" => some (addHandlerStep b step)
  | "server_send" => some (serverSendStep b step)
  | "server_raw" => some (serverRawStep b step)
  | "server_reply" => some (serverReplyStep b step)
  | "server_close_output" => some (serverChangeStep b step World.serverCloseOutput)
  | "server_stop_reading" => some (serverChangeStep b step stopReading)
  | "server_exit" =>
    some (serverChangeStep b step (serverExit ((step.get? "code").bind Value.asInt?)))
  | "advance" => some (advanceStep b step)
  | _ => none

/-- What a step saw happen: the marks of the lists it reports on, taken before it.

`sent`: messages the servers had received. `records`: records of the model. `events`: events of the
supervisor. -/
structure Marks where
  sent : Nat
  records : Nat
  events : Nat

/-- The marks of a world. -/
def marksOf (w : World) : Marks :=
  { sent := w.sent.length, records := w.records.length, events := w.events.length }

/-- Runs one step: its result, and the bench after everything settled. -/
def runStep (special : Bench → Nat → String → Value → Outcome) (b : Bench) (i : Nat)
    (step : Value) : Value × Bench :=
  let b := b.update fun w => { w with done := [] }
  let op := match step.field "op" with
    | .string s => s
    | other => other.render
  let outcome := match commonStep b i op step with
    | some o => o
    | none => special b i op step
  match outcome with
  | .ok (v, b) => (v, b.update World.settle)
  | .error e => (e.answer, b.update World.settle)

/-- The fields every step answer has. -/
def stepFields (op : Value) (result : Value) (before : Marks) (w : World) :
    List (String × Value) :=
  [("op", op), ("result", result), ("done", doneValue w.done),
    ("model", .array (w.records.drop before.records))]

/-- Runs every step, each answered by `answerOf` from its op, result, marks and bench. -/
def runSteps (special : Bench → Nat → String → Value → Outcome)
    (answerOf : Value → Value → Marks → Bench → Value) (b : Bench) (steps : List Value) :
    List Value :=
  go b 0 steps
where
  /-- Runs the steps from index `i`. -/
  go (b : Bench) (i : Nat) : List Value → List Value
    | [] => []
    | step :: rest =>
      let before := marksOf b.world
      let (result, b) := runStep special b i step
      answerOf (step.field "op") result before b :: go b (i + 1) rest

end Console

end LspBridge
