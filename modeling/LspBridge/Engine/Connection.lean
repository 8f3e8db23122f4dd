import LspBridge.Engine.Calls
/-!
# Reading, writing and handling

The tasks that pump one connection.

The reader starts the writer on its first turn, then takes every whole frame that has arrived, in
order, without pausing: a payload that is no message is dropped; a response goes to its caller; a
notification runs its handler at once; a request with a handler gets a task of its own, and one
without is answered at once with method-not-found. When the input ends (cleanly between frames, or
inside one, or at a bad header) the reader closes the connection, drops the handler tasks still
running, tells the writer to stop, and waits for it; its run then ends with how the input ended.

The writer writes queued messages in order. Told to stop, it stops at once, leaving the rest
unwritten; it also stops once its queue is empty and nothing holds the connection any more.

A handler task runs its handler; a panic is answered with an internal error, a delayed answer
waits for its timer.
-/

namespace LspBridge

namespace Engine

open Json Rpc Client

namespace World

/-- The error answering a request nobody handles. -/
def methodNotFound (method : String) : ResponseError :=
  { code := ResponseError.methodNotFound, message := "method not found: " ++ method }

/-- Handles one inbound payload. -/
def dispatch (w : World) (c : Nat) (payload : List UInt8) : World :=
  match Message.decode payload with
  | .error _ => w
  | .ok (.response id r) => w.deliver c id r
  | .ok (.notification method params) =>
    match w.router.notificationHandler method with
    | some h => w.note (h.take method params w.model)
    | none => w
  | .ok (.request id method params) =>
    match w.router.requestHandler method with
    | some h => (w.spawn (.handler c id method (.run h params))).1
    | none => w.reply c id (.error (methodNotFound method))

/-- Drops the handler tasks of a connection. -/
def dropHandlers (w : World) (c : Nat) : World :=
  let doomed := w.tasks.filterMap fun (tid, t) => match t with
    | .handler c' _ _ _ => if c' == c then some tid else none
    | _ => none
  doomed.foldl dropTask w

/-- The reader's run ends: it records how, and whoever waits for it is woken. -/
def finishReader (w : World) (tid c : Nat) (r : Except Error Unit) : World :=
  ((w.modifyConn c fun k => { k with ended := some r, readerGone := true }).dropTask tid)
    |>.wakeMonitorOnReader c

/-- The input has ended: close, drop the handlers, stop the writer and wait for it. -/
def endReading (w : World) (tid c : Nat) (r : Except Error Unit) : World :=
  let w := (w.closePeer c).2
  let w := w.dropHandlers c
  let w := (w.modifyConn c fun k => { k with shutdown := true }).wakeWriter c
  if (w.conn c).writerDone then w.finishReader tid c r
  else w.setTask tid (.reader c true (some r))

/-- Reads and dispatches the frames that have arrived; the fuel bounds their number. -/
def readFrames (tid c : Nat) : Nat → World → World
  | 0, w => w
  | fuel + 1, w =>
    let k := w.conn c
    match Frame.next k.maxFrame k.inboundClosed k.inbound with
    | .frame payload rest =>
      let w := w.modifyConn c fun k => { k with inbound := rest }
      readFrames tid c fuel (w.dispatch c payload)
    | .needMore => w
    | .finished => w.endReading tid c (Frame.End.clean.atFailure k.readError).result
    | .truncated => w.endReading tid c (Frame.End.truncated.atFailure k.readError).result
    | .failed e => w.endReading tid c (Frame.End.failed e).result

/-- A turn of a connection's reader. -/
def pollReader (w : World) (tid c : Nat) (started : Bool) (ended : Option (Except Error Unit)) :
    World :=
  let w := if started then w else ((w.setTask tid (.reader c true none)).spawn (.writer c)).1
  match ended with
  | none => readFrames tid c ((w.conn c).inbound.length + 1) w
  | some r => if (w.conn c).writerDone then w.finishReader tid c r else w

/-- The writer has finished: nothing more can be queued, and the server's input ends. -/
def finishWriter (w : World) (tid c : Nat) : World :=
  (((w.modifyConn c fun k => { k with writerDone := true }).dropTask tid).wakeDrainingReader c)
    |>.programInputEnds c

/-- Writes queued messages; the fuel bounds their number. -/
def writeQueued (tid c : Nat) : Nat → World → World
  | 0, w => w
  | fuel + 1, w =>
    let k := w.conn c
    if k.shutdown then w.finishWriter tid c
    else match k.outbound with
      | m :: rest =>
        let w := w.modifyConn c fun k => { k with outbound := rest }
        writeQueued tid c fuel (w.receive c m)
      | [] => if w.connHeld c then w else w.finishWriter tid c

/-- A turn of a connection's writer. -/
def pollWriter (w : World) (tid c : Nat) : World :=
  writeQueued tid c ((w.conn c).outbound.length + 1) w

/-- A turn of a request handler's task. -/
def pollHandler (w : World) (tid c : Nat) (id : RequestId) (method : String) : Work → World
  | .run h params =>
    let handled := h.react method params w.model w.listeners
    let w := { w.note handled.records with listeners := handled.listeners }
    match handled.reaction with
    | .reply r => (w.reply c id r).dropTask tid
    | .panic => (w.reply c id (.error (panicked method))).dropTask tid
    | .later ms v =>
      let (w, t) := w.timer ms
      if t.deadline ≤ w.now then (w.reply c id (.ok v)).dropTask tid
      else w.setTask tid (.handler c id method (.sleeping t v))
  | .sleeping t v =>
    if t.deadline ≤ w.now then (w.reply c id (.ok v)).dropTask tid
    else w

end World

end Engine

end LspBridge
