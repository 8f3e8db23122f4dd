import LspBridge.Engine.ServerProgram
import LspBridge.Text.Duration
/-!
# Talking over a connection

The client's side of a connection: sending requests (each under the next id, registered before it
is queued), notifications and replies; cancelling and closing; and routing inbound responses to
their callers. The server's side: receiving what the client writes and writing bytes back.

A message can be queued only while the writer is there to take it. A notification is refused once
the connection is closed, a reply is not. Cancelling ends the call as cancelled and tells the
server with `$/cancelRequest`. Closing ends every call in flight as unavailable and refuses new
ones.

A server whose output is shut, or whose client end is gone (reader and writer both), refuses
further writes; a server that is gone altogether refuses them as closed.
-/

namespace LspBridge

namespace Engine

open Json Rpc Client

/-- The method of `$/cancelRequest`. -/
def cancelMethod : String := "$/cancelRequest"

namespace World

/-- Ends a call with an outcome and wakes its caller. -/
def fill (w : World) (c : Nat) (id : RequestId) (o : Outcome) : World :=
  (w.modifyConn c fun k => { k with filled := k.filled ++ [(id, o)] }).wakeSlot c id

/-- Takes the outcome of an ended call, if there is one. -/
def takeFilled (w : World) (c : Nat) (id : RequestId) : Option Outcome × World :=
  match (w.conn c).filled.lookup id with
  | some o => (some o, w.modifyConn c fun k => { k with filled := k.filled.filter (·.1 != id) })
  | none => (none, w)

/-- Queues a message for the writer; none once the writer is gone. -/
def enqueue (w : World) (c : Nat) (m : Message) : Option World :=
  if (w.conn c).writerDone then none
  else some ((w.modifyConn c fun k => { k with outbound := k.outbound ++ [m] }).wakeWriter c)

/-- Sends a notification. -/
def notify (w : World) (c : Nat) (method : String) (params : Value) : Except Error World :=
  if (w.conn c).pending.closed then .error .serverUnavailable
  else match w.enqueue c (.notification method params) with
    | some w' => .ok w'
    | none => .error .serverUnavailable

/-- Queues a reply to a server request, if the writer is still there. -/
def reply (w : World) (c : Nat) (id : RequestId) (r : Except ResponseError Value) : World :=
  (w.enqueue c (.response id r)).getD w

/-- Removes a call from the table without ending it for its caller. -/
def forget (w : World) (c : Nat) (id : RequestId) : Option String × World :=
  match (w.conn c).pending.take id with
  | some (method, p) => (some method, w.modifyConn c fun k => { k with pending := p })
  | none => (none, w)

/-- Sends a request: takes the next id, registers the call under it and queues it. The id is
used up even when the request is refused. -/
def issue (w : World) (c : Nat) (method : String) (params : Value) :
    Except Error RequestId × World :=
  let k := w.conn c
  let id := RequestId.number k.nextId.toInt
  let w := w.modifyConn c fun k => { k with nextId := k.nextId + 1 }
  match k.pending.register id method with
  | none => (.error .serverUnavailable, w)
  | some p =>
    let w := w.modifyConn c fun k => { k with pending := p }
    match w.enqueue c (.request id method params) with
    | some w' => (.ok id, w')
    | none => (.error .serverUnavailable, (w.forget c id).2)

/-- Cancels a call in flight; whether it was in flight. -/
def cancel (w : World) (c : Nat) (id : RequestId) : Bool × World :=
  match w.forget c id with
  | (some _, w) =>
    let w := w.fill c id .cancelled
    match w.notify c cancelMethod (Value.obj [("id", id.toValue)]) with
    | .ok w' => (true, w')
    | .error _ => (true, w)
  | (none, w) => (false, w)

/-- Closes the connection: every call in flight ends as unavailable; their number. -/
def closePeer (w : World) (c : Nat) : Nat × World :=
  let (ids, p) := (w.conn c).pending.close
  let w := w.modifyConn c fun k => { k with pending := p }
  (ids.length, ids.foldl (fun acc id => acc.fill c id .unavailable) w)

/-- Routes an inbound response to its caller. -/
def deliver (w : World) (c : Nat) (id : RequestId) (r : Except ResponseError Value) : World :=
  match (w.conn c).pending.complete id with
  | (.delivered, p) => (w.modifyConn c fun k => { k with pending := p }).fill c id (.response r)
  | (_, _) => w

/-- The server receives one message the client wrote, if it still reads: it notes it, remembers
the id of a request under its method, and a server program reacts to it. -/
def receive (w : World) (c : Nat) (m : Message) : World :=
  let k := w.conn c
  if k.serverGone || !k.serverReading then w
  else match Message.decode m.encode with
    | .ok m' =>
      let w := { w with sent := w.sent ++ [(c, m')] }
      let w := match m' with
        | .request id method _ =>
          w.modifyConn c fun k =>
            { k with lastRequests := (method, id) :: k.lastRequests.filter (·.1 != method) }
        | _ => w
      w.programReceive c m'
    | .error _ => w

/-- Why the server cannot write.

`closed`: the server is gone. `failed`: its output or the client's end is gone. -/
inductive WriteRefusal where
  | closed
  | failed
  deriving DecidableEq, Repr

/-- The server writes bytes to the client. -/
def serverWrite (w : World) (c : Nat) (bytes : List UInt8) : Except WriteRefusal World :=
  let k := w.conn c
  if k.serverGone then .error .closed
  else if k.serverOutputShut || k.inboundClosed || (k.readerGone && k.writerDone) then .error .failed
  else .ok ((w.modifyConn c fun k => { k with inbound := k.inbound ++ bytes }).wakeReader c)

/-- The server shuts its output: the client reads to the end. -/
def serverCloseOutput (w : World) (c : Nat) : World :=
  (w.modifyConn c fun k => { k with inboundClosed := true, serverOutputShut := true }).wakeReader c

/-- Reading the server's output fails, unless it has ended: no more bytes arrive, and the reader's
read past those that have fails with the error. -/
def readFails (w : World) (c : Nat) (detail : String) : World :=
  if (w.conn c).inboundClosed then w
  else (w.modifyConn c fun k => { k with inboundClosed := true, readError := some detail }).wakeReader c

end World

end Engine

end LspBridge
