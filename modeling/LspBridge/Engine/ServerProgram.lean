import LspBridge.Engine.World
import LspBridge.Rpc.Frame
/-!
# Launched server programs

The server end of a connection whose server is the machine's scripted server program. It reads
what the client writes in order, each message a moment after it arrived, and answers as its
behaviour says:

* `initialize` and `shutdown` get the behaviour's replies, the first with the experimental
  capabilities the program reports, if any;
* any other request is echoed back as `{"echo": params, "method": method}`;
* `initialized` makes it send its scripted requests (each with an id waits for the client's answer
  before the next goes), arm its timed actions and, if told to, close its output;
* `exit` ends it with its exit code;
* an answer from the client lets the next scripted request go; while it waits for one, it drops
  whatever else it reads.

When its input ends it exits with its end-of-input code, unless it is told to hang on. However its
process ends, it stops reading and both its streams close.
-/

namespace LspBridge

namespace Engine

open Json Rpc Machine

namespace World

/-- The server program on a connection writes one message to the client, if its output is open. -/
def programWrite (w : World) (c : Nat) (v : Value) : World :=
  if (w.conn c).inboundClosed then w
  else (w.modifyConn c fun k =>
    { k with inbound := k.inbound ++ Frame.encode (Utf8.encode v.render) }).wakeReader c

/-- The process of a connection's server program ends with a status: it reads no more and its
streams close. A process ends once. -/
def processEnds (w : World) (c : Nat) (code : Option Int) : World :=
  if (w.conn c).exit.isSome then w
  else
    let w := w.modifyConn c fun k =>
      { k with
        exit := some code
        serverReading := false
        serverGone := true
        inboundClosed := true }
    (w.wakeMonitorOnProcess c).wakeReader c

/-- Changes the state of a connection's server program. -/
def modifyProgram (w : World) (c : Nat) (f : ServerProcess → ServerProcess) : World :=
  w.modifyConn c fun k => { k with process := k.process.map f }

/-- The server program answers a request. -/
def programReply (w : World) (c : Nat) (id : RequestId) : Reply → World
  | .ignore => w
  | .error e =>
    w.programWrite c (Value.obj [("jsonrpc", .string "2.0"), ("id", id.toValue), ("error", e)])
  | .result v =>
    w.programWrite c (Value.obj [("jsonrpc", .string "2.0"), ("id", id.toValue), ("result", v)])

/-- An `initialize` result with experimental capabilities added. -/
def withExperimental (result : Value) : Option Value → Value
  | none => result
  | some x =>
    match result with
    | .object members =>
      let caps := match lookupMember "capabilities" members with
        | some (.object cs) => Value.object (insertMember "experimental" x cs)
        | _ => Value.obj [("experimental", x)]
      .object (insertMember "capabilities" caps members)
    | other => other

/-- The server program sends its queued requests, up to one it must wait for; the fuel bounds their
number. -/
def pumpRequests (c : Nat) : Nat → World → World
  | 0, w => w
  | fuel + 1, w =>
    match (w.conn c).process with
    | some p =>
      if p.awaiting then w
      else match p.queue with
        | [] => w
        | v :: rest =>
          let w := w.modifyProgram c fun p =>
            { p with queue := rest, awaiting := (v.get? "id").isSome }
          pumpRequests c fuel (w.programWrite c v)
    | none => w

/-- The server program has been initialized. -/
def programInitialized (w : World) (c : Nat) (b : Behaviour) : World :=
  let w := w.modifyProgram c fun p => { p with queue := b.requests, awaiting := false }
  let w := pumpRequests c (b.requests.length + 1) w
  let w := b.timed.foldl (fun w (ms, action) =>
    let (w, t) := w.timer ms
    (w.spawn (.timed c action t)).1) w
  if b.closeOutput then
    (w.modifyConn c fun k => { k with inboundClosed := true }).wakeReader c
  else w

/-- The server program handles one message it read. While it waits for the client's answer to
one of its requests, it drops anything else. -/
def programHandle (w : World) (c : Nat) (m : Message) : World :=
  match (w.conn c).process with
  | none => w
  | some p =>
    match p.behaviour with
    | none => w
    | some b =>
      if p.awaiting then
        match m with
        | .response _ _ =>
          pumpRequests c (p.queue.length + 1)
            (w.modifyProgram c fun p => { p with awaiting := false })
        | _ => w
      else
        match m with
        | .request id "initialize" _ =>
          w.programReply c id (match b.onInitialize with
            | .result r => .result (withExperimental r p.experimental)
            | r => r)
        | .request id "shutdown" _ => w.programReply c id b.onShutdown
        | .request id method params =>
          w.programReply c id (.result (Value.obj [("echo", params), ("method", .string method)]))
        | .notification "initialized" _ => w.programInitialized c b
        | .notification "exit" _ => w.processEnds c (some b.exitCode)
        | _ => w

/-- Something arrives on the input of a connection's server program, to be read a moment later. -/
def programArrive (w : World) (c : Nat) (m : Option Message) : World :=
  let k := w.conn c
  if k.process.isNone || k.exit.isSome then w
  else
    let w := w.modifyProgram c fun p => { p with inbox := p.inbox ++ [m] }
    let (w, t) := w.timer readDelay
    (w.spawn (.timed c .read t)).1

/-- The server program on a connection receives a message the client wrote. -/
def programReceive (w : World) (c : Nat) (m : Message) : World := w.programArrive c (some m)

/-- The input of a connection's server program has ended. -/
def programInputEnds (w : World) (c : Nat) : World := w.programArrive c none

/-- The server program reads the next thing on its input: a message, or the end of its input,
where it exits unless told to hang on. -/
def programRead (w : World) (c : Nat) : World :=
  match (w.conn c).process with
  | some p =>
    match p.inbox with
    | [] => w
    | next :: rest =>
      let w := w.modifyProgram c fun p => { p with inbox := rest }
      match next with
      | some m => w.programHandle c m
      | none =>
        match p.behaviour with
        | some b => if b.hangOnEof then w else w.processEnds c (some b.eofCode)
        | none => w
  | none => w

/-- A timed action of a connection's server program, while its process runs. -/
def programAct (w : World) (c : Nat) (action : Timed) : World :=
  if (w.conn c).exit.isSome then w
  else match action with
    | .read => w.programRead c
    | .exit code => w.processEnds c (some code)
    | .interrupt => { w with interrupts := w.interrupts + 1 }

/-- A turn of a timed action's task. -/
def pollTimed (w : World) (tid c : Nat) (action : Timed) (t : Timer) : World :=
  if t.deadline ≤ w.now then (w.programAct c action).dropTask tid else w

end World

end Engine

end LspBridge
