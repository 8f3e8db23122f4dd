import LspBridge.Engine.Task
import LspBridge.Server.Config
import LspBridge.Server.Event
import LspBridge.Server.Error
import LspBridge.Server.Handshake
import LspBridge.Rpc.Frame
/-!
# The state of a running client

Everything the client's tasks share, with the scripted servers at the other end of its connections
and what the host has seen so far.

A connection is the client's half (its call table, outbound queue, unread input, and whether its
reader and writer are still there) joined with the server's half (whether it still reads, whether
its output or the whole server is gone, the last request it received per method, and the exit
status of its process).

Tasks run one at a time from a first-in first-out queue. A task is queued when something it waits on
happens, at most once; a finished task is dropped. Clock time moves only when the host lets it.
-/

namespace LspBridge

namespace Engine

open Json Rpc Client Server

/-- One connection, both halves. The client's half: the calls in flight and the outcomes of ended
calls its callers have not taken, the next outbound id (a 64-bit counter that wraps), the default
timeout of calls and the largest inbound payload, the messages queued for the writer and whether
the writer was told to stop or has finished, the bytes the server wrote and the client has not
read, whether that output has ended and the error reading it failed with if it did, whether the
reader is gone and how its run ended, and whether the host keeps a handle on the connection for
good. The server's half: whether it records what the client writes, whether it or its output is
gone, the id of the last request it received per method, the exit status of its process (none
while it runs, then its code, or none for a signal), the error waiting for the process failed
with, if it did, and its program when the server is one. The supervisor's marks: a kill asked
for, an end that is expected, a monitor that has finished, and the order in which the scheduler
takes the branches of the monitor's `select!` that are ready together (those it leaves out come
after, in the order written). -/
structure Conn where
  pending : PendingTable := {}
  filled : List (RequestId × Outcome) := []
  nextId : Int64 := 0
  defaultTimeout : Option Nat := none
  maxFrame : Nat := Frame.defaultMaxFrame
  outbound : List Message := []
  shutdown : Bool := false
  writerDone : Bool := false
  inbound : List UInt8 := []
  inboundClosed : Bool := false
  readError : Option String := none
  readerGone : Bool := false
  ended : Option (Except Rpc.Error Unit) := none
  hostHeld : Bool := false
  serverReading : Bool := true
  serverGone : Bool := false
  serverOutputShut : Bool := false
  lastRequests : List (String × RequestId) := []
  exit : Option (Option Int) := none
  waitError : Option String := none
  kill : Bool := false
  expectedExit : Bool := false
  monitorDone : Bool := false
  order : List Branch := []
  process : Option Machine.ServerProcess := none
  deriving Inhabited

/-- The supervisor's record of its current session: the launch attempt it came from, its
connection, and what the server announced once the handshake is done. -/
structure SessionRecord where
  generation : Nat
  conn : Nat
  capabilities : Option Negotiated := none
  deriving Inhabited

/-- The supervisor's own state: how the server is launched, the lifecycle state, the number of
launch attempts, the automatic restarts since the host last started the server, the current
session, the task holding the lifecycle lock and those waiting for it (first come first served),
a reason the next launch fails for, the process id announced in `initialize`, and the computer
servers are started on (none when the host scripts them). -/
structure Supervision where
  config : Config
  state : SessionState := .stopped
  generation : Nat := 0
  restarts : Nat := 0
  session : Option SessionRecord := none
  lockHolder : Option Nat := none
  lockWaiters : List Nat := []
  failNext : Option String := none
  processId : Value := .null
  computer : Option Machine.Computer := none
  deriving Inhabited

/-- What a task reports to the host when it ends: the result of a call, how many of several calls
succeeded, or the result of a lifecycle operation. -/
inductive Report where
  | call (result : Except Rpc.Error Value)
  | count (n : Nat)
  | lifecycle (result : Except Server.Error Unit)
  deriving Inhabited

/-- The whole state: the clock in ms; the ids of the tasks ready to run, in order; the live tasks
by id, in order of creation; the next task id and timer sequence number; the connections by
number; the handlers, the Java model and the registered classpath listeners (sorted); the calls
the host sent without waiting, by handle, with their connection, id and method; the supervisor,
if the client has one. What the host has seen so far: the messages the servers received, with the
server's number, in order; the reports of ended tasks by handle; what the Java model and recording
handlers noted; the events of the supervisor; how many times a server interrupted the client. -/
structure World where
  now : Nat := 0
  queue : List Nat := []
  tasks : List (Nat × Task) := []
  nextTask : Nat := 0
  timerSeq : Nat := 0
  conns : Array Conn := #[]
  router : Router := {}
  model : Sts.JavaModel := .empty
  listeners : List String := []
  kept : List (Nat × (Nat × RequestId × String)) := []
  sup : Option Supervision := none
  sent : List (Nat × Message) := []
  done : List (Nat × Report) := []
  records : List Value := []
  events : List SessionEvent := []
  interrupts : Nat := 0
  deriving Inhabited

namespace World

/-- A connection by number. -/
def conn (w : World) (c : Nat) : Conn := (w.conns[c]?).getD {}

/-- Changes a connection. -/
def modifyConn (w : World) (c : Nat) (f : Conn → Conn) : World :=
  { w with conns := w.conns.modify c f }

/-- A live task by id. -/
def task? (w : World) (tid : Nat) : Option Task := w.tasks.lookup tid

/-- Whether a task is live. -/
def isLive (w : World) (tid : Nat) : Bool := (w.task? tid).isSome

/-- Replaces the state of a live task. -/
def setTask (w : World) (tid : Nat) (t : Task) : World :=
  { w with tasks := w.tasks.map fun (i, u) => if i == tid then (i, t) else (i, u) }

/-- Drops a task. -/
def dropTask (w : World) (tid : Nat) : World :=
  { w with tasks := w.tasks.filter (·.1 != tid), queue := w.queue.filter (· != tid) }

/-- Queues a live task unless it is queued already. -/
def wake (w : World) (tid : Nat) : World :=
  if w.isLive tid && !w.queue.contains tid then { w with queue := w.queue ++ [tid] } else w

/-- Queues every live task the predicate selects, in order of creation. -/
def wakeIf (w : World) (p : Task → Bool) : World :=
  w.tasks.foldl (fun acc (tid, t) => if p t then acc.wake tid else acc) w

/-- Adds a task and queues it; its id. -/
def spawn (w : World) (t : Task) : World × Nat :=
  let tid := w.nextTask
  ({ w with tasks := w.tasks ++ [(tid, t)], nextTask := tid + 1, queue := w.queue ++ [tid] }, tid)

/-- A timer firing after `ms`. -/
def timer (w : World) (ms : Nat) : World × Timer :=
  ({ w with timerSeq := w.timerSeq + 1 }, { deadline := w.now + ms, seq := w.timerSeq })

/-- Notes a report for the host. -/
def report (w : World) (handle : Nat) (r : Report) : World :=
  { w with done := w.done ++ [(handle, r)] }

/-- Notes an event. -/
def emit (w : World) (e : SessionEvent) : World := { w with events := w.events ++ [e] }

/-- Notes records of the model. -/
def note (w : World) (rs : List Value) : World := { w with records := w.records ++ rs }

/-- The supervisor, or a default one. -/
def supervision (w : World) : Supervision := w.sup.getD { config := Config.new "" "" }

/-- Changes the supervisor. -/
def modifySup (w : World) (f : Supervision → Supervision) : World :=
  { w with sup := w.sup.map f }

/-- Wakes the tasks waiting for the outcome of an id. -/
def wakeSlot (w : World) (c : Nat) (id : RequestId) : World := w.wakeIf (·.awaits c id)

/-- Wakes the reader of a connection while it reads. -/
def wakeReader (w : World) (c : Nat) : World :=
  w.wakeIf fun
    | .reader c' true none => c' == c
    | _ => false

/-- Wakes the writer of a connection. -/
def wakeWriter (w : World) (c : Nat) : World :=
  w.wakeIf fun
    | .writer c' => c' == c
    | _ => false

/-- Wakes the reader of a connection waiting for its writer. -/
def wakeDrainingReader (w : World) (c : Nat) : World :=
  w.wakeIf fun
    | .reader c' _ (some _) => c' == c
    | _ => false

/-- Wakes the monitor of a connection when the reader has ended. -/
def wakeMonitorOnReader (w : World) (c : Nat) : World :=
  w.wakeIf fun
    | .monitor c' _ .watching | .monitor c' _ (.draining _ _) => c' == c
    | _ => false

/-- Wakes the monitor of a connection when the process exits or a kill is asked for. -/
def wakeMonitorOnProcess (w : World) (c : Nat) : World :=
  w.wakeIf fun
    | .monitor c' _ .watching | .monitor c' _ (.lingering _ _) => c' == c
    | _ => false

/-- Wakes the lifecycle operation waiting for the monitor of a connection. -/
def wakeOnMonitor (w : World) (c : Nat) : World :=
  w.wakeIf fun
    | .lifecycle _ _ (.clearing c') | .lifecycle _ _ (.grace _ c' _)
    | .lifecycle _ _ (.killed _ c') => c' == c
    | _ => false

/-- Whether anything still holds a handle on a connection, keeping its outbound queue open. -/
def connHeld (w : World) (c : Nat) : Bool :=
  (w.conn c).hostHeld || w.tasks.any (fun (_, t) => t.holds c) ||
    w.kept.any (fun (_, (c', _, _)) => c' == c) ||
    (w.supervision.session.map (·.conn == c)).getD false

/-- Wakes writers whose queue can no longer receive anything, so that they finish. -/
def wakeIdleWriters (w : World) : World :=
  w.tasks.foldl (fun acc (tid, t) => match t with
    | .writer c => if !acc.connHeld c && (acc.conn c).outbound.isEmpty then acc.wake tid else acc
    | _ => acc) w

end World

end Engine

end LspBridge
