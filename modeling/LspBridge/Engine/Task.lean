import LspBridge.Client.Handlers
import LspBridge.Client.Pending
import LspBridge.Json.Shape
import LspBridge.Machine.Program
/-!
# Tasks

The client runs as a set of cooperative tasks on one thread. Each task is kept as the point where it
waits, with what it needs to go on:

* a connection's reader, which reads frames and dispatches them until the input ends, then waits
  for its writer;
* a connection's writer, which writes queued messages until told to stop or until nobody can queue
  any more;
* a handler of one server request;
* a caller waiting for one or more outbound calls;
* a lifecycle operation of the supervisor (start, stop, restart, an automatic restart);
* the monitor of one launched server;
* the delay before an automatic restart;
* a timed action of a launched server program.

A timer is its deadline with a sequence number; timers that expire together fire in the order they
were set.
-/

namespace LspBridge

namespace Engine

open Json Rpc Client

/-- A timer: its deadline in ms and its place among the timers set before it. -/
structure Timer where
  deadline : Nat
  seq : Nat
  deriving DecidableEq, Repr, Inhabited

/-- How long a call may take: the connection's default, or the given bound in ms, where none
waits forever. -/
inductive Limit where
  | byDefault
  | given (ms : Option Nat)
  deriving DecidableEq, Repr, Inhabited

/-- An outbound call as its caller sees it: not yet sent, sent on a connection under an id with
the wait not yet begun, waiting for its outcome until the deadline if there is one, or ended. -/
inductive Call where
  | fresh (method : String) (params : Value) (limit : Limit)
  | issued (conn : Nat) (id : RequestId) (method : String) (limit : Option Nat)
  | waiting (conn : Nat) (id : RequestId) (method : String) (deadline : Option Timer)
  | finished (result : Except Error Value)
  deriving Inhabited

namespace Call

/-- The result of an ended call. -/
def result? : Call → Option (Except Error Value)
  | .finished r => some r
  | _ => none

/-- The timer a call waits on. -/
def timer? : Call → Option Timer
  | .waiting _ _ _ d => d
  | _ => none

/-- Whether a call holds the connection: sent and not ended. -/
def holds (conn : Nat) : Call → Bool
  | .issued c _ _ _ | .waiting c _ _ _ => c == conn
  | _ => false

/-- Whether a call waits for the outcome of an id on a connection. -/
def awaits (conn : Nat) (id : RequestId) : Call → Bool
  | .waiting c i _ _ => c == conn && i == id
  | _ => false

end Call

/-- Where a call of the host goes: a given connection, or the supervisor's running session. -/
inductive Target where
  | conn (c : Nat)
  | running
  deriving DecidableEq, Repr, Inhabited

/-- What a request handler still has to do: handle the params, or answer with a result when the
timer fires. -/
inductive Work where
  | run (handler : RequestHandler) (params : Value)
  | sleeping (timer : Timer) (result : Value)
  deriving Inhabited

/-- A lifecycle operation: start unless running; stop; stop, then start; start again after a crash
of the given generation, if it is still the last one. -/
inductive LifecycleOp where
  | start
  | stop
  | restart
  | autoRestart (generation : Nat)
  deriving DecidableEq, Repr, Inhabited

/-- Where a lifecycle operation waits: for the lifecycle lock; for the monitor of a crashed session
being cleared before a start; for the `initialize` call of a new session, until the startup
deadline; for the `shutdown` call of a session being stopped; for the monitor of a session being
stopped, until the grace period ends; for the monitor of a session that was killed. -/
inductive Stage where
  | locking
  | clearing (conn : Nat)
  | handshake (generation conn : Nat) (call : Call) (deadline : Timer)
  | shutdown (generation conn : Nat) (call : Call)
  | grace (generation conn : Nat) (timer : Timer)
  | killed (generation conn : Nat)
  deriving Inhabited

/-- The branches of a monitor's `select!`: the reader's run ends, waiting for the process gives
something, a kill is asked for, the grace period ends. -/
inductive Branch where
  | channel
  | exit
  | kill
  | timeout
  deriving DecidableEq, Repr, Inhabited

/-- Where a monitor waits: for the first of the reader's end, the process's end and a kill; after
waiting for the process gave a status, for the reader to drain until the timer; after the reader
ended, with a failure or not, for the process, a kill or the timer. -/
inductive Watch where
  | watching
  | draining (status : Except String (Option Int)) (timer : Timer)
  | lingering (failure : Option String) (timer : Timer)
  deriving Inhabited

/-- A task: a connection's reader, which keeps the end of its reading while it waits for the
writer and starts the writer at its first turn; a connection's writer; the handler of a server
request; a call of the host, reported under its handle, a typed call reading its result by a shape;
calls made together on a connection, reported as the number that succeeded; a lifecycle operation,
reported under its handle when the host asked for it; the monitor of a launched server; the delay
before restarting after a crash of a generation; what the server program on a connection does when
its timer fires. -/
inductive Task where
  | reader (conn : Nat) (started : Bool) (ended : Option (Except Error Unit))
  | writer (conn : Nat)
  | handler (conn : Nat) (id : RequestId) (method : String) (work : Work)
  | call (handle : Nat) (target : Target) (call : Call) (typed : Option Shape)
  | calls (handle : Nat) (conn : Nat) (each : List Call)
  | lifecycle (handle : Option Nat) (op : LifecycleOp) (stage : Stage)
  | monitor (conn generation : Nat) (watch : Watch)
  | restartDelay (generation : Nat) (delay : Nat) (timer : Option Timer)
  | timed (conn : Nat) (action : Machine.Timed) (timer : Timer)
  deriving Inhabited

namespace Task

/-- The timers a task waits on. -/
def timers : Task → List Timer
  | .handler _ _ _ (.sleeping t _) => [t]
  | .call _ _ c _ => c.timer?.toList
  | .calls _ _ each => each.filterMap Call.timer?
  | .lifecycle _ _ (.handshake _ _ c d) => d :: c.timer?.toList
  | .lifecycle _ _ (.shutdown _ _ c) => c.timer?.toList
  | .lifecycle _ _ (.grace _ _ t) => [t]
  | .monitor _ _ (.draining _ t) | .monitor _ _ (.lingering _ t) => [t]
  | .restartDelay _ _ (some t) => [t]
  | .timed _ _ t => [t]
  | _ => []

/-- Whether a task waits for the outcome of an id on a connection. -/
def awaits (conn : Nat) (id : RequestId) : Task → Bool
  | .call _ _ c _ => c.awaits conn id
  | .calls _ _ each => each.any (Call.awaits conn id)
  | .lifecycle _ _ (.handshake _ _ c _) | .lifecycle _ _ (.shutdown _ _ c) => c.awaits conn id
  | _ => false

/-- Whether a task holds a handle on a connection, keeping its outbound queue open. -/
def holds (conn : Nat) : Task → Bool
  | .reader c _ _ => c == conn
  | .call _ _ c _ => c.holds conn
  | .calls _ _ each => each.any (Call.holds conn)
  | .handler c _ _ _ => c == conn
  | .lifecycle _ _ (.clearing c) => c == conn
  | .lifecycle _ _ (.handshake _ c _ _) | .lifecycle _ _ (.shutdown _ c _)
  | .lifecycle _ _ (.grace _ c _) | .lifecycle _ _ (.killed _ c) => c == conn
  | .monitor c _ _ => c == conn
  | _ => false

end Task

end Engine

end LspBridge
