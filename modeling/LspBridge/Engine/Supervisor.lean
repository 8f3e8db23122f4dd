import LspBridge.Engine.Connection
/-!
# Supervising a language server

The supervisor owns one server process at a time and the session running over its streams.

Lifecycle operations take a lock first and so run one at a time, in the order they asked for it.

* Starting does nothing while a session is starting or running. A crashed session is cleared first
  (its monitor is told to kill it, and waited for). Then a new generation begins: the server is
  launched, its reader and monitor start, and the `initialize` call is made under the startup
  deadline. The answer must hold a capabilities object; `initialized` is then sent and the session
  runs. Any failure is a handshake crash, after which the process is killed.
* Stopping takes the session away, marks its end as expected, and (if it was starting or running)
  sends `shutdown` (bounded by the grace period) and `exit`, then waits for the monitor for the
  grace period before killing the process. A session in another state is killed at once. Either
  way the connection is closed and the state is stopped.
* Restarting is stopping, then starting.

A monitor waits for the first of: the reader ends, waiting for the process gives a status (its
exit, or the error waiting failed with), a kill is asked for. Of those ready together, the scheduler
takes any one (`Conn.pick`).

* After a status it lets the reader drain for 250 ms and reports the status: the exit, or the
  failed wait as a transport failure.
* After the reader ended with a failure it reports the failure; after a clean end it waits for the
  process for the grace period (or a kill) and reports its status, or kills the process and reports
  that the server closed its output.
* A kill ends the process and the reader.

It then closes the connection and, unless the end was expected, records a crash. A crash of the
current generation moves the state to crashed and, when the policy allows another restart, arms a
delayed automatic restart that goes ahead only if no other session began meanwhile.
-/

namespace LspBridge

namespace Engine

open Json Rpc Client Server

/-- How long a reader may drain after its process exited, in ms. -/
def exitDrain : Nat := 250

namespace Conn

/-- What waiting for the process gives, once it gives anything: the error waiting failed with, or
the process's status. -/
def waitStatus (k : Conn) : Option (Except String (Option Int)) :=
  match k.waitError with
  | some e => some (.error e)
  | none => k.exit.map .ok

/-- The branch a `select!` takes among those ready, listed in the order they are written: the
first of the scheduler's order that is ready, else the first ready. -/
def pick (k : Conn) (ready : List Branch) : Option Branch :=
  (k.order ++ ready).find? (· ∈ ready)

/-- The branches of the monitor's first `select!` that are ready: the reader's run has ended,
waiting for the process gave something, a kill was asked for. -/
def watchReady (k : Conn) : List Branch :=
  (if k.ended.isSome then [.channel] else []) ++ (if k.waitStatus.isSome then [.exit] else []) ++
    (if k.kill then [.kill] else [])

/-- The branches of the monitor's `select!` after the reader ended that are ready; `late` once the
grace period is over. -/
def graceReady (k : Conn) (late : Bool) : List Branch :=
  (if k.waitStatus.isSome then [.exit] else []) ++ (if late then [.timeout] else []) ++
    (if k.kill then [.kill] else [])

end Conn

namespace World

/-- The connection of the running session, if it is open. -/
def runningPeer (w : World) : Option Nat :=
  let s := w.supervision
  if s.state.isRunning then
    match s.session with
    | some r => if (w.conn r.conn).pending.closed then none else some r.conn
    | none => none
  else none

/-- Moves to a state if the lifecycle allows it and, when a generation is given, it is still the
current one; whether it moved. -/
def transition (w : World) (gen : Option Nat) (next : SessionState) : Bool × World :=
  let s := w.supervision
  let stale := match gen with
    | some g => g != s.generation
    | none => false
  if stale || !s.state.canStep next then (false, w)
  else
    (true, (w.modifySup fun s => { s with state := next }).emit
      (.stateChanged (gen.getD s.generation) s.state next))

/-- Claims a new generation and moves to starting, if the state allows it. -/
def beginSession (w : World) : Option Nat × World :=
  let s := w.supervision
  if s.state.canStep .starting then
    let g := s.generation + 1
    (some g, (w.modifySup fun s => { s with generation := g, state := .starting }).emit
      (.stateChanged g .stopped .starting))
  else (none, w)

/-- Records the unexpected end of a generation's session, and arms a restart if due. -/
def crashed (w : World) (gen : Nat) (reason : CrashReason) : World :=
  match w.transition (some gen) .crashed with
  | (false, w) => w
  | (true, w) =>
    let w := w.emit (.crashed gen reason)
    let s := w.supervision
    match s.config.restart.delay? s.restarts with
    | none => w
    | some delay =>
      let attempt := s.restarts + 1
      let w := (w.modifySup fun s => { s with restarts := attempt }).emit
        (.restartScheduled gen attempt delay)
      (w.spawn (.restartDelay gen delay none)).1

/-- Hands the lifecycle lock to the next waiter, or frees it. -/
def releaseLock (w : World) : World :=
  match w.supervision.lockWaiters with
  | [] => w.modifySup fun s => { s with lockHolder := none }
  | t :: rest => (w.modifySup fun s => { s with lockHolder := some t, lockWaiters := rest }).wake t

/-- A lifecycle operation ends: it gives up the lock and reports. -/
def finishOp (w : World) (tid : Nat) (handle : Option Nat) (r : Except Server.Error Unit) :
    World :=
  let w := w.releaseLock.dropTask tid
  match handle with
  | some h => w.report h (.lifecycle r)
  | none => w

/-- Kill requested for a connection's process. -/
def requestKill (w : World) (c : Nat) : World :=
  (w.modifyConn c fun k => { k with kill := true }).wakeMonitorOnProcess c

/-- The handshake failed: a crash, and the process is killed. -/
def failHandshake (w : World) (tid : Nat) (handle : Option Nat) (gen c : Nat) (failure : String) :
    World :=
  let w := w.crashed gen (.handshake failure)
  let current := match w.supervision.session with
    | some r => r.generation == gen
    | none => false
  let w := if current then (w.modifyConn c fun k => { k with expectedExit := true }).requestKill c
    else w
  w.finishOp tid handle (.error (.handshake failure))

/-- The `initialize` call ended. -/
def handshakeDone (w : World) (tid : Nat) (handle : Option Nat) (gen c : Nat)
    (r : Except Rpc.Error Value) : World :=
  match r with
  | .error e => w.failHandshake tid handle gen c e.text
  | .ok v =>
    match Negotiated.ofResult v with
    | .error detail => w.failHandshake tid handle gen c (Rpc.Error.protocol detail).text
    | .ok caps =>
      match w.notify c "initialized" (Value.obj []) with
      | .error e => w.failHandshake tid handle gen c e.text
      | .ok w =>
        let w := w.modifySup fun s => { s with session := s.session.map fun r =>
          if r.generation == gen then { r with capabilities := some caps } else r }
        match w.transition (some gen) .running with
        | (true, w) => w.finishOp tid handle (.ok ())
        | (false, w) => w.failHandshake tid handle gen c "server went away after initialize"

/-- The startup deadline passed: the `initialize` call is given up. -/
def handshakeTimeout (w : World) (tid : Nat) (handle : Option Nat) (gen c : Nat) (call : Call) :
    World :=
  (w.abandon call).failHandshake tid handle gen c
    ("no initialize result within " ++ Text.durationText w.supervision.config.startupTimeout)

/-- Launches a server: a scripted one fails only when the host said so; a program is started on
the computer, and one that cannot read its script ends at once. The new connection, or why the
launch failed. -/
def launch (w : World) : Except String Nat × World :=
  let s := w.supervision
  match s.failNext with
  | some reason => (.error reason, w.modifySup fun s => { s with failNext := none })
  | none =>
    let c := w.conns.size
    let conn : Conn := { defaultTimeout := s.config.requestTimeout }
    match s.computer with
    | none => (.ok c, { w with conns := w.conns.push conn })
    | some m =>
      match m.spawn s.config.command s.config.effectiveWorkingDir s.config.env c with
      | .error reason => (.error reason, w)
      | .ok p =>
        let w := { w with conns := w.conns.push { conn with process := some p } }
        if p.behaviour.isNone then (.ok c, w.processEnds c (some Machine.unreadableScriptCode))
        else (.ok c, w)

/-- Begins a new generation: launch, then the handshake. -/
def startFresh (w : World) (tid : Nat) (handle : Option Nat) (op : LifecycleOp) : World :=
  match w.beginSession with
  | (none, w) =>
    w.finishOp tid handle (.error (.handshake ("cannot start from state " ++
      w.supervision.state.name)))
  | (some gen, w) =>
    let s := w.supervision
    match w.launch with
    | (.error reason, w) =>
      let e := Server.Error.spawn s.config.command reason
      (w.crashed gen (.spawn e.text)).finishOp tid handle (.error e)
    | (.ok c, w) =>
      let w := (w.spawn (.reader c false none)).1
      let w := (w.spawn (.monitor c gen .watching)).1
      let w := w.modifySup fun s => { s with session := some { generation := gen, conn := c } }
      let rootUri := match s.computer with
        | some m => Uri.ofAbsolutePath? (m.absolute s.config.rootPath)
        | none => Uri.ofPath? s.config.rootPath
      let (w, call) := w.stepCall c
        (.fresh "initialize" (initializeParamsAt rootUri s.processId s.config) (.given none))
      let (w, t) := w.timer s.config.startupTimeout
      match call with
      | .finished r => w.handshakeDone tid handle gen c r
      | _ =>
        if t.deadline ≤ w.now then w.handshakeTimeout tid handle gen c call
        else w.setTask tid (.lifecycle handle op (.handshake gen c call t))

/-- A crashed session's monitor has finished: close it, then start. -/
def afterClear (w : World) (tid : Nat) (handle : Option Nat) (op : LifecycleOp) (c : Nat) :
    World :=
  let w := (w.closePeer c).2
  ((w.transition none .stopped).2).startFresh tid handle op

/-- Starts with the lock held. -/
def startLocked (w : World) (tid : Nat) (handle : Option Nat) (op : LifecycleOp) : World :=
  match w.supervision.state with
  | .running | .starting => w.finishOp tid handle (.ok ())
  | .crashed =>
    match w.supervision.session with
    | some r =>
      let w := w.modifySup fun s => { s with session := none }
      let w := (w.modifyConn r.conn fun k => { k with expectedExit := true }).requestKill r.conn
      if (w.conn r.conn).monitorDone then w.afterClear tid handle op r.conn
      else w.setTask tid (.lifecycle handle op (.clearing r.conn))
    | none => ((w.transition none .stopped).2).startFresh tid handle op
  | _ => w.startFresh tid handle op

/-- What follows a stop: the start of a restart, or the end. -/
def afterStop (w : World) (tid : Nat) (handle : Option Nat) (op : LifecycleOp) : World :=
  match op with
  | .restart => w.startLocked tid handle op
  | _ => w.finishOp tid handle (.ok ())

/-- The stopped session's monitor has finished: close and move to stopped. -/
def finishStop (w : World) (tid : Nat) (handle : Option Nat) (op : LifecycleOp) (c : Nat) :
    World :=
  let w := (w.closePeer c).2
  ((w.transition none .stopped).2).afterStop tid handle op

/-- Kills the process and waits for the monitor. -/
def killAndWait (w : World) (tid : Nat) (handle : Option Nat) (op : LifecycleOp) (gen c : Nat) :
    World :=
  let w := w.requestKill c
  if (w.conn c).monitorDone then w.finishStop tid handle op c
  else w.setTask tid (.lifecycle handle op (.killed gen c))

/-- The `shutdown` call ended: `exit`, then the grace period. -/
def afterShutdown (w : World) (tid : Nat) (handle : Option Nat) (op : LifecycleOp) (gen c : Nat) :
    World :=
  let w := match w.notify c "exit" .null with
    | .ok w' => w'
    | .error _ => w
  if (w.conn c).monitorDone then w.finishStop tid handle op c
  else
    let (w, t) := w.timer w.supervision.config.shutdownGrace
    if t.deadline ≤ w.now then w.killAndWait tid handle op gen c
    else w.setTask tid (.lifecycle handle op (.grace gen c t))

/-- Stops with the lock held. -/
def stopLocked (w : World) (tid : Nat) (handle : Option Nat) (op : LifecycleOp) : World :=
  match w.supervision.session with
  | none => ((w.transition none .stopped).2).afterStop tid handle op
  | some r =>
    let w := w.modifySup fun s => { s with session := none }
    let w := w.modifyConn r.conn fun k => { k with expectedExit := true }
    match w.transition (some r.generation) .stopping with
    | (true, w) =>
      let (w, call) := w.stepCall r.conn
        (.fresh "shutdown" .null (.given (some w.supervision.config.shutdownGrace)))
      match call with
      | .finished _ => w.afterShutdown tid handle op r.generation r.conn
      | _ => w.setTask tid (.lifecycle handle op (.shutdown r.generation r.conn call))
    | (false, w) => w.killAndWait tid handle op r.generation r.conn

/-- What an operation does once it holds the lock. -/
def afterLock (w : World) (tid : Nat) (handle : Option Nat) (op : LifecycleOp) : World :=
  match op with
  | .start => (w.modifySup fun s => { s with restarts := 0 }).startLocked tid handle op
  | .stop => w.stopLocked tid handle op
  | .restart => (w.modifySup fun s => { s with restarts := 0 }).stopLocked tid handle op
  | .autoRestart gen =>
    let s := w.supervision
    if s.generation != gen || s.state != .crashed then w.finishOp tid handle (.ok ())
    else w.startLocked tid handle op

/-- A turn of a lifecycle operation. -/
def pollLifecycle (w : World) (tid : Nat) (handle : Option Nat) (op : LifecycleOp) : Stage → World
  | .locking =>
    let s := w.supervision
    if s.lockHolder == some tid then w.afterLock tid handle op
    else if s.lockHolder.isNone then
      (w.modifySup fun s => { s with lockHolder := some tid }).afterLock tid handle op
    else if s.lockWaiters.contains tid then w
    else w.modifySup fun s => { s with lockWaiters := s.lockWaiters ++ [tid] }
  | .clearing c => if (w.conn c).monitorDone then w.afterClear tid handle op c else w
  | .handshake gen c call t =>
    let (w, call) := w.stepCall c call
    match call with
    | .finished r => w.handshakeDone tid handle gen c r
    | _ =>
      if t.deadline ≤ w.now then w.handshakeTimeout tid handle gen c call
      else w.setTask tid (.lifecycle handle op (.handshake gen c call t))
  | .shutdown gen c call =>
    let (w, call) := w.stepCall c call
    match call with
    | .finished _ => w.afterShutdown tid handle op gen c
    | _ => w.setTask tid (.lifecycle handle op (.shutdown gen c call))
  | .grace gen c t =>
    if (w.conn c).monitorDone then w.finishStop tid handle op c
    else if t.deadline ≤ w.now then w.killAndWait tid handle op gen c
    else w
  | .killed _ c => if (w.conn c).monitorDone then w.finishStop tid handle op c else w

/-- Ends a process that has not exited: it counts as ended by a signal. A server program's
streams close with it. -/
def terminate (w : World) (c : Nat) : World :=
  if (w.conn c).process.isSome then w.processEnds c none
  else w.modifyConn c fun k => { k with exit := some (k.exit.getD none) }

/-- Waiting for a connection's process fails with an error, unless it already gave something:
the monitor is woken. -/
def waitFails (w : World) (c : Nat) (error : String) : World :=
  if (w.conn c).waitStatus.isSome then w
  else (w.modifyConn c fun k => { k with waitError := some error }).wakeMonitorOnProcess c

/-- Stops a connection's reader where it is, with its handler tasks. -/
def abortReader (w : World) (c : Nat) : World :=
  let readers := w.tasks.filterMap fun (tid, t) => match t with
    | .reader c' _ _ => if c' == c then some tid else none
    | _ => none
  let w := (readers.foldl dropTask w).dropHandlers c
  w.modifyConn c fun k => { k with readerGone := true }

/-- The monitor ends: the connection closes and an unexpected end is a crash. -/
def finishMonitor (w : World) (tid c gen : Nat) (reason : Option CrashReason) : World :=
  let w := (w.closePeer c).2
  let w := if (w.conn c).expectedExit then w
    else match reason with
      | some r => w.crashed gen r
      | none => w
  ((w.modifyConn c fun k => { k with monitorDone := true }).dropTask tid).wakeOnMonitor c

/-- The failure a reader's run ended with: its error's text, or none for a clean end. -/
def failureOf : Except Rpc.Error Unit → Option String
  | .ok _ => none
  | .error e => some e.text

/-- The reason a status that waiting for the process gave is reported with. -/
def exitReason : Except String (Option Int) → CrashReason
  | .ok code => .exited code
  | .error e => .transport ("waiting for the server process failed: " ++ e)

/-- The reader has ended and waiting for the process gave a status, or the monitor gave up
waiting. -/
def conclude (w : World) (tid c gen : Nat) (exited : Option (Except String (Option Int)))
    (failure : Option String) : World :=
  match failure, exited with
  | some f, _ => (w.terminate c).finishMonitor tid c gen (some (.transport f))
  | none, some status => w.finishMonitor tid c gen (some (exitReason status))
  | none, none => (w.terminate c).finishMonitor tid c gen (some .disconnected)

/-- After the reader ended: the monitor takes the process's status, or gives up waiting once the
grace period of `t` is over or a kill is asked for, whichever of those ready the scheduler takes;
while none is, it waits. -/
def awaitExit (w : World) (tid c gen : Nat) (failure : Option String) (t : Timer) : World :=
  let k := w.conn c
  match k.pick (k.graceReady (t.deadline ≤ w.now)) with
  | some .exit => w.conclude tid c gen k.waitStatus failure
  | some _ => w.conclude tid c gen none failure
  | none => w.setTask tid (.monitor c gen (.lingering failure t))

/-- A turn of a monitor. -/
def pollMonitor (w : World) (tid c gen : Nat) : Watch → World
  | .watching =>
    let k := w.conn c
    match k.pick k.watchReady, k.ended, k.waitStatus with
    | some .channel, some r, _ =>
      let (w, t) := w.timer w.supervision.config.shutdownGrace
      w.awaitExit tid c gen (failureOf r) t
    | some .exit, _, some status =>
      let (w, t) := w.timer exitDrain
      w.setTask tid (.monitor c gen (.draining status t))
    | some .kill, _, _ => ((w.terminate c).abortReader c).finishMonitor tid c gen none
    | _, _, _ => w
  | .draining status t =>
    if (w.conn c).ended.isSome then w.finishMonitor tid c gen (some (exitReason status))
    else if t.deadline ≤ w.now then
      (w.abortReader c).finishMonitor tid c gen (some (exitReason status))
    else w
  | .lingering failure t =>
    let k := w.conn c
    if (k.pick (k.graceReady (t.deadline ≤ w.now))).isSome then w.awaitExit tid c gen failure t
    else w

/-- A turn of the delay before an automatic restart. -/
def pollRestartDelay (w : World) (tid gen delay : Nat) : Option Timer → World
  | none =>
    let (w, t) := w.timer delay
    if t.deadline ≤ w.now then
      (w.setTask tid (.lifecycle none (.autoRestart gen) .locking)).pollLifecycle tid none
        (.autoRestart gen) .locking
    else w.setTask tid (.restartDelay gen delay (some t))
  | some t =>
    if t.deadline ≤ w.now then
      (w.setTask tid (.lifecycle none (.autoRestart gen) .locking)).pollLifecycle tid none
        (.autoRestart gen) .locking
    else w

end World

end Engine

end LspBridge
