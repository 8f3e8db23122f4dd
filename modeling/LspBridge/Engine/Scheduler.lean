import LspBridge.Engine.Supervisor
import LspBridge.Lsp.Types
/-!
# Running tasks

`World.settle` runs queued tasks, one turn each, first in first out, until none is queued; after
every turn, writers that nobody can feed any more are woken so that they finish. The clock stands
still meanwhile.

`World.advance` moves the clock forward. It stops at each deadline on the way, in order: the clock
is set to it, the tasks whose timers expire there are woken in the order their timers were set, and
everything settles before the next deadline. At the end the clock is set to the target and
everything settles once more.

`World.runUntil` lets time pass the same way until a condition holds.

All are bounded by fuel, far beyond what a script needs.
-/

namespace LspBridge

namespace Engine

open Json Rpc Client

/-- The bound on turns of one settling. -/
def settleFuel : Nat := 100000

/-- The bound on deadlines passed in one advance. -/
def advanceFuel : Nat := 10000

/-- The calls reporting a classpath change: one `workspace/executeCommand` call per registered
listener, in the registry's order, each under the connection's default timeout. -/
def publishCalls (listeners : List String) (u : Sts.ClasspathUpdate) : List Call :=
  listeners.map fun command => .fresh Sts.executeCommand (u.callbackParams command) .byDefault

namespace World

/-- A host call has ended: a typed call reads its result by its shape. -/
def finishCall (w : World) (tid handle : Nat) (typed : Option Shape) (r : Except Rpc.Error Value) :
    World :=
  let r := match typed, r with
    | some shape, .ok v =>
      match shape.normalize? v with
      | some v' => .ok v'
      | none => .error .serialize
    | _, r => r
  (w.report handle (.call r)).dropTask tid

/-- A turn of a host call. A call to the running session finds it when it is sent. -/
def pollCall (w : World) (tid handle : Nat) (target : Target) (call : Call) (typed : Option Shape) :
    World :=
  let conn : Option Nat := match target with
    | .conn c => some c
    | .running => w.runningPeer
  match conn with
  | none => w.finishCall tid handle typed (.error .serverUnavailable)
  | some c =>
    match w.stepCall c call with
    | (w, .finished r) => w.finishCall tid handle typed r
    | (w, call) => w.setTask tid (.call handle (.conn c) call typed)

/-- A turn of calls made together: once all have ended, the number that succeeded. -/
def pollCalls (w : World) (tid handle c : Nat) (each : List Call) : World :=
  let (w, each) := each.foldl (fun (acc : World × List Call) call =>
    let (w, done) := acc
    let (w, call) := w.stepCall c call
    (w, done ++ [call])) (w, [])
  let results := each.filterMap Call.result?
  if results.length == each.length then
    (w.report handle (.count (results.filter fun r => r matches .ok _).length)).dropTask tid
  else w.setTask tid (.calls handle c each)

/-- Reports a classpath change to the registered listeners over a connection: a task that makes
the calls together and, once all have ended, reports under the handle how many succeeded. -/
def publish (w : World) (handle c : Nat) (u : Sts.ClasspathUpdate) : World :=
  (w.spawn (.calls handle c (publishCalls w.listeners u))).1

/-- A turn of a task. -/
def pollTask (w : World) (tid : Nat) : World :=
  match w.task? tid with
  | none => w
  | some (.reader c started ended) => w.pollReader tid c started ended
  | some (.writer c) => w.pollWriter tid c
  | some (.handler c id method work) => w.pollHandler tid c id method work
  | some (.call handle target call typed) => w.pollCall tid handle target call typed
  | some (.calls handle c each) => w.pollCalls tid handle c each
  | some (.lifecycle handle op stage) => w.pollLifecycle tid handle op stage
  | some (.monitor c gen watch) => w.pollMonitor tid c gen watch
  | some (.restartDelay gen delay timer) => w.pollRestartDelay tid gen delay timer
  | some (.timed c action t) => w.pollTimed tid c action t

/-- Runs queued tasks until none is queued, or the fuel runs out. -/
def settleWith : Nat → World → World
  | 0, w => w
  | fuel + 1, w =>
    match w.queue with
    | [] => w
    | tid :: rest => settleWith fuel ({ w with queue := rest }.pollTask tid).wakeIdleWriters

/-- Runs queued tasks until none is queued. -/
def settle (w : World) : World := settleWith settleFuel w

/-- The earliest deadline of a live timer after now and no later than the target. -/
def nextDeadline (w : World) (target : Nat) : Option Nat :=
  ((w.tasks.flatMap fun (_, t) => t.timers).map (·.deadline)).filter
    (fun d => w.now < d && d ≤ target) |>.min?

/-- Inserts a timer's sequence number and task into a list sorted by sequence number. -/
def insertBySeq (e : Nat × Nat) : List (Nat × Nat) → List (Nat × Nat)
  | [] => [e]
  | f :: rest => if e.1 ≤ f.1 then e :: f :: rest else f :: insertBySeq e rest

/-- Wakes the tasks whose timers expire at a deadline, in the order the timers were set. -/
def fire (w : World) (deadline : Nat) : World :=
  let due := w.tasks.flatMap fun (tid, t) =>
    (t.timers.filter (·.deadline == deadline)).map fun timer => (timer.seq, tid)
  (due.foldr insertBySeq []).foldl (fun acc (_, tid) => acc.wake tid) w

/-- Moves the clock to the target, deadline by deadline. -/
def advanceTo (target : Nat) : Nat → World → World
  | 0, w => settle { w with now := max w.now target }
  | fuel + 1, w =>
    match w.nextDeadline target with
    | none => settle { w with now := max w.now target }
    | some d => advanceTo target fuel (settle ({ w with now := d }.fire d))

/-- Moves the clock forward by `ms`. -/
def advance (w : World) (ms : Nat) : World := advanceTo (w.now + ms) advanceFuel w

/-- Lets time pass until a condition holds, deadline by deadline: whether it came to hold. With a
limit, the clock stops there at the latest; without one, it stops when no timer is left. -/
def runUntil (p : World → Bool) (limit : Option Nat) : Nat → World → World × Bool
  | 0, w => (w, p w)
  | fuel + 1, w =>
    let w := w.settle
    if p w then (w, true)
    else
      let target := limit.getD (w.now + 1000000000)
      match w.nextDeadline target with
      | some d => runUntil p limit fuel ({ w with now := d }.fire d)
      | none =>
        match limit with
        | some l =>
          let w := settle { w with now := max w.now l }
          (w, p w)
        | none => (w, false)

end World

end Engine

end LspBridge
