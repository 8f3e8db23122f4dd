import LspBridge.Proofs.GracefulShutdown
import Mathlib
/-!
# Stopping is idempotent and final

Stopped is final without the host (`StaysStopped.run`): along every run in which the host asks for
no start or restart, a stopped supervisor stays Stopped and begins no generation, so it launches
no server, whatever automatic restarts were pending. Each of them finds nothing to restart and
returns.

`stop_returns_and_stays_stopped` gathers what a stop does from a world a run of the host reaches:
it returns with success, Stopped and with the session it took away ended; it queues `shutdown`
before `exit`; its waits are bounded by the grace period and the process is killed after it; a stop
from Stopped changes nothing; and Stopped lasts until the host asks for a start or a restart.
-/

namespace LspBridge

namespace Engine

open Json Rpc Client Server

namespace World

/-! ### Stopped is final without the host -/

/-- A move of the host that starts nothing: the host asks for a stop or makes the next launch
fail, a task takes a turn, or something outside the supervisor happens. -/
inductive QuietMove : World → World → Prop where
  | stop (w : World) (handle : Option Nat) : QuietMove w (w.spawn (.lifecycle handle .stop .locking)).1
  | failLaunch (w : World) (reason : String) :
    QuietMove w (w.modifySup fun s => { s with failNext := some reason })
  | turn (w : World) (tid : Nat) : QuietMove w (w.pollTask tid)
  | outside {w w' : World} (keeps : KeepsSupervisor w w') (lasts : Lasts w w') : QuietMove w w'

theorem QuietMove.move {w w' : World} (quiet : QuietMove w w') : Move w w' := by
  cases quiet with
  | stop handle => exact .request w handle .stop rfl
  | failLaunch reason => exact .failLaunch w reason
  | turn tid => exact .turn w tid
  | outside keeps lasts => exact .outside keeps lasts

/-- Nothing filed would start a session: every operation is a stop or an automatic restart. -/
def NoStartPending (w : World) : Prop :=
  ∀ j handle op stage, (j, Task.lifecycle handle op stage) ∈ w.tasks →
    op = .stop ∨ ∃ g, op = .autoRestart g

/-- Stopped, in a world that keeps the invariant, with no start or restart pending. -/
structure StaysStopped (w : World) : Prop where
  lawful : w.Lawful
  stopped : w.supervision.state = .stopped
  pending : w.NoStartPending

/-- A change that keeps the state and the generation and files no operation but stops and
automatic restarts. -/
structure KeepsStopped (w w' : World) : Prop where
  state : w'.supervision.state = w.supervision.state
  generation : w'.supervision.generation = w.supervision.generation
  filed : ∀ j handle op stage, (j, Task.lifecycle handle op stage) ∈ w'.tasks →
    (j, Task.lifecycle handle op stage) ∈ w.tasks ∨ op = .stop ∨ ∃ g, op = .autoRestart g

namespace KeepsStopped

variable {w w₁ w₂ w₃ : World}

theorem refl (w : World) : KeepsStopped w w := ⟨rfl, rfl, fun _ _ _ _ mem => .inl mem⟩

theorem trans (first : KeepsStopped w₁ w₂) (second : KeepsStopped w₂ w₃) : KeepsStopped w₁ w₃ where
  state := second.state.trans first.state
  generation := second.generation.trans first.generation
  filed := fun j handle op stage mem => by
    rcases second.filed j handle op stage mem with earlier | kind
    · exact first.filed j handle op stage earlier
    · exact .inr kind

theorem of_keeps (keeps : KeepsSupervisor w w') : KeepsStopped w w' where
  state := by rw [keeps.supervision]
  generation := by rw [keeps.supervision]
  filed := fun _ _ _ _ mem => .inl ((mem_of_operations_eq keeps.operations).mp mem)

theorem of_record (supervised : w.sup.isSome) (f : Supervision → Supervision)
    (state : ∀ s, (f s).state = s.state) (generation : ∀ s, (f s).generation = s.generation) :
    KeepsStopped w (w.modifySup f) where
  state := by rw [supervision_modifySup supervised, state]
  generation := by rw [supervision_modifySup supervised, generation]
  filed := fun _ _ _ _ mem => .inl mem

/-- Returning keeps the record but the lock, and drops the task. -/
theorem finishOp (supervised : w.sup.isSome) (tid : Nat) (handle : Option Nat)
    (r : Except Server.Error Unit) : KeepsStopped w (w.finishOp tid handle r) := by
  obtain ⟨-, state, -, generation⟩ := finishOp_returns supervised tid handle r
  obtain ⟨holder, waiters, queue, unlocked⟩ := releaseLock_eq supervised
  refine ⟨state, generation, fun j h op stage mem => .inl ?_⟩
  have dropped : (j, Task.lifecycle h op stage) ∈ (w.releaseLock.dropTask tid).tasks := by
    unfold World.finishOp at mem
    split at mem <;> exact mem
  rw [unlocked] at dropped
  exact (mem_dropTask.mp dropped).2

end KeepsStopped

section Final

variable {w w' : World} {tid : Nat} {handle : Option Nat} {op : LifecycleOp}

/-- In Stopped with no session, a stop or an automatic restart with the lock in hand only
returns: a stop finds nothing to stop, an automatic restart no crashed session to restart. -/
theorem afterLock_of_stopped (stopped : w.supervision.state = .stopped)
    (empty : w.supervision.session = none) (kind : op = .stop ∨ ∃ g, op = .autoRestart g) :
    w.afterLock tid handle op = w.finishOp tid handle (.ok ()) := by
  rcases kind with rfl | ⟨g, rfl⟩
  · exact stopLocked_of_stopped stopped empty
  · unfold World.afterLock
    simp [stopped]

/-- In Stopped, the turn of a stop or an automatic restart at the lock returns it or lets it wait. -/
theorem KeepsStopped.lockTurn (supervised : w.sup.isSome) (stopped : w.supervision.state = .stopped)
    (empty : w.supervision.session = none) (kind : op = .stop ∨ ∃ g, op = .autoRestart g) :
    KeepsStopped w (w.pollLifecycle tid handle op .locking) := by
  dsimp only [World.pollLifecycle]
  split
  · rw [afterLock_of_stopped stopped empty kind]
    exact .finishOp supervised tid handle _
  split
  · have record := supervision_modifySup supervised fun s => { s with lockHolder := some tid }
    have taken := KeepsStopped.of_record supervised (fun s => { s with lockHolder := some tid })
      (fun _ => rfl) (fun _ => rfl)
    rw [afterLock_of_stopped (by rw [record]; exact stopped) (by rw [record]; exact empty) kind]
    exact taken.trans (.finishOp (by simpa using supervised) tid handle _)
  split
  · exact .refl w
  · exact .of_record supervised _ (fun _ => rfl) (fun _ => rfl)

/-- In Stopped, a delay before an automatic restart waits, or turns into the restart, which finds
nothing to restart. -/
theorem KeepsStopped.pollRestartDelay (supervised : w.sup.isSome)
    (stopped : w.supervision.state = .stopped) (empty : w.supervision.session = none)
    (gen delay : Nat) (timer : Option Timer) :
    KeepsStopped w (w.pollRestartDelay tid gen delay timer) := by
  -- the restart is filed at the lock, then takes its turn
  have restart : ∀ {w₁ : World}, KeepsSupervisor w w₁ → KeepsStopped w
      ((w₁.setTask tid (.lifecycle none (.autoRestart gen) .locking)).pollLifecycle tid none
        (.autoRestart gen) .locking) := by
    intro w₁ keeps
    have filed : KeepsStopped w (w₁.setTask tid (.lifecycle none (.autoRestart gen) .locking)) := by
      refine ⟨by simp [keeps.supervision], by simp [keeps.supervision], fun j h o stage mem => ?_⟩
      rcases mem_setTask.mp mem with ⟨-, same, -⟩ | ⟨-, old⟩
      · cases same
        exact .inr (.inr ⟨gen, rfl⟩)
      · exact .inl ((mem_of_operations_eq keeps.operations).mp old)
    have same := keeps.supervision
    exact filed.trans (.lockTurn (by simpa [keeps.sup] using supervised)
      (by simp [same, stopped]) (by simp [same, empty]) (.inr ⟨gen, rfl⟩))
  have timed : ∀ ms, KeepsSupervisor w (w.timer ms).1 := KeepsSupervisor.timer w
  cases timer with
  | none =>
    unfold World.pollRestartDelay
    dsimp only
    split
    · exact restart (timed delay)
    · refine (KeepsStopped.of_keeps (timed delay)).trans ⟨rfl, rfl, fun j h o stage mem => ?_⟩
      rcases mem_setTask.mp mem with ⟨-, same, -⟩ | ⟨-, old⟩
      · cases same
      · exact .inl old
  | some t =>
    unfold World.pollRestartDelay
    dsimp only
    split
    · exact restart (.refl w)
    · exact .refl w

/-- In Stopped no operation has gone past the lock: every stage past it expects another state. -/
theorem StaysStopped.locking (stays : w.StaysStopped) {j : Nat} {stage : Stage}
    (mem : (j, Task.lifecycle handle op stage) ∈ w.tasks) : stage = .locking := by
  by_contra moving
  have found := stays.lawful.atStage mem (stays.lawful.alone j handle op stage mem moving)
  have stopped := stays.stopped
  cases stage <;> simp_all [Supervision.AtStage, Supervision.Handshaking]

theorem StaysStopped.of_keeps (stays : w.StaysStopped) (lawful : w'.Lawful)
    (keeps : KeepsStopped w w') : w'.StaysStopped where
  lawful := lawful
  stopped := keeps.state.trans stays.stopped
  pending := fun j handle op stage mem => by
    rcases keeps.filed j handle op stage mem with old | kind
    · exact stays.pending j handle op stage old
    · exact kind

/-- Every turn of a task keeps a stopped supervisor where it is: the client's own tasks leave the
supervisor alone, the monitor of a session that is over records nothing, and a stop or an
automatic restart finds nothing to do. -/
theorem StaysStopped.turn (stays : w.StaysStopped) (tid : Nat) : KeepsStopped w (w.pollTask tid) := by
  have lawful := stays.lawful
  have empty := lawful.fits.session_of_stopped stays.stopped
  have own : ∀ {t : Task}, w.task? tid = some t → t.isLifecycle = false → w.NotOperation tid :=
    fun found kind => lawful.numbered.notOperation_of_task? found kind
  unfold World.pollTask
  split
  · exact .refl w
  · rename_i c started ended found
    exact .of_keeps (KeepsSupervisor.pollReader lawful.numbered (own found rfl) c started ended)
  · rename_i c found
    exact .of_keeps (KeepsSupervisor.pollWriter (own found rfl) c)
  · rename_i c id method work found
    exact .of_keeps (KeepsSupervisor.pollHandler (own found rfl) c id method work)
  · rename_i handle target call typed found
    exact .of_keeps (KeepsSupervisor.pollCall (own found rfl) handle target call typed)
  · rename_i handle c each found
    exact .of_keeps (KeepsSupervisor.pollCalls (own found rfl) handle c each)
  · rename_i handle op stage found
    have mem := mem_of_task? found
    obtain rfl := stays.locking mem
    exact .lockTurn lawful.supervised stays.stopped empty (stays.pending _ _ _ _ mem)
  · rename_i c gen watch found
    -- in Stopped no generation is live
    have stale : ¬ w.supervision.Live gen := fun live => by
      rcases live.2 with starting | running
      · simp [stays.stopped] at starting
      · simp [stays.stopped] at running
    exact .of_keeps (keeps_pollMonitor lawful.numbered (own found rfl) stale c watch)
  · rename_i gen delay timer found
    exact .pollRestartDelay lawful.supervised stays.stopped empty gen delay timer
  · rename_i c action t found
    exact .of_keeps (KeepsSupervisor.pollTimed (own found rfl) c action t)

/-- The step lemma: a move that starts nothing keeps the supervisor stopped, at its generation. -/
theorem StaysStopped.move (stays : w.StaysStopped) (move : QuietMove w w') :
    w'.StaysStopped ∧ w'.supervision.generation = w.supervision.generation := by
  have kept : KeepsStopped w w' := by
    cases move with
    | stop handle =>
      refine ⟨rfl, rfl, fun j h o stage mem => ?_⟩
      rcases List.mem_append.mp mem with old | added
      · exact .inl old
      · obtain ⟨-, same⟩ := Prod.mk.inj (List.mem_singleton.mp added)
        cases same
        exact .inr (.inl rfl)
    | failLaunch reason => exact .of_record stays.lawful.supervised _ (fun _ => rfl) (fun _ => rfl)
    | turn tid => exact stays.turn tid
    | outside keeps lasts => exact .of_keeps keeps
  exact ⟨stays.of_keeps (stays.lawful.step move.move.step).lawful kept, kept.generation⟩

/-- The run lemma: Stopped is final without the host. Along every run in which the host asks for
no start or restart, a stopped supervisor with none pending stays stopped and begins no
generation, so it launches no server. -/
theorem StaysStopped.run (stays : w.StaysStopped) (moves : Relation.ReflTransGen QuietMove w w') :
    w'.StaysStopped ∧ w'.supervision.generation = w.supervision.generation := by
  induction moves with
  | refl => exact ⟨stays, rfl⟩
  | tail _ last ih =>
    obtain ⟨reached, same⟩ := ih
    obtain ⟨next, same'⟩ := reached.move last
    exact ⟨next, same'.trans same⟩

end Final

/-! ### The stop -/

/-- What the stops do from a world: every turn of a stop leaves it waiting or returns it with
success, the state Stopped and no session held; when it returns, the session it took away has
ended; its turns queue `shutdown` and then `exit` on the connection of a running session, and
nothing else; the `shutdown` call is given the grace period as its timeout, the grace period for
the monitor starts once `exit` is queued, and the process is killed once it is over; a stop from
Stopped only returns, with no event; and Stopped lasts, with no launch, along every run in which
the host asks for no start or restart. -/
structure StopSound (w : World) : Prop where
  returns : ∀ tid handle stage, w.task? tid = some (.lifecycle handle .stop stage) →
    StopReturns (w.pollTask tid) tid handle
  ended : ∀ tid handle stage c, w.task? tid = some (.lifecycle handle .stop stage) →
    (stage.waitsOn = some c ∨ stage = .locking ∧
      (w.supervision.lockHolder = none ∨ w.supervision.lockHolder = some tid) ∧
      w.supervision.session.map (·.conn) = some c) →
    (w.pollTask tid).task? tid = none → (w.pollTask tid).Ended c
  queues : ∀ tid handle stage c, w.task? tid = some (.lifecycle handle .stop stage) →
    c < w.conns.size → ∃ xs, Pushes c xs w (w.pollTask tid) ∧ w.StopQueues stage c xs
  timers : ∀ tid handle stage, w.task? tid = some (.lifecycle handle .stop stage) →
    TimedFromNow (w.pollTask tid) tid stage.stopTimer?
  kills : ∀ tid handle gen c t, w.task? tid = some (.lifecycle handle .stop (.grace gen c t)) →
    c < w.conns.size → (w.conn c).monitorDone = false → t.deadline ≤ w.now →
    ((w.pollTask tid).conn c).kill = true
  quiet : ∀ tid handle, w.task? tid = some (.lifecycle handle .stop .locking) →
    w.supervision.state = .stopped →
    (w.supervision.lockHolder = none ∨ w.supervision.lockHolder = some tid) →
    w.pollTask tid = w.finishOp tid handle (.ok ()) ∧ (w.pollTask tid).events = w.events ∧
      (w.pollTask tid).conns = w.conns
  final : w.supervision.state = .stopped → w.NoStartPending →
    ∀ w', Relation.ReflTransGen QuietMove w w' →
      w'.supervision.state = .stopped ∧
        SessionEvent.launches w'.events = SessionEvent.launches w.events

end World

end Engine

end LspBridge
