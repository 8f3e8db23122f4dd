import LspBridge.Proofs.LifecycleOperations
import Mathlib
/-!
# The supervisor's lifecycle over whole runs

A run of a supervised client interleaves the host's requests (start, stop, restart, a launch made
to fail), turns of its tasks (lifecycle operations, monitors, restart delays and the client's own
tasks), and whatever happens outside the supervisor: time passing, a server writing, exiting or
closing its output, the host's calls. `World.Step` is one such move and `World.Fresh` a supervisor
as it is set up.

Each move keeps the invariant of `SessionInvariant` (`World.Lawful.step`), so it holds along every
run (`World.Lawful.run`); `World.lifecycle_sound` reads off what it promises.
-/

namespace LspBridge

namespace Engine

open Json Rpc Client Server

namespace World

/-- A move that keeps the invariant and only adds events. -/
structure Continues (w w' : World) : Prop where
  lawful : w'.Lawful
  grows : w.events <+: w'.events

section Moves

variable {w w₁ w' : World} {tid : Nat}

theorem Continues.then (first : Continues w w₁) (second : Continues w₁ w') : Continues w w' :=
  ⟨second.lawful, first.grows.trans second.grows⟩

theorem Lawful.keeps (lawful : w.Lawful) (keeps : KeepsSupervisor w w') : w'.Lawful :=
  lawful.bookkeeping (.of_keeps keeps)

theorem Continues.keeps (lawful : w.Lawful) (keeps : KeepsSupervisor w w') : Continues w w' :=
  ⟨lawful.keeps keeps, (Bookkeeping.of_keeps keeps).grows⟩

theorem Continues.stay (lawful : w.Lawful) : Continues w w := ⟨lawful, List.prefix_refl _⟩

theorem Advances.continues (advances : Advances w w' tid) : Continues w w' :=
  ⟨advances.lawful, advances.grows⟩

theorem Lawful.crash (lawful : w.Lawful) (gen : Nat) (reason : CrashReason) :
    Continues w (w.crashed gen reason) :=
  ⟨lawful.crashed reason, crashed_grows reason lawful.supervised⟩

theorem Bookkeeping.notOperation (step : Bookkeeping w w') (own : w.NotOperation tid) :
    w'.NotOperation tid := by
  intro t mem
  cases t with
  | lifecycle handle op stage => exact own _ (step.keeps.mem_iff.mp mem)
  | _ => rfl

theorem crashed_notOperation (supervised : w.sup.isSome) (own : w.NotOperation tid) (gen : Nat)
    (reason : CrashReason) : (w.crashed gen reason).NotOperation tid := by
  rcases crashed_cases supervised gen reason with ⟨same, -⟩ | ⟨-, -, rest⟩
  · rw [same]
    exact own
  · exact rest.notOperation own

end Moves

/-! ### Monitors -/

section Monitor

variable {w : World} {tid : Nat}

theorem Lawful.closeMonitor (lawful : w.Lawful) (own : w.NotOperation tid) (c : Nat) :
    Continues w (((w.modifyConn c fun k => { k with monitorDone := true }).dropTask tid).wakeOnMonitor
      c) := by
  have marked := KeepsSupervisor.modifyConn w c fun k => { k with monitorDone := true }
  exact .keeps lawful ((marked.trans (KeepsSupervisor.dropTask (marked.notOperation own))).trans
    (KeepsSupervisor.wakeIf _ _))

/-- The monitor ends: its connection closes, and an end nobody expected is a crash. -/
theorem Lawful.finishMonitor (lawful : w.Lawful) (own : w.NotOperation tid) (c gen : Nat)
    (reason : Option CrashReason) : Continues w (w.finishMonitor tid c gen reason) := by
  have closed := KeepsSupervisor.closePeer w c
  have lawful₁ := lawful.keeps closed
  have own₁ := closed.notOperation own
  unfold World.finishMonitor
  dsimp only
  refine (Continues.keeps lawful closed).then ?_
  split
  · exact lawful₁.closeMonitor own₁ c
  · split
    · rename_i r
      exact (lawful₁.crash gen r).then ((lawful₁.crashed r).closeMonitor
        (crashed_notOperation lawful₁.supervised own₁ gen r) c)
    · exact lawful₁.closeMonitor own₁ c

theorem Lawful.conclude (lawful : w.Lawful) (own : w.NotOperation tid) (c gen : Nat)
    (exited : Option (Except String (Option Int))) (failure : Option String) :
    Continues w (w.conclude tid c gen exited failure) := by
  have ended := KeepsSupervisor.terminate w c
  unfold World.conclude
  split
  · exact (Continues.keeps lawful ended).then
      ((lawful.keeps ended).finishMonitor (ended.notOperation own) c gen _)
  · exact lawful.finishMonitor own c gen _
  · exact (Continues.keeps lawful ended).then
      ((lawful.keeps ended).finishMonitor (ended.notOperation own) c gen _)

/-- The grace period after the reader ended: the monitor concludes once a branch is ready. -/
theorem Lawful.awaitExit (lawful : w.Lawful) (own : w.NotOperation tid) (c gen : Nat)
    (failure : Option String) (t : Timer) : Continues w (w.awaitExit tid c gen failure t) := by
  unfold World.awaitExit
  dsimp only
  split
  · exact lawful.conclude own c gen _ _
  · exact lawful.conclude own c gen _ _
  · exact .keeps lawful (KeepsSupervisor.setTask own rfl)

/-- A turn of a monitor: it waits, or ends its connection and records how the session ended. -/
theorem Lawful.pollMonitor (lawful : w.Lawful) (own : w.NotOperation tid) (c gen : Nat)
    (watch : Watch) : Continues w (w.pollMonitor tid c gen watch) := by
  cases watch with
  | watching =>
    unfold World.pollMonitor
    dsimp only
    split
    · -- the reader ended first: the process gets the grace period
      have timed := KeepsSupervisor.timer w w.supervision.config.shutdownGrace
      exact (Continues.keeps lawful timed).then
        ((lawful.keeps timed).awaitExit (timed.notOperation own) c gen _ _)
    · -- the process exited first: the reader drains
      have timed := KeepsSupervisor.timer w exitDrain
      exact .keeps lawful (timed.trans (KeepsSupervisor.setTask (timed.notOperation own) rfl))
    · have killed := (KeepsSupervisor.terminate w c).trans
        (KeepsSupervisor.abortReader ((KeepsSupervisor.terminate w c).numbered lawful.numbered) c)
      exact (Continues.keeps lawful killed).then
        ((lawful.keeps killed).finishMonitor (killed.notOperation own) c gen _)
    · exact .stay lawful
  | draining status t =>
    unfold World.pollMonitor
    dsimp only
    split
    · exact lawful.finishMonitor own c gen _
    split
    · have stopped := KeepsSupervisor.abortReader lawful.numbered c
      exact (Continues.keeps lawful stopped).then
        ((lawful.keeps stopped).finishMonitor (stopped.notOperation own) c gen _)
    · exact .stay lawful
  | lingering failure t =>
    unfold World.pollMonitor
    dsimp only
    split
    · exact lawful.awaitExit own c gen _ _
    · exact .stay lawful

end Monitor

/-! ### New operations: the host's requests and automatic restarts -/

section Enlist

variable {w : World} {tid : Nat}

/-- Filing an operation that waits for the lock keeps the invariant, when the record and the
events stay and every operation already filed keeps its entry. -/
theorem Lawful.enroll {w' : World} (lawful : w.Lawful) (numbered : w'.WellNumbered)
    (sup : w'.sup = w.sup) (events : w'.events = w.events)
    (kept : ∀ {j handle op stage}, (j, Task.lifecycle handle op stage) ∈ w.tasks →
      (j, Task.lifecycle handle op stage) ∈ w'.tasks)
    (new : ∀ {j handle op stage}, (j, Task.lifecycle handle op stage) ∈ w'.tasks →
      (j, Task.lifecycle handle op stage) ∈ w.tasks ∨ stage = .locking) : w'.Lawful := by
  have same : w'.supervision = w.supervision := by simp [supervision, sup]
  have lock := lawful.lock
  unfold LockFits at lock
  exact {
    numbered := numbered
    supervised := by rw [sup]; exact lawful.supervised
    history := by rw [events, same]; exact lawful.history
    launches := by rw [events, same]; exact lawful.launches
    waiting := fun j waiter => by
      rw [same] at waiter
      obtain ⟨handle, op, mem⟩ := lawful.waiting j waiter
      exact ⟨handle, op, kept mem⟩
    queued := by rw [same]; exact lawful.queued
    idle := by rw [same]; exact lawful.idle
    apart := by rw [same]; exact lawful.apart
    alone := fun j handle op stage mem moving => by
      rw [same]
      -- only an operation filed before may be past the lock
      rcases new mem with old | waits
      · exact lawful.alone j handle op stage old moving
      · exact absurd waits moving
    fits := by rw [same]; exact lawful.fits
    lock := by
      unfold LockFits
      rw [same]
      split
      · rename_i free
        rw [free] at lock
        exact lock
      · rename_i h held
        rw [held] at lock
        obtain ⟨handle, op, stage, mem, at_⟩ := lock
        exact ⟨handle, op, stage, kept mem, at_⟩ }

/-- A new operation waits for the lock; whoever holds it, and every waiter, keeps its entry. -/
theorem Lawful.request (lawful : w.Lawful) (handle : Option Nat) (op : LifecycleOp) :
    (w.spawn (.lifecycle handle op .locking)).1.Lawful := by
  refine lawful.enroll (lawful.numbered.spawn _) rfl rfl (fun mem => by simp [World.spawn, mem]) ?_
  intro j handle' op' stage mem
  simp only [World.spawn, List.mem_append, List.mem_singleton, Prod.mk.injEq,
    Task.lifecycle.injEq] at mem
  rcases mem with old | ⟨-, -, -, rfl⟩
  · exact .inl old
  · exact .inr rfl

/-- A task that is no operation becomes one that waits for the lock. -/
theorem Lawful.enlist (lawful : w.Lawful) {t : Task} (mem : (tid, t) ∈ w.tasks)
    (kind : t.isLifecycle = false) (handle : Option Nat) (op : LifecycleOp) :
    (w.setTask tid (.lifecycle handle op .locking)).Lawful := by
  -- no operation is filed under the id, so every operation keeps its entry
  have other : ∀ {j handle' op' stage}, (j, Task.lifecycle handle' op' stage) ∈ w.tasks → j ≠ tid :=
    fun entry same => by
      subst same
      rw [lawful.numbered.eq_of_mem mem entry] at kind
      cases kind
  refine lawful.enroll (lawful.numbered.setTask _ _) rfl rfl
    (fun entry => mem_setTask.mpr (.inr ⟨other entry, entry⟩)) ?_
  intro j handle' op' stage entry
  rcases mem_setTask.mp entry with ⟨-, same, -⟩ | ⟨-, old⟩
  · cases same
    exact .inr rfl
  · exact .inl old

/-- The delay before an automatic restart: once over, the restart becomes an operation and takes
its first turn at once. -/
theorem Lawful.pollRestartDelay (lawful : w.Lawful) {gen delay : Nat} {timer : Option Timer}
    (found : w.task? tid = some (.restartDelay gen delay timer)) :
    Continues w (w.pollRestartDelay tid gen delay timer) := by
  have mem := mem_of_task? found
  have own := lawful.numbered.notOperation mem rfl
  -- once the delay is over the task turns into an automatic restart
  have restart : ∀ {w₁ : World}, w₁.Lawful → (tid, Task.restartDelay gen delay timer) ∈ w₁.tasks →
      Continues w₁ ((w₁.setTask tid (.lifecycle none (.autoRestart gen) .locking)).pollLifecycle tid
        none (.autoRestart gen) .locking) := by
    intro w₁ lawful₁ mem₁
    have enlisted := lawful₁.enlist mem₁ rfl none (.autoRestart gen)
    have turned := enlisted.pollLifecycle (mem_setTask.mpr (.inl ⟨rfl, rfl, _, mem₁⟩))
    exact ⟨turned.lawful, turned.grows⟩
  cases timer with
  | none =>
    have timed := KeepsSupervisor.timer w delay
    unfold World.pollRestartDelay
    dsimp only
    split
    · exact (Continues.keeps lawful timed).then (restart (lawful.keeps timed) mem)
    · exact .keeps lawful (timed.trans (KeepsSupervisor.setTask (timed.notOperation own) rfl))
  | some t =>
    unfold World.pollRestartDelay
    dsimp only
    split
    · exact restart lawful mem
    · exact .stay lawful

end Enlist

/-! ### Runs -/

/-- One move of a supervised client: the host asks for a lifecycle operation or makes the next
launch fail, a task takes a turn, or something outside the supervisor happens (time passes, a
server writes, exits or closes its output, the host calls the server). -/
inductive Step : World → World → Prop where
  | request (w : World) (handle : Option Nat) (op : LifecycleOp) :
    Step w (w.spawn (.lifecycle handle op .locking)).1
  | failLaunch (w : World) (reason : String) :
    Step w (w.modifySup fun s => { s with failNext := some reason })
  | turn (w : World) (tid : Nat) : Step w (w.pollTask tid)
  | outside {w w' : World} (keeps : KeepsSupervisor w w') : Step w w'

/-- A supervisor as it is set up: Stopped at generation 0, with no session, a free lock, no
events, and no operation asked for. -/
structure Fresh (w : World) : Prop where
  numbered : w.WellNumbered
  idle : w.operations = []
  events : w.events = []
  record : ∃ s, w.sup = some s ∧ s.state = .stopped ∧ s.generation = 0 ∧ s.session = none ∧
    s.lockHolder = none ∧ s.lockWaiters = []

section Run

variable {w w' : World}

/-- A task's turn keeps the invariant: an operation's by the lemmas of `LifecycleOperations`, a
monitor's and a restart delay's above, and the client's own tasks leave the supervisor alone. -/
theorem Lawful.turn (lawful : w.Lawful) (tid : Nat) : Continues w (w.pollTask tid) := by
  have own : ∀ {t : Task}, w.task? tid = some t → t.isLifecycle = false → w.NotOperation tid :=
    fun found kind => lawful.numbered.notOperation_of_task? found kind
  unfold World.pollTask
  split
  · exact .stay lawful
  · rename_i c started ended found
    exact .keeps lawful (KeepsSupervisor.pollReader lawful.numbered (own found rfl) c started ended)
  · rename_i c found
    exact .keeps lawful (KeepsSupervisor.pollWriter (own found rfl) c)
  · rename_i c id method work found
    exact .keeps lawful (KeepsSupervisor.pollHandler (own found rfl) c id method work)
  · rename_i handle target call typed found
    exact .keeps lawful (KeepsSupervisor.pollCall (own found rfl) handle target call typed)
  · rename_i handle c each found
    exact .keeps lawful (KeepsSupervisor.pollCalls (own found rfl) handle c each)
  · rename_i handle op stage found
    exact (lawful.pollLifecycle (mem_of_task? found)).continues
  · rename_i c gen watch found
    exact lawful.pollMonitor (own found rfl) c gen watch
  · rename_i gen delay timer found
    exact lawful.pollRestartDelay found
  · rename_i c action t found
    exact .keeps lawful (KeepsSupervisor.pollTimed (own found rfl) c action t)

/-- The step lemma: every move keeps the invariant and only adds events. -/
theorem Lawful.step (lawful : w.Lawful) (step : Step w w') : Continues w w' := by
  cases step with
  | request handle op => exact ⟨lawful.request handle op, by simp [World.spawn]⟩
  | failLaunch reason =>
    have noted := Bookkeeping.update lawful.supervised
      (fun s => { s with failNext := some reason }) rfl
    exact ⟨lawful.bookkeeping noted, noted.grows⟩
  | turn tid => exact lawful.turn tid
  | outside keeps => exact .keeps lawful keeps

theorem Fresh.lawful (fresh : w.Fresh) : w.Lawful := by
  obtain ⟨s, found, stopped, first, empty, free, none⟩ := fresh.record
  have record := supervision_eq found
  have noOperation : ∀ j handle op stage, (j, Task.lifecycle handle op stage) ∉ w.tasks :=
    fun j handle op stage mem => by
      have listed := mem_operations.mpr mem
      rw [fresh.idle] at listed
      cases listed
  exact {
    numbered := fresh.numbered
    supervised := by simp [found]
    history := by simp [fresh.events, record, stopped, SessionState.replay]
    launches := by simp [fresh.events, record, first, SessionEvent.launches]
    waiting := by simp [record, none]
    queued := by simp [record, none]
    idle := fun _ => by simp [record, none]
    apart := by simp [record, none]
    alone := fun j handle op stage mem => absurd mem (noOperation j handle op stage)
    fits := .of_empty (by rw [record, empty]) (by rw [record, stopped]; decide)
    lock := by simp [LockFits, record, free, Supervision.Settled, stopped] }

/-- The run lemma: the invariant holds along every run. -/
theorem Lawful.run (lawful : w.Lawful) (run : Relation.ReflTransGen Step w w') : w'.Lawful := by
  induction run with
  | refl => exact lawful
  | tail _ step ih => exact (ih.step step).lawful

end Run

/-! ### A start while the server runs -/

section Quiet

variable {tid : Nat} {handle : Option Nat}

theorem startLocked_of_running {w : World} (running : w.supervision.state = .running)
    (op : LifecycleOp) : w.startLocked tid handle op = w.finishOp tid handle (.ok ()) := by
  unfold World.startLocked
  rw [running]

/-- Ending an operation touches neither the events, the connections nor the generation. -/
theorem finishOp_quiet (w : World) (supervised : w.sup.isSome) (r : Except Server.Error Unit) :
    (w.finishOp tid handle r).events = w.events ∧ (w.finishOp tid handle r).conns = w.conns ∧
      (w.finishOp tid handle r).supervision.generation = w.supervision.generation := by
  obtain ⟨holder, waiters, queue, unlocked⟩ := releaseLock_eq supervised
  unfold World.finishOp
  split <;> simp [World.report, World.dropTask, supervision, unlocked]

/-- With the lock in hand, a start that finds the server running ends at once. -/
theorem afterLock_start_quiet (w : World) (supervised : w.sup.isSome)
    (running : w.supervision.state = .running) :
    (w.afterLock tid handle .start).events = w.events ∧
      (w.afterLock tid handle .start).conns = w.conns ∧
      (w.afterLock tid handle .start).supervision.generation = w.supervision.generation := by
  have record := supervision_modifySup supervised fun s => { s with restarts := 0 }
  obtain ⟨events, conns, generation⟩ := finishOp_quiet
    (w.modifySup fun s => { s with restarts := 0 }) (by simpa using supervised) (.ok ())
  unfold World.afterLock
  rw [startLocked_of_running (by rw [record]; exact running)]
  exact ⟨events, conns, by rw [generation, record]⟩

/-- A start that finds the server running, at its first turn, ends at once or waits for the lock:
it launches nothing, records nothing and begins no generation. -/
theorem Lawful.start_quiet_of_running {w : World} (lawful : w.Lawful)
    (found : w.task? tid = some (.lifecycle handle .start .locking))
    (running : w.supervision.state = .running) :
    (w.pollTask tid).events = w.events ∧ (w.pollTask tid).conns = w.conns ∧
      (w.pollTask tid).supervision.generation = w.supervision.generation := by
  have turn : w.pollTask tid = w.pollLifecycle tid handle .start .locking := by
    simp only [World.pollTask, found]
  rw [turn]
  unfold World.pollLifecycle
  dsimp only
  split
  · exact afterLock_start_quiet w lawful.supervised running
  split
  · have record :=
      supervision_modifySup lawful.supervised fun s => { s with lockHolder := some tid }
    obtain ⟨events, conns, generation⟩ := afterLock_start_quiet
      (w.modifySup fun s => { s with lockHolder := some tid }) (by simpa using lawful.supervised)
      (by rw [record]; exact running)
    exact ⟨events, conns, by rw [generation, record]⟩
  split
  · exact ⟨rfl, rfl, rfl⟩
  · exact ⟨rfl, rfl, by rw [supervision_modifySup lawful.supervised]⟩

end Quiet

/-! ### What every run promises -/

/-- An idle lock means a settled state: the lock is free, or held by an operation that has not
yet gone past it. -/
theorem Lawful.settled_of_idle {w : World} (lawful : w.Lawful)
    (idle : ∀ j handle op stage, (j, Task.lifecycle handle op stage) ∈ w.tasks → stage = .locking) :
    w.supervision.Settled := by
  have lock := lawful.lock
  unfold LockFits at lock
  split at lock
  · exact lock
  · obtain ⟨handle, op, stage, mem, at_⟩ := lock
    rw [idle _ _ _ _ mem] at at_
    exact at_

/-- What the supervisor promises in a world a run reaches.

`settled`: with no operation past the lock, the state is neither Starting nor Stopping. `stopped`:
stopped holds no session. `running`: running holds a session of the current generation. `crashed`:
crashed holds no session, or one of the current generation. `launches`: the generation counts the
launch attempts: the sessions begun are numbered `1, …, g`. `history`: the recorded changes of state
chain from Stopped, each an allowed step, to the state. `moves`: the next move changes the state
only by allowed steps, each recorded in order. `startWhileRunning`: a start that finds the server
running launches nothing and records nothing. `ends`: an operation never ends leaving Starting or
Stopping behind. A start refused for the state it finds would end leaving that state as it was, and
a start meets no state but Stopped, Running or Crashed, so no start is refused. -/
structure LifecycleSound (w : World) : Prop where
  settled : (∀ j handle op stage, (j, Task.lifecycle handle op stage) ∈ w.tasks →
    stage = .locking) → w.supervision.Settled
  stopped : w.supervision.state = .stopped → w.supervision.session = none
  running : w.supervision.state = .running →
    ∃ r, w.supervision.session = some r ∧ r.generation = w.supervision.generation
  crashed : w.supervision.state = .crashed →
    ∀ r, w.supervision.session = some r → r.generation = w.supervision.generation
  launches : SessionEvent.launches w.events = List.range' 1 w.supervision.generation
  history : SessionState.stopped.replay w.events = some w.supervision.state
  moves : ∀ w', Step w w' → ∃ new, w'.events = w.events ++ new ∧
    w.supervision.state.replay new = some w'.supervision.state
  startWhileRunning : ∀ tid handle, w.task? tid = some (.lifecycle handle .start .locking) →
    w.supervision.state = .running → (w.pollTask tid).events = w.events ∧
      (w.pollTask tid).conns = w.conns ∧
      (w.pollTask tid).supervision.generation = w.supervision.generation
  ends : ∀ tid handle op stage, w.task? tid = some (.lifecycle handle op stage) →
    (w.pollTask tid).task? tid = none → (w.pollTask tid).supervision.Settled

/-- Every world a run reaches from a fresh supervisor keeps the supervisor's promises: operations
under the lock and crashes recorded by monitors, in any interleaving, never leave the state
midway, a session out of step with its state, or a generation that is not the count of launch
attempts; and every change of state is an allowed step, recorded in order. -/
theorem lifecycle_sound {w₀ w : World} (fresh : w₀.Fresh) (run : Relation.ReflTransGen Step w₀ w) :
    w.LifecycleSound := by
  have lawful := fresh.lawful.run run
  refine {
    settled := lawful.settled_of_idle
    stopped := lawful.fits.session_of_stopped
    running := lawful.fits.running_current
    crashed := lawful.fits.crashed_current
    launches := lawful.launches
    history := lawful.history
    moves := fun w' step => ?_
    startWhileRunning := fun tid handle found running => lawful.start_quiet_of_running found running
    ends := fun tid handle op stage found gone => ?_ }
  · obtain ⟨lawful', new, appended⟩ := lawful.step step
    refine ⟨new, appended.symm, ?_⟩
    have history := lawful'.history
    rw [← appended, SessionState.replay_extend lawful.history] at history
    exact history
  · have turn : w.pollTask tid = w.pollLifecycle tid handle op stage := by
      simp only [World.pollTask, found]
    rw [turn] at gone ⊢
    exact (lawful.pollLifecycle (mem_of_task? found)).settles gone

theorem lifecycle_sound_first_start :
    World.Fresh { sup := some { config := Config.new "java" "/work/demo" } } ∧
      (({ sup := some { config := Config.new "java" "/work/demo" } } : World).spawn
        (.lifecycle (some 0) .start .locking)).1.LifecycleSound := by
  have fresh : World.Fresh { sup := some { config := Config.new "java" "/work/demo" } } :=
    ⟨⟨by simp, by simp⟩, rfl, rfl, _, rfl, rfl, rfl, rfl, rfl, rfl⟩
  exact ⟨fresh, lifecycle_sound fresh (.single (.request _ (some 0) .start))⟩

end World

end Engine

end LspBridge
