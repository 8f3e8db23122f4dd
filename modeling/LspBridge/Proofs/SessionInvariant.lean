import LspBridge.Proofs.SupervisorFrame
/-!
# What the supervisor keeps true

The supervisor's state is written from two places: lifecycle operations, which run one at a time
under the lifecycle lock, and monitors, which record crashes whenever a session ends. This file
sets out the invariant both keep, and the moves that cannot break it.

* `SessionState.replay` replays the changes of state a history of events records; the history of
  a supervisor replays from Stopped to its current state, every change an allowed step.
* `SessionEvent.launches` lists the generations of the sessions begun: they are `1, …, g` for
  the current generation `g`, one per launch attempt.
* `Supervision.SessionFits` ties the session held to the state, and `Supervision.AtStage` says
  what an operation finds at each stage it waits at.
* `World.Lawful` is the invariant; `World.Holding` is what holds while an operation that holds the
  lock is partway through its turn, and `World.Advances` what its turn must come to.
-/

namespace LspBridge

namespace Server

namespace SessionState

/-- Where a history of events leads from a state: a change of state must start where the state
stands and follow an allowed step; a crash or a scheduled restart leaves the state alone. None
when the history breaks the rule. -/
def replay (s : SessionState) : List SessionEvent → Option SessionState
  | [] => some s
  | .stateChanged _ before next :: rest =>
    if before = s ∧ s.canStep next = true then next.replay rest else none
  | .crashed .. :: rest | .restartScheduled .. :: rest => s.replay rest

theorem replay_append (s : SessionState) (first second : List SessionEvent) :
    s.replay (first ++ second) = (s.replay first).bind (·.replay second) := by
  induction first generalizing s with
  | nil => rfl
  | cons e rest ih =>
    cases e with
    | stateChanged g before next =>
      simp only [List.cons_append, replay]
      split
      · exact ih next
      · rfl
    | crashed g reason => exact ih s
    | restartScheduled g attempt delay => exact ih s

/-- The state a supervisor settles in is where its history leads; only the history after the
first state matters. -/
theorem replay_extend {s t : SessionState} {history new : List SessionEvent}
    (before : s.replay history = some t) : s.replay (history ++ new) = t.replay new := by
  rw [replay_append, before]
  rfl

end SessionState

namespace SessionEvent

/-- The generation of a session this event begins, if it is a change to Starting. -/
def launch? : SessionEvent → Option Nat
  | .stateChanged g _ .starting => some g
  | _ => none

/-- The generations of the sessions begun in a history, in order: one per launch attempt. -/
def launches (events : List SessionEvent) : List Nat := events.filterMap launch?

@[simp]
theorem launches_append (first second : List SessionEvent) :
    launches (first ++ second) = launches first ++ launches second :=
  List.filterMap_append

end SessionEvent

end Server

namespace Engine

open Json Rpc Client Server

namespace Supervision

/-- No operation is midway: the state is neither Starting nor Stopping. -/
def Settled (s : Supervision) : Prop := s.state ≠ .starting ∧ s.state ≠ .stopping

/-- The session held fits the state: none when stopped or stopping, one of the current generation
when starting or running, either when crashed. -/
def SessionFits (s : Supervision) : Prop :=
  match s.state, s.session with
  | .stopped, none | .stopping, none | .crashed, none => True
  | .starting, some r | .running, some r | .crashed, some r => r.generation = s.generation
  | _, _ => False

/-- A handshake of a generation is under way: it is the current one, its session is held, and
the state is Starting, or Crashed if a monitor got there first. -/
def Handshaking (s : Supervision) (gen : Nat) : Prop :=
  gen = s.generation ∧ (s.state = .starting ∨ s.state = .crashed) ∧ s.session.isSome

/-- What an operation finds while it waits at a stage. -/
def AtStage (s : Supervision) : Stage → Prop
  | .locking => s.Settled
  | .clearing _ => s.state = .crashed ∧ s.session = none
  | .handshake gen _ _ _ => s.Handshaking gen
  | .shutdown .. | .grace .. => s.state = .stopping ∧ s.session = none
  | .killed .. => (s.state = .stopping ∨ s.state = .crashed) ∧ s.session = none

/-- The part of the record the invariant reads: the state, the generation, the session and the
lock. -/
def core (s : Supervision) :
    SessionState × Nat × Option SessionRecord × Option Nat × List Nat :=
  (s.state, s.generation, s.session, s.lockHolder, s.lockWaiters)

section Core

variable {s s' : Supervision} {stage : Stage}

theorem core_eq_iff : s'.core = s.core ↔ s'.state = s.state ∧ s'.generation = s.generation ∧
    s'.session = s.session ∧ s'.lockHolder = s.lockHolder ∧ s'.lockWaiters = s.lockWaiters := by
  simp [core]

theorem Settled.of_state (same : s'.state = s.state) (settled : s.Settled) : s'.Settled := by
  unfold Settled
  rw [same]
  exact settled

theorem Settled.of_core (same : s'.core = s.core) (settled : s.Settled) : s'.Settled :=
  settled.of_state (core_eq_iff.mp same).1

theorem SessionFits.of_core (same : s'.core = s.core) (fits : s.SessionFits) : s'.SessionFits := by
  obtain ⟨state, generation, session, -⟩ := core_eq_iff.mp same
  unfold SessionFits
  rw [state, generation, session]
  exact fits

theorem AtStage.of_core (same : s'.core = s.core) {stage : Stage} (at_ : s.AtStage stage) :
    s'.AtStage stage := by
  obtain ⟨state, generation, session, -⟩ := core_eq_iff.mp same
  cases stage <;> simp only [AtStage, Settled, Handshaking, state, generation, session] at at_ ⊢ <;>
    exact at_

/-- A crash keeps the session fitting: a session held is of the current generation. -/
theorem SessionFits.crash (fits : s.SessionFits) : { s with state := .crashed }.SessionFits := by
  unfold SessionFits at fits ⊢
  cases state : s.state <;> cases session : s.session <;> simp_all

/-- A session that finished its handshake runs with the session it started with. -/
theorem SessionFits.run (fits : s.SessionFits) (starting : s.state = .starting) :
    { s with state := .running }.SessionFits := by
  unfold SessionFits at fits ⊢
  rw [starting] at fits
  cases session : s.session <;> simp_all

/-- Noting the capabilities of a session keeps its generation. -/
theorem SessionFits.note (fits : s.SessionFits) (f : SessionRecord → SessionRecord)
    (kept : ∀ r, (f r).generation = r.generation) :
    { s with session := s.session.map f }.SessionFits := by
  unfold SessionFits at fits ⊢
  cases state : s.state <;> cases session : s.session <;> simp_all

theorem AtStage.crash (at_ : s.AtStage stage) (allowed : s.state.canStep .crashed = true) :
    { s with state := .crashed }.AtStage stage := by
  cases stage <;>
    simp_all [AtStage, Settled, Handshaking, SessionState.canStep]

end Core

end Supervision

namespace World

/-- What holds at the end of every turn, wherever the lock is: task ids are well numbered, the
history replays to the state, a session began for each generation, waiters wait at the lock in
order, and only the holder of the lock has gone past it. -/
structure Tracked (w : World) : Prop where
  numbered : w.WellNumbered
  supervised : w.sup.isSome
  history : SessionState.stopped.replay w.events = some w.supervision.state
  launches : SessionEvent.launches w.events = List.range' 1 w.supervision.generation
  waiting : ∀ j ∈ w.supervision.lockWaiters, ∃ handle op,
    (j, Task.lifecycle handle op .locking) ∈ w.tasks
  queued : w.supervision.lockWaiters.Nodup
  idle : w.supervision.lockHolder = none → w.supervision.lockWaiters = []
  apart : ∀ h, w.supervision.lockHolder = some h → h ∉ w.supervision.lockWaiters
  alone : ∀ j handle op stage, (j, Task.lifecycle handle op stage) ∈ w.tasks →
    stage ≠ .locking → w.supervision.lockHolder = some j

/-- What the lock says of the state: settled when the lock is free, and otherwise what its holder
finds at the stage it waits at. -/
def LockFits (w : World) : Prop :=
  match w.supervision.lockHolder with
  | none => w.supervision.Settled
  | some h => ∃ handle op stage, (h, Task.lifecycle handle op stage) ∈ w.tasks ∧
      w.supervision.AtStage stage

/-- The supervisor's invariant. -/
structure Lawful (w : World) : Prop extends w.Tracked where
  fits : w.supervision.SessionFits
  lock : w.LockFits

/-- The operation `tid` holds the lock and is under way. -/
structure Holding (w : World) (tid : Nat) : Prop extends w.Tracked where
  holder : w.supervision.lockHolder = some tid
  own : ∃ handle op stage, (tid, Task.lifecycle handle op stage) ∈ w.tasks

/-! ### Updates of the supervisor's record -/

section Record

variable {w : World}

theorem supervision_eq {s : Supervision} (found : w.sup = some s) : w.supervision = s := by
  simp [supervision, found]

theorem supervision_modifySup (supervised : w.sup.isSome) (f : Supervision → Supervision) :
    (w.modifySup f).supervision = f w.supervision := by
  obtain ⟨s, found⟩ := Option.isSome_iff_exists.mp supervised
  simp [modifySup, supervision, found]

@[simp]
theorem sup_isSome_modifySup (f : Supervision → Supervision) :
    (w.modifySup f).sup.isSome = w.sup.isSome := by
  simp [modifySup]

@[simp]
theorem sup_isSome_takeSession (r : SessionRecord) : (w.takeSession r).sup.isSome = w.sup.isSome :=
  sup_isSome_modifySup _

theorem supervision_takeSession (supervised : w.sup.isSome) (r : SessionRecord) :
    (w.takeSession r).supervision = { w.supervision with session := none } :=
  supervision_modifySup supervised _

@[simp]
theorem tasks_modifySup (f : Supervision → Supervision) : (w.modifySup f).tasks = w.tasks := rfl

@[simp]
theorem nextTask_modifySup (f : Supervision → Supervision) :
    (w.modifySup f).nextTask = w.nextTask := rfl

@[simp]
theorem events_modifySup (f : Supervision → Supervision) : (w.modifySup f).events = w.events :=
  rfl

@[simp]
theorem sup_emit (e : SessionEvent) : (w.emit e).sup = w.sup := rfl

@[simp]
theorem supervision_emit (e : SessionEvent) : (w.emit e).supervision = w.supervision := rfl

@[simp]
theorem tasks_emit (e : SessionEvent) : (w.emit e).tasks = w.tasks := rfl

@[simp]
theorem nextTask_emit (e : SessionEvent) : (w.emit e).nextTask = w.nextTask := rfl

@[simp]
theorem events_emit (e : SessionEvent) : (w.emit e).events = w.events ++ [e] := rfl

@[simp]
theorem sup_dropTask (tid : Nat) : (w.dropTask tid).sup = w.sup := rfl

@[simp]
theorem supervision_dropTask (tid : Nat) : (w.dropTask tid).supervision = w.supervision := rfl

@[simp]
theorem events_dropTask (tid : Nat) : (w.dropTask tid).events = w.events := rfl

@[simp]
theorem sup_setTask (tid : Nat) (t : Task) : (w.setTask tid t).sup = w.sup := rfl

@[simp]
theorem supervision_setTask (tid : Nat) (t : Task) :
    (w.setTask tid t).supervision = w.supervision := rfl

@[simp]
theorem events_setTask (tid : Nat) (t : Task) : (w.setTask tid t).events = w.events := rfl

@[simp]
theorem sup_wake (tid : Nat) : (w.wake tid).sup = w.sup := by
  obtain ⟨queue, woken⟩ := w.wake_eq tid
  rw [woken]

@[simp]
theorem supervision_wake (tid : Nat) : (w.wake tid).supervision = w.supervision := by
  simp [supervision]

@[simp]
theorem tasks_wake (tid : Nat) : (w.wake tid).tasks = w.tasks := by
  obtain ⟨queue, woken⟩ := w.wake_eq tid
  rw [woken]

@[simp]
theorem nextTask_wake (tid : Nat) : (w.wake tid).nextTask = w.nextTask := by
  obtain ⟨queue, woken⟩ := w.wake_eq tid
  rw [woken]

@[simp]
theorem events_wake (tid : Nat) : (w.wake tid).events = w.events := by
  obtain ⟨queue, woken⟩ := w.wake_eq tid
  rw [woken]

@[simp]
theorem conns_wake (tid : Nat) : (w.wake tid).conns = w.conns := by
  obtain ⟨queue, woken⟩ := w.wake_eq tid
  rw [woken]

theorem WellNumbered.congr {w' : World} (numbered : w.WellNumbered) (tasks : w'.tasks = w.tasks)
    (next : w'.nextTask = w.nextTask) : w'.WellNumbered :=
  ⟨tasks ▸ numbered.distinct, by rw [tasks, next]; exact numbered.below⟩

theorem KeepsSupervisor.supervision {w' : World} (keeps : KeepsSupervisor w w') :
    w'.supervision = w.supervision := by
  simp [World.supervision, keeps.sup]

/-- An operation is among the tasks exactly when it is among the operations. -/
theorem mem_operations {j : Nat} {handle : Option Nat} {op : LifecycleOp} {stage : Stage} :
    (j, Task.lifecycle handle op stage) ∈ w.operations ↔
      (j, Task.lifecycle handle op stage) ∈ w.tasks := by
  simp [operations, Task.isLifecycle]

theorem mem_of_operations_eq {w' : World} (same : w'.operations = w.operations) {j : Nat}
    {handle : Option Nat} {op : LifecycleOp} {stage : Stage} :
    (j, Task.lifecycle handle op stage) ∈ w'.tasks ↔ (j, Task.lifecycle handle op stage) ∈ w.tasks
    := by
  rw [← mem_operations, same, mem_operations]

end Record

/-! ### Moves that keep the operations -/

/-- A move that keeps the lifecycle operations among the tasks and the numbering of the tasks. -/
structure KeepsOperations (w w' : World) : Prop where
  operations : w'.operations = w.operations
  numbered : w.WellNumbered → w'.WellNumbered

namespace KeepsOperations

variable {w w₁ w₂ w₃ : World}

theorem refl (w : World) : KeepsOperations w w := ⟨rfl, id⟩

theorem trans (first : KeepsOperations w₁ w₂) (second : KeepsOperations w₂ w₃) :
    KeepsOperations w₁ w₃ :=
  ⟨second.operations.trans first.operations,
    fun numbered => second.numbered (first.numbered numbered)⟩

theorem of_keeps (keeps : KeepsSupervisor w₁ w₂) : KeepsOperations w₁ w₂ :=
  ⟨keeps.operations, keeps.numbered⟩

theorem of_tasks (tasks : w₂.tasks = w₁.tasks) (next : w₂.nextTask = w₁.nextTask) :
    KeepsOperations w₁ w₂ :=
  ⟨by simp only [World.operations, tasks], fun numbered => numbered.congr tasks next⟩

theorem mem_iff (keeps : KeepsOperations w₁ w₂) {j : Nat} {handle : Option Nat} {op : LifecycleOp}
    {stage : Stage} :
    (j, Task.lifecycle handle op stage) ∈ w₂.tasks ↔
      (j, Task.lifecycle handle op stage) ∈ w₁.tasks :=
  mem_of_operations_eq keeps.operations

end KeepsOperations

/-! ### Changes of state -/

/-- A change of state records where it came from. -/
theorem replay_moved {s : SessionState} {history : List SessionEvent} {g : Nat}
    {next : SessionState} (before : SessionState.stopped.replay history = some s)
    (allowed : s.canStep next = true) :
    SessionState.stopped.replay (history ++ [.stateChanged g s next]) = some next := by
  rw [SessionState.replay_extend before]
  simp [SessionState.replay, allowed]

theorem launch?_stateChanged (g : Nat) (before next : SessionState) :
    SessionEvent.launch? (.stateChanged g before next) = if next = .starting then some g else none
    := by
  cases next <;> rfl

theorem transition_eq_true {w w' : World} {gen : Option Nat} {next : SessionState}
    (moved : w.transition gen next = (true, w')) :
    (∀ g, gen = some g → g = w.supervision.generation) ∧ w.supervision.state.canStep next = true ∧
      w' = (w.modifySup fun s => { s with state := next }).emit
        (.stateChanged (gen.getD w.supervision.generation) w.supervision.state next) := by
  cases gen with
  | none =>
    simp only [transition, Bool.false_or] at moved
    split at moved
    · cases moved
    · rename_i allowed
      cases moved
      exact ⟨by simp, by simpa using allowed, rfl⟩
  | some g =>
    simp only [transition] at moved
    split at moved
    · cases moved
    · rename_i fresh
      cases moved
      simp only [Bool.or_eq_true, bne_iff_ne, ne_eq, Bool.not_eq_true', not_or, not_not,
        Bool.not_eq_false] at fresh
      exact ⟨fun g' same => by cases same; exact fresh.1, fresh.2, rfl⟩

theorem transition_eq_false {w w' : World} {gen : Option Nat} {next : SessionState}
    (stayed : w.transition gen next = (false, w')) :
    w' = w ∧ ((∃ g, gen = some g ∧ g ≠ w.supervision.generation) ∨
      w.supervision.state.canStep next = false) := by
  cases gen with
  | none =>
    simp only [transition, Bool.false_or] at stayed
    split at stayed
    · rename_i blocked
      cases stayed
      exact ⟨rfl, .inr (by simpa using blocked)⟩
    · cases stayed
  | some g =>
    simp only [transition] at stayed
    split at stayed
    · rename_i refused
      cases stayed
      simp only [Bool.or_eq_true, bne_iff_ne, ne_eq, Bool.not_eq_true'] at refused
      rcases refused with stale | blocked
      · exact ⟨rfl, .inl ⟨g, rfl, stale⟩⟩
      · exact ⟨rfl, .inr blocked⟩
    · cases stayed

/-- A change the lifecycle allows, asked of the current generation or of none, goes ahead. -/
theorem transition_of_canStep {w : World} {gen : Option Nat} {next : SessionState}
    (current : ∀ g, gen = some g → g = w.supervision.generation)
    (allowed : w.supervision.state.canStep next = true) : (w.transition gen next).1 = true := by
  rcases moved : w.transition gen next with ⟨_ | _, w'⟩
  · obtain ⟨-, stale | blocked⟩ := transition_eq_false moved
    · obtain ⟨g, rfl, other⟩ := stale
      exact absurd (current g rfl) other
    · rw [allowed] at blocked
      cases blocked
  · rfl

namespace Tracked

variable {w w' : World}

/-- What is tracked of the lock and the tasks carries over to a world with the same lock and the
same operations; the history and the launches must be shown of the new world. -/
theorem of_record (tracked : w.Tracked) (keeps : KeepsOperations w w') (supervised : w'.sup.isSome)
    (history : SessionState.stopped.replay w'.events = some w'.supervision.state)
    (launches : SessionEvent.launches w'.events = List.range' 1 w'.supervision.generation)
    (holder : w'.supervision.lockHolder = w.supervision.lockHolder)
    (waiters : w'.supervision.lockWaiters = w.supervision.lockWaiters) : w'.Tracked where
  numbered := keeps.numbered tracked.numbered
  supervised := supervised
  history := history
  launches := launches
  waiting := by
    rw [waiters]
    intro j waiter
    obtain ⟨handle, op, mem⟩ := tracked.waiting j waiter
    exact ⟨handle, op, keeps.mem_iff.mpr mem⟩
  queued := by rw [waiters]; exact tracked.queued
  idle := by rw [waiters, holder]; exact tracked.idle
  apart := by rw [waiters, holder]; exact tracked.apart
  alone := by
    rw [holder]
    intro j handle op stage mem
    exact tracked.alone j handle op stage (keeps.mem_iff.mp mem)

theorem keeps (tracked : w.Tracked) (keeps : KeepsSupervisor w w') : w'.Tracked :=
  tracked.of_record (.of_keeps keeps) (by rw [keeps.sup]; exact tracked.supervised)
    (by rw [keeps.events, keeps.supervision]; exact tracked.history)
    (by rw [keeps.events, keeps.supervision]; exact tracked.launches)
    (by rw [keeps.supervision]) (by rw [keeps.supervision])

/-- A change of the record that keeps the state, the generation and the lock keeps what is
tracked. -/
theorem update (tracked : w.Tracked) (f : Supervision → Supervision)
    (state : (f w.supervision).state = w.supervision.state)
    (generation : (f w.supervision).generation = w.supervision.generation)
    (holder : (f w.supervision).lockHolder = w.supervision.lockHolder)
    (waiters : (f w.supervision).lockWaiters = w.supervision.lockWaiters) :
    (w.modifySup f).Tracked := by
  have updated := supervision_modifySup tracked.supervised f
  exact tracked.of_record (.of_tasks rfl rfl) (by simpa using tracked.supervised)
    (by rw [updated, state]; exact tracked.history)
    (by rw [updated, generation]; exact tracked.launches)
    (by rw [updated, holder]) (by rw [updated, waiters])

/-- A change of state the lifecycle allows, other than a start, keeps what is tracked. -/
theorem moveState (tracked : w.Tracked) {next : SessionState}
    (allowed : w.supervision.state.canStep next = true) (notStart : next ≠ .starting) (g : Nat) :
    ((w.modifySup fun s => { s with state := next }).emit
      (.stateChanged g w.supervision.state next)).Tracked := by
  have updated := supervision_modifySup tracked.supervised fun s => { s with state := next }
  refine tracked.of_record (.of_tasks rfl rfl) (by simpa using tracked.supervised) ?_ ?_
    (by simp [updated]) (by simp [updated])
  · simp only [events_emit, events_modifySup, supervision_emit, updated]
    exact replay_moved tracked.history allowed
  · simp only [events_emit, events_modifySup, supervision_emit, updated,
      SessionEvent.launches_append, tracked.launches]
    simp [SessionEvent.launches, launch?_stateChanged, notStart]

theorem transition (tracked : w.Tracked) (gen : Option Nat) {next : SessionState}
    (notStart : next ≠ .starting) : (w.transition gen next).2.Tracked := by
  rcases result : w.transition gen next with ⟨_ | _, w'⟩
  · rw [(transition_eq_false result).1]
    exact tracked
  · obtain ⟨-, allowed, rfl⟩ := transition_eq_true result
    exact tracked.moveState allowed notStart _

end Tracked

/-! ### Bookkeeping: moves the invariant cannot tell apart -/

/-- A move the invariant cannot tell apart: the same state, generation, session and lock, the same
operations, and events that change no state and begin no session. -/
structure Bookkeeping (w w' : World) : Prop where
  keeps : KeepsOperations w w'
  supervised : w.sup.isSome → w'.sup.isSome
  core : w'.supervision.core = w.supervision.core
  notes : ∃ notes, w'.events = w.events ++ notes ∧ SessionEvent.launches notes = [] ∧
    ∀ s : SessionState, s.replay notes = some s

namespace Bookkeeping

variable {w w₁ w₂ w₃ : World}

theorem refl (w : World) : Bookkeeping w w :=
  ⟨.refl w, id, rfl, [], by simp, rfl, fun _ => rfl⟩

theorem trans (first : Bookkeeping w₁ w₂) (second : Bookkeeping w₂ w₃) : Bookkeeping w₁ w₃ where
  keeps := first.keeps.trans second.keeps
  supervised := fun supervised => second.supervised (first.supervised supervised)
  core := second.core.trans first.core
  notes := by
    obtain ⟨notes₁, events₁, launches₁, replay₁⟩ := first.notes
    obtain ⟨notes₂, events₂, launches₂, replay₂⟩ := second.notes
    refine ⟨notes₁ ++ notes₂, by rw [events₂, events₁, List.append_assoc], by simp [launches₁,
      launches₂], fun s => ?_⟩
    rw [SessionState.replay_append, replay₁]
    exact replay₂ s

theorem of_keeps (keeps : KeepsSupervisor w₁ w₂) : Bookkeeping w₁ w₂ where
  keeps := .of_keeps keeps
  supervised := fun supervised => by rw [keeps.sup]; exact supervised
  core := by rw [keeps.supervision]
  notes := ⟨[], by simp [keeps.events], rfl, fun _ => rfl⟩

/-- A change of the record outside what the invariant reads. -/
theorem update (supervised : w.sup.isSome) (f : Supervision → Supervision)
    (same : (f w.supervision).core = w.supervision.core) : Bookkeeping w (w.modifySup f) where
  keeps := .of_tasks rfl rfl
  supervised := by simp
  core := by rw [supervision_modifySup supervised]; exact same
  notes := ⟨[], by simp, rfl, fun _ => rfl⟩

/-- A note of a crash or of a scheduled restart. -/
theorem note (w : World) (e : SessionEvent) (launch : e.launch? = none)
    (still : ∀ s : SessionState, s.replay [e] = some s) : Bookkeeping w (w.emit e) where
  keeps := .of_tasks rfl rfl
  supervised := by simp
  core := rfl
  notes := ⟨[e], rfl, by simp [SessionEvent.launches, launch], still⟩

theorem spawn (w : World) {t : Task} (kind : t.isLifecycle = false) : Bookkeeping w (w.spawn t).1 :=
  of_keeps (KeepsSupervisor.spawn kind)

theorem supervision (step : Bookkeeping w₁ w₂) {s : Supervision} (found : w₁.sup = some s) :
    ∃ s', w₂.sup = some s' ∧ s'.core = s.core := by
  obtain ⟨s', found'⟩ := Option.isSome_iff_exists.mp (step.supervised (by simp [found]))
  refine ⟨s', found', ?_⟩
  have same := step.core
  rwa [supervision_eq found', supervision_eq found] at same

theorem grows (step : Bookkeeping w₁ w₂) : w₁.events <+: w₂.events := by
  obtain ⟨notes, events, -⟩ := step.notes
  exact ⟨notes, events.symm⟩

end Bookkeeping

theorem Tracked.bookkeeping {w w' : World} (tracked : w.Tracked) (step : Bookkeeping w w') :
    w'.Tracked := by
  obtain ⟨state, generation, -, holder, waiters⟩ := Supervision.core_eq_iff.mp step.core
  obtain ⟨notes, events, launches, still⟩ := step.notes
  refine tracked.of_record step.keeps (step.supervised tracked.supervised) ?_ ?_ holder waiters
  · rw [events, SessionState.replay_extend tracked.history, state]
    exact still _
  · rw [events, SessionEvent.launches_append, launches, tracked.launches, generation]
    simp

theorem LockFits.bookkeeping {w w' : World} (lock : w.LockFits) (step : Bookkeeping w w') :
    w'.LockFits := by
  obtain ⟨-, -, -, holder, -⟩ := Supervision.core_eq_iff.mp step.core
  unfold LockFits at lock ⊢
  rw [holder]
  split
  · rename_i free
    rw [free] at lock
    exact lock.of_core step.core
  · rename_i h held
    rw [held] at lock
    obtain ⟨handle, op, stage, mem, at_⟩ := lock
    exact ⟨handle, op, stage, step.keeps.mem_iff.mpr mem, at_.of_core step.core⟩

theorem Lawful.bookkeeping {w w' : World} (lawful : w.Lawful) (step : Bookkeeping w w') :
    w'.Lawful where
  toTracked := lawful.toTracked.bookkeeping step
  fits := lawful.fits.of_core step.core
  lock := lawful.lock.bookkeeping step

theorem Holding.bookkeeping {w w' : World} {tid : Nat} (holding : w.Holding tid)
    (step : Bookkeeping w w') : w'.Holding tid where
  toTracked := holding.toTracked.bookkeeping step
  holder := by
    obtain ⟨-, -, -, holder, -⟩ := Supervision.core_eq_iff.mp step.core
    rw [holder]
    exact holding.holder
  own := by
    obtain ⟨handle, op, stage, mem⟩ := holding.own
    exact ⟨handle, op, stage, step.keeps.mem_iff.mpr mem⟩

/-! ### The task table of an operation -/

section Table

variable {w : World} {tid j : Nat} {t u : Task}

theorem mem_setTask : (j, u) ∈ (w.setTask tid t).tasks ↔
    (j = tid ∧ u = t ∧ ∃ v, (tid, v) ∈ w.tasks) ∨ (j ≠ tid ∧ (j, u) ∈ w.tasks) := by
  simp only [setTask, List.mem_map, Prod.exists]
  constructor
  · rintro ⟨i, v, mem, same⟩
    by_cases other : i = tid
    · subst other
      simp only [beq_self_eq_true, if_true, Prod.mk.injEq] at same
      obtain ⟨rfl, rfl⟩ := same
      exact .inl ⟨rfl, rfl, v, mem⟩
    · simp only [beq_iff_eq, other, if_false, Prod.mk.injEq] at same
      obtain ⟨rfl, rfl⟩ := same
      exact .inr ⟨other, mem⟩
  · rintro (⟨rfl, rfl, v, mem⟩ | ⟨other, mem⟩)
    · exact ⟨j, v, mem, by simp⟩
    · exact ⟨j, u, mem, by simp [other]⟩

theorem mem_dropTask : (j, u) ∈ (w.dropTask tid).tasks ↔ j ≠ tid ∧ (j, u) ∈ w.tasks := by
  simp [dropTask, and_comm]

theorem task?_dropTask_self : (w.dropTask tid).task? tid = none := by
  simp only [task?, dropTask, List.lookup_eq_none_iff, List.mem_filter, bne_iff_ne, ne_eq, and_imp,
    Prod.forall]
  intro a b _ other same
  exact other same.symm

theorem task?_ne_none (mem : (tid, t) ∈ w.tasks) : w.task? tid ≠ none := by
  simp only [task?, ne_eq, List.lookup_eq_none_iff, not_forall, bne_iff_ne, not_not]
  exact ⟨_, mem, rfl⟩

end Table

/-! ### An operation's turn -/

/-- What a turn of the operation `tid` comes to: the invariant again, events only added, and a
settled state if the operation has ended. -/
structure Advances (w w' : World) (tid : Nat) : Prop where
  lawful : w'.Lawful
  grows : w.events <+: w'.events
  settles : w'.task? tid = none → w'.supervision.Settled

theorem Advances.after {w w₁ w' : World} {tid : Nat} (first : w.events <+: w₁.events)
    (rest : Advances w₁ w' tid) : Advances w w' tid :=
  ⟨rest.lawful, first.trans rest.grows, rest.settles⟩

/-- A move that keeps the supervisor, followed by a turn that advances. -/
theorem Advances.of_keeps {w w₁ w' : World} {tid : Nat} (first : KeepsSupervisor w w₁)
    (rest : Advances w₁ w' tid) : Advances w w' tid :=
  .after (Bookkeeping.of_keeps first).grows rest

/-- A turn that changes nothing the invariant reads, and leaves the operation in place. -/
theorem Advances.stay {w w' : World} {tid : Nat} (lawful : w.Lawful) (step : Bookkeeping w w')
    (present : w'.task? tid ≠ none) : Advances w w' tid :=
  ⟨lawful.bookkeeping step, step.grows, fun gone => absurd gone present⟩

/-- Handing the lock on changes the lock and the queue of woken tasks, nothing else. -/
theorem releaseLock_eq {w : World} (supervised : w.sup.isSome) : ∃ holder waiters queue,
    w.releaseLock =
      { w with
        queue
        sup := some { w.supervision with lockHolder := holder, lockWaiters := waiters } } := by
  obtain ⟨s, found⟩ := Option.isSome_iff_exists.mp supervised
  have record := supervision_eq found
  unfold releaseLock
  split
  · refine ⟨none, w.supervision.lockWaiters, w.queue, ?_⟩
    simp [modifySup, found, record]
  · rename_i next rest _
    obtain ⟨queue, woken⟩ := (w.modifySup fun s =>
      { s with lockHolder := some next, lockWaiters := rest }).wake_eq next
    refine ⟨some next, rest, queue, ?_⟩
    rw [woken]
    simp [modifySup, found, record]

namespace Holding

variable {w w' : World} {tid : Nat}

theorem keeps (holding : w.Holding tid) (keeps : KeepsSupervisor w w') : w'.Holding tid :=
  holding.bookkeeping (.of_keeps keeps)

/-- A change of the record that keeps the state, the generation and the lock. -/
theorem update (holding : w.Holding tid) (f : Supervision → Supervision)
    (state : (f w.supervision).state = w.supervision.state)
    (generation : (f w.supervision).generation = w.supervision.generation)
    (holder : (f w.supervision).lockHolder = w.supervision.lockHolder)
    (waiters : (f w.supervision).lockWaiters = w.supervision.lockWaiters) :
    (w.modifySup f).Holding tid where
  toTracked := holding.toTracked.update f state generation holder waiters
  holder := by
    rw [supervision_modifySup holding.supervised, holder]
    exact holding.holder
  own := holding.own

/-- Taking the session keeps the lock held. -/
theorem takeSession (holding : w.Holding tid) (r : SessionRecord) : (w.takeSession r).Holding tid :=
  (holding.update (fun s => { s with session := none }) rfl rfl rfl rfl).keeps
    (KeepsSupervisor.modifyConn _ r.conn _)

/-- An allowed change of state, other than a start, keeps the operation holding the lock. -/
theorem moveState (holding : w.Holding tid) {next : SessionState}
    (allowed : w.supervision.state.canStep next = true) (notStart : next ≠ .starting) (g : Nat) :
    ((w.modifySup fun s => { s with state := next }).emit
      (.stateChanged g w.supervision.state next)).Holding tid where
  toTracked := holding.toTracked.moveState allowed notStart g
  holder := by
    simp only [supervision_emit, supervision_modifySup holding.supervised]
    exact holding.holder
  own := holding.own

/-- Handing the lock on keeps the invariant once the operation that held it is gone: the lock is
left free, or to the first waiter, which has yet to act, so the state must be settled. -/
theorem release (holding : w.Holding tid) (settled : w.supervision.Settled)
    (fits : w.supervision.SessionFits) : (w.releaseLock.dropTask tid).Lawful := by
  have notWaiting : tid ∉ w.supervision.lockWaiters := holding.apart tid holding.holder
  -- no other operation has gone past the lock
  have waitingOthers : ∀ j handle op stage, (j, Task.lifecycle handle op stage) ∈ w.tasks →
      j ≠ tid → stage = .locking := by
    intro j handle op stage mem other
    by_contra moving
    have held := holding.alone j handle op stage mem moving
    rw [holding.holder] at held
    exact other (Option.some.inj held).symm
  unfold releaseLock
  split
  · rename_i empty
    have record := supervision_modifySup holding.supervised fun s => { s with lockHolder := none }
    exact {
      numbered := (holding.numbered.dropTask tid).congr rfl rfl
      supervised := by simpa using holding.supervised
      history := by simpa [record] using holding.history
      launches := by simpa [record] using holding.launches
      waiting := by simp [record, empty]
      queued := by simp [record, empty]
      idle := fun _ => by simp [record, empty]
      apart := by simp [record]
      alone := fun j handle op stage mem moving => by
        obtain ⟨other, mem⟩ := mem_dropTask.mp mem
        exact absurd (waitingOthers j handle op stage mem other) moving
      fits := by
        rw [supervision_dropTask, record]
        exact fits
      lock := by
        simp only [LockFits, supervision_dropTask, record]
        exact settled }
  · rename_i next rest queue
    have record := supervision_modifySup holding.supervised
      fun s => { s with lockHolder := some next, lockWaiters := rest }
    have nextWaiting : next ∈ w.supervision.lockWaiters := by simp [queue]
    obtain ⟨nextHandle, nextOp, nextMem⟩ := holding.waiting next nextWaiting
    have nextOther : next ≠ tid := fun same => notWaiting (same ▸ nextWaiting)
    have nodup : (next :: rest).Nodup := queue ▸ holding.queued
    exact {
      numbered := (holding.numbered.dropTask tid).congr (by simp [dropTask]) (by simp [dropTask])
      supervised := by simpa using holding.supervised
      history := by simpa [record] using holding.history
      launches := by simpa [record] using holding.launches
      waiting := by
        simp only [supervision_dropTask, supervision_wake, record]
        intro j mem
        have waiter : j ∈ w.supervision.lockWaiters := by simp [queue, mem]
        obtain ⟨handle, op, entry⟩ := holding.waiting j waiter
        have other : j ≠ tid := fun same => notWaiting (same ▸ waiter)
        exact ⟨handle, op, mem_dropTask.mpr ⟨other, by simpa using entry⟩⟩
      queued := by simpa [record] using (List.nodup_cons.mp nodup).2
      idle := by simp [record]
      apart := by
        simp only [supervision_dropTask, supervision_wake, record, Option.some.injEq]
        rintro h rfl
        exact (List.nodup_cons.mp nodup).1
      alone := fun j handle op stage mem moving => by
        obtain ⟨other, mem⟩ := mem_dropTask.mp mem
        exact absurd (waitingOthers j handle op stage (by simpa using mem) other) moving
      fits := by
        rw [supervision_dropTask, supervision_wake, record]
        exact fits
      lock := by
        simp only [LockFits, supervision_dropTask, supervision_wake, record]
        exact ⟨nextHandle, nextOp, .locking, mem_dropTask.mpr ⟨nextOther, by simpa using nextMem⟩,
          settled⟩ }

/-- The operation ends: it gives up the lock and reports to the host. -/
theorem finishOp (holding : w.Holding tid) (settled : w.supervision.Settled)
    (fits : w.supervision.SessionFits) (handle : Option Nat) (r : Except Server.Error Unit) :
    Advances w (w.finishOp tid handle r) tid := by
  have released := holding.release settled fits
  have gone : (w.releaseLock.dropTask tid).task? tid = none := task?_dropTask_self
  obtain ⟨holder, waiters, queue, unlocked⟩ := releaseLock_eq holding.supervised
  have settledAfter : (w.releaseLock.dropTask tid).supervision.Settled :=
    settled.of_state (by simp [unlocked, supervision])
  have grows : w.events <+: (w.releaseLock.dropTask tid).events := by simp [unlocked]
  unfold World.finishOp
  split
  · rename_i h
    have reported := KeepsSupervisor.report (w.releaseLock.dropTask tid) h (.lifecycle r)
    exact ⟨released.bookkeeping (.of_keeps reported), by rw [reported.events]; exact grows,
      fun _ => by rw [reported.supervision]; exact settledAfter⟩
  · exact ⟨released, grows, fun _ => settledAfter⟩

/-- The operation waits at a stage, where what it finds holds. -/
theorem setStage (holding : w.Holding tid) (fits : w.supervision.SessionFits) {stage : Stage}
    (at_ : w.supervision.AtStage stage) (handle : Option Nat) (op : LifecycleOp) :
    Advances w (w.setTask tid (.lifecycle handle op stage)) tid := by
  obtain ⟨handle₀, op₀, stage₀, ownMem⟩ := holding.own
  have placed :
      (tid, Task.lifecycle handle op stage) ∈ (w.setTask tid (.lifecycle handle op stage)).tasks :=
    mem_setTask.mpr (.inl ⟨rfl, rfl, _, ownMem⟩)
  refine ⟨{
    numbered := holding.numbered.setTask tid _
    supervised := by simpa using holding.supervised
    history := by simpa using holding.history
    launches := by simpa using holding.launches
    waiting := by
      simp only [supervision_setTask]
      intro j waiter
      obtain ⟨handle', op', entry⟩ := holding.waiting j waiter
      have other : j ≠ tid := fun same => holding.apart tid holding.holder (same ▸ waiter)
      exact ⟨handle', op', mem_setTask.mpr (.inr ⟨other, entry⟩)⟩
    queued := by simpa using holding.queued
    idle := by simpa using holding.idle
    apart := by simpa using holding.apart
    alone := by
      simp only [supervision_setTask]
      intro j handle' op' stage' mem moving
      rcases mem_setTask.mp mem with ⟨rfl, -, -⟩ | ⟨-, old⟩
      · exact holding.holder
      · exact holding.alone j handle' op' stage' old moving
    fits := by simpa using fits
    lock := by
      simp only [LockFits, supervision_setTask, holding.holder]
      exact ⟨handle, op, stage, placed, at_⟩ }, by simp, fun gone => ?_⟩
  exact absurd gone (task?_ne_none placed)

end Holding

end World

end Engine

end LspBridge
