import LspBridge.Proofs.SupervisorSteps
/-!
# Stale generations never act

Every session belongs to a generation, and its end is recorded by `World.crashed`, called by the
session's monitor and by an operation whose launch or handshake failed. A crash acts (changes
the state, records `Crashed` and perhaps `RestartScheduled`, arms a restart) only while its
generation is live: the current one, starting or running (`Supervision.Live`). Otherwise it
changes nothing (`crashed_of_not_live`). From this:

* each generation's crash is recorded at most once along every run (`CrashesSettled`);
* the monitor of an older session leaves the supervisor alone (`keeps_pollMonitor`);
* an automatic restart of a generation starts a session only if, when it holds the lock, its
  generation is still current and still crashed (`generation_restartTurn`);
* once a host operation holds the lock over a crashed generation, or that generation is over for
  good (`Supervision.Gone`), its automatic restart starts nothing, however the run goes on
  (`Cancelled`).

The automatic restart past the lock, and the main statement, are in `StaleRestarts`.
-/

namespace LspBridge

namespace Server

namespace SessionEvent

/-- The generation whose crash this event records. -/
def crash? : SessionEvent → Option Nat
  | .crashed g _ => some g
  | _ => none

/-- The generations whose crashes a history records, in order. -/
def crashes (events : List SessionEvent) : List Nat := events.filterMap crash?

@[simp]
theorem crashes_append (first second : List SessionEvent) :
    crashes (first ++ second) = crashes first ++ crashes second :=
  List.filterMap_append

@[simp]
theorem crashes_nil : crashes [] = [] :=
  rfl

@[simp]
theorem crashes_stateChanged (g : Nat) (before next : SessionState) (rest : List SessionEvent) :
    crashes (.stateChanged g before next :: rest) = crashes rest :=
  rfl

@[simp]
theorem crashes_crashed (g : Nat) (reason : CrashReason) (rest : List SessionEvent) :
    crashes (.crashed g reason :: rest) = g :: crashes rest :=
  rfl

@[simp]
theorem crashes_restartScheduled (g attempt delay : Nat) (rest : List SessionEvent) :
    crashes (.restartScheduled g attempt delay :: rest) = crashes rest :=
  rfl

end SessionEvent

theorem SessionState.canStep_crashed {s : SessionState} :
    s.canStep .crashed = true ↔ s = .starting ∨ s = .running := by
  cases s <;> simp [SessionState.canStep]

end Server

namespace Engine

open Json Rpc Client Server

namespace Supervision

/-- The session of generation `g` is under way: `g` is the current generation, starting or
running. -/
def Live (g : Nat) (s : Supervision) : Prop :=
  s.generation = g ∧ (s.state = .starting ∨ s.state = .running)

/-- Generation `g` is over for good: a later one has begun, or `g` is stopping or stopped. -/
def Gone (g : Nat) (s : Supervision) : Prop :=
  g < s.generation ∨ (s.generation = g ∧ (s.state = .stopping ∨ s.state = .stopped))

instance (g : Nat) (s : Supervision) : Decidable (s.Live g) :=
  inferInstanceAs (Decidable (_ ∧ _))

instance (g : Nat) (s : Supervision) : Decidable (s.Gone g) :=
  inferInstanceAs (Decidable (_ ∨ _))

theorem Gone.not_crashed {g : Nat} {s : Supervision} (gone : s.Gone g) :
    ¬ (s.generation = g ∧ s.state = .crashed) := by
  rintro ⟨current, crashed⟩
  rcases gone with later | ⟨-, stopping | stopped⟩
  · omega
  · rw [crashed] at stopping
    cases stopping
  · rw [crashed] at stopped
    cases stopped

end Supervision

/-- Whether an operation at this stage leaves a crashed generation before it lets the lock go:
at the lock, clearing the crashed session, or waiting for a killed process. -/
def Stage.clears : Stage → Bool
  | .locking | .clearing _ | .killed _ _ => true
  | _ => false

namespace World

variable {w w' : World} {g : Nat}

/-! ### What a crash does -/

/-- A crash of a generation whose session is not under way changes nothing. -/
theorem crashed_of_not_live (stale : ¬ w.supervision.Live g) (reason : CrashReason) :
    w.crashed g reason = w := by
  unfold crashed
  split
  · rename_i w₁ stayed
    exact (transition_eq_false stayed).1
  · rename_i w₁ moved
    obtain ⟨current, allowed, -⟩ := transition_eq_true moved
    exact absurd ⟨(current g rfl).symm, SessionState.canStep_crashed.mp allowed⟩ stale

/-- A crash of the generation under way leaves it the current one, crashed, with its crash
recorded once more. -/
theorem crashed_of_live (supervised : w.sup.isSome) (live : w.supervision.Live g)
    (reason : CrashReason) :
    (w.crashed g reason).supervision.generation = g ∧
      (w.crashed g reason).supervision.state = .crashed ∧
      SessionEvent.crashes (w.crashed g reason).events = SessionEvent.crashes w.events ++ [g] := by
  obtain ⟨current, moving⟩ := live
  have allowed := SessionState.canStep_crashed.mpr moving
  have core := crashed_core reason supervised current.symm (.inl allowed)
  obtain ⟨state, generation, -⟩ := Supervision.core_eq_iff.mp core
  refine ⟨generation.trans current, state, ?_⟩
  unfold crashed
  rcases moved : w.transition (some g) .crashed with ⟨_ | _, w₁⟩
  · obtain ⟨-, stale | blocked⟩ := transition_eq_false moved
    · obtain ⟨g', same, other⟩ := stale
      cases same
      exact absurd current.symm other
    · rw [allowed] at blocked
      cases blocked
  · obtain ⟨-, -, rfl⟩ := transition_eq_true moved
    dsimp only
    -- a restart, if one is armed, adds no crash to the history
    split <;> simp [spawn]

/-! ### Each generation's crash is recorded once -/

/-- What the record of crashes keeps: no generation's crash is recorded twice, and a generation
whose crash is recorded has begun and is not under way. -/
structure CrashesSettled (w : World) : Prop where
  once : (SessionEvent.crashes w.events).Nodup
  past : ∀ g ∈ SessionEvent.crashes w.events,
    g ≤ w.supervision.generation ∧ ¬ w.supervision.Live g

/-- A move that records no crash, keeps the generation and brings no generation to life keeps
the record of crashes settled. -/
theorem CrashesSettled.of_record (settled : w.CrashesSettled)
    (events : SessionEvent.crashes w'.events = SessionEvent.crashes w.events)
    (generation : w'.supervision.generation = w.supervision.generation)
    (live : ∀ g, w'.supervision.Live g → w.supervision.Live g) : w'.CrashesSettled where
  once := events ▸ settled.once
  past := fun g recorded => by
    rw [events] at recorded
    obtain ⟨begun, asleep⟩ := settled.past g recorded
    exact ⟨generation ▸ begun, fun alive => asleep (live g alive)⟩

/-- The step lemma: every change of the supervisor keeps the record of crashes settled. A
crash that acts finds its generation live, so not yet recorded, and leaves it crashed. -/
theorem CrashesSettled.supStep (supervised : w.sup.isSome) (settled : w.CrashesSettled)
    (step : SupStep w w') : w'.CrashesSettled := by
  cases step with
  | quiet lasts course events _ =>
    simp only [Supervision.course, Prod.mk.injEq] at course
    refine settled.of_record (by rw [events]) course.2.1 fun g alive => ?_
    unfold Supervision.Live at alive ⊢
    rwa [course.1, course.2.1] at alive
  | transition gen next notStart =>
    rcases moved : w.transition gen next with ⟨_ | _, w₁⟩
    · rw [(transition_eq_false moved).1]
      exact settled
    · obtain ⟨-, allowed, rfl⟩ := transition_eq_true moved
      have record := supervision_modifySup supervised fun s => { s with state := next }
      refine settled.of_record (by simp) (by simp [record]) fun g alive => ?_
      -- only a handshake's success brings a generation to life, and it was starting already
      simp only [Supervision.Live, supervision_emit, record] at alive
      obtain ⟨current, starting | running⟩ := alive
      · exact absurd starting notStart
      · subst running
        exact ⟨current, .inl (SessionState.eq_starting_of_canStep_running allowed)⟩
  | begin =>
    unfold beginSession
    dsimp only
    split
    · have record := supervision_modifySup supervised fun s =>
        { s with generation := w.supervision.generation + 1, state := .starting }
      constructor
      · simpa using settled.once
      · intro g recorded
        simp only [events_emit, events_modifySup, SessionEvent.crashes_append,
          SessionEvent.crashes_stateChanged, SessionEvent.crashes_nil, List.append_nil] at recorded
        obtain ⟨begun, -⟩ := settled.past g recorded
        simp only [Supervision.Live, supervision_emit, record]
        omega
    · exact settled
  | crash gen reason =>
    by_cases live : w.supervision.Live gen
    · obtain ⟨generation, crashedState, recorded⟩ := crashed_of_live supervised live reason
      have notCrashed : ∀ g, ¬ (w.crashed gen reason).supervision.Live g := by
        rintro g ⟨-, starting | running⟩ <;> simp_all
      constructor
      · rw [recorded]
        refine settled.once.append (List.nodup_singleton gen) fun g earlier single => ?_
        rw [List.mem_singleton] at single
        subst single
        exact (settled.past g earlier).2 live
      · intro g listed
        rw [recorded, List.mem_append] at listed
        refine ⟨?_, notCrashed g⟩
        rw [generation]
        rcases listed with earlier | single
        · exact live.1 ▸ (settled.past g earlier).1
        · exact (List.mem_singleton.mp single).le
    · rw [crashed_of_not_live live]
      exact settled
  | reset =>
    have record := supervision_modifySup supervised fun s => { s with restarts := 0 }
    exact settled.of_record rfl (by rw [record]) fun g alive => by
      simpa only [Supervision.Live, record] using alive

/-! ### The monitor of a stale generation -/

section Monitor

variable {tid : Nat}

/-- The monitor of a generation not under way ends without touching the supervisor: the crash it
reports changes nothing. -/
theorem keeps_finishMonitor (own : w.NotOperation tid) (stale : ¬ w.supervision.Live g)
    (c : Nat) (reason : Option CrashReason) :
    KeepsSupervisor w (w.finishMonitor tid c g reason) := by
  have closed := KeepsSupervisor.closePeer w c
  have stale₁ : ¬ (w.closePeer c).2.supervision.Live g := by
    rw [closed.supervision]
    exact stale
  have own₁ := closed.notOperation own
  unfold World.finishMonitor World.wakeOnMonitor
  dsimp only
  refine closed.trans ?_
  generalize (w.closePeer c).2 = w₁ at stale₁ own₁
  have marked : ∀ p, KeepsSupervisor w₁
      (((w₁.modifyConn c fun k => { k with monitorDone := true }).dropTask tid).wakeIf p) := by
    intro p
    have done := KeepsSupervisor.modifyConn w₁ c fun k => { k with monitorDone := true }
    exact (done.trans (KeepsSupervisor.dropTask (done.notOperation own₁))).trans
      (KeepsSupervisor.wakeIf _ _)
  split
  · exact marked _
  · split
    · rw [crashed_of_not_live stale₁]
      exact marked _
    · exact marked _

theorem keeps_conclude (own : w.NotOperation tid) (stale : ¬ w.supervision.Live g) (c : Nat)
    (exited : Option (Except String (Option Int))) (failure : Option String) :
    KeepsSupervisor w (w.conclude tid c g exited failure) := by
  have ended := KeepsSupervisor.terminate w c
  have stale₁ : ¬ (w.terminate c).supervision.Live g := by
    rw [ended.supervision]
    exact stale
  unfold World.conclude
  split
  · exact ended.trans (keeps_finishMonitor (ended.notOperation own) stale₁ c _)
  · exact keeps_finishMonitor own stale c _
  · exact ended.trans (keeps_finishMonitor (ended.notOperation own) stale₁ c _)

theorem keeps_awaitExit (own : w.NotOperation tid) (stale : ¬ w.supervision.Live g) (c : Nat)
    (failure : Option String) (t : Timer) : KeepsSupervisor w (w.awaitExit tid c g failure t) := by
  dsimp only [World.awaitExit]
  split
  · exact keeps_conclude own stale c _ _
  · exact keeps_conclude own stale c _ _
  · exact KeepsSupervisor.setTask own rfl

/-- A turn of the monitor of a generation not under way leaves the supervisor alone: its record,
its history and the lifecycle operations. -/
theorem keeps_pollMonitor (numbered : w.WellNumbered) (own : w.NotOperation tid)
    (stale : ¬ w.supervision.Live g) (c : Nat) (watch : Watch) :
    KeepsSupervisor w (w.pollMonitor tid c g watch) := by
  -- every step before the monitor ends keeps the supervisor, so the generation stays stale
  have after : ∀ {w₁}, KeepsSupervisor w w₁ → ¬ w₁.supervision.Live g := fun keeps => by
    rw [keeps.supervision]
    exact stale
  cases watch with
  | watching =>
    dsimp only [World.pollMonitor]
    split
    · have timed := KeepsSupervisor.timer w w.supervision.config.shutdownGrace
      exact timed.trans (keeps_awaitExit (timed.notOperation own) (after timed) c _ _)
    · have timed := KeepsSupervisor.timer w exitDrain
      exact timed.trans (KeepsSupervisor.setTask (timed.notOperation own) rfl)
    · have killed := (KeepsSupervisor.terminate w c).trans
        (KeepsSupervisor.abortReader ((KeepsSupervisor.terminate w c).numbered numbered) c)
      exact killed.trans (keeps_finishMonitor (killed.notOperation own) (after killed) c _)
    · exact .refl w
  | draining status t =>
    dsimp only [World.pollMonitor]
    split
    · exact keeps_finishMonitor own stale c _
    · split
      · have stopped := KeepsSupervisor.abortReader numbered c
        exact stopped.trans (keeps_finishMonitor (stopped.notOperation own) (after stopped) c _)
      · exact .refl w
  | lingering failure t =>
    dsimp only [World.pollMonitor]
    split
    · exact keeps_awaitExit own stale c _ _
    · exact .refl w

end Monitor

/-! ### An automatic restart goes ahead only over its own crash -/

section Restart

variable {r tid : Nat} {handle : Option Nat} {t : Task}

/-- An automatic restart that finds its generation no longer current and crashed ends at once
when it holds the lock. -/
theorem afterLock_autoRestart_of_over
    (passed : ¬ (w.supervision.generation = g ∧ w.supervision.state = .crashed)) :
    w.afterLock tid handle (.autoRestart g) = w.finishOp tid handle (.ok ()) := by
  have stale : (w.supervision.generation != g || w.supervision.state != .crashed) = true := by
    simp only [Bool.or_eq_true, bne_iff_ne, ne_eq]
    by_contra both
    exact passed (not_or.mp both |>.imp not_not.mp not_not.mp)
  unfold afterLock
  dsimp only
  rw [if_pos stale]

/-- A turn of the automatic restart of `g` at the lock keeps the generation, so begins no
session, when `g` is no longer current and crashed or another operation holds the lock. -/
theorem generation_pollLifecycle_autoRestart (supervised : w.sup.isSome)
    (barred : ¬ (w.supervision.generation = g ∧ w.supervision.state = .crashed) ∨
      ∃ h, w.supervision.lockHolder = some h ∧ h ≠ r) :
    (w.pollLifecycle r handle (.autoRestart g) .locking).supervision.generation =
      w.supervision.generation := by
  have ends : ∀ v : World, v.sup.isSome →
      ¬ (v.supervision.generation = g ∧ v.supervision.state = .crashed) →
      (v.afterLock r handle (.autoRestart g)).supervision.generation =
        v.supervision.generation := by
    intro v installed passed
    rw [afterLock_autoRestart_of_over passed]
    exact (finishOp_quiet v installed _).2.2
  unfold pollLifecycle
  dsimp only
  split
  · rename_i holds
    -- the restart holds the lock itself, so only its generation can bar it
    refine ends w supervised (barred.resolve_right ?_)
    rintro ⟨h, held, other⟩
    rw [held] at holds
    exact other (by simpa using holds)
  · split
    · rename_i free
      have record := supervision_modifySup supervised fun s => { s with lockHolder := some r }
      have unheld : ¬ ∃ h, w.supervision.lockHolder = some h ∧ h ≠ r := by
        rintro ⟨h, held, -⟩
        rw [held] at free
        cases free
      have passed : ¬ ((w.modifySup fun s => { s with lockHolder := some r }).supervision.generation
          = g ∧ (w.modifySup fun s => { s with lockHolder := some r }).supervision.state =
            .crashed) := by
        rw [record]
        exact barred.resolve_right unheld
      rw [ends _ (by simpa using supervised) passed, record]
    · split
      · rfl
      · rw [supervision_modifySup supervised]

theorem Task.restartOf_eq_some (pending : t.restartOf = some g) :
    (∃ delay timer?, t = .restartDelay g delay timer?) ∨
      ∃ handle, t = .lifecycle handle (.autoRestart g) .locking := by
  unfold Task.restartOf at pending
  split at pending
  · cases pending
    exact .inl ⟨_, _, rfl⟩
  · cases pending
    exact .inr ⟨_, rfl⟩
  · cases pending

/-- A turn of a task standing for the automatic restart of `g`, a delay or the restart at the
lock, begins no session when `g` is no longer current and crashed or another operation holds
the lock. -/
theorem generation_restartTurn (supervised : w.sup.isSome) (found : w.task? r = some t)
    (pending : t.restartOf = some g)
    (barred : ¬ (w.supervision.generation = g ∧ w.supervision.state = .crashed) ∨
      ∃ h, w.supervision.lockHolder = some h ∧ h ≠ r) :
    (w.pollTask r).supervision.generation = w.supervision.generation := by
  rcases Task.restartOf_eq_some pending with ⟨delay, timer?, rfl⟩ | ⟨handle, rfl⟩
  · simp only [pollTask, found]
    -- the delay's timer and its own entry leave the record alone
    have goes : ∀ v : World, v.sup = w.sup →
        (v.pollLifecycle r none (.autoRestart g) .locking).supervision.generation =
          w.supervision.generation := by
      intro v same
      have record : v.supervision = w.supervision := by rw [supervision, same, supervision]
      rw [generation_pollLifecycle_autoRestart (same ▸ supervised) (record ▸ barred), record]
    cases timer? with
    | none =>
      dsimp only [pollRestartDelay]
      split
      · exact goes _ rfl
      · rfl
    | some t =>
      dsimp only [pollRestartDelay]
      split
      · exact goes _ rfl
      · rfl
  · simp only [pollTask, found]
    exact generation_pollLifecycle_autoRestart supervised barred

end Restart

/-! ### A generation over for good stays so -/

/-- The step lemma for `Supervision.Gone`: no change of the supervisor brings back a generation
that a later one has followed, or that is stopping or stopped. -/
theorem gone_supStep (supervised : w.sup.isSome) (gone : w.supervision.Gone g)
    (step : SupStep w w') : w'.supervision.Gone g := by
  cases step with
  | quiet lasts course events _ =>
    simp only [Supervision.course, Prod.mk.injEq] at course
    unfold Supervision.Gone at gone ⊢
    rwa [course.1, course.2.1]
  | transition gen next notStart =>
    rcases moved : w.transition gen next with ⟨_ | _, w₁⟩
    · rwa [(transition_eq_false moved).1]
    · obtain ⟨-, allowed, rfl⟩ := transition_eq_true moved
      have record := supervision_modifySup supervised fun s => { s with state := next }
      simp only [Supervision.Gone, supervision_emit, record]
      -- Stopping leads only to Stopped, and Stopped only to Starting
      rcases gone with later | ⟨current, stopping | stopped⟩
      · exact .inl later
      · rw [stopping] at allowed
        cases next <;> simp_all [SessionState.canStep]
      · rw [stopped] at allowed
        cases next <;> simp_all [SessionState.canStep]
  | begin =>
    unfold beginSession
    dsimp only
    split
    · have record := supervision_modifySup supervised fun s =>
        { s with generation := w.supervision.generation + 1, state := .starting }
      simp only [Supervision.Gone, supervision_emit, record]
      left
      rcases gone with later | ⟨current, -⟩ <;> omega
    · exact gone
  | crash gen reason =>
    by_cases live : w.supervision.Live gen
    · obtain ⟨generation, -, -⟩ := crashed_of_live supervised live reason
      obtain ⟨current, moving⟩ := live
      -- the crashed generation is live, so `g` was already behind it
      left
      rcases gone with later | ⟨same, stopping | stopped⟩
      · omega
      · rcases moving with starting | running
        · rw [starting] at stopping
          cases stopping
        · rw [running] at stopping
          cases stopping
      · rcases moving with starting | running
        · rw [starting] at stopped
          cases stopped
        · rw [running] at stopped
          cases stopped
    · rwa [crashed_of_not_live live]
  | reset =>
    simpa only [Supervision.Gone, supervision_modifySup supervised] using gone

theorem gone_of_recorded (supervised : w.sup.isSome) (gone : w.supervision.Gone g)
    (recorded : Recorded w w') : w'.supervision.Gone g :=
  Recorded.preserve (fun installed earlier step => gone_supStep installed earlier step) recorded
    supervised gone

/-- Moving a crashed generation to Stopped leaves it over for good, whatever follows. -/
theorem gone_of_stopped (supervised : w.sup.isSome)
    (crashedAt : w.supervision.generation = g ∧ w.supervision.state = .crashed)
    (after : Recorded (w.transition none .stopped).2 w') : w'.supervision.Gone g := by
  have allowed : w.supervision.state.canStep .stopped = true := by
    rw [crashedAt.2]
    rfl
  rcases moved : w.transition none .stopped with ⟨_ | _, w₁⟩
  · obtain ⟨-, ⟨g', never, -⟩ | blocked⟩ := transition_eq_false moved
    · cases never
    · rw [allowed] at blocked
      cases blocked
  · obtain ⟨-, -, rfl⟩ := transition_eq_true moved
    rw [moved] at after
    refine gone_of_recorded (by simpa using supervised) ?_ after
    simp [Supervision.Gone, supervision_modifySup supervised, crashedAt.1]

/-! ### A host's operation over a crashed generation -/

/-- The host's operation `tid` holds the lock over generation `g`, which lies crashed, at a
stage from which it leaves Crashed before it lets the lock go. -/
structure HostClears (w : World) (g tid : Nat) : Prop where
  crashed : w.supervision.generation = g ∧ w.supervision.state = .crashed
  holder : w.supervision.lockHolder = some tid
  host : ∃ handle op stage, (tid, Task.lifecycle handle op stage) ∈ w.tasks ∧
    op.isHost = true ∧ stage.clears = true

/-- The automatic restart of generation `g` is cancelled: `g` is over for good, or the host's
operation `tid` holds the lock over it and will leave it. -/
def Cancelled (w : World) (g tid : Nat) : Prop := w.supervision.Gone g ∨ w.HostClears g tid

section Host

variable {tid : Nat}

/-- A move that keeps the lifecycle state, the generation, the holder of the lock and the
operations filed under `tid`. -/
structure KeepsHolder (w w' : World) (tid : Nat) : Prop where
  state : w'.supervision.state = w.supervision.state
  generation : w'.supervision.generation = w.supervision.generation
  holder : w'.supervision.lockHolder = w.supervision.lockHolder
  entry : ∀ handle op stage, (tid, Task.lifecycle handle op stage) ∈ w.tasks →
    (tid, Task.lifecycle handle op stage) ∈ w'.tasks

namespace KeepsHolder

variable {w₁ w₂ w₃ : World}

theorem trans (first : KeepsHolder w₁ w₂ tid) (second : KeepsHolder w₂ w₃ tid) :
    KeepsHolder w₁ w₃ tid where
  state := second.state.trans first.state
  generation := second.generation.trans first.generation
  holder := second.holder.trans first.holder
  entry := fun handle op stage mem => second.entry handle op stage (first.entry handle op stage mem)

theorem of_keeps (keeps : KeepsSupervisor w w') : KeepsHolder w w' tid where
  state := by rw [keeps.supervision]
  generation := by rw [keeps.supervision]
  holder := by rw [keeps.supervision]
  entry := fun _ _ _ mem => mem_operations.mp (keeps.operations ▸ mem_operations.mpr mem)

theorem modifySup (supervised : w.sup.isSome) (f : Supervision → Supervision)
    (keeps : ∀ s, (f s).state = s.state ∧ (f s).generation = s.generation ∧
      (f s).lockHolder = s.lockHolder) : KeepsHolder w (w.modifySup f) tid := by
  have record := supervision_modifySup supervised f
  obtain ⟨state, generation, holder⟩ := keeps w.supervision
  exact ⟨by rw [record, state], by rw [record, generation], by rw [record, holder],
    fun _ _ _ mem => mem⟩

theorem takeSession (supervised : w.sup.isSome) (r : SessionRecord) :
    KeepsHolder w (w.takeSession r) tid :=
  (modifySup supervised (fun s => { s with session := none }) fun _ => ⟨rfl, rfl, rfl⟩).trans
    (of_keeps (KeepsSupervisor.modifyConn _ r.conn _))

theorem setTask_other {j : Nat} (other : j ≠ tid) (u : Task) : KeepsHolder w (w.setTask j u) tid :=
  ⟨rfl, rfl, rfl, fun _ _ _ mem => mem_setTask.mpr (.inr ⟨Ne.symm other, mem⟩)⟩

theorem spawn (t : Task) : KeepsHolder w (w.spawn t).1 tid :=
  ⟨rfl, rfl, rfl, fun _ _ _ mem => List.mem_append_left _ mem⟩

/-- An operation that finds another holding the lock only queues for it. -/
theorem waiting (holder : w.supervision.lockHolder = some tid) (supervised : w.sup.isSome)
    {j : Nat} (other : j ≠ tid) (handle : Option Nat) (op : LifecycleOp) :
    KeepsHolder w (w.pollLifecycle j handle op .locking) tid := by
  unfold pollLifecycle
  dsimp only
  rw [holder]
  split
  · rename_i holds
    exact absurd (by simpa using holds) (Ne.symm other)
  · split
    · rename_i free
      cases free
    · split
      · exact ⟨rfl, rfl, rfl, fun _ _ _ mem => mem⟩
      · exact modifySup supervised _ fun _ => ⟨rfl, rfl, rfl⟩

/-- While operation `tid` holds the lock and no generation is live, a turn of any other task
leaves the state, the generation, the lock and the operation alone: operations queue, monitors
report crashes that change nothing, and the client's own tasks keep the supervisor. -/
theorem otherTurn (lawful : w.Lawful) (holder : w.supervision.lockHolder = some tid)
    (asleep : ∀ gen, ¬ w.supervision.Live gen) {j : Nat} (other : j ≠ tid) :
    KeepsHolder w (w.pollTask j) tid := by
  have own : ∀ {t : Task}, w.task? j = some t → t.isLifecycle = false → w.NotOperation j :=
    fun found kind => lawful.numbered.notOperation_of_task? found kind
  unfold pollTask
  split
  · exact ⟨rfl, rfl, rfl, fun _ _ _ mem => mem⟩
  · rename_i c started ended found
    exact of_keeps (KeepsSupervisor.pollReader lawful.numbered (own found rfl) c started ended)
  · rename_i c found
    exact of_keeps (KeepsSupervisor.pollWriter (own found rfl) c)
  · rename_i c id method work found
    exact of_keeps (KeepsSupervisor.pollHandler (own found rfl) c id method work)
  · rename_i handle target call typed found
    exact of_keeps (KeepsSupervisor.pollCall (own found rfl) handle target call typed)
  · rename_i handle c each found
    exact of_keeps (KeepsSupervisor.pollCalls (own found rfl) handle c each)
  · rename_i handle op stage found
    -- only the holder of the lock is past it
    have waits : stage = .locking := by
      by_contra past
      have held := lawful.alone j handle op stage (mem_of_task? found) past
      rw [holder] at held
      exact other (Option.some.inj held).symm
    subst waits
    exact waiting holder lawful.supervised other handle op
  · rename_i c gen watch found
    exact of_keeps (keeps_pollMonitor lawful.numbered (own found rfl) (asleep gen) c watch)
  · rename_i gen delay timer? found
    cases timer? with
    | none =>
      have timed : KeepsHolder w (w.timer delay).1 tid := of_keeps (KeepsSupervisor.timer w delay)
      dsimp only [pollRestartDelay]
      split
      -- the delay's own entry becomes the restart, which queues for the lock
      · exact (timed.trans (setTask_other other _)).trans
          (waiting (by exact holder) (by exact lawful.supervised) other none _)
      · exact timed.trans (setTask_other other _)
    | some t =>
      dsimp only [pollRestartDelay]
      split
      · exact (setTask_other other _).trans
          (waiting (by exact holder) (by exact lawful.supervised) other none _)
      · exact ⟨rfl, rfl, rfl, fun _ _ _ mem => mem⟩
  · rename_i c action t found
    exact of_keeps (KeepsSupervisor.pollTimed (own found rfl) c action t)

end KeepsHolder

theorem HostClears.of_kept (clears : w.HostClears g tid) (kept : KeepsHolder w w' tid) :
    w'.HostClears g tid where
  crashed := by rw [kept.state, kept.generation]; exact clears.crashed
  holder := by rw [kept.holder]; exact clears.holder
  host := by
    obtain ⟨handle, op, stage, mem, host, kind⟩ := clears.host
    exact ⟨handle, op, stage, kept.entry _ _ _ mem, host, kind⟩

/-- The host's operation moves to another stage from which it leaves Crashed. -/
theorem HostClears.setStage (clears : w.HostClears g tid) {handle : Option Nat}
    {op : LifecycleOp} {stage : Stage} (host : op.isHost = true) (kind : stage.clears = true) :
    (w.setTask tid (.lifecycle handle op stage)).HostClears g tid where
  crashed := clears.crashed
  holder := clears.holder
  host := by
    obtain ⟨_, _, _, mem, -⟩ := clears.host
    exact ⟨handle, op, stage, mem_setTask.mpr (.inl ⟨rfl, rfl, _, mem⟩), host, kind⟩

/-- Clearing a crashed session ends over for good: it moves to Stopped and starts afresh. -/
theorem gone_afterClear (supervised : w.sup.isSome)
    (crashedAt : w.supervision.generation = g ∧ w.supervision.state = .crashed)
    (handle : Option Nat) (op : LifecycleOp) (c : Nat) :
    (w.afterClear tid handle op c).supervision.Gone g := by
  have closed := KeepsSupervisor.closePeer w c
  unfold afterClear
  exact gone_of_stopped (by rw [closed.sup]; exact supervised)
    (by rw [closed.supervision]; exact crashedAt) (Rising.startFresh _ tid handle op).recorded

/-- Once the killed process's monitor has finished, a crashed session ends Stopped. -/
theorem gone_finishStop (supervised : w.sup.isSome)
    (crashedAt : w.supervision.generation = g ∧ w.supervision.state = .crashed)
    (handle : Option Nat) (op : LifecycleOp) (c : Nat) :
    (w.finishStop tid handle op c).supervision.Gone g := by
  have closed := KeepsSupervisor.closePeer w c
  unfold finishStop
  exact gone_of_stopped (by rw [closed.sup]; exact supervised)
    (by rw [closed.supervision]; exact crashedAt) (Rising.afterStop _ tid handle op).recorded

theorem cancelled_killAndWait (clears : w.HostClears g tid) (supervised : w.sup.isSome)
    {handle : Option Nat} {op : LifecycleOp} (host : op.isHost = true) (gen c : Nat) :
    (w.killAndWait tid handle op gen c).Cancelled g tid := by
  have killed := KeepsSupervisor.requestKill w c
  have clears₁ := clears.of_kept (.of_keeps killed)
  unfold killAndWait
  dsimp only
  split
  · exact .inl (gone_finishStop (by rw [killed.sup]; exact supervised) clears₁.crashed handle op c)
  · exact .inr (clears₁.setStage host rfl)

/-- A host's start over a crashed generation clears it: it takes the session, tells its process
to die, and moves to Stopped once the monitor has finished, or waits for it holding the lock. -/
theorem cancelled_startLocked (clears : w.HostClears g tid) (supervised : w.sup.isSome)
    (handle : Option Nat) {op : LifecycleOp} (host : op.isHost = true) :
    (w.startLocked tid handle op).Cancelled g tid := by
  unfold startLocked
  rw [clears.crashed.2]
  dsimp only
  split
  · rename_i r held
    have killed := KeepsSupervisor.requestKill (w.takeSession r) r.conn
    have clears₁ := clears.of_kept ((KeepsHolder.takeSession supervised r).trans (.of_keeps killed))
    have supervised₁ : ((w.takeSession r).requestKill r.conn).sup.isSome := by
      rw [killed.sup, sup_isSome_takeSession]
      exact supervised
    split
    · exact .inl (gone_afterClear supervised₁ clears₁.crashed handle op r.conn)
    · exact .inr (clears₁.setStage host rfl)
  · exact .inl (gone_of_stopped supervised clears.crashed (Rising.startFresh _ tid handle op).recorded)

/-- Crashed cannot move to Stopping, so a host's stop over a crashed generation kills the
process of the session it has taken and waits for the monitor, holding the lock. -/
theorem cancelled_stopSession (clears : w.HostClears g tid) (supervised : w.sup.isSome)
    (handle : Option Nat) {op : LifecycleOp} (host : op.isHost = true) (r : SessionRecord) :
    (w.stopSession tid handle op r).Cancelled g tid := by
  unfold stopSession
  rcases moved : w.transition (some r.generation) .stopping with ⟨_ | _, w₂⟩
  · obtain ⟨rfl, -⟩ := transition_eq_false moved
    exact cancelled_killAndWait clears supervised host _ _
  · obtain ⟨-, allowed, -⟩ := transition_eq_true moved
    rw [clears.crashed.2] at allowed
    cases allowed

/-- A host's stop over a crashed generation kills the process and waits for the monitor holding
the lock, or moves to Stopped at once. -/
theorem cancelled_stopLocked (clears : w.HostClears g tid) (supervised : w.sup.isSome)
    (handle : Option Nat) {op : LifecycleOp} (host : op.isHost = true) :
    (w.stopLocked tid handle op).Cancelled g tid := by
  cases held : w.supervision.session with
  | none =>
    rw [stopLocked_of_none held]
    exact .inl (gone_of_stopped supervised clears.crashed (Rising.afterStop _ tid handle op).recorded)
  | some r =>
    rw [stopLocked_of_some held]
    exact cancelled_stopSession (clears.of_kept (KeepsHolder.takeSession supervised r))
      (by simpa using supervised) handle host r

/-- With the lock in hand over a crashed generation, a host's operation leaves it or keeps the
lock until it does. -/
theorem cancelled_afterLock (clears : w.HostClears g tid) (supervised : w.sup.isSome)
    (handle : Option Nat) {op : LifecycleOp} (host : op.isHost = true) :
    (w.afterLock tid handle op).Cancelled g tid := by
  have reset := clears.of_kept (.modifySup supervised (fun s => { s with restarts := 0 })
    fun _ => ⟨rfl, rfl, rfl⟩)
  have supervised₁ : (w.modifySup fun s => { s with restarts := 0 }).sup.isSome := by
    simpa using supervised
  unfold afterLock
  cases op with
  | start => exact cancelled_startLocked reset supervised₁ handle host
  | stop => exact cancelled_stopLocked clears supervised handle host
  | restart => exact cancelled_stopLocked reset supervised₁ handle host
  | autoRestart gen => cases host

theorem task?_of_mem {tid : Nat} {t : Task} (numbered : w.WellNumbered) (mem : (tid, t) ∈ w.tasks) :
    w.task? tid = some t := by
  cases found : w.task? tid with
  | none => exact absurd found (task?_ne_none mem)
  | some u => rw [numbered.eq_of_mem (mem_of_task? found) mem]

/-- The turn of the host's operation: at the lock it goes ahead, and once the monitor it waits
for has finished the crashed generation ends Stopped. -/
theorem HostClears.ownTurn (clears : w.HostClears g tid) (lawful : w.Lawful) :
    (w.pollTask tid).Cancelled g tid := by
  obtain ⟨handle, op, stage, mem, host, kind⟩ := clears.host
  simp only [pollTask, task?_of_mem lawful.numbered mem]
  cases stage with
  | locking =>
    dsimp only [pollLifecycle]
    rw [if_pos (by simp [clears.holder])]
    exact cancelled_afterLock clears lawful.supervised handle host
  | clearing c =>
    dsimp only [pollLifecycle]
    split
    · exact .inl (gone_afterClear lawful.supervised clears.crashed handle op c)
    · exact .inr clears
  | killed gen c =>
    dsimp only [pollLifecycle]
    split
    · exact .inl (gone_finishStop lawful.supervised clears.crashed handle op c)
    · exact .inr clears
  | handshake => cases kind
  | shutdown => cases kind
  | grace => cases kind

/-- A turn of any other task leaves the host's operation holding the lock over the crashed
generation, where no generation is live. -/
theorem HostClears.otherTurn (clears : w.HostClears g tid) (lawful : w.Lawful) {j : Nat}
    (other : j ≠ tid) : (w.pollTask j).HostClears g tid := by
  have asleep : ∀ gen, ¬ w.supervision.Live gen := by
    rintro gen ⟨-, starting | running⟩ <;> simp_all [clears.crashed.2]
  exact clears.of_kept (.otherTurn lawful clears.holder asleep other)

/-- The step lemma for `Cancelled`: every move of the host keeps the restart cancelled. -/
theorem Cancelled.move (lawful : w.Lawful) (cancelled : w.Cancelled g tid) (move : Move w w') :
    w'.Cancelled g tid := by
  rcases cancelled with gone | clears
  · exact .inl (gone_of_recorded lawful.supervised gone (move.recorded lawful.numbered))
  · cases move with
    | request handle op host => exact .inr (clears.of_kept (.spawn _))
    | failLaunch reason =>
      exact .inr (clears.of_kept (.modifySup lawful.supervised _ fun _ => ⟨rfl, rfl, rfl⟩))
    | turn j =>
      by_cases same : j = tid
      · subst same
        exact clears.ownTurn lawful
      · exact .inr (clears.otherTurn lawful same)
    | outside keeps lasts => exact .inr (clears.of_kept (.of_keeps keeps))

/-- The run lemma for `Cancelled`. -/
theorem Cancelled.run (lawful : w.Lawful) (cancelled : w.Cancelled g tid)
    (moves : Relation.ReflTransGen Move w w') : w'.Cancelled g tid := by
  induction moves with
  | refl => exact cancelled
  | tail earlier last ih => exact ih.move (lawful.run (Move.run earlier)) last

/-- Once cancelled, the automatic restart of `g` begins no session at its turn. -/
theorem Cancelled.restartTurn {r : Nat} {t : Task} (lawful : w.Lawful)
    (cancelled : w.Cancelled g tid) (found : w.task? r = some t) (pending : t.restartOf = some g) :
    (w.pollTask r).supervision.generation = w.supervision.generation := by
  refine generation_restartTurn lawful.supervised found pending ?_
  rcases cancelled with gone | clears
  · exact .inl gone.not_crashed
  · refine .inr ⟨tid, clears.holder, fun same => ?_⟩
    -- the holder is the host's operation, which stands for no restart
    subst same
    obtain ⟨handle, op, stage, mem, host, -⟩ := clears.host
    rw [lawful.numbered.eq_of_mem (mem_of_task? found) mem, Task.restartOf_of_isHost host]
      at pending
    cases pending

/-- A host's operation that takes the lock over a crashed generation cancels its restart. -/
theorem cancelled_hostTurn (lawful : w.Lawful) {handle : Option Nat} {op : LifecycleOp}
    (found : w.task? tid = some (.lifecycle handle op .locking)) (host : op.isHost = true)
    (free : w.supervision.lockHolder = none ∨ w.supervision.lockHolder = some tid)
    (crashedAt : w.supervision.generation = g ∧ w.supervision.state = .crashed) :
    (w.pollTask tid).Cancelled g tid := by
  have mem := mem_of_task? found
  simp only [pollTask, found]
  dsimp only [pollLifecycle]
  split
  · rename_i holds
    exact cancelled_afterLock ⟨crashedAt, by simpa using holds, handle, op, .locking, mem, host, rfl⟩
      lawful.supervised handle host
  · split
    · have record := supervision_modifySup lawful.supervised fun s => { s with lockHolder := some tid }
      have clears : (w.modifySup fun s => { s with lockHolder := some tid }).HostClears g tid :=
        ⟨by rw [record]; exact crashedAt, by rw [record], handle, op, .locking, mem, host, rfl⟩
      exact cancelled_afterLock clears (by simpa using lawful.supervised) handle host
    · rename_i notHeld taken
      rcases free with none | mine
      · rw [none] at taken
        exact absurd rfl taken
      · rw [mine] at notHeld
        simp at notHeld

end Host

/-! ### Along every run -/

theorem CrashesSettled.of_fresh (fresh : w.Fresh) : w.CrashesSettled where
  once := by simp [fresh.events]
  past := by simp [fresh.events]

/-- The run lemma: along every run of the host from a fresh supervisor, the record of crashes
stays settled. -/
theorem CrashesSettled.run (fresh : w.Fresh) (moves : Relation.ReflTransGen Move w w') :
    w'.CrashesSettled :=
  Move.preserve (fun supervised settled step => settled.supStep supervised step) fresh.lawful moves
    (.of_fresh fresh)

end World

end Engine

end LspBridge
