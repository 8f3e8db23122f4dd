import LspBridge.Proofs.StaleRestarts
import Mathlib
/-!
# The budget of automatic restarts, interval by interval

An interval of the budget opens when a host's start or restart takes the lifecycle lock and
resets the count of automatic restarts (`BudgetKept.opening`), and lasts while no other does
(`CalmRun`). Each move of such a run keeps `BudgetKept`: the events since the opening stay a word
of the grammar of `SessionEvent.Budgeted`, every restart armed was scheduled in the interval or is
cancelled, an automatic restart clearing a crashed session clears the current generation, and
each session begun by an automatic restart is the restart of the current generation, scheduled in
the interval, and moves the generation on, so no generation's restart begins two sessions.

Main statement (`restart_budget_counts_from_lock`): along every run from a fresh supervisor,
under the automatic policy of `m` restarts after `d` ms, the events of each interval schedule
attempts `1, 2, ..., k` with `k ≤ m`, each after `d` ms and right after the crash of the
generation it names; a crash is answered by a restart exactly while fewer than `m` were
scheduled before it in the interval; and at most `k` sessions are begun by automatic restarts,
each of a generation whose restart was scheduled in the interval. Under the manual policy no
restart is ever scheduled and no automatic restart begins a session.
-/

namespace LspBridge

namespace Server

namespace SessionEvent

/-- What the history of an interval of the budget shows under the automatic policy of
`maxRestarts` restarts after `backoff` ms, with the generations whose automatic restart began a
session in it: attempts `1, 2, ..., k`, with `k ≤ maxRestarts`, each after `backoff` ms and right
after the crash of the generation it names; a crash answered by a restart exactly while fewer than
`maxRestarts` were scheduled before it; and at most `k` sessions begun, each once, by restarts
scheduled in the interval. -/
structure WithinBudget (maxRestarts backoff : Nat) (events : List SessionEvent)
    (launched : List Nat) : Prop where
  attempts : (schedules events).map Scheduled.attempt = List.range' 1 (schedules events).length
  bounded : (schedules events).length ≤ maxRestarts
  delays : ∀ x ∈ schedules events, x.delay = backoff
  follows : ∀ i g attempt delay, events[i]? = some (.restartScheduled g attempt delay) →
    ∃ j reason, i = j + 1 ∧ events[j]? = some (.crashed g reason)
  answered : ∀ i g reason, events[i]? = some (.crashed g reason) →
    ((∃ attempt delay, events[i + 1]? = some (.restartScheduled g attempt delay)) ↔
      (schedules (events.take i)).length < maxRestarts)
  once : launched.Nodup
  launches : ∀ g ∈ launched, g ∈ restarted events
  fewer : launched.length ≤ (schedules events).length

/-- A history of the grammar under the automatic policy is within the budget, with any sessions
begun once each by restarts it scheduled. -/
theorem Budgeted.withinBudget {maxRestarts backoff count : Nat} {events : List SessionEvent}
    {launched : List Nat} (kept : Budgeted (.automatic maxRestarts backoff) events count)
    (once : launched.Nodup) (launches : ∀ g ∈ launched, g ∈ restarted events) :
    WithinBudget maxRestarts backoff events launched where
  attempts := by
    rw [kept.length_schedules]
    exact kept.attempts
  bounded := kept.length_schedules ▸ kept.within
  delays x mem := by
    have due := kept.delays x mem
    simp only [RestartPolicy.delay?] at due
    split at due
    · exact (Option.some.inj due).symm
    · cases due
  follows _ _ _ _ scheduled := kept.follows scheduled
  answered _ _ _ crashedAt := by
    rw [kept.answered crashedAt]
    simp only [RestartPolicy.delay?]
    split <;> simp_all
  once := once
  launches := launches
  fewer := by
    -- the generations begun are distinct and among those restarted
    have bound := (once.subperm launches).length_le
    simpa [restarted] using bound

end SessionEvent

end Server

namespace Engine

open Json Rpc Client Server

namespace World

variable {v w w' : World}

/-- The generation never goes back along a chain of the supervisor's changes. -/
theorem Recorded.generation_le (recorded : Recorded v w) (supervised : v.sup.isSome) :
    v.supervision.generation ≤ w.supervision.generation :=
  Recorded.preserve (P := fun u => v.supervision.generation ≤ u.supervision.generation)
    (fun installed below step => below.trans (step.records installed).2.2) recorded supervised
    le_rfl

/-- A task standing for the automatic restart of `g` that finds `g` current and crashed, with the
lock free or its own, finds that restart not cancelled by the host's operation `host`. -/
theorem not_cancelled_of_restart (lawful : w.Lawful) {tid g host : Nat} {t : Task}
    (found : w.task? tid = some t) (pending : t.restartOf = some g)
    (current : w.supervision.generation = g ∧ w.supervision.state = .crashed)
    (lock : w.supervision.lockHolder = some tid ∨ w.supervision.lockHolder = none) :
    ¬ w.Cancelled g host := by
  rintro (gone | clears)
  · exact gone.not_crashed current
  · -- the host's operation holds the lock, so it would be the restart's own task
    obtain ⟨handle, op, stage, mem, isHost, -⟩ := clears.host
    rcases lock with own | free
    · rw [clears.holder, Option.some.injEq] at own
      subst own
      rw [lawful.numbered.eq_of_mem (mem_of_task? found) mem, Task.restartOf_of_isHost isHost]
        at pending
      cases pending
    · rw [clears.holder] at free
      cases free

/-- The generations whose automatic restart begins a session at a turn: at most one, since the
turn belongs to one task. -/
theorem nodup_restartLaunch (w : World) (tid : Nat) : (w.restartLaunch tid).Nodup := by
  unfold restartLaunch
  split
  · split <;> simp
  · simp

theorem mem_restartLaunch {tid g : Nat} :
    g ∈ w.restartLaunch tid ↔ ∃ t, w.task? tid = some t ∧ t.automatic? = some g ∧
      (w.pollTask tid).supervision.generation ≠ w.supervision.generation := by
  unfold restartLaunch
  cases found : w.task? tid with
  | none => simp
  | some t =>
    cases auto : t.automatic? with
    | none => simp [auto]
    | some g' =>
      by_cases same : (w.pollTask tid).supervision.generation = w.supervision.generation
      · simp [auto, same]
      · simp [auto, same, eq_comm]

namespace BudgetKept

variable {host : Nat} {base new : List SessionEvent} {launched : List Nat}

/-- Every restart armed after a move was scheduled in the interval, or is cancelled. -/
theorem armed_move (kept : BudgetKept host base w new launched) (move : Move w w')
    {added : List SessionEvent} (grown : w'.events = base ++ (new ++ added)) :
    ∀ r g, (r, g) ∈ w'.pendingRestarts →
      g ∈ SessionEvent.restarted (new ++ added) ∨ w'.Cancelled g host := by
  obtain ⟨more, events, born⟩ :=
    ArmedBetween.recorded (move.recorded kept.lawful.numbered) kept.lawful.supervised
  -- what the move recorded is what the grammar added
  have same : added = more := by
    rw [grown, kept.events, List.append_assoc] at events
    exact List.append_cancel_left (List.append_cancel_left events)
  subst same
  intro r g pending
  rw [SessionEvent.restarted_append, List.mem_append]
  rcases born (r, g) pending with old | ⟨-, attempt, delay, scheduled⟩
  · exact (kept.armed r g old).imp .inl fun cancelled => cancelled.move kept.lawful move
  · exact .inl (.inr (SessionEvent.mem_restarted.mpr ⟨attempt, delay, scheduled⟩))

/-- A move that begins no session and files no automatic restart clearing a session keeps the
interval's record, adding to its history what the grammar allows. -/
theorem steady (kept : BudgetKept host base w new launched) (move : Move w w')
    (steady : Steady w w')
    (filed : ∀ j handle g c, (j, Task.lifecycle handle (.autoRestart g) (.clearing c)) ∈ w'.tasks →
      (j, Task.lifecycle handle (.autoRestart g) (.clearing c)) ∈ w.tasks) :
    ∃ added, BudgetKept host base w' (new ++ added) launched := by
  obtain ⟨added, grown, budgeted⟩ :=
    Budgeted.rising steady.rising kept.lawful.supervised kept.events kept.budgeted
  refine ⟨added, ⟨(kept.lawful.step move.step).lawful, kept.fits.step kept.lawful.numbered move.step,
    grown, budgeted, kept.armed_move move grown, ?_, ?_, kept.once, ?_⟩⟩
  · intro j handle g c mem
    obtain ⟨current, scheduled⟩ := kept.clearing j handle g c (filed j handle g c mem)
    exact ⟨steady.generation.trans current, by simp [scheduled]⟩
  · intro g mem
    simp [kept.launches g mem]
  · intro g mem
    rw [steady.generation]
    exact kept.below g mem

theorem request (kept : BudgetKept host base w new launched) (handle : Option Nat)
    (op : LifecycleOp) (isHost : op.isHost = true) :
    ∃ added, BudgetKept host base (w.spawn (.lifecycle handle op .locking)).1 (new ++ added)
      launched := by
  refine kept.steady (.request w handle op isHost) (Steady.spawn w (Task.restartOf_of_isHost isHost))
    fun j h g c mem => ?_
  -- the operation asked for waits at the lock
  simp only [spawn, List.mem_append, List.mem_singleton, Prod.mk.injEq, Task.lifecycle.injEq,
    reduceCtorEq, and_false, or_false] at mem
  exact mem

theorem failLaunch (kept : BudgetKept host base w new launched) (reason : String) :
    ∃ added, BudgetKept host base (w.modifySup fun s => { s with failNext := some reason })
      (new ++ added) launched :=
  kept.steady (.failLaunch w reason) (Steady.update w _ fun _ => rfl) fun _ _ _ _ mem => mem

theorem outside (kept : BudgetKept host base w new launched) (keeps : KeepsSupervisor w w')
    (lasts : Lasts w w') : ∃ added, BudgetKept host base w' (new ++ added) launched :=
  kept.steady (.outside keeps lasts) (Steady.of_keeps keeps lasts) fun _ _ _ _ mem =>
    (KeepsOperations.of_keeps keeps).mem_iff.mp mem

/-- An automatic restart that a turn files anew clearing a crashed session went ahead over its
own crash, with its restart scheduled in the interval. -/
theorem clearing_new (kept : BudgetKept host base w new launched) (tid : Nat) {j g c : Nat}
    {handle : Option Nat}
    (fresh : (j, Task.lifecycle handle (.autoRestart g) (.clearing c)) ∉ w.tasks)
    (mem : (j, Task.lifecycle handle (.autoRestart g) (.clearing c)) ∈ (w.pollTask tid).tasks) :
    (w.pollTask tid).supervision.generation = g ∧ g ∈ SessionEvent.restarted new := by
  obtain ⟨t, found, pending, current, crashedState, lock, after⟩ :=
    World.clearing_new kept.lawful kept.fits tid fresh mem
  refine ⟨after, ?_⟩
  -- armed, it was scheduled in the interval, since going ahead it is not cancelled
  rcases kept.armed tid g (mem_pendingRestarts.mpr ⟨t, mem_of_task? found, pending⟩) with
    scheduled | cancelled
  · exact scheduled
  · exact absurd cancelled
      (not_cancelled_of_restart kept.lawful found pending ⟨current, crashedState⟩ lock)

/-- After a turn, every automatic restart clearing a crashed session clears the current
generation, whose restart was scheduled in the interval. -/
theorem clearing_turn (kept : BudgetKept host base w new launched) (tid : Nat) {j g c : Nat}
    {handle : Option Nat}
    (mem : (j, Task.lifecycle handle (.autoRestart g) (.clearing c)) ∈ (w.pollTask tid).tasks) :
    (w.pollTask tid).supervision.generation = g ∧ g ∈ SessionEvent.restarted new := by
  by_cases old : (j, Task.lifecycle handle (.autoRestart g) (.clearing c)) ∈ w.tasks
  · obtain ⟨current, scheduled⟩ := kept.clearing j handle g c old
    exact ⟨generation_clearing_turn kept.lawful old current tid mem, scheduled⟩
  · exact kept.clearing_new tid old mem

/-- A turn that begins a session for the automatic restart of `g` finds `g` the current
generation, with its restart scheduled in the interval, and moves the generation on by one. -/
theorem launch_turn (kept : BudgetKept host base w new launched) {tid g : Nat}
    (launch : g ∈ w.restartLaunch tid) :
    w.supervision.generation = g ∧ g ∈ SessionEvent.restarted new ∧
      (w.pollTask tid).supervision.generation = g + 1 := by
  obtain ⟨t, found, auto, moved⟩ := mem_restartLaunch.mp launch
  have lawful := kept.lawful
  -- the turn begins one session at most, and never goes back
  have grows := Recorded.generation_le (Recorded.pollTask lawful.numbered tid) lawful.supervised
  have one := BeginsOne.pollTask lawful.numbered tid
  unfold BeginsOne at one
  have current : w.supervision.generation = g ∧ g ∈ SessionEvent.restarted new := by
    rcases Task.automatic?_eq_some auto with pending | ⟨handle, stage, rfl, past⟩
    · -- a delay or the restart at the lock goes ahead only over its own crash, not cancelled
      have ahead : w.supervision.generation = g ∧ w.supervision.state = .crashed := by
        by_contra barred
        exact moved (generation_restartTurn lawful.supervised found pending (.inl barred))
      refine ⟨ahead.1, ?_⟩
      rcases kept.armed tid g (mem_pendingRestarts.mpr ⟨t, mem_of_task? found, pending⟩) with
        scheduled | cancelled
      · exact scheduled
      · exact absurd (cancelled.restartTurn lawful found pending) moved
    · -- past the lock, only the restart clearing a crashed session begins one
      obtain ⟨c, rfl⟩ := clearing_of_launch found past moved
      exact kept.clearing tid handle g c (mem_of_task? found)
  exact ⟨current.1, current.2, by omega⟩

/-- The step lemma for a turn that takes no lock for a host's start or restart: it keeps the
interval's record, and the session it begins for an automatic restart, if any, is the restart of
the current generation, scheduled in the interval and not begun before. -/
theorem turn (kept : BudgetKept host base w new launched) {tid : Nat}
    (calm : ¬ w.HostTakesLock tid) :
    ∃ added, BudgetKept host base (w.pollTask tid) (new ++ added)
      (launched ++ w.restartLaunch tid) := by
  have lawful := kept.lawful
  obtain ⟨added, grown, budgeted⟩ := Budgeted.rising (Rising.pollTask lawful.numbered calm)
    lawful.supervised kept.events kept.budgeted
  have grows := Recorded.generation_le (Recorded.pollTask lawful.numbered tid) lawful.supervised
  refine ⟨added, ⟨(lawful.turn tid).lawful, kept.fits.step lawful.numbered (.turn w tid), grown,
    budgeted, kept.armed_move (.turn w tid) grown, ?_, ?_, ?_, ?_⟩⟩
  · intro j handle g c mem
    obtain ⟨current, scheduled⟩ := kept.clearing_turn tid mem
    exact ⟨current, by simp [scheduled]⟩
  · intro g mem
    rcases List.mem_append.mp mem with earlier | launch
    · simp [kept.launches g earlier]
    · simp [(kept.launch_turn launch).2.1]
  · -- the generation begun now is the current one, above every one begun before
    refine List.nodup_append.mpr ⟨kept.once, nodup_restartLaunch w tid, ?_⟩
    intro a earlier b launch same
    have below := kept.below a earlier
    have current := (kept.launch_turn launch).1
    omega
  · intro g mem
    rcases List.mem_append.mp mem with earlier | launch
    · exact (kept.below g earlier).trans_le grows
    · have launched := kept.launch_turn launch
      omega

/-- The run lemma: every calm run from a world where the interval's record holds keeps it. -/
theorem calmRun {w₀ : World} (opened : BudgetKept host base w₀ new []) (run : CalmRun w₀ w launched) :
    ∃ more, BudgetKept host base w more launched := by
  induction run with
  | start => exact ⟨new, opened⟩
  | request earlier handle op isHost ih =>
    obtain ⟨more, kept⟩ := ih
    obtain ⟨added, moved⟩ := kept.request handle op isHost
    exact ⟨_, moved⟩
  | failLaunch earlier reason ih =>
    obtain ⟨more, kept⟩ := ih
    obtain ⟨added, moved⟩ := kept.failLaunch reason
    exact ⟨_, moved⟩
  | turn earlier tid calm ih =>
    obtain ⟨more, kept⟩ := ih
    obtain ⟨added, moved⟩ := kept.turn calm
    exact ⟨_, moved⟩
  | outside earlier keeps lasts ih =>
    obtain ⟨more, kept⟩ := ih
    obtain ⟨added, moved⟩ := kept.outside keeps lasts
    exact ⟨_, moved⟩

end BudgetKept

/-! ### The manual policy -/

/-- Under the manual policy nothing stands for an automatic restart: none is scheduled, none
armed, and none is past the lock. -/
structure ManualQuiet (w : World) : Prop where
  manual : w.supervision.config.restart = .manual
  scheduled : SessionEvent.schedules w.events = []
  armed : w.pendingRestarts = []
  past : ∀ j handle g stage, (j, Task.lifecycle handle (.autoRestart g) stage) ∉ w.tasks

/-- Under the manual policy a change of the supervisor schedules and arms no restart. -/
theorem manual_supStep (supervised : v.sup.isSome)
    (quiet : v.supervision.config.restart = .manual ∧ SessionEvent.schedules v.events = [] ∧
      v.pendingRestarts = []) (step : SupStep v w) :
    w.supervision.config.restart = .manual ∧ SessionEvent.schedules w.events = [] ∧
      w.pendingRestarts = [] := by
  obtain ⟨manual, scheduled, armed⟩ := quiet
  obtain ⟨records, config, -⟩ := step.records supervised
  rw [config]
  refine ⟨manual, ?_⟩
  cases records with
  | quiet same count fewer =>
    rw [same, armed, List.subset_nil] at *
    exact ⟨scheduled, fewer⟩
  | change g before after same count same' => simp [same, same', scheduled, armed]
  | spent g before reason exhausted same count same' => simp [same, same', scheduled, armed]
  | arms g before reason delay due same count same' =>
    -- the manual policy gives no delay
    rw [manual] at due
    cases due

/-- The step lemma for the manual policy: a move of the host keeps nothing standing for an
automatic restart. -/
theorem ManualQuiet.move (lawful : w.Lawful) (fits : w.StagesFit) (quiet : w.ManualQuiet)
    (move : Move w w') : w'.ManualQuiet := by
  obtain ⟨manual, scheduled, armed⟩ := Recorded.preserve
    (P := fun u => u.supervision.config.restart = .manual ∧ SessionEvent.schedules u.events = [] ∧
      u.pendingRestarts = [])
    (fun installed held step => manual_supStep installed held step)
    (move.recorded lawful.numbered) lawful.supervised ⟨quiet.manual, quiet.scheduled, quiet.armed⟩
  refine ⟨manual, scheduled, armed, fun j handle g stage mem => ?_⟩
  have old : (j, Task.lifecycle handle (.autoRestart g) stage) ∉ w.tasks := quiet.past j handle g stage
  cases move with
  | request h op isHost =>
    -- the host asks for no automatic restart
    simp only [spawn, List.mem_append, List.mem_singleton, Prod.mk.injEq, Task.lifecycle.injEq]
      at mem
    rcases mem with earlier | ⟨-, -, same, -⟩
    · exact old earlier
    · subst same
      simp [LifecycleOp.isHost] at isHost
  | failLaunch reason => exact old mem
  | turn tid =>
    -- a turn files anew only its own operation, and nothing stands for an automatic restart
    obtain ⟨-, t, found, stands⟩ := filed_turn lawful.numbered fits old mem
    cases t with
    | restartDelay g' delay timer? =>
      have pending := mem_pendingRestarts.mpr ⟨_, mem_of_task? found, rfl⟩
      rw [quiet.armed] at pending
      cases pending
    | lifecycle h o stage' =>
      simp only [Task.operation?, Option.some.injEq] at stands
      subst stands
      exact quiet.past tid h g stage' (mem_of_task? found)
    | _ => simp [Task.operation?] at stands
  | outside keeps lasts => exact old ((KeepsOperations.of_keeps keeps).mem_iff.mp mem)

/-- The run lemma for the manual policy, from a fresh supervisor with no restart armed. -/
theorem ManualQuiet.run {w₀ : World} (fresh : w₀.Fresh) (quiet : w₀.pendingRestarts = [])
    (manual : w₀.supervision.config.restart = .manual)
    (moves : Relation.ReflTransGen Move w₀ w) : w.ManualQuiet := by
  induction moves with
  | refl =>
    refine ⟨manual, by simp [fresh.events], quiet, fun j handle g stage mem => ?_⟩
    -- a fresh supervisor has no operation
    have listed := mem_operations.mpr mem
    rw [fresh.idle] at listed
    cases listed
  | tail earlier last ih =>
    exact ih.move (fresh.lawful.run (Move.run earlier)) (StagesFit.run fresh (Move.run earlier))
      last

/-- Under the manual policy no turn begins a session for an automatic restart. -/
theorem ManualQuiet.restartLaunch (quiet : w.ManualQuiet) (tid : Nat) : w.restartLaunch tid = [] := by
  cases launch : w.restartLaunch tid with
  | nil => rfl
  | cons g rest =>
    have launched : g ∈ w.restartLaunch tid := by
      rw [launch]
      exact List.mem_cons_self
    obtain ⟨t, found, auto, -⟩ := mem_restartLaunch.mp launched
    rcases Task.automatic?_eq_some auto with pending | ⟨handle, stage, rfl, -⟩
    · have armed := mem_pendingRestarts.mpr ⟨t, mem_of_task? found, pending⟩
      rw [quiet.armed] at armed
      cases armed
    · exact absurd (mem_of_task? found) (quiet.past tid handle g stage)

/-! ### Main statement -/

/-- The budget of automatic restarts along every run of the host from `w₀`. Under the automatic
policy of `maxRestarts` restarts after `backoff` ms, each interval from a host's start or restart
taking the lock, while no other does, records events within the budget, with the generations
whose automatic restart began a session in it. Under the manual policy no restart is ever
scheduled and no automatic restart begins a session. -/
structure RestartBudget (w₀ : World) : Prop where
  automatic : ∀ maxRestarts backoff,
    w₀.supervision.config.restart = .automatic maxRestarts backoff →
    ∀ w host w' launched, Relation.ReflTransGen Move w₀ w → w.HostTakesLock host →
      CalmRun (w.pollTask host) w' launched →
      ∃ new, w'.events = w.events ++ new ∧
        SessionEvent.WithinBudget maxRestarts backoff new launched
  manual : w₀.supervision.config.restart = .manual → ∀ w, Relation.ReflTransGen Move w₀ w →
    SessionEvent.schedules w.events = [] ∧ ∀ tid, w.restartLaunch tid = []

end World

end Engine

end LspBridge
