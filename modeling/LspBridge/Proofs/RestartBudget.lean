import LspBridge.Proofs.OperationStages
/-!
# The budget of automatic restarts

Under the automatic policy of `m` restarts after `d` ms, a crash of the current session arms an
automatic restart while fewer than `m` have been armed since the count was last reset, and records
`RestartScheduled` with the attempt number, one more than the count, and the delay `d`. A host's
start or restart resets the count once it takes the lifecycle lock, not when it is asked for.

The history of one interval of the budget, from a host's start or restart taking the lock on, is
a word of a small grammar (`SessionEvent.Budgeted`): changes of state, and crashes, each followed
at once by the restart it schedules exactly when the policy allows one more. From the grammar, the
attempts scheduled are 1, 2, ..., k with k ≤ m, each names the generation whose crash it follows,
and a crash gets one exactly while fewer than m were scheduled before it. Each change of the
supervisor adds to the history in one of four ways (`World.Records`), so the grammar is kept by
every chain of changes that does not reset the count (`World.Budgeted.rising`).

Sessions begun by automatic restarts are counted along a run that records them
(`World.CalmRun`). Restarts armed before the interval are cancelled by the host's operation that
opens it (`World.Cancelled`), and the interval's record opens with it (`World.BudgetKept.opening`);
the moves of the run that keep it, and the main statement, are in `BudgetIntervals`.
-/

namespace LspBridge

namespace Server

/-- An automatic restart as a history records it: the generation whose crash it follows, its
attempt number and its delay. -/
structure Scheduled where
  generation : Nat
  attempt : Nat
  delay : Nat
  deriving DecidableEq, Repr

namespace SessionEvent

/-- The automatic restart this event schedules. -/
def schedule? : SessionEvent → Option Scheduled
  | .restartScheduled g attempt delay => some ⟨g, attempt, delay⟩
  | _ => none

/-- The automatic restarts a history schedules, in order. -/
def schedules (events : List SessionEvent) : List Scheduled := events.filterMap schedule?

@[simp]
theorem schedules_append (first second : List SessionEvent) :
    schedules (first ++ second) = schedules first ++ schedules second :=
  List.filterMap_append

@[simp]
theorem schedules_nil : schedules [] = [] :=
  rfl

@[simp]
theorem schedules_stateChanged (g : Nat) (before next : SessionState) (rest : List SessionEvent) :
    schedules (.stateChanged g before next :: rest) = schedules rest :=
  rfl

@[simp]
theorem schedules_crashed (g : Nat) (reason : CrashReason) (rest : List SessionEvent) :
    schedules (.crashed g reason :: rest) = schedules rest :=
  rfl

@[simp]
theorem schedules_restartScheduled (g attempt delay : Nat) (rest : List SessionEvent) :
    schedules (.restartScheduled g attempt delay :: rest) = ⟨g, attempt, delay⟩ :: schedules rest :=
  rfl

theorem mem_schedules {x : Scheduled} {events : List SessionEvent} :
    x ∈ schedules events ↔ .restartScheduled x.generation x.attempt x.delay ∈ events := by
  unfold schedules
  rw [List.mem_filterMap]
  constructor
  · rintro ⟨e, mem, found⟩
    cases e <;> simp only [schedule?, Option.some.injEq, reduceCtorEq] at found
    subst found
    exact mem
  · intro mem
    exact ⟨_, mem, rfl⟩

/-- After an event that schedules nothing, what follows a position inside a history is what
followed it before. -/
theorem scheduled_next_append {events rest : List SessionEvent} {x : SessionEvent}
    (unscheduled : x.schedule? = none) {i g : Nat} (inside : i < events.length) :
    (∃ attempt delay, (events ++ x :: rest)[i + 1]? = some (.restartScheduled g attempt delay)) ↔
      ∃ attempt delay, events[i + 1]? = some (.restartScheduled g attempt delay) := by
  rcases Nat.lt_or_ge (i + 1) events.length with before | last
  · rw [List.getElem?_append_left before]
  · have atEnd : i + 1 = events.length := by omega
    rw [atEnd, List.getElem?_append_right (le_refl _), Nat.sub_self, List.getElem?_eq_none (le_refl _)]
    constructor
    · rintro ⟨attempt, delay, same⟩
      simp only [List.getElem?_cons_zero, Option.some.injEq] at same
      rw [same] at unscheduled
      cases unscheduled
    · rintro ⟨attempt, delay, never⟩
      cases never

/-- The generations whose automatic restarts a history schedules, in order. -/
def restarted (events : List SessionEvent) : List Nat := (schedules events).map Scheduled.generation

theorem mem_restarted {g : Nat} {events : List SessionEvent} :
    g ∈ restarted events ↔ ∃ attempt delay, .restartScheduled g attempt delay ∈ events := by
  simp only [restarted, List.mem_map, mem_schedules]
  constructor
  · rintro ⟨x, mem, rfl⟩
    exact ⟨x.attempt, x.delay, mem⟩
  · rintro ⟨attempt, delay, mem⟩
    exact ⟨⟨g, attempt, delay⟩, mem, rfl⟩

@[simp]
theorem restarted_append (first second : List SessionEvent) :
    restarted (first ++ second) = restarted first ++ restarted second := by
  simp [restarted]

/-- The history of a supervisor since its count of automatic restarts was last zero, under a
restart policy, with the count it has reached: changes of state, and crashes, each followed at
once by the restart it schedules exactly when the policy allows one more after `count`. -/
inductive Budgeted (policy : RestartPolicy) : List SessionEvent → Nat → Prop where
  | nil : Budgeted policy [] 0
  | change {events : List SessionEvent} {count : Nat} (earlier : Budgeted policy events count)
      (g : Nat) (before after : SessionState) :
      Budgeted policy (events ++ [.stateChanged g before after]) count
  | armed {events : List SessionEvent} {count delay : Nat} (earlier : Budgeted policy events count)
      (g : Nat) (reason : CrashReason) (due : policy.delay? count = some delay) :
      Budgeted policy (events ++ [.crashed g reason, .restartScheduled g (count + 1) delay])
        (count + 1)
  | spent {events : List SessionEvent} {count : Nat} (earlier : Budgeted policy events count)
      (g : Nat) (reason : CrashReason) (exhausted : policy.delay? count = none) :
      Budgeted policy (events ++ [.crashed g reason]) count

namespace Budgeted

variable {policy : RestartPolicy} {events : List SessionEvent} {count : Nat}

/-- The attempts scheduled are 1, 2, ..., up to the count. -/
theorem attempts (kept : Budgeted policy events count) :
    (schedules events).map Scheduled.attempt = List.range' 1 count := by
  induction kept with
  | nil => rfl
  | change earlier g before after ih => simpa using ih
  | armed earlier g reason due ih => simp [ih, List.range'_concat, Nat.add_comm]
  | spent earlier g reason exhausted ih => simpa using ih

theorem length_schedules (kept : Budgeted policy events count) :
    (schedules events).length = count := by
  rw [← List.length_map Scheduled.attempt, kept.attempts, List.length_range']

/-- Each restart is scheduled with the delay the policy gives after the attempts before it. -/
theorem delays (kept : Budgeted policy events count) :
    ∀ x ∈ schedules events, policy.delay? (x.attempt - 1) = some x.delay := by
  induction kept with
  | nil => simp
  | change earlier g before after ih => simpa using ih
  | armed earlier g reason due ih =>
    intro x mem
    simp only [schedules_append, schedules_crashed, schedules_restartScheduled, schedules_nil,
      List.mem_append, List.mem_singleton] at mem
    rcases mem with old | rfl
    · exact ih x old
    · simpa using due
  | spent earlier g reason exhausted ih => simpa using ih

/-- Each restart scheduled comes right after the crash of the generation it names. -/
theorem follows (kept : Budgeted policy events count) {i g attempt delay : Nat}
    (scheduled : events[i]? = some (.restartScheduled g attempt delay)) :
    ∃ j reason, i = j + 1 ∧ events[j]? = some (.crashed g reason) := by
  induction kept generalizing i with
  | nil => simp at scheduled
  | @change history k earlier g' before after ih =>
    rcases Nat.lt_or_ge i history.length with inside | past
    · rw [List.getElem?_append_left inside] at scheduled
      obtain ⟨j, reason, rfl, crashedAt⟩ := ih scheduled
      exact ⟨j, reason, rfl, by rw [List.getElem?_append_left (by omega), crashedAt]⟩
    · rw [List.getElem?_append_right past] at scheduled
      cases gap : i - history.length <;> simp [gap] at scheduled
  | @armed history k d earlier g' reason due ih =>
    rcases Nat.lt_or_ge i history.length with inside | past
    · rw [List.getElem?_append_left inside] at scheduled
      obtain ⟨j, reason, rfl, crashedAt⟩ := ih scheduled
      exact ⟨j, reason, rfl, by rw [List.getElem?_append_left (by omega), crashedAt]⟩
    · rw [List.getElem?_append_right past] at scheduled
      obtain ⟨n, rfl⟩ : ∃ n, i = history.length + n := ⟨i - history.length, by omega⟩
      rw [Nat.add_sub_cancel_left] at scheduled
      -- the restart scheduled here is the second event added, after the crash
      rcases n with _ | _ | n
      · simp at scheduled
      · simp only [List.getElem?_cons_succ, List.getElem?_cons_zero, Option.some.injEq,
          SessionEvent.restartScheduled.injEq] at scheduled
        obtain ⟨rfl, -, -⟩ := scheduled
        exact ⟨history.length, reason, rfl, by simp⟩
      · simp at scheduled
  | @spent history k earlier g' reason exhausted ih =>
    rcases Nat.lt_or_ge i history.length with inside | past
    · rw [List.getElem?_append_left inside] at scheduled
      obtain ⟨j, reason, rfl, crashedAt⟩ := ih scheduled
      exact ⟨j, reason, rfl, by rw [List.getElem?_append_left (by omega), crashedAt]⟩
    · rw [List.getElem?_append_right past] at scheduled
      cases gap : i - history.length <;> simp [gap] at scheduled

/-- A crash is followed at once by a restart of its generation exactly when the policy allows
one more after the restarts scheduled before it. -/
theorem answered (kept : Budgeted policy events count) {i g : Nat} {reason : CrashReason}
    (crashedAt : events[i]? = some (.crashed g reason)) :
    (∃ attempt delay, events[i + 1]? = some (.restartScheduled g attempt delay)) ↔
      (policy.delay? (schedules (events.take i)).length).isSome := by
  induction kept generalizing i with
  | nil => simp at crashedAt
  | @change history k earlier g' before after ih =>
    rcases Nat.lt_or_ge i history.length with inside | past
    · rw [List.getElem?_append_left inside] at crashedAt
      rw [scheduled_next_append rfl inside, List.take_append_of_le_length inside.le]
      exact ih crashedAt
    · rw [List.getElem?_append_right past] at crashedAt
      cases gap : i - history.length <;> simp [gap] at crashedAt
  | @armed history k d earlier g' reason' due ih =>
    rcases Nat.lt_or_ge i history.length with inside | past
    · rw [List.getElem?_append_left inside] at crashedAt
      rw [scheduled_next_append rfl inside, List.take_append_of_le_length inside.le]
      exact ih crashedAt
    · rw [List.getElem?_append_right past] at crashedAt
      obtain ⟨n, rfl⟩ : ∃ n, i = history.length + n := ⟨i - history.length, by omega⟩
      rw [Nat.add_sub_cancel_left] at crashedAt
      -- the crash here is the first event added, and the restart it arms follows it
      rcases n with _ | n
      · simp only [List.getElem?_cons_zero, Option.some.injEq, SessionEvent.crashed.injEq]
          at crashedAt
        obtain ⟨rfl, -⟩ := crashedAt
        simp [earlier.length_schedules, due]
      · rcases n with _ | n <;> simp at crashedAt
  | @spent history k earlier g' reason' exhausted ih =>
    rcases Nat.lt_or_ge i history.length with inside | past
    · rw [List.getElem?_append_left inside] at crashedAt
      rw [scheduled_next_append rfl inside, List.take_append_of_le_length inside.le]
      exact ih crashedAt
    · rw [List.getElem?_append_right past] at crashedAt
      obtain ⟨n, rfl⟩ : ∃ n, i = history.length + n := ⟨i - history.length, by omega⟩
      rw [Nat.add_sub_cancel_left] at crashedAt
      -- the crash here is the last event: nothing follows it, and the policy allows no more
      rcases n with _ | n
      · simp [earlier.length_schedules, exhausted]
      · simp at crashedAt

/-- Under the automatic policy the count never passes the number of restarts allowed. -/
theorem within {maxRestarts backoff : Nat}
    (kept : Budgeted (.automatic maxRestarts backoff) events count) : count ≤ maxRestarts := by
  induction kept with
  | nil => exact Nat.zero_le _
  | change earlier g before after ih => exact ih
  | armed earlier g reason due ih =>
    simp only [RestartPolicy.delay?] at due
    split at due
    · omega
    · cases due
  | spent earlier g reason exhausted ih => exact ih

end Budgeted

end SessionEvent

end Server

namespace Engine

open Json Rpc Client Server

/-- The generation whose automatic restart a task stands for: a restart delay, or the automatic
restart at any stage. -/
def Task.automatic? : Task → Option Nat
  | .restartDelay gen _ _ => some gen
  | .lifecycle _ (.autoRestart gen) _ => some gen
  | _ => none

/-- A task that stands for an automatic restart is armed, a delay or the restart at the lock, or
is the restart past the lock. -/
theorem Task.automatic?_eq_some {t : Task} {g : Nat} (restarting : t.automatic? = some g) :
    t.restartOf = some g ∨ ∃ handle stage, t = .lifecycle handle (.autoRestart g) stage ∧
      stage ≠ .locking := by
  cases t with
  | lifecycle handle op stage =>
    cases op <;> simp only [automatic?, reduceCtorEq, Option.some.injEq] at restarting
    subst restarting
    cases stage
    case locking => exact .inl rfl
    all_goals exact .inr ⟨handle, _, rfl, by simp⟩
  | restartDelay gen delay timer? =>
    simp only [automatic?, Option.some.injEq] at restarting
    subst restarting
    exact .inl rfl
  | _ => simp [automatic?] at restarting

/-- An operation that resets the count is the host's. -/
theorem LifecycleOp.isHost_of_resetsCount {op : LifecycleOp} (resets : op.resetsCount = true) :
    op.isHost = true := by
  cases op <;> simp_all [LifecycleOp.resetsCount, LifecycleOp.isHost]

namespace World

variable {v v' w w' : World}

@[simp]
theorem supervision_spawn (t : Task) : (w.spawn t).1.supervision = w.supervision :=
  rfl

@[simp]
theorem events_spawn (t : Task) : (w.spawn t).1.events = w.events :=
  rfl

@[simp]
theorem pendingRestarts_modifySup (f : Supervision → Supervision) :
    (w.modifySup f).pendingRestarts = w.pendingRestarts :=
  rfl

@[simp]
theorem pendingRestarts_emit (e : SessionEvent) : (w.emit e).pendingRestarts = w.pendingRestarts :=
  rfl

/-- The restarts armed depend on the tasks alone. -/
theorem pendingRestarts_of_tasks (tasks : w'.tasks = w.tasks) :
    w'.pendingRestarts = w.pendingRestarts := by
  unfold pendingRestarts
  rw [tasks]

/-- What one change of the supervisor does to its history, its count of automatic restarts and
the restarts armed: nothing to the history, a change of state, or a crash that records itself
and then schedules and arms a restart exactly when the policy allows one more. -/
inductive Records (v v' : World) : Prop where
  | quiet (events : v'.events = v.events)
      (count : v'.supervision.restarts = v.supervision.restarts ∨ v'.supervision.restarts = 0)
      (armed : v'.pendingRestarts ⊆ v.pendingRestarts)
  | change (g : Nat) (before after : SessionState)
      (events : v'.events = v.events ++ [.stateChanged g before after])
      (count : v'.supervision.restarts = v.supervision.restarts)
      (armed : v'.pendingRestarts = v.pendingRestarts)
  | spent (g : Nat) (before : SessionState) (reason : CrashReason)
      (exhausted : v.supervision.config.restart.delay? v.supervision.restarts = none)
      (events : v'.events = v.events ++ [.stateChanged g before .crashed, .crashed g reason])
      (count : v'.supervision.restarts = v.supervision.restarts)
      (armed : v'.pendingRestarts = v.pendingRestarts)
  | arms (g : Nat) (before : SessionState) (reason : CrashReason) (delay : Nat)
      (due : v.supervision.config.restart.delay? v.supervision.restarts = some delay)
      (events : v'.events = v.events ++ [.stateChanged g before .crashed, .crashed g reason,
        .restartScheduled g (v.supervision.restarts + 1) delay])
      (count : v'.supervision.restarts = v.supervision.restarts + 1)
      (armed : v'.pendingRestarts = v.pendingRestarts ++ [(v.nextTask, g)])

/-- The inversion lemma for the supervisor's changes: each is one of the four kinds of
`Records`, and keeps the configuration and never lowers the generation. -/
theorem SupStep.records (supervised : v.sup.isSome) (step : SupStep v v') :
    Records v v' ∧ v'.supervision.config = v.supervision.config ∧
      v.supervision.generation ≤ v'.supervision.generation := by
  have same : ∀ {u : World}, u.tasks = v.tasks → u.pendingRestarts ⊆ v.pendingRestarts :=
    fun tasks _ mem => pendingRestarts_of_tasks tasks ▸ mem
  cases step with
  | quiet lasts course events =>
    simp only [Supervision.course, Prod.mk.injEq] at course
    exact ⟨.quiet events (.inl course.2.2.1) lasts.restarts, course.2.2.2, course.2.1.ge⟩
  | transition gen next notStart =>
    rcases moved : v.transition gen next with ⟨_ | _, w₁⟩
    · obtain ⟨rfl, -⟩ := transition_eq_false moved
      exact ⟨.quiet rfl (.inl rfl) (same rfl), rfl, le_rfl⟩
    · obtain ⟨-, -, rfl⟩ := transition_eq_true moved
      exact ⟨.change _ _ _ rfl (by simp [supervision_modifySup, supervised])
        (pendingRestarts_of_tasks rfl), by simp [supervision_modifySup, supervised],
        by simp [supervision_modifySup, supervised]⟩
  | begin =>
    unfold beginSession
    dsimp only
    split
    · exact ⟨.change _ _ _ rfl (by simp [supervision_modifySup, supervised])
        (pendingRestarts_of_tasks rfl), by simp [supervision_modifySup, supervised],
        by simp [supervision_modifySup, supervised]⟩
    · exact ⟨.quiet rfl (.inl rfl) (same rfl), rfl, le_rfl⟩
  | crash gen reason =>
    unfold crashed
    rcases moved : v.transition (some gen) .crashed with ⟨_ | _, w₁⟩
    · obtain ⟨rfl, -⟩ := transition_eq_false moved
      exact ⟨.quiet rfl (.inl rfl) (same rfl), rfl, le_rfl⟩
    · obtain ⟨-, -, rfl⟩ := transition_eq_true moved
      dsimp only
      split
      · rename_i exhausted
        simp only [supervision_emit, supervision_modifySup supervised] at exhausted
        exact ⟨.spent gen v.supervision.state reason exhausted (by simp)
          (by simp [supervision_modifySup, supervised]) (pendingRestarts_of_tasks rfl),
          by simp [supervision_modifySup, supervised], by simp [supervision_modifySup, supervised]⟩
      · rename_i delay due
        simp only [supervision_emit, supervision_modifySup supervised] at due
        refine ⟨.arms gen v.supervision.state reason delay due ?_ ?_ ?_, ?_, ?_⟩
        · simp [supervision_modifySup, supervised]
        · simp [supervision_modifySup, supervised]
        · simp [Task.restartOf]
        · simp [supervision_modifySup, supervised]
        · simp [supervision_modifySup, supervised]
  | reset =>
    exact ⟨.quiet rfl (.inr (by simp [supervision_modifySup, supervised])) (same rfl),
      by simp [supervision_modifySup, supervised], by simp [supervision_modifySup, supervised]⟩

/-- A chain of the supervisor's changes keeps it installed. -/
theorem Recorded.sup_isSome (recorded : Recorded v v') (supervised : v.sup.isSome) :
    v'.sup.isSome :=
  Recorded.preserve (fun installed _ step => step.supervised.trans installed) recorded supervised
    supervised

section Budget

open SessionEvent

variable {base new : List SessionEvent}

/-- The step lemma for the grammar of the history: a change of the supervisor that does not lower
the count adds to the history what the grammar allows. -/
theorem budgeted_supStep (supervised : v.sup.isSome) (events : v.events = base ++ new)
    (kept : Budgeted v.supervision.config.restart new v.supervision.restarts) (step : SupStep v v')
    (rising : v.supervision.restarts ≤ v'.supervision.restarts) :
    ∃ added, v'.events = base ++ (new ++ added) ∧
      Budgeted v'.supervision.config.restart (new ++ added) v'.supervision.restarts := by
  obtain ⟨records, config, -⟩ := step.records supervised
  rw [config]
  cases records with
  | quiet same count armed =>
    refine ⟨[], by simp [same, events], ?_⟩
    rcases count with count | reset
    · simpa [count] using kept
    · -- a reset that lowers nothing found the count at zero already
      have zero : v.supervision.restarts = 0 := by omega
      rw [reset, List.append_nil, ← zero]
      exact kept
  | change g before after same count armed =>
    refine ⟨[.stateChanged g before after], by simp [same, events], ?_⟩
    rw [count]
    exact kept.change g before after
  | spent g before reason exhausted same count armed =>
    refine ⟨[.stateChanged g before .crashed, .crashed g reason], by simp [same, events], ?_⟩
    rw [count]
    simpa using (kept.change g before .crashed).spent g reason exhausted
  | arms g before reason delay due same count armed =>
    refine ⟨[.stateChanged g before .crashed, .crashed g reason,
      .restartScheduled g (v.supervision.restarts + 1) delay], by simp [same, events], ?_⟩
    rw [count]
    simpa using (kept.change g before .crashed).armed g reason due

/-- The run lemma for the grammar: every chain of changes that never lowers the count keeps the
history since the count was zero a word of the grammar. -/
theorem Budgeted.rising (rising : Rising v v') (supervised : v.sup.isSome)
    (events : v.events = base ++ new)
    (kept : Budgeted v.supervision.config.restart new v.supervision.restarts) :
    ∃ added, v'.events = base ++ (new ++ added) ∧
      Budgeted v'.supervision.config.restart (new ++ added) v'.supervision.restarts := by
  induction rising with
  | refl => exact ⟨[], by simp [events], by simpa using kept⟩
  | tail earlier last ih =>
    obtain ⟨added, grown, kept'⟩ := ih
    obtain ⟨more, grown', kept''⟩ := budgeted_supStep
      ((Rising.recorded earlier).sup_isSome supervised) grown kept' last.1 last.2
    exact ⟨added ++ more, by simpa using grown', by simpa using kept''⟩

end Budget

/-- Every restart armed between two worlds was armed by a crash recorded in between, together with
the restart it scheduled. -/
def ArmedBetween (v v' : World) : Prop :=
  ∃ added, v'.events = v.events ++ added ∧ ∀ q ∈ v'.pendingRestarts, q ∈ v.pendingRestarts ∨
    ((∃ reason, .crashed q.2 reason ∈ added) ∧
      ∃ attempt delay, .restartScheduled q.2 attempt delay ∈ added)

namespace ArmedBetween

variable {w₁ w₂ w₃ : World}

theorem refl (w : World) : ArmedBetween w w :=
  ⟨[], by simp, fun _ mem => .inl mem⟩

theorem trans (first : ArmedBetween w₁ w₂) (second : ArmedBetween w₂ w₃) :
    ArmedBetween w₁ w₃ := by
  obtain ⟨added, grown, armed⟩ := first
  obtain ⟨more, grown', armed'⟩ := second
  refine ⟨added ++ more, by simp [grown', grown], fun q mem => ?_⟩
  rcases armed' q mem with old | ⟨⟨reason, crash⟩, attempt, delay, scheduled⟩
  · rcases armed q old with older | ⟨⟨reason, crash⟩, attempt, delay, scheduled⟩
    · exact .inl older
    · exact .inr ⟨⟨reason, List.mem_append_left _ crash⟩, attempt, delay,
        List.mem_append_left _ scheduled⟩
  · exact .inr ⟨⟨reason, List.mem_append_right _ crash⟩, attempt, delay,
      List.mem_append_right _ scheduled⟩

/-- Only a crash arms a restart, and it schedules it as it does. -/
theorem supStep (supervised : v.sup.isSome) (step : SupStep v v') : ArmedBetween v v' := by
  obtain ⟨records, -, -⟩ := step.records supervised
  cases records with
  | quiet same count armed => exact ⟨[], by simp [same], fun q mem => .inl (armed mem)⟩
  | change g before after same count armed =>
    exact ⟨_, same, fun q mem => .inl (armed ▸ mem)⟩
  | spent g before reason exhausted same count armed =>
    exact ⟨_, same, fun q mem => .inl (armed ▸ mem)⟩
  | arms g before reason delay due same count armed =>
    refine ⟨_, same, fun q mem => ?_⟩
    rw [armed, List.mem_append, List.mem_singleton] at mem
    rcases mem with old | rfl
    · exact .inl old
    · exact .inr ⟨⟨reason, by simp⟩, v.supervision.restarts + 1, delay, by simp⟩

theorem recorded (recorded : Recorded v v') (supervised : v.sup.isSome) : ArmedBetween v v' := by
  induction recorded with
  | refl => exact refl _
  | tail earlier last ih =>
    exact ih.trans (supStep (Recorded.sup_isSome earlier supervised) last)

end ArmedBetween

/-! ### Where an operation's own turn leaves it -/

/-- Operation `tid` waits, if anywhere, only at a stage `stages` allows. -/
def WaitsOnlyAt (w : World) (tid : Nat) (stages : Stage → Prop) : Prop :=
  ∀ handle op stage, (tid, Task.lifecycle handle op stage) ∈ w.tasks → stages stage

namespace WaitsOnlyAt

variable {tid : Nat} {S : Stage → Prop}

/-- An operation that ends is filed nowhere. -/
theorem finishOp (w : World) (tid : Nat) (handle : Option Nat) (r : Except Server.Error Unit) :
    WaitsOnlyAt (w.finishOp tid handle r) tid S := by
  intro h o stage mem
  unfold World.finishOp at mem
  split at mem
  · exact absurd rfl (mem_dropTask.mp mem).1
  · exact absurd rfl (mem_dropTask.mp mem).1

theorem failHandshake (w : World) (tid : Nat) (handle : Option Nat) (gen c : Nat)
    (failure : String) : WaitsOnlyAt (w.failHandshake tid handle gen c failure) tid S := by
  unfold World.failHandshake
  exact finishOp _ tid handle _

theorem handshakeDone (w : World) (tid : Nat) (handle : Option Nat) (gen c : Nat)
    (r : Except Rpc.Error Value) : WaitsOnlyAt (w.handshakeDone tid handle gen c r) tid S := by
  unfold World.handshakeDone
  split
  · exact failHandshake w tid handle gen c _
  split
  · exact failHandshake w tid handle gen c _
  split
  · exact failHandshake w tid handle gen c _
  dsimp only
  split
  · exact finishOp _ tid handle _
  · exact failHandshake _ tid handle gen c _

theorem handshakeTimeout (w : World) (tid : Nat) (handle : Option Nat) (gen c : Nat)
    (call : Call) : WaitsOnlyAt (w.handshakeTimeout tid handle gen c call) tid S := by
  unfold World.handshakeTimeout
  exact failHandshake _ tid handle gen c _

theorem setStage (w : World) (tid : Nat) {handle : Option Nat} {op : LifecycleOp} {stage : Stage}
    (allowed : S stage) : WaitsOnlyAt (w.setTask tid (.lifecycle handle op stage)) tid S := by
  intro h o s mem
  rcases mem_setTask.mp mem with ⟨-, same, -⟩ | ⟨other, -⟩
  · cases same
    exact allowed
  · exact absurd rfl other

/-- The wait for `initialize` leaves the operation, if anywhere, at its handshake stage. -/
theorem awaitInitialize (w : World) (tid : Nat) (handle : Option Nat) (op : LifecycleOp)
    (gen c : Nat) (call : Call) (t : Timer) (allowed : S (.handshake gen c call t)) :
    WaitsOnlyAt (w.awaitInitialize tid handle op gen c call t) tid S := by
  unfold World.awaitInitialize
  split
  · exact handshakeDone w tid handle gen c _
  · split
    · exact handshakeTimeout w tid handle gen c _
    · exact setStage w tid allowed

/-- A fresh start leaves its operation, if anywhere, at the handshake. -/
theorem startFresh (w : World) (tid : Nat) (handle : Option Nat) (op : LifecycleOp) :
    WaitsOnlyAt (w.startFresh tid handle op) tid fun stage => stage.shakes := by
  unfold World.startFresh
  split
  · exact finishOp _ tid handle _
  · dsimp only
    split
    · exact finishOp _ tid handle _
    · -- the launch succeeded: the handshake ends, times out or waits
      rename_i c w₂ succeeded
      generalize World.stepCall _ c _ = p
      obtain ⟨w₃, call⟩ := p
      dsimp only
      exact awaitInitialize _ tid handle op _ c call _ rfl

/-- Once the crashed session's monitor is done, the start that follows leaves its operation, if
anywhere, at the handshake. -/
theorem afterClear (w : World) (tid : Nat) (handle : Option Nat) (op : LifecycleOp) (c : Nat) :
    WaitsOnlyAt (w.afterClear tid handle op c) tid fun stage => stage.shakes := by
  unfold World.afterClear
  exact startFresh _ tid handle op

end WaitsOnlyAt

/-- The turn of an operation clearing a crashed session leaves the world as it is, or, once the
monitor is done, leaves the operation, if anywhere, at the handshake. -/
theorem clearingTurn {tid c : Nat} {handle : Option Nat} {op : LifecycleOp}
    (found : w.task? tid = some (.lifecycle handle op (.clearing c))) :
    w.pollTask tid = w ∨ (w.pollTask tid).WaitsOnlyAt tid fun stage => stage.shakes := by
  simp only [pollTask, found]
  dsimp only [pollLifecycle]
  split
  · exact .inr (WaitsOnlyAt.afterClear _ tid handle op c)
  · exact .inl rfl

/-- The turn of an operation at the handshake leaves it, if anywhere, at the handshake. -/
theorem handshakeTurn {tid gen c : Nat} {handle : Option Nat} {op : LifecycleOp} {call : Call}
    {t : Timer} (found : w.task? tid = some (.lifecycle handle op (.handshake gen c call t))) :
    (w.pollTask tid).WaitsOnlyAt tid fun stage => stage.shakes := by
  simp only [pollTask, found]
  dsimp only [pollLifecycle]
  rcases w.stepCall c call with ⟨w₁, call'⟩
  exact WaitsOnlyAt.awaitInitialize w₁ tid handle op gen c call' t rfl

/-- A host's start or restart that takes the lock goes on from a world with the history and the
configuration it found and the count reset, by a chain of changes that never lowers the count. -/
theorem opening (supervised : w.sup.isSome) {tid : Nat} (takes : w.HostTakesLock tid) :
    ∃ v : World, v.events = w.events ∧ v.supervision.restarts = 0 ∧
      v.supervision.config = w.supervision.config ∧ v.sup.isSome ∧ Rising v (w.pollTask tid) := by
  obtain ⟨handle, op, found, resets, free⟩ := takes
  simp only [pollTask, found]
  dsimp only [pollLifecycle]
  split
  · exact ⟨w.modifySup fun s => { s with restarts := 0 }, rfl,
      by simp [supervision_modifySup, supervised], by simp [supervision_modifySup, supervised],
      by simpa using supervised, Rising.afterReset w tid handle resets⟩
  · split
    · exact ⟨(w.modifySup fun s => { s with lockHolder := some tid }).modifySup
        fun s => { s with restarts := 0 }, rfl, by simp [supervision_modifySup, supervised],
        by simp [supervision_modifySup, supervised], by simpa using supervised,
        Rising.afterReset _ tid handle resets⟩
    · rename_i notHeld taken
      rcases free with held | none
      · rw [held] at notHeld
        simp at notHeld
      · rw [none] at taken
        exact absurd rfl taken

/-! ### Along every run -/

/-- The restart policy never changes along a run of the host. -/
theorem restart_run (lawful : w.Lawful) (moves : Relation.ReflTransGen Move w w') :
    w'.supervision.config.restart = w.supervision.config.restart :=
  Move.preserve (P := fun v => v.supervision.config.restart = w.supervision.config.restart)
    (fun supervised same step => by rw [(step.records supervised).2.1]; exact same) lawful moves rfl

/-- Every restart armed is of a generation whose crash is recorded. -/
def RestartsCrashed (w : World) : Prop :=
  ∀ q ∈ w.pendingRestarts, q.2 ∈ SessionEvent.crashes w.events

/-- The step lemma: a change of the supervisor arms a restart only with the crash it records. -/
theorem RestartsCrashed.supStep (supervised : v.sup.isSome) (crashed : v.RestartsCrashed)
    (step : SupStep v v') : v'.RestartsCrashed := by
  obtain ⟨added, events, armed⟩ := ArmedBetween.supStep supervised step
  intro q mem
  rw [events, SessionEvent.crashes_append, List.mem_append]
  rcases armed q mem with old | ⟨⟨reason, crash⟩, -⟩
  · exact .inl (crashed q old)
  · exact .inr (List.mem_filterMap.mpr ⟨_, crash, rfl⟩)

/-- The run lemma: along every run from a world whose armed restarts have their crashes recorded,
so do all that are armed later. -/
theorem RestartsCrashed.run (lawful : w.Lawful) (crashed : w.RestartsCrashed)
    (moves : Relation.ReflTransGen Move w w') : w'.RestartsCrashed :=
  Move.preserve (fun supervised held step => held.supStep supervised step) lawful moves crashed

/-! ### An interval of the budget -/

/-- The generation whose automatic restart begins a session at the turn of task `tid`, if one
does: the task stands for the automatic restart of that generation and the turn moves the
generation on. -/
def restartLaunch (w : World) (tid : Nat) : List Nat :=
  match (w.task? tid).bind Task.automatic? with
  | some g => if (w.pollTask tid).supervision.generation = w.supervision.generation then [] else [g]
  | none => []

/-- A run of the host's moves from `w₀` in which no host's start or restart takes the lock,
recording, in order, the generations whose automatic restart began a session along it. -/
inductive CalmRun (w₀ : World) : World → List Nat → Prop where
  | start : CalmRun w₀ w₀ []
  | request {w : World} {launched : List Nat} (earlier : CalmRun w₀ w launched)
      (handle : Option Nat) (op : LifecycleOp) (host : op.isHost = true) :
      CalmRun w₀ (w.spawn (.lifecycle handle op .locking)).1 launched
  | failLaunch {w : World} {launched : List Nat} (earlier : CalmRun w₀ w launched)
      (reason : String) :
      CalmRun w₀ (w.modifySup fun s => { s with failNext := some reason }) launched
  | turn {w : World} {launched : List Nat} (earlier : CalmRun w₀ w launched) (tid : Nat)
      (calm : ¬ w.HostTakesLock tid) : CalmRun w₀ (w.pollTask tid) (launched ++ w.restartLaunch tid)
  | outside {w w' : World} {launched : List Nat} (earlier : CalmRun w₀ w launched)
      (keeps : KeepsSupervisor w w') (lasts : Lasts w w') : CalmRun w₀ w' launched

/-- A calm run is a run of the host. -/
theorem CalmRun.moves {launched : List Nat} (run : CalmRun v w launched) :
    Relation.ReflTransGen Move v w := by
  induction run with
  | start => exact .refl
  | request earlier handle op host ih => exact ih.tail (.request _ handle op host)
  | failLaunch earlier reason ih => exact ih.tail (.failLaunch _ reason)
  | turn earlier tid calm ih => exact ih.tail (.turn _ tid)
  | outside earlier keeps lasts ih => exact ih.tail (.outside keeps lasts)

/-- What holds along an interval of the budget opened by the host's operation `host` over the
history `base`, with `new` the events since and `launched` the generations whose automatic
restart began a session since: the supervisor's invariant and the stages operations wait at;
the events since a word of the grammar; every restart armed scheduled since, or cancelled; an
automatic restart clearing a crashed session over its own generation, scheduled since; and each
generation launched scheduled since, launched once, and below the current one. -/
structure BudgetKept (host : Nat) (base : List SessionEvent) (w : World) (new : List SessionEvent)
    (launched : List Nat) : Prop where
  lawful : w.Lawful
  fits : w.StagesFit
  events : w.events = base ++ new
  budgeted : SessionEvent.Budgeted w.supervision.config.restart new w.supervision.restarts
  armed : ∀ r g, (r, g) ∈ w.pendingRestarts →
    g ∈ SessionEvent.restarted new ∨ w.Cancelled g host
  clearing : ∀ j handle g c, (j, .lifecycle handle (.autoRestart g) (.clearing c)) ∈ w.tasks →
    w.supervision.generation = g ∧ g ∈ SessionEvent.restarted new
  launches : ∀ g ∈ launched, g ∈ SessionEvent.restarted new
  once : launched.Nodup
  below : ∀ g ∈ launched, g < w.supervision.generation

/-- The interval opens: once a host's start or restart takes the lock, the events since form a
word of the grammar, no automatic restart is past the lock, and every restart armed before is
cancelled, its generation over for good or crashed under the host's operation. -/
theorem BudgetKept.opening {w₀ : World} {host : Nat} (fresh : w₀.Fresh)
    (quiet : w₀.pendingRestarts = []) (moves : Relation.ReflTransGen Move w₀ w)
    (takes : w.HostTakesLock host) : ∃ new, BudgetKept host w.events (w.pollTask host) new [] := by
  have lawful := fresh.lawful.run (Move.run moves)
  have settled := CrashesSettled.run fresh moves
  have crashed : w.RestartsCrashed :=
    RestartsCrashed.run fresh.lawful (fun q mem => by simp [quiet] at mem) moves
  have turn := Recorded.pollTask lawful.numbered host
  obtain ⟨v, events, zero, config, supervised, rising⟩ := World.opening lawful.supervised takes
  have begins : SessionEvent.Budgeted v.supervision.config.restart [] v.supervision.restarts :=
    zero ▸ .nil
  have onBase : v.events = w.events ++ [] := by simp [events]
  obtain ⟨new, grown, budgeted⟩ := Budgeted.rising rising supervised onBase begins
  obtain ⟨added, grownArmed, born⟩ := ArmedBetween.recorded turn lawful.supervised
  have same : added = new := by
    rw [grown, List.nil_append] at grownArmed
    exact (List.append_cancel_left grownArmed).symm
  subst same
  obtain ⟨handle, op, found, resets, free⟩ := takes
  refine ⟨added, {
    lawful := (lawful.turn host).lawful
    fits := (StagesFit.run fresh (Move.run moves)).step lawful.numbered (.turn w host)
    events := by simpa using grown
    budgeted := by simpa using budgeted
    armed := ?_
    clearing := ?_
    launches := by simp
    once := .nil
    below := by simp }⟩
  · intro r g pending
    rcases born (r, g) pending with old | ⟨-, attempt, delay, scheduled⟩
    · -- armed before: its generation crashed, so it is over for good or lies crashed
      refine .inr ?_
      obtain ⟨-, notLive⟩ := settled.past g (crashed (r, g) old)
      have gone : w.supervision.Gone g → (w.pollTask host).Cancelled g host :=
        fun gone => .inl (gone_of_recorded lawful.supervised gone turn)
      rcases Nat.lt_or_ge g w.supervision.generation with older | atLeast
      · exact gone (.inl older)
      · have current : w.supervision.generation = g := by
          have := (settled.past g (crashed (r, g) old)).1
          omega
        cases state : w.supervision.state
        case stopped => exact gone (.inr ⟨current, .inr state⟩)
        case stopping => exact gone (.inr ⟨current, .inl state⟩)
        case starting => exact absurd ⟨current, .inl state⟩ notLive
        case running => exact absurd ⟨current, .inr state⟩ notLive
        case crashed =>
          exact cancelled_hostTurn lawful found (LifecycleOp.isHost_of_resetsCount resets)
            free.symm ⟨current, state⟩
    · exact .inl (SessionEvent.mem_restarted.mpr ⟨attempt, delay, scheduled⟩)
  · intro j h g c mem
    have filed : Filed w (w.pollTask host) host op op.waitsAt :=
      Filed.pollTask_as lawful.numbered host
        (fun h' o s f => StagesFit.run fresh (Move.run moves) host h' o s (mem_of_task? f))
        fun t f => .inl (by rw [found] at f; cases f; rfl)
    rcases filed j h (.autoRestart g) (.clearing c) mem with old | ⟨-, same, -⟩
    · -- an operation clearing a session holds the lock, which the host's found free or its own
      have held := lawful.alone j h _ _ old (by simp)
      rcases free with own | none
      · rw [own] at held
        cases held
        cases lawful.numbered.eq_of_mem (mem_of_task? found) old
      · rw [none] at held
        cases held
    · subst same
      simp [LifecycleOp.resetsCount] at resets

end World

end Engine

end LspBridge
