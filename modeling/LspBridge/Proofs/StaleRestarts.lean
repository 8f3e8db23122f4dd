import LspBridge.Proofs.RestartBudget
/-!
# Automatic restarts of a stale generation begin nothing

The automatic restart of generation `g` is a delay, then an operation that takes the lifecycle
lock, clears the crashed session and begins a new one. At the lock it goes ahead only over `g`
current and crashed (`generation_restartTurn`, `generation_of_clearing`). Past it, while it waits
to clear the crashed session, it holds the lock and no other task begins a session, so `g` stays
current (`World.ClearsCurrent`, kept along every run by `ClearsCurrent.run`).

So at every stage a turn of the automatic restart of `g` that goes past the lock or begins a
session finds `g` current and crashed (`current_of_automaticTurn`), and once a host's operation
has taken the lock over the crashed generation the restart begins nothing at any stage
(`Cancelled.automaticTurn`).

Main statement (`stale_generations_never_act`), with the facts of `StaleGenerations`: a crash acts
only while its generation is live, each generation's crash is recorded once, an older session's
monitor leaves the supervisor alone, and automatic restarts go ahead only as above.
-/

namespace LspBridge

namespace Engine

open Json Rpc Client Server

namespace World

variable {w w' : World}

/-- A turn files anew no lifecycle operation but the one its task stands for, under its own id. -/
theorem filed_turn (numbered : w.WellNumbered) (fits : w.StagesFit) {tid j : Nat}
    {handle : Option Nat} {o : LifecycleOp} {stage : Stage}
    (fresh : (j, Task.lifecycle handle o stage) ∉ w.tasks)
    (mem : (j, Task.lifecycle handle o stage) ∈ (w.pollTask tid).tasks) :
    j = tid ∧ ∃ t, w.task? tid = some t ∧ t.operation? = some o := by
  have fitsTask : ∀ h o' stage', w.task? tid = some (.lifecycle h o' stage') → o'.waitsAt stage' :=
    fun h o' stage' found => fits tid h o' stage' (mem_of_task? found)
  cases found : w.task? tid with
  | none =>
    -- no task, no change
    simp only [pollTask, found] at mem
    exact absurd mem fresh
  | some t =>
    cases stands : t.operation? with
    | none =>
      -- a task that stands for no operation files none: not a start, and not a stop either
      have filedAs : ∀ op : LifecycleOp, Filed w (w.pollTask tid) tid op op.waitsAt := fun op =>
        Filed.pollTask_as numbered tid fitsTask fun u found' => by
          rw [found, Option.some.injEq] at found'
          exact .inr (found' ▸ stands)
      rcases filedAs .start j handle o stage mem with old | ⟨-, asStart, -⟩
      · exact absurd old fresh
      rcases filedAs .stop j handle o stage mem with old | ⟨-, asStop, -⟩
      · exact absurd old fresh
      rw [asStart] at asStop
      cases asStop
    | some o' =>
      have filed : Filed w (w.pollTask tid) tid o' o'.waitsAt :=
        Filed.pollTask_as numbered tid fitsTask fun u found' => by
          rw [found, Option.some.injEq] at found'
          exact .inl (found' ▸ stands)
      rcases filed j handle o stage mem with old | ⟨same, rfl, -⟩
      · exact absurd old fresh
      · exact ⟨same, t, rfl, stands⟩

/-- The holder of the lock clearing a crashed session finds the state crashed. -/
theorem Lawful.crashed_of_clearing (lawful : w.Lawful) {j c : Nat} {handle : Option Nat}
    {op : LifecycleOp} (mem : (j, Task.lifecycle handle op (.clearing c)) ∈ w.tasks) :
    w.supervision.lockHolder = some j ∧ w.supervision.state = .crashed := by
  have held := lawful.alone j handle op _ mem (by simp)
  exact ⟨held, (lawful.atStage mem held).1⟩

/-! ### Past the lock -/

/-- An automatic restart that a turn files anew clearing a crashed session is the turn's own task,
armed as a delay or at the lock, which went ahead over its own crash; the generation it stands for
stays current. -/
theorem clearing_new (lawful : w.Lawful) (fits : w.StagesFit) (tid : Nat) {j g c : Nat}
    {handle : Option Nat}
    (fresh : (j, Task.lifecycle handle (.autoRestart g) (.clearing c)) ∉ w.tasks)
    (mem : (j, Task.lifecycle handle (.autoRestart g) (.clearing c)) ∈ (w.pollTask tid).tasks) :
    ∃ t, w.task? tid = some t ∧ t.restartOf = some g ∧
      w.supervision.generation = g ∧ w.supervision.state = .crashed ∧
      (w.supervision.lockHolder = some tid ∨ w.supervision.lockHolder = none) ∧
      (w.pollTask tid).supervision.generation = g := by
  obtain ⟨rfl, t, found, stands⟩ := filed_turn lawful.numbered fits fresh mem
  cases t with
  | restartDelay g' delay timer? =>
    simp only [Task.operation?, Option.some.injEq, LifecycleOp.autoRestart.injEq] at stands
    subst stands
    exact ⟨_, found, rfl, generation_of_clearing lawful.numbered found rfl mem⟩
  | lifecycle h o stage =>
    simp only [Task.operation?, Option.some.injEq] at stands
    subst stands
    cases stage
    case locking => exact ⟨_, found, rfl, generation_of_clearing lawful.numbered found rfl mem⟩
    case clearing c' =>
      -- clearing already, it clears the session or waits and changes nothing
      rcases clearingTurn found with unchanged | waits
      · rw [unchanged] at mem
        exact absurd mem fresh
      · exact absurd (waits handle _ _ mem) (by simp [Stage.shakes])
    case handshake => exact absurd (handshakeTurn found handle _ _ mem) (by simp [Stage.shakes])
    all_goals
      -- an automatic restart waits at no stage of a stop
      have allowed := fits j h _ _ (mem_of_task? found)
      simp [LifecycleOp.waitsAt, LifecycleOp.reaches, Stage.starts] at allowed
  | _ => simp [Task.operation?] at stands

/-- While an automatic restart waits to clear a crashed session, a turn keeps the generation: its
own turn begins no session while it still waits, and no other task can begin one. -/
theorem generation_clearing_turn (lawful : w.Lawful) {j g c : Nat} {handle : Option Nat}
    (old : (j, Task.lifecycle handle (.autoRestart g) (.clearing c)) ∈ w.tasks)
    (current : w.supervision.generation = g) (tid : Nat)
    (mem : (j, Task.lifecycle handle (.autoRestart g) (.clearing c)) ∈ (w.pollTask tid).tasks) :
    (w.pollTask tid).supervision.generation = g := by
  obtain ⟨held, crashedState⟩ := lawful.crashed_of_clearing old
  by_cases same : tid = j
  · subst same
    rcases clearingTurn (task?_of_mem lawful.numbered old) with unchanged | waits
    · rw [unchanged]
      exact current
    · exact absurd (waits handle _ _ mem) (by simp [Stage.shakes])
  · have asleep : ∀ gen, ¬ w.supervision.Live gen := by
      rintro gen ⟨-, starting | running⟩
      · rw [crashedState] at starting
        cases starting
      · rw [crashedState] at running
        cases running
    rw [(KeepsHolder.otherTurn lawful held asleep same).generation]
    exact current

/-- Past the lock, an automatic restart begins a session only at a turn clearing the crashed
one. -/
theorem clearing_of_launch {r g : Nat} {handle : Option Nat} {stage : Stage}
    (found : w.task? r = some (.lifecycle handle (.autoRestart g) stage)) (past : stage ≠ .locking)
    (moved : (w.pollTask r).supervision.generation ≠ w.supervision.generation) :
    ∃ c, stage = .clearing c := by
  cases stage
  case clearing c => exact ⟨c, rfl⟩
  case locking => exact absurd rfl past
  all_goals
    refine absurd ?_ moved
    simp only [pollTask, found]
    exact (Steady.pollLifecycle w r handle (by simp) (by simp) (by simp)).generation

/-! ### Along every run -/

/-- Every automatic restart waiting to clear a crashed session stands for the current
generation. -/
def ClearsCurrent (w : World) : Prop :=
  ∀ j handle g c, (j, Task.lifecycle handle (.autoRestart g) (.clearing c)) ∈ w.tasks →
    w.supervision.generation = g

namespace ClearsCurrent

theorem of_fresh (fresh : w.Fresh) : w.ClearsCurrent := fun j handle g c mem => by
  have listed := mem_operations.mpr mem
  rw [fresh.idle] at listed
  cases listed

theorem turn (lawful : w.Lawful) (fits : w.StagesFit) (clears : w.ClearsCurrent) (tid : Nat) :
    (w.pollTask tid).ClearsCurrent := by
  intro j handle g c mem
  by_cases old : (j, Task.lifecycle handle (.autoRestart g) (.clearing c)) ∈ w.tasks
  · exact generation_clearing_turn lawful old (clears j handle g c old) tid mem
  · obtain ⟨-, -, -, -, -, -, after⟩ := clearing_new lawful fits tid old mem
    exact after

/-- The step lemma: a new operation waits at the lock, and the other moves of the environment
keep the generation and the operations filed. -/
theorem step (lawful : w.Lawful) (fits : w.StagesFit) (clears : w.ClearsCurrent)
    (step : Step w w') : w'.ClearsCurrent := by
  cases step with
  | request handle op =>
    intro j h g c mem
    simp only [spawn, List.mem_append, List.mem_singleton, Prod.mk.injEq, Task.lifecycle.injEq,
      reduceCtorEq, and_false, or_false] at mem
    exact clears j h g c mem
  | failLaunch reason =>
    intro j h g c mem
    rw [supervision_modifySup lawful.supervised]
    exact clears j h g c mem
  | turn tid => exact clears.turn lawful fits tid
  | outside keeps =>
    intro j h g c mem
    rw [supervision, keeps.sup, ← supervision]
    exact clears j h g c ((KeepsOperations.of_keeps keeps).mem_iff.mp mem)

/-- The run lemma for `ClearsCurrent`. -/
theorem run (fresh : w.Fresh) (steps : Relation.ReflTransGen Step w w') : w'.ClearsCurrent := by
  induction steps with
  | refl => exact of_fresh fresh
  | tail earlier last ih =>
    exact ih.step (fresh.lawful.run earlier) (StagesFit.run fresh earlier) last

end ClearsCurrent

/-- A turn after which an automatic restart of `g` waits to clear a crashed session finds `g`
current and crashed: it went ahead at this turn over its own crash, or was waiting already. -/
theorem current_of_clearingAfter (lawful : w.Lawful) (fits : w.StagesFit)
    (clears : w.ClearsCurrent) (tid : Nat) {j g c : Nat} {handle : Option Nat}
    (mem : (j, Task.lifecycle handle (.autoRestart g) (.clearing c)) ∈ (w.pollTask tid).tasks) :
    w.supervision.generation = g ∧ w.supervision.state = .crashed := by
  by_cases old : (j, Task.lifecycle handle (.autoRestart g) (.clearing c)) ∈ w.tasks
  · exact ⟨clears j handle g c old, (lawful.crashed_of_clearing old).2⟩
  · obtain ⟨-, -, -, current, crashedState, -⟩ := clearing_new lawful fits tid old mem
    exact ⟨current, crashedState⟩

/-- A turn of the automatic restart of `g`, at any stage, that begins a session finds `g`
current and crashed: a delay or the restart at the lock goes ahead only then, and past the lock
the restart waits to clear `g`'s session, holding the lock over `g` crashed. -/
theorem current_of_automaticTurn (lawful : w.Lawful) (clears : w.ClearsCurrent) {r g : Nat}
    {t : Task} (found : w.task? r = some t) (auto : t.automatic? = some g)
    (moved : (w.pollTask r).supervision.generation ≠ w.supervision.generation) :
    w.supervision.generation = g ∧ w.supervision.state = .crashed := by
  rcases Task.automatic?_eq_some auto with pending | ⟨handle, stage, rfl, past⟩
  · by_contra barred
    exact moved (generation_restartTurn lawful.supervised found pending (.inl barred))
  · obtain ⟨c, rfl⟩ := clearing_of_launch found past moved
    have mem := mem_of_task? found
    exact ⟨clears r handle g c mem, (lawful.crashed_of_clearing mem).2⟩

/-- Once cancelled, the automatic restart of `g` begins no session, at any stage. -/
theorem Cancelled.automaticTurn (lawful : w.Lawful) (clears : w.ClearsCurrent) {host r g : Nat}
    {t : Task} (cancelled : w.Cancelled g host) (found : w.task? r = some t)
    (auto : t.automatic? = some g) :
    (w.pollTask r).supervision.generation = w.supervision.generation := by
  rcases Task.automatic?_eq_some auto with pending | ⟨handle, stage, rfl, past⟩
  · exact cancelled.restartTurn lawful found pending
  · by_contra moved
    obtain ⟨c, rfl⟩ := clearing_of_launch found past moved
    rcases cancelled with gone | hostClears
    · exact gone.not_crashed (current_of_automaticTurn lawful clears found auto moved)
    · -- the restart clearing the session holds the lock, which the host's operation holds
      have mem := mem_of_task? found
      have held := (lawful.crashed_of_clearing mem).1
      rw [hostClears.holder, Option.some.injEq] at held
      subst held
      obtain ⟨handle', op, stage', mem', isHost, -⟩ := hostClears.host
      cases lawful.numbered.eq_of_mem mem mem'
      cases isHost

/-! ### Main statement -/

/-- Stale generations never act. A crash changes anything only while its generation is live,
and then leaves that generation crashed with its crash recorded. So along every run from a fresh
supervisor each generation's crash is recorded at most once; in every world a turn of the
monitor of an older session leaves the supervisor's record and history alone; a turn of the automatic restart of a
generation, at any stage, that takes it past the lock to clear the crashed session or begins a
session finds that generation current and still crashed; and once a host's start, stop or restart
takes the lock over the crashed generation, its automatic restart begins nothing, at any stage,
however the run goes on. -/
theorem stale_generations_never_act :
    (∀ (w : World) (g : Nat) (reason : CrashReason),
      (¬ w.supervision.Live g → w.crashed g reason = w) ∧
      (w.sup.isSome → w.supervision.Live g →
        (w.crashed g reason).supervision.state = .crashed ∧
        SessionEvent.crashes (w.crashed g reason).events =
          SessionEvent.crashes w.events ++ [g])) ∧
    (∀ w₀ w : World, w₀.Fresh → Relation.ReflTransGen Move w₀ w →
      (SessionEvent.crashes w.events).Nodup) ∧
    (∀ (w : World) (tid c g : Nat) (watch : Watch), w.WellNumbered →
      w.task? tid = some (.monitor c g watch) → g < w.supervision.generation →
      (w.pollTask tid).sup = w.sup ∧ (w.pollTask tid).events = w.events) ∧
    (∀ (w₀ w : World) (g r : Nat) (t : Task), w₀.Fresh → Relation.ReflTransGen Step w₀ w →
      w.task? r = some t → t.automatic? = some g →
      ((w.pollTask r).supervision.generation ≠ w.supervision.generation ∨
        ∃ handle c, (r, .lifecycle handle (.autoRestart g) (.clearing c)) ∈ (w.pollTask r).tasks) →
      w.supervision.generation = g ∧ w.supervision.state = .crashed) ∧
    (∀ (w₀ w w' : World) (g tid : Nat) (handle : Option Nat) (op : LifecycleOp), w₀.Fresh →
      Relation.ReflTransGen Step w₀ w → w.task? tid = some (.lifecycle handle op .locking) →
      op.isHost = true →
      (w.supervision.lockHolder = none ∨ w.supervision.lockHolder = some tid) →
      w.supervision.generation = g → w.supervision.state = .crashed →
      Relation.ReflTransGen Move (w.pollTask tid) w' →
      ∀ r t, w'.task? r = some t → t.automatic? = some g →
        (w'.pollTask r).supervision.generation = w'.supervision.generation) := by
  refine ⟨fun w g reason => ⟨fun stale => crashed_of_not_live stale reason,
    fun supervised live => (crashed_of_live supervised live reason).2⟩,
    fun w₀ w fresh moves => (CrashesSettled.run fresh moves).once, ?_, ?_, ?_⟩
  · intro w tid c g watch numbered found older
    -- an older generation is not the current one, so it is not live
    have stale : ¬ w.supervision.Live g := fun live => by
      have current := live.1
      omega
    have keeps := keeps_pollMonitor numbered (numbered.notOperation_of_task? found rfl) stale c
      watch
    simp only [pollTask, found]
    exact ⟨keeps.sup, keeps.events⟩
  · intro w₀ w g r t fresh steps found auto ahead
    have lawful := fresh.lawful.run steps
    have clears := ClearsCurrent.run fresh steps
    rcases ahead with moved | ⟨handle, c, mem⟩
    · exact current_of_automaticTurn lawful clears found auto moved
    · exact current_of_clearingAfter lawful (StagesFit.run fresh steps) clears r mem
  · intro w₀ w w' g tid handle op fresh steps found host free current crashedState later r t
      found' auto
    have lawful := fresh.lawful.run steps
    have cancelled := cancelled_hostTurn lawful found host free ⟨current, crashedState⟩
    have lawful' := (lawful.turn tid).lawful
    have reached := (steps.tail (.turn w tid)).trans (Move.run later)
    exact (cancelled.run lawful' later).automaticTurn (lawful'.run (Move.run later))
      (ClearsCurrent.run fresh reached) found' auto

/-- Stale generations along one run. Before any launch a crash reported for generation 1 changes
nothing. The first session's process ends before it answers `initialize`; the restart scheduled
for generation 1 takes the lock and waits to clear the crashed session until its monitor has
finished, and its turn then begins generation 2 over generation 1 current and crashed. That
session crashes in turn while the host's start waits for the lock, and both crashes are recorded
once each. The start takes the lock over crashed generation 2, and the restart scheduled for
generation 2 begins nothing when its delay is over. A monitor of generation 1 left over under
generation 2 finishes and leaves the supervisor alone. -/
theorem stale_generations_never_act_along_restarts :
    let w₀ : World :=
      { sup := some { config := { Config.new "java" "/work/demo" with
          restart := .automatic 3 100 } } }
    let launched := (w₀.spawn (.lifecycle (some 0) .start .locking)).1.pollTask 0
    let armed := [1, 3, 1, 0, 4].foldl pollTask (launched.processEnds 0 (some 1))
    let clearing := ({ armed with now := armed.now + 100 }.pollTask 4).pollTask 2
    let called := ((clearing.pollTask 4).spawn (.lifecycle (some 4) .start .locking)).1
    let recrashed := [5, 8, 5, 4].foldl pollTask ((called.pollTask 7).processEnds 1 (some 1))
    let waiting := [6, 7, 9].foldl pollTask (recrashed.pollTask 7)
    let due := { waiting with now := waiting.now + 100 }
    let leftover : World :=
      { sup := some { config := Config.new "java" "/work/demo", generation := 2,
                      state := .running },
        tasks := [(0, .monitor 0 1 .watching)], nextTask := 1,
        conns := #[{ ended := some (.ok ()), exit := some (some 1) }] }
    w₀.crashed 1 .disconnected = w₀ ∧
      clearing.task? 4 = some (.lifecycle none (.autoRestart 1) (.clearing 0)) ∧
      (clearing.pollTask 4).supervision.generation = 2 ∧
      clearing.supervision.generation = 1 ∧ clearing.supervision.state = .crashed ∧
      SessionEvent.crashes recrashed.events = [1, 2] ∧
      (SessionEvent.crashes recrashed.events).Nodup ∧
      recrashed.task? 7 = some (.lifecycle (some 4) .start .locking) ∧
      recrashed.supervision.lockHolder = some 7 ∧ recrashed.supervision.generation = 2 ∧
      recrashed.supervision.state = .crashed ∧
      due.task? 9 = some (.restartDelay 2 100 (some ⟨200, 6⟩)) ∧
      (due.pollTask 9).supervision.generation = due.supervision.generation ∧
      leftover.task? 0 = some (.monitor 0 1 .watching) ∧ (leftover.pollTask 0).tasks = [] ∧
      (leftover.pollTask 0).sup = leftover.sup ∧
      (leftover.pollTask 0).events = leftover.events := by
  intro w₀ launched armed clearing called recrashed waiting due leftover
  have fresh : w₀.Fresh := ⟨⟨by simp [w₀], by simp [w₀]⟩, rfl, rfl, _, rfl, rfl, rfl, rfl, rfl, rfl⟩
  obtain ⟨acts, once, stale, ahead, cancels⟩ := stale_generations_never_act
  -- the run turn by turn, with the ends of the processes and the clock as moves of their own
  have toArmed : Relation.ReflTransGen Move w₀ armed :=
    ((Relation.ReflTransGen.single (.request w₀ (some 0) .start rfl)).tail (.turn _ 0)).trans
      ((Relation.ReflTransGen.single (Move.processEnds _ 0 _)).trans (Move.turns _ _))
  have toClearing : Relation.ReflTransGen Move w₀ clearing :=
    ((toArmed.tail (Move.tick _ 100)).tail (.turn _ 4)).tail (.turn _ 2)
  have toRecrashed : Relation.ReflTransGen Move w₀ recrashed :=
    ((((toClearing.tail (.turn _ 4)).tail (.request _ (some 4) .start rfl)).tail
      (.turn _ 7)).tail (Move.processEnds _ 1 _)).trans (Move.turns _ _)
  have toDue : Relation.ReflTransGen Move (recrashed.pollTask 7) due :=
    (Move.turns _ [6, 7, 9]).tail (Move.tick _ 100)
  -- the tasks found are read off the run with its steps unfolded
  have clearingAt : clearing.task? 4 = some (.lifecycle none (.autoRestart 1) (.clearing 0)) := by
    unfold clearing armed launched w₀
    rfl
  have begins : (clearing.pollTask 4).supervision.generation = 2 := by decide +kernel
  have moved : (clearing.pollTask 4).supervision.generation ≠ clearing.supervision.generation := by
    decide +kernel
  have startAt : recrashed.task? 7 = some (.lifecycle (some 4) .start .locking) := by
    unfold recrashed called clearing armed launched w₀
    rfl
  have holds : recrashed.supervision.lockHolder = some 7 := by decide +kernel
  have second : recrashed.supervision.generation = 2 := by decide +kernel
  have crashedTwo : recrashed.supervision.state = .crashed := by decide +kernel
  have delayAt : due.task? 9 = some (.restartDelay 2 100 (some ⟨200, 6⟩)) := by
    unfold due waiting recrashed called clearing armed launched w₀
    rfl
  have numbered : leftover.WellNumbered := ⟨by simp [leftover], by simp [leftover]⟩
  have monitorAt : leftover.task? 0 = some (.monitor 0 1 .watching) := rfl
  obtain ⟨current, crashedOne⟩ :=
    ahead w₀ clearing 1 4 _ fresh (Move.run toClearing) clearingAt rfl (.inl moved)
  have alone := stale leftover 0 0 1 .watching numbered monitorAt (by decide +kernel)
  exact ⟨(acts w₀ 1 .disconnected).1 (by simp [w₀, Supervision.Live, World.supervision]),
    clearingAt, begins, current, crashedOne, by decide +kernel, once w₀ recrashed fresh toRecrashed,
    startAt, holds, second, crashedTwo, delayAt,
    cancels w₀ recrashed due 2 7 (some 4) .start fresh (Move.run toRecrashed) startAt rfl
      (.inr holds) second crashedTwo toDue 9 _ delayAt rfl,
    monitorAt, by decide +kernel, alone.1, alone.2⟩

end World

end Engine

end LspBridge
