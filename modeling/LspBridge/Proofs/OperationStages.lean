import LspBridge.Proofs.StaleGenerations
/-!
# Where each operation waits

A turn files no lifecycle operation but its own: its task keeps its id and its kind, and waits
again only at a stage its step sets (`World.Filed`). A stop waits for its `shutdown` call, the
grace period or a killed process; a start or an automatic restart to clear a crashed session and
for the handshake of a new one; a restart at both. Every operation therefore waits at the lock or
at a stage its kind reaches, along every run of the host (`World.StagesFit.run`), so a stop never
clears a crashed session and never starts one.

A turn of any task begins at most one session (`World.BeginsOne.pollTask`): every operation
begins one at most once, and nothing else begins any.

An automatic restart that takes the lock and then waits to clear a crashed session clears the
generation it stands for (`World.generation_of_clearing`): it went ahead only over that
generation, crashed, and nothing has begun since.
-/

namespace LspBridge

namespace Engine

open Json Rpc Client Server

namespace Stage

/-- A stage of a start past the lock: clearing a crashed session, or the handshake of a new one. -/
def starts : Stage → Bool
  | .clearing _ | .handshake .. => true
  | _ => false

/-- A stage of a stop: its `shutdown` call, the grace period, or the wait for a killed process. -/
def stops : Stage → Bool
  | .shutdown .. | .grace .. | .killed .. => true
  | _ => false

/-- The stage of a handshake. -/
def shakes : Stage → Bool
  | .handshake .. => true
  | _ => false

end Stage

/-- The stages past the lock an operation of this kind waits at: a stop those of a stop, a start
or an automatic restart those of a start, a restart both. -/
def LifecycleOp.reaches : LifecycleOp → Stage → Bool
  | .stop, stage => stage.stops
  | .restart, stage => stage.stops || stage.starts
  | _, stage => stage.starts

/-- Where an operation of this kind may wait: at the lock, or at a stage its kind reaches. -/
def LifecycleOp.waitsAt (op : LifecycleOp) (stage : Stage) : Prop :=
  stage = .locking ∨ op.reaches stage = true

/-- The operation a task stands for: a lifecycle operation its own, a restart delay the automatic
restart it becomes. -/
def Task.operation? : Task → Option LifecycleOp
  | .lifecycle _ op _ => some op
  | .restartDelay gen _ _ => some (.autoRestart gen)
  | _ => none

namespace World

/-- Every lifecycle operation among the tasks of `w'` is one of `w`, or operation `tid` filed
again as `op` at a stage `stages` allows. -/
def Filed (w w' : World) (tid : Nat) (op : LifecycleOp) (stages : Stage → Prop) : Prop :=
  ∀ j handle o stage, (j, Task.lifecycle handle o stage) ∈ w'.tasks →
    (j, Task.lifecycle handle o stage) ∈ w.tasks ∨ (j = tid ∧ o = op ∧ stages stage)

theorem tasks_transition (w : World) (gen : Option Nat) (next : SessionState) :
    (w.transition gen next).2.tasks = w.tasks := by
  rcases moved : w.transition gen next with ⟨_ | _, w'⟩
  · obtain ⟨rfl, -⟩ := transition_eq_false moved
    rfl
  · obtain ⟨-, -, rfl⟩ := transition_eq_true moved
    rfl

theorem tasks_beginSession (w : World) : w.beginSession.2.tasks = w.tasks := by
  unfold beginSession
  dsimp only
  split <;> rfl

namespace Filed

variable {w w₁ w₂ w₃ w' : World} {tid : Nat} {op : LifecycleOp} {S T : Stage → Prop}

theorem refl (w : World) : Filed w w tid op S := fun _ _ _ _ mem => .inl mem

theorem trans (first : Filed w₁ w₂ tid op S) (second : Filed w₂ w₃ tid op S) :
    Filed w₁ w₃ tid op S := by
  intro j handle o stage mem
  rcases second j handle o stage mem with earlier | filed
  · exact first j handle o stage earlier
  · exact .inr filed

theorem mono (filed : Filed w w' tid op S) (wider : ∀ stage, S stage → T stage) :
    Filed w w' tid op T := by
  intro j handle o stage mem
  rcases filed j handle o stage mem with old | ⟨same, kind, allowed⟩
  · exact .inl old
  · exact .inr ⟨same, kind, wider stage allowed⟩

theorem of_operations (keeps : KeepsOperations w w') : Filed w w' tid op S :=
  fun _ _ _ _ mem => .inl (keeps.mem_iff.mp mem)

theorem of_keeps (keeps : KeepsSupervisor w w') : Filed w w' tid op S :=
  of_operations (.of_keeps keeps)

theorem of_tasks (tasks : w'.tasks = w.tasks) : Filed w w' tid op S :=
  fun _ _ _ _ mem => .inl (tasks ▸ mem)

/-- The operation sets its own stage. -/
theorem setStage (w : World) (handle : Option Nat) {stage : Stage} (allowed : S stage) :
    Filed w (w.setTask tid (.lifecycle handle op stage)) tid op S := by
  intro j h o s mem
  rcases mem_setTask.mp mem with ⟨rfl, same, -⟩ | ⟨-, old⟩
  · cases same
    exact .inr ⟨rfl, rfl, allowed⟩
  · exact .inl old

theorem dropTask (w : World) (j : Nat) : Filed w (w.dropTask j) tid op S :=
  fun _ _ _ _ mem => .inl (mem_dropTask.mp mem).2

/-- Another task, no operation, is set. -/
theorem setTask_other (w : World) (j : Nat) {t : Task} (kind : t.isLifecycle = false) :
    Filed w (w.setTask j t) tid op S := by
  intro i h o s mem
  rcases mem_setTask.mp mem with ⟨-, same, -⟩ | ⟨-, old⟩
  · subst same
    simp [Task.isLifecycle] at kind
  · exact .inl old

theorem spawn (w : World) {t : Task} (kind : t.isLifecycle = false) :
    Filed w (w.spawn t).1 tid op S :=
  of_keeps (KeepsSupervisor.spawn kind)

theorem modifySup (w : World) (f : Supervision → Supervision) : Filed w (w.modifySup f) tid op S :=
  of_tasks rfl

theorem takeSession (w : World) (r : SessionRecord) : Filed w (w.takeSession r) tid op S :=
  of_tasks rfl

theorem of_stepCall {c : Nat} {call call' : Call} (stepped : w.stepCall c call = (w', call')) :
    Filed w w' tid op S := by
  have sent := KeepsSupervisor.stepCall w c call
  rw [stepped] at sent
  exact of_keeps sent

theorem transition (w : World) (gen : Option Nat) (next : SessionState) :
    Filed w (w.transition gen next).2 tid op S :=
  of_tasks (tasks_transition w gen next)

theorem crashed (w : World) (gen : Nat) (reason : CrashReason) :
    Filed w (w.crashed gen reason) tid op S := by
  unfold World.crashed
  split
  · rename_i w₁ stayed
    obtain ⟨rfl, -⟩ := transition_eq_false stayed
    exact refl _
  · rename_i w₁ moved
    have moves : Filed w w₁ tid op S := by
      have step : Filed w (w.transition (some gen) .crashed).2 tid op S := transition w _ _
      rwa [moved] at step
    dsimp only
    -- an armed restart is a delay, no operation
    split
    · exact moves.trans (of_tasks rfl)
    · exact moves.trans (spawn _ rfl)

theorem releaseLock (w : World) : Filed w w.releaseLock tid op S := by
  unfold World.releaseLock
  split
  · exact modifySup w _
  · exact (modifySup w _).trans (of_keeps (KeepsSupervisor.wake _ _))

theorem finishOp (w : World) (j : Nat) (handle : Option Nat) (r : Except Server.Error Unit) :
    Filed w (w.finishOp j handle r) tid op S := by
  unfold World.finishOp
  have dropped : Filed w (w.releaseLock.dropTask j) tid op S :=
    (releaseLock w).trans (dropTask w.releaseLock j)
  split
  · exact dropped.trans (of_keeps (KeepsSupervisor.report _ _ _))
  · exact dropped

theorem failHandshake (w : World) (j : Nat) (handle : Option Nat) (gen c : Nat) (failure : String) :
    Filed w (w.failHandshake j handle gen c failure) tid op S := by
  unfold World.failHandshake
  dsimp only
  refine (crashed w gen (.handshake failure)).trans ?_
  generalize w.crashed gen (.handshake failure) = w₁
  split
  · split
    · exact ((of_keeps (KeepsSupervisor.modifyConn w₁ c _)).trans
        (of_keeps (KeepsSupervisor.requestKill _ c))).trans (finishOp _ j handle _)
    · exact finishOp _ j handle _
  · exact finishOp _ j handle _

theorem handshakeDone (w : World) (j : Nat) (handle : Option Nat) (gen c : Nat)
    (r : Except Rpc.Error Value) : Filed w (w.handshakeDone j handle gen c r) tid op S := by
  unfold World.handshakeDone
  split
  · exact failHandshake w j handle gen c _
  split
  · exact failHandshake w j handle gen c _
  split
  · exact failHandshake w j handle gen c _
  rename_i caps _ _ w₁ sent
  dsimp only
  refine (of_keeps (KeepsSupervisor.notify sent)).trans ?_
  have noted : Filed w₁ (w₁.modifySup fun s => { s with session := s.session.map fun r =>
      if r.generation == gen then { r with capabilities := some caps } else r }) tid op S :=
    modifySup w₁ _
  refine noted.trans ?_
  generalize (w₁.modifySup fun s => { s with session := s.session.map fun r =>
    if r.generation == gen then { r with capabilities := some caps } else r }) = w₂
  split
  · rename_i w₃ moved
    have step : Filed w₂ (w₂.transition (some gen) .running).2 tid op S := transition w₂ _ _
    rw [moved] at step
    exact step.trans (finishOp _ j handle _)
  · rename_i w₃ stayed
    obtain ⟨rfl, -⟩ := transition_eq_false stayed
    exact failHandshake _ j handle gen c _

theorem handshakeTimeout (w : World) (j : Nat) (handle : Option Nat) (gen c : Nat) (call : Call) :
    Filed w (w.handshakeTimeout j handle gen c call) tid op S := by
  unfold World.handshakeTimeout
  exact (of_keeps (KeepsSupervisor.abandon w call)).trans (failHandshake _ j handle gen c _)

/-- The wait for `initialize` files the operation at its handshake stage, if anywhere. -/
theorem awaitInitialize (w : World) (handle : Option Nat) (gen c : Nat) (call : Call) (t : Timer)
    (allowed : S (.handshake gen c call t)) :
    Filed w (w.awaitInitialize tid handle op gen c call t) tid op S := by
  unfold World.awaitInitialize
  split
  · exact handshakeDone w tid handle gen c _
  · split
    · exact handshakeTimeout w tid handle gen c _
    · exact setStage w handle allowed

theorem launch (w : World) : Filed w w.launch.2 tid op S := by
  unfold World.launch
  dsimp only
  split
  · exact modifySup w _
  · split
    · exact of_tasks rfl
    · split
      · exact refl w
      · split
        · exact (of_tasks (by rfl)).trans (of_keeps (KeepsSupervisor.processEnds _ _ _))
        · exact of_tasks rfl

/-! ### Starting and stopping under the lock -/

/-- A fresh start waits, if anywhere, for its handshake. -/
theorem startFresh (w : World) (handle : Option Nat) :
    Filed w (w.startFresh tid handle op) tid op fun stage => stage.shakes := by
  unfold World.startFresh
  have begun : ∀ {r w₁}, w.beginSession = (r, w₁) → Filed w w₁ tid op fun stage => stage.shakes :=
    fun started => by
      have step : Filed w w.beginSession.2 tid op fun stage => stage.shakes :=
        of_tasks (tasks_beginSession w)
      rwa [started] at step
  split
  · rename_i w₁ started
    exact (begun started).trans (finishOp _ tid handle _)
  · rename_i gen w₁ started
    refine (begun started).trans ?_
    dsimp only
    have launched : Filed w₁ w₁.launch.2 tid op fun stage => stage.shakes := launch w₁
    split
    · rename_i reason w₂ failed
      rw [failed] at launched
      exact launched.trans ((crashed _ gen _).trans (finishOp _ tid handle _))
    · rename_i c w₂ succeeded
      rw [succeeded] at launched
      refine launched.trans ?_
      -- the reader and the monitor are no operations
      have spawned : Filed w₂ ((w₂.spawn (.reader c false none)).1.spawn
          (.monitor c gen .watching)).1 tid op fun stage => stage.shakes :=
        (spawn w₂ (by rfl)).trans (spawn _ (by rfl))
      refine spawned.trans ?_
      generalize ((w₂.spawn (.reader c false none)).1.spawn (.monitor c gen .watching)).1 = w₃
      have opened : Filed w₃ (w₃.modifySup fun s =>
          { s with session := some { generation := gen, conn := c } }) tid op
          fun stage => stage.shakes :=
        modifySup w₃ _
      refine opened.trans ?_
      generalize w₃.modifySup (fun s => { s with session := some { generation := gen, conn := c } })
        = w₄
      generalize stepped : w₄.stepCall c _ = p
      obtain ⟨w₅, call⟩ := p
      dsimp only
      exact ((of_stepCall stepped).trans
        (of_keeps (KeepsSupervisor.timer w₅ w₁.supervision.config.startupTimeout))).trans
        (awaitInitialize _ handle gen c call _ rfl)

theorem afterClear (w : World) (handle : Option Nat) (c : Nat) :
    Filed w (w.afterClear tid handle op c) tid op fun stage => stage.shakes := by
  unfold World.afterClear
  exact ((of_keeps (KeepsSupervisor.closePeer w c)).trans (transition _ none .stopped)).trans
    (startFresh _ handle)

theorem startLocked (w : World) (handle : Option Nat) :
    Filed w (w.startLocked tid handle op) tid op fun stage => stage.starts := by
  have fresh : ∀ v : World, Filed v (v.startFresh tid handle op) tid op fun stage => stage.starts :=
    fun v => (startFresh v handle).mono fun stage shaking => by
      cases stage <;> simp_all [Stage.shakes, Stage.starts]
  unfold World.startLocked
  split
  · exact finishOp w tid handle _
  · exact finishOp w tid handle _
  · split
    · rename_i r held
      dsimp only
      have killed : Filed w ((w.takeSession r).requestKill r.conn) tid op fun stage => stage.starts :=
        (takeSession w r).trans (of_keeps (KeepsSupervisor.requestKill _ r.conn))
      refine killed.trans ?_
      split
      · exact (afterClear _ handle r.conn).mono fun stage shaking => by
          cases stage <;> simp_all [Stage.shakes, Stage.starts]
      · exact setStage _ handle rfl
    · exact (transition w none .stopped).trans (fresh _)
  · exact fresh w

/-- What follows a stop files the start of a restart, and nothing else. -/
theorem afterStop (w : World) (handle : Option Nat) :
    Filed w (w.afterStop tid handle op) tid op fun stage => op = .restart ∧ stage.starts := by
  unfold World.afterStop
  split
  · exact (startLocked w handle).mono fun stage starting => ⟨rfl, starting⟩
  · exact finishOp w tid handle _

section Stop

/-- The stages a stop under way files: its own, then those of the start of a restart. -/
abbrev StopStages (op : LifecycleOp) (stage : Stage) : Prop :=
  stage.stops ∨ (op = .restart ∧ stage.starts)

theorem finishStop (w : World) (handle : Option Nat) (c : Nat) :
    Filed w (w.finishStop tid handle op c) tid op (StopStages op) := by
  unfold World.finishStop
  exact ((of_keeps (KeepsSupervisor.closePeer w c)).trans (transition _ none .stopped)).trans
    ((afterStop _ handle).mono fun _ later => .inr later)

theorem killAndWait (w : World) (handle : Option Nat) (gen c : Nat) :
    Filed w (w.killAndWait tid handle op gen c) tid op (StopStages op) := by
  unfold World.killAndWait
  dsimp only
  refine (of_keeps (KeepsSupervisor.requestKill w c)).trans ?_
  split
  · exact finishStop _ handle c
  · exact setStage _ handle (.inl rfl)

theorem waitForMonitor (w : World) (handle : Option Nat) (gen c : Nat) :
    Filed w (w.waitForMonitor tid handle op gen c) tid op (StopStages op) := by
  unfold World.waitForMonitor
  split
  · exact finishStop w handle c
  · split
    rename_i w₁ t armed
    have timed := KeepsSupervisor.timer w w.supervision.config.shutdownGrace
    rw [armed] at timed
    split
    · exact (of_keeps timed).trans (killAndWait _ handle gen c)
    · exact (of_keeps timed).trans (setStage _ handle (.inl rfl))

theorem afterShutdown (w : World) (handle : Option Nat) (gen c : Nat) :
    Filed w (w.afterShutdown tid handle op gen c) tid op (StopStages op) := by
  cases sent : w.notify c "exit" .null with
  | ok w' =>
    rw [World.afterShutdown_of_sent sent]
    exact (of_keeps (KeepsSupervisor.notify sent)).trans (waitForMonitor w' handle gen c)
  | error e =>
    rw [World.afterShutdown_of_refused sent]
    exact waitForMonitor w handle gen c

theorem stopSession (w : World) (handle : Option Nat) (r : SessionRecord) :
    Filed w (w.stopSession tid handle op r) tid op (StopStages op) := by
  unfold World.stopSession
  have moved : Filed w (w.transition (some r.generation) .stopping).2 tid op (StopStages op) :=
    transition w _ _
  split
  · rename_i w₂ went
    rw [went] at moved
    refine moved.trans ?_
    generalize stepped : w₂.stepCall r.conn _ = p
    obtain ⟨w₃, call⟩ := p
    dsimp only
    refine (of_stepCall stepped).trans ?_
    split
    · exact afterShutdown w₃ handle _ _
    · exact setStage w₃ handle (.inl rfl)
  · rename_i w₂ stayed
    rw [stayed] at moved
    exact moved.trans (killAndWait _ handle _ _)

theorem stopLocked (w : World) (handle : Option Nat) :
    Filed w (w.stopLocked tid handle op) tid op (StopStages op) := by
  cases held : w.supervision.session with
  | none =>
    rw [stopLocked_of_none held]
    exact (transition w none .stopped).trans ((afterStop _ handle).mono fun _ later => .inr later)
  | some r =>
    rw [stopLocked_of_some held]
    exact (takeSession w r).trans (stopSession _ handle r)

end Stop

theorem stopStages_reaches {stage : Stage} (stop : op = .stop ∨ op = .restart)
    (filed : StopStages op stage) : op.reaches stage = true := by
  rcases filed with stopping | ⟨rfl, starting⟩
  · rcases stop with rfl | rfl <;> simp [LifecycleOp.reaches, stopping]
  · simp [LifecycleOp.reaches, starting]

/-- Once it holds the lock, an operation files itself only at a stage its kind reaches. -/
theorem afterLock (w : World) (handle : Option Nat) :
    Filed w (w.afterLock tid handle op) tid op fun stage => op.reaches stage := by
  unfold World.afterLock
  cases op with
  | start =>
    exact (modifySup w _).trans ((startLocked _ handle).mono fun stage starting => by
      simpa [LifecycleOp.reaches] using starting)
  | stop => exact (stopLocked w handle).mono fun _ => stopStages_reaches (.inl rfl)
  | restart =>
    exact (modifySup w _).trans ((stopLocked _ handle).mono fun _ => stopStages_reaches (.inr rfl))
  | autoRestart gen =>
    dsimp only
    split
    · exact finishOp w tid handle _
    · exact (startLocked w handle).mono fun stage starting => by
        simpa [LifecycleOp.reaches] using starting

/-- A turn of an operation waiting at the lock, or at a stage its kind reaches, files it again
only at a stage its kind reaches. -/
theorem pollLifecycle (w : World) (handle : Option Nat) {stage : Stage}
    (fits : stage = .locking ∨ op.reaches stage = true) :
    Filed w (w.pollLifecycle tid handle op stage) tid op fun stage => op.reaches stage := by
  cases stage with
  | locking =>
    dsimp only [World.pollLifecycle]
    split
    · exact afterLock w handle
    · split
      · exact (modifySup w _).trans (afterLock _ handle)
      · split
        · exact refl w
        · exact modifySup w _
  | clearing c =>
    have starting : op.reaches (.clearing c) = true := fits.resolve_left (by simp)
    dsimp only [World.pollLifecycle]
    split
    · exact (afterClear w handle c).mono fun stage shaking => by
        cases op <;> cases stage <;> simp_all [LifecycleOp.reaches, Stage.shakes, Stage.starts,
          Stage.stops]
    · exact refl w
  | handshake gen c call t =>
    have shaking : op.reaches (.handshake gen c call t) = true := fits.resolve_left (by simp)
    dsimp only [World.pollLifecycle]
    rcases stepped : w.stepCall c call with ⟨w₁, call'⟩
    dsimp only
    exact (of_stepCall stepped).trans (awaitInitialize w₁ handle gen c call' t (by
      cases op <;> simp_all [LifecycleOp.reaches, Stage.starts, Stage.stops]))
  | shutdown gen c call =>
    have stopping : op.reaches (.shutdown gen c call) = true := fits.resolve_left (by simp)
    have stop : op = .stop ∨ op = .restart := by
      cases op <;> simp_all [LifecycleOp.reaches, Stage.starts]
    dsimp only [World.pollLifecycle]
    rcases stepped : w.stepCall c call with ⟨w₁, call'⟩
    dsimp only
    refine (of_stepCall stepped).trans ?_
    split
    · exact (afterShutdown w₁ handle gen c).mono fun _ => stopStages_reaches stop
    · exact setStage w₁ handle (by
        cases op <;> simp_all [LifecycleOp.reaches, Stage.starts, Stage.stops])
  | grace gen c t =>
    have stop : op = .stop ∨ op = .restart := by
      have stopping : op.reaches (.grace gen c t) = true := fits.resolve_left (by simp)
      cases op <;> simp_all [LifecycleOp.reaches, Stage.starts]
    dsimp only [World.pollLifecycle]
    split
    · exact (finishStop w handle c).mono fun _ => stopStages_reaches stop
    · split
      · exact (killAndWait w handle gen c).mono fun _ => stopStages_reaches stop
      · exact refl w
  | killed gen c =>
    have stop : op = .stop ∨ op = .restart := by
      have stopping : op.reaches (.killed gen c) = true := fits.resolve_left (by simp)
      cases op <;> simp_all [LifecycleOp.reaches, Stage.starts]
    dsimp only [World.pollLifecycle]
    split
    · exact (finishStop w handle c).mono fun _ => stopStages_reaches stop
    · exact refl w

/-! ### Monitors and restart delays -/

theorem finishMonitor (w : World) (j c gen : Nat) (reason : Option CrashReason) :
    Filed w (w.finishMonitor j c gen reason) tid op S := by
  unfold World.finishMonitor World.wakeOnMonitor
  dsimp only
  refine (of_keeps (KeepsSupervisor.closePeer w c)).trans ?_
  have finish : ∀ v (p : Task → Bool), Filed (w.closePeer c).2 v tid op S → Filed (w.closePeer c).2
      (((v.modifyConn c fun k => { k with monitorDone := true }).dropTask j).wakeIf p) tid op S :=
    fun v p earlier => ((earlier.trans (of_keeps (KeepsSupervisor.modifyConn v c _))).trans
      (dropTask _ j)).trans (of_keeps (KeepsSupervisor.wakeIf _ p))
  split
  · exact finish _ _ (refl _)
  · split
    · exact finish _ _ (crashed _ gen _)
    · exact finish _ _ (refl _)

theorem pollMonitor (numbered : w.WellNumbered) (j c gen : Nat) (watch : Watch) :
    Filed w (w.pollMonitor j c gen watch) tid op S := by
  have conclude : ∀ v : World, ∀ exited failure, Filed v (v.conclude j c gen exited failure) tid op S := by
    intro v exited failure
    unfold World.conclude
    split
    · exact (of_keeps (KeepsSupervisor.terminate v c)).trans (finishMonitor _ j c gen _)
    · exact finishMonitor v j c gen _
    · exact (of_keeps (KeepsSupervisor.terminate v c)).trans (finishMonitor _ j c gen _)
  have await : ∀ v : World, ∀ failure t, Filed v (v.awaitExit j c gen failure t) tid op S := by
    intro v failure t
    dsimp only [World.awaitExit]
    split
    · exact conclude v _ _
    · exact conclude v _ _
    · exact setTask_other _ _ (by rfl)
  cases watch with
  | watching =>
    dsimp only [World.pollMonitor]
    split
    · exact (of_keeps (KeepsSupervisor.timer w _)).trans (await _ _ _)
    · exact (of_keeps (KeepsSupervisor.timer w _)).trans (setTask_other _ _ (by rfl))
    · exact ((of_keeps (KeepsSupervisor.terminate w c)).trans (of_keeps
        (KeepsSupervisor.abortReader ((KeepsSupervisor.terminate w c).numbered numbered) c))).trans
        (finishMonitor _ j c gen _)
    · exact refl w
  | draining status t =>
    dsimp only [World.pollMonitor]
    split
    · exact finishMonitor w j c gen _
    · split
      · exact (of_keeps (KeepsSupervisor.abortReader numbered c)).trans (finishMonitor _ j c gen _)
      · exact refl w
  | lingering failure t =>
    dsimp only [World.pollMonitor]
    split
    · exact await w _ _
    · exact refl w

/-- A restart delay that runs out becomes the automatic restart it stands for: filed at the lock,
and then wherever its turn there takes it. -/
theorem pollRestartDelay (w : World) (gen delay : Nat) (timer? : Option Timer) :
    Filed w (w.pollRestartDelay tid gen delay timer?) tid (.autoRestart gen)
      (LifecycleOp.autoRestart gen).waitsAt := by
  have becomes : ∀ v : World, Filed v ((v.setTask tid (.lifecycle none (.autoRestart gen)
      .locking)).pollLifecycle tid none (.autoRestart gen) .locking) tid (.autoRestart gen)
      (LifecycleOp.autoRestart gen).waitsAt :=
    fun v => (setStage v none (.inl rfl)).trans ((pollLifecycle _ none (.inl rfl)).mono fun _ => .inr)
  cases timer? with
  | none =>
    dsimp only [World.pollRestartDelay]
    split
    · exact (of_keeps (KeepsSupervisor.timer w delay)).trans (becomes _)
    · exact (of_keeps (KeepsSupervisor.timer w delay)).trans (setTask_other _ tid (by rfl))
  | some t =>
    dsimp only [World.pollRestartDelay]
    split
    · exact becomes w
    · exact refl w

/-- A turn of any task files no operation but the one its task stands for, and that one only
where its kind may wait, when it found it so: the client's tasks and the monitors file none, and
a restart delay becomes its automatic restart. -/
theorem pollTask_as (numbered : w.WellNumbered) (j : Nat)
    (fits : ∀ handle o stage, w.task? j = some (.lifecycle handle o stage) → o.waitsAt stage)
    (stands : ∀ t, w.task? j = some t → t.operation? = some op ∨ t.operation? = none) :
    Filed w (w.pollTask j) j op op.waitsAt := by
  have own : ∀ {t : Task}, w.task? j = some t → t.isLifecycle = false → w.NotOperation j :=
    fun found kind => numbered.notOperation_of_task? found kind
  unfold World.pollTask
  split
  · exact refl w
  · rename_i c started ended found
    exact of_keeps (KeepsSupervisor.pollReader numbered (own found rfl) c started ended)
  · rename_i c found
    exact of_keeps (KeepsSupervisor.pollWriter (own found rfl) c)
  · rename_i c id method work found
    exact of_keeps (KeepsSupervisor.pollHandler (own found rfl) c id method work)
  · rename_i handle target call typed found
    exact of_keeps (KeepsSupervisor.pollCall (own found rfl) handle target call typed)
  · rename_i handle c each found
    exact of_keeps (KeepsSupervisor.pollCalls (own found rfl) handle c each)
  · rename_i handle o stage found
    have same : o = op := by
      simpa [Task.operation?] using stands _ found
    subst same
    exact (pollLifecycle w handle (fits handle o stage found)).mono fun _ => .inr
  · rename_i c gen watch found
    exact pollMonitor numbered j c gen watch
  · rename_i gen delay timer? found
    have same : LifecycleOp.autoRestart gen = op := by
      simpa [Task.operation?] using stands _ found
    subst same
    exact pollRestartDelay w gen delay timer?
  · rename_i c action t found
    exact of_keeps (KeepsSupervisor.pollTimed (own found rfl) c action t)

/-- A turn of any task files no operation but its own, and that one only where its kind may
wait, when it found it so. -/
theorem pollTask (numbered : w.WellNumbered) (j : Nat)
    (fits : ∀ handle o stage, w.task? j = some (.lifecycle handle o stage) → o.waitsAt stage) :
    ∃ o, Filed w (w.pollTask j) j o o.waitsAt := by
  cases stands : (w.task? j).bind Task.operation? with
  | none =>
    refine ⟨.start, pollTask_as numbered j fits fun t found => .inr ?_⟩
    simpa [found] using stands
  | some o =>
    refine ⟨o, pollTask_as numbered j fits fun t found => .inl ?_⟩
    simpa [found] using stands

end Filed

/-- Every lifecycle operation waits at the lock or at a stage its kind reaches. -/
def StagesFit (w : World) : Prop :=
  ∀ j handle op stage, (j, Task.lifecycle handle op stage) ∈ w.tasks → op.waitsAt stage

namespace StagesFit

variable {w w' : World}

theorem filed {tid : Nat} {op : LifecycleOp} (fits : w.StagesFit)
    (filed : Filed w w' tid op op.waitsAt) : w'.StagesFit := by
  intro j handle o stage mem
  rcases filed j handle o stage mem with old | ⟨-, rfl, allowed⟩
  · exact fits j handle o stage old
  · exact allowed

theorem of_operations (fits : w.StagesFit) (keeps : KeepsOperations w w') : w'.StagesFit :=
  fun j handle op stage mem => fits j handle op stage (keeps.mem_iff.mp mem)

theorem of_fresh (fresh : w.Fresh) : w.StagesFit := by
  intro j handle op stage mem
  have listed := mem_operations.mpr mem
  rw [fresh.idle] at listed
  cases listed

/-- The step lemma: a new operation is filed at the lock, and a turn files its own operation
only where its kind may wait. -/
theorem step (numbered : w.WellNumbered) (fits : w.StagesFit) (step : Step w w') :
    w'.StagesFit := by
  cases step with
  | request handle op =>
    intro j h o stage mem
    rcases List.mem_append.mp mem with old | added
    · exact fits j h o stage old
    · obtain ⟨-, same⟩ := Prod.mk.inj (List.mem_singleton.mp added)
      cases same
      exact .inl rfl
  | failLaunch reason => exact fun j h o stage mem => fits j h o stage mem
  | turn j =>
    obtain ⟨o, filed⟩ := Filed.pollTask numbered j fun handle o stage found =>
      fits j handle o stage (mem_of_task? found)
    exact fits.filed filed
  | outside keeps => exact fits.of_operations (.of_keeps keeps)

/-- The run lemma: along every run from a fresh supervisor, every operation waits at the lock or
at a stage its kind reaches; so a stop never clears a crashed session and never starts one. -/
theorem run (fresh : w.Fresh) (steps : Relation.ReflTransGen Step w w') : w'.StagesFit := by
  induction steps with
  | refl => exact of_fresh fresh
  | tail earlier last ih => exact ih.step (fresh.lawful.run earlier).numbered last

end StagesFit

/-! ### A turn begins at most one session -/

/-- Changes that begin at most one session. -/
def BeginsOne (w w' : World) : Prop :=
  w'.supervision.generation ≤ w.supervision.generation + 1

theorem Steady.beginsOne {w w' : World} (steady : Steady w w') : BeginsOne w w' := by
  unfold BeginsOne
  rw [steady.generation]
  omega

namespace BeginsOne

variable {w w₁ w' : World}

theorem after (same : w₁.supervision.generation = w.supervision.generation)
    (rest : BeginsOne w₁ w') : BeginsOne w w' := by
  unfold BeginsOne at rest ⊢
  omega

theorem steady (first : Steady w w₁) (rest : BeginsOne w₁ w') : BeginsOne w w' :=
  after first.generation rest

theorem begin (w : World) : BeginsOne w w.beginSession.2 := by
  unfold BeginsOne World.beginSession
  dsimp only
  split
  · cases found : w.sup with
    | none => simp [supervision, modifySup, emit, found]
    | some s => simp [supervision, modifySup, emit, found]
  · exact Nat.le_succ _

theorem startFresh (w : World) (tid : Nat) (handle : Option Nat) (op : LifecycleOp) :
    BeginsOne w (w.startFresh tid handle op) := by
  unfold BeginsOne
  rw [(Steady.afterBegin w tid handle op).generation]
  exact begin w

theorem afterClear (w : World) (tid : Nat) (handle : Option Nat) (op : LifecycleOp) (c : Nat) :
    BeginsOne w (w.afterClear tid handle op c) :=
  steady ((Steady.closePeer w c).trans (Steady.transition _ none .stopped (by decide)))
    (startFresh _ tid handle op)

theorem startLocked (w : World) (tid : Nat) (handle : Option Nat) (op : LifecycleOp) :
    BeginsOne w (w.startLocked tid handle op) := by
  unfold World.startLocked
  split
  · exact (Steady.finishOp w tid handle _).beginsOne
  · exact (Steady.finishOp w tid handle _).beginsOne
  · split
    · rename_i r held
      dsimp only
      refine steady ((Steady.takeSession w r).trans (Steady.requestKill _ r.conn)) ?_
      split
      · exact afterClear _ tid handle op r.conn
      · exact (Steady.setStage _ tid (by simp)).beginsOne
    · exact steady (Steady.transition w none .stopped (by decide)) (startFresh _ tid handle op)
  · exact startFresh w tid handle op

theorem afterStop (w : World) (tid : Nat) (handle : Option Nat) (op : LifecycleOp) :
    BeginsOne w (w.afterStop tid handle op) := by
  unfold World.afterStop
  split
  · exact startLocked w tid handle _
  · exact (Steady.finishOp w tid handle _).beginsOne

theorem stopsThen {tid : Nat} {handle : Option Nat} {op : LifecycleOp}
    (stops : StopsThen w w' tid handle op) : BeginsOne w w' := by
  obtain ⟨w₁, first, rfl | rfl⟩ := stops
  · exact first.beginsOne
  · exact steady first (afterStop w₁ tid handle op)

theorem afterLock (w : World) (tid : Nat) (handle : Option Nat) (op : LifecycleOp) :
    BeginsOne w (w.afterLock tid handle op) := by
  -- the reset of a host's start or restart keeps the generation
  have reset := generation_modifySup w (f := fun s => { s with restarts := 0 }) fun _ => rfl
  unfold World.afterLock
  cases op with
  | start => exact after reset (startLocked _ tid handle _)
  | stop => exact stopsThen (StopsThen.stopLocked w)
  | restart => exact after reset (stopsThen (StopsThen.stopLocked _))
  | autoRestart gen =>
    dsimp only
    split
    · exact (Steady.finishOp w tid handle _).beginsOne
    · exact startLocked w tid handle _

theorem pollLifecycle (w : World) (tid : Nat) (handle : Option Nat) (op : LifecycleOp)
    (stage : Stage) : BeginsOne w (w.pollLifecycle tid handle op stage) := by
  cases stage with
  | locking =>
    dsimp only [World.pollLifecycle]
    split
    · exact afterLock w tid handle op
    · split
      · exact steady (Steady.update w (fun s => { s with lockHolder := some tid }) fun _ => rfl)
          (afterLock _ tid handle op)
      · split
        · exact (Steady.refl w).beginsOne
        · exact Steady.beginsOne (Steady.update w _ fun _ => rfl)
  | clearing c =>
    dsimp only [World.pollLifecycle]
    split
    · exact afterClear w tid handle op c
    · exact (Steady.refl w).beginsOne
  | handshake gen c call t =>
    dsimp only [World.pollLifecycle]
    rcases stepped : w.stepCall c call with ⟨w₁, call'⟩
    dsimp only
    exact steady (Steady.of_stepCall stepped)
      (Steady.awaitInitialize w₁ tid handle op gen c call' t).beginsOne
  | shutdown gen c call =>
    dsimp only [World.pollLifecycle]
    rcases stepped : w.stepCall c call with ⟨w₁, call'⟩
    dsimp only
    refine steady (Steady.of_stepCall stepped) ?_
    split
    · exact stopsThen (StopsThen.afterShutdown w₁ gen c)
    · exact (Steady.setStage w₁ tid (by simp)).beginsOne
  | grace gen c t =>
    dsimp only [World.pollLifecycle]
    split
    · exact stopsThen (StopsThen.finishStop w c)
    · split
      · exact stopsThen (StopsThen.killAndWait w gen c)
      · exact (Steady.refl w).beginsOne
  | killed gen c =>
    dsimp only [World.pollLifecycle]
    split
    · exact stopsThen (StopsThen.finishStop w c)
    · exact (Steady.refl w).beginsOne

theorem pollRestartDelay (w : World) (tid gen delay : Nat) (timer? : Option Timer) :
    BeginsOne w (w.pollRestartDelay tid gen delay timer?) := by
  -- the timer and the delay's own entry leave the record alone
  have becomes : ∀ v : World, v.sup = w.sup → BeginsOne w ((v.setTask tid
      (.lifecycle none (.autoRestart gen) .locking)).pollLifecycle tid none (.autoRestart gen)
      .locking) :=
    fun v same => after (by simp only [supervision, sup_setTask, same])
      (pollLifecycle _ tid none _ .locking)
  cases timer? with
  | none =>
    dsimp only [World.pollRestartDelay]
    split
    · exact becomes _ rfl
    · exact after rfl (Steady.refl w).beginsOne
  | some t =>
    dsimp only [World.pollRestartDelay]
    split
    · exact becomes w rfl
    · exact (Steady.refl w).beginsOne

/-- A turn of any task begins at most one session. -/
theorem pollTask (numbered : w.WellNumbered) (tid : Nat) : BeginsOne w (w.pollTask tid) := by
  have own : ∀ {t : Task}, w.task? tid = some t → t.isLifecycle = false → w.NotOperation tid :=
    fun found kind => numbered.notOperation_of_task? found kind
  have keeps : ∀ {w'}, KeepsSupervisor w w' → BeginsOne w w' := fun keeps =>
    after (by rw [keeps.supervision]) (Steady.refl _).beginsOne
  unfold World.pollTask
  split
  · exact (Steady.refl w).beginsOne
  · rename_i c started ended found
    exact keeps (KeepsSupervisor.pollReader numbered (own found rfl) c started ended)
  · rename_i c found
    exact keeps (KeepsSupervisor.pollWriter (own found rfl) c)
  · rename_i c id method work found
    exact keeps (KeepsSupervisor.pollHandler (own found rfl) c id method work)
  · rename_i handle target call typed found
    exact keeps (KeepsSupervisor.pollCall (own found rfl) handle target call typed)
  · rename_i handle c each found
    exact keeps (KeepsSupervisor.pollCalls (own found rfl) handle c each)
  · rename_i handle op stage found
    exact pollLifecycle w tid handle op stage
  · exact (Steady.pollMonitor w tid _ _ _).beginsOne
  · rename_i gen delay timer? found
    exact pollRestartDelay w tid gen delay timer?
  · rename_i c action t found
    exact keeps (KeepsSupervisor.pollTimed (own found rfl) c action t)

end BeginsOne

/-! ### An automatic restart waiting to clear a crashed session -/

section Clearing

variable {w : World} {tid g : Nat}

/-- A start under the lock files its operation at no stage past the lock but a handshake, or
else begins no session. -/
theorem filed_or_steady_startLocked (w : World) (tid : Nat) (handle : Option Nat)
    (op : LifecycleOp) :
    Filed w (w.startLocked tid handle op) tid op (fun stage => stage.shakes) ∨
      Steady w (w.startLocked tid handle op) := by
  unfold World.startLocked
  split
  · exact .inl (Filed.finishOp w tid handle _)
  · exact .inl (Filed.finishOp w tid handle _)
  · split
    · rename_i r held
      dsimp only
      split
      · have killed : Filed w ((w.takeSession r).requestKill r.conn) tid op fun stage => stage.shakes :=
          (Filed.takeSession w r).trans (Filed.of_keeps (KeepsSupervisor.requestKill _ r.conn))
        exact .inl (killed.trans (Filed.afterClear _ handle r.conn))
      · exact .inr (((Steady.takeSession w r).trans (Steady.requestKill _ r.conn)).trans
          (Steady.setStage _ tid (by simp)))
    · exact .inl ((Filed.transition w none .stopped).trans (Filed.startFresh _ handle))
  · exact .inl (Filed.startFresh w handle)

/-- With the lock in hand, the automatic restart of `g` files itself at no stage past the lock
but a handshake, or else it found `g` current and crashed and began no session. -/
theorem filed_or_current_afterLock (w : World) (tid : Nat) (handle : Option Nat) (g : Nat) :
    Filed w (w.afterLock tid handle (.autoRestart g)) tid (.autoRestart g)
        (fun stage => stage.shakes) ∨
      (Steady w (w.afterLock tid handle (.autoRestart g)) ∧
        w.supervision.generation = g ∧ w.supervision.state = .crashed) := by
  unfold World.afterLock
  dsimp only
  split
  · exact .inl (Filed.finishOp w tid handle _)
  · rename_i current
    simp only [Bool.or_eq_true, bne_iff_ne, ne_eq, not_or, not_not] at current
    exact (filed_or_steady_startLocked w tid handle _).imp_right fun steady => ⟨steady, current⟩

/-- A turn of the automatic restart of `g` at the lock files it at no stage past the lock but a
handshake, or else it took the lock, free or its own, over `g` current and crashed, and began
no session. -/
theorem filed_or_current_restartAtLock (w : World) (tid : Nat) (handle : Option Nat) (g : Nat) :
    Filed w (w.pollLifecycle tid handle (.autoRestart g) .locking) tid (.autoRestart g)
        (fun stage => stage.shakes) ∨
      (Steady w (w.pollLifecycle tid handle (.autoRestart g) .locking) ∧
        w.supervision.generation = g ∧ w.supervision.state = .crashed ∧
        (w.supervision.lockHolder = some tid ∨ w.supervision.lockHolder = none)) := by
  dsimp only [World.pollLifecycle]
  split
  · rename_i holds
    exact (filed_or_current_afterLock w tid handle g).imp_right fun ⟨steady, current⟩ =>
      ⟨steady, current.1, current.2, .inl (by simpa using holds)⟩
  · split
    · rename_i notHeld free
      have course := course_modifySup w (f := fun s => { s with lockHolder := some tid })
        fun _ => rfl
      simp only [Supervision.course, Prod.mk.injEq] at course
      rcases filed_or_current_afterLock (w.modifySup fun s => { s with lockHolder := some tid }) tid
        handle g with filed | ⟨steady, current, crashedState⟩
      · exact .inl ((Filed.modifySup w _).trans filed)
      · refine .inr ⟨(Steady.update w (fun s => { s with lockHolder := some tid }) fun _ => rfl).trans
          steady, ?_, ?_, .inr (by simpa using free)⟩
        · rw [← course.2.1]
          exact current
        · rw [← course.1]
          exact crashedState
    · split
      · exact .inl (Filed.refl w)
      · exact .inl (Filed.modifySup w _)

/-- An operation at the lock, filed at nothing past it but a handshake, does not wait to clear a
crashed session. -/
theorem not_clearing_of_filed {w' : World} {op o : LifecycleOp} {h : Option Nat}
    (numbered : w.WellNumbered) (was : (tid, Task.lifecycle h o .locking) ∈ w.tasks)
    (filed : Filed w w' tid op fun stage => stage.shakes) (handle : Option Nat) (o' : LifecycleOp)
    (c : Nat) : (tid, Task.lifecycle handle o' (.clearing c)) ∉ w'.tasks := by
  intro mem
  rcases filed tid handle o' (.clearing c) mem with old | ⟨-, -, shaking⟩
  · cases numbered.eq_of_mem was old
  · simp [Stage.shakes] at shaking

/-- The automatic restart of `g`, a delay or at the lock, that after its turn waits to clear a
crashed session took the lock, free or its own, over `g` current and crashed, and `g` is still
the current generation. -/
theorem generation_of_clearing (numbered : w.WellNumbered) {t : Task} {handle : Option Nat}
    {op : LifecycleOp} {c : Nat} (found : w.task? tid = some t) (pending : t.restartOf = some g)
    (clearing : (tid, Task.lifecycle handle op (.clearing c)) ∈ (w.pollTask tid).tasks) :
    w.supervision.generation = g ∧ w.supervision.state = .crashed ∧
      (w.supervision.lockHolder = some tid ∨ w.supervision.lockHolder = none) ∧
      (w.pollTask tid).supervision.generation = g := by
  -- the restart's turn at the lock, in a world with `w`'s record
  have atLock : ∀ v : World, v.WellNumbered → v.sup = w.sup → ∀ h,
      (tid, Task.lifecycle h (.autoRestart g) .locking) ∈ v.tasks →
      (tid, Task.lifecycle handle op (.clearing c)) ∈
        (v.pollLifecycle tid h (.autoRestart g) .locking).tasks →
      w.supervision.generation = g ∧ w.supervision.state = .crashed ∧
        (w.supervision.lockHolder = some tid ∨ w.supervision.lockHolder = none) ∧
        (v.pollLifecycle tid h (.autoRestart g) .locking).supervision.generation = g := by
    intro v numbered' same h was mem
    have record : v.supervision = w.supervision := by simp only [supervision, same]
    rcases filed_or_current_restartAtLock v tid h g with filed | ⟨steady, current, crashedState, lock⟩
    · exact absurd mem (not_clearing_of_filed numbered' was filed _ _ _)
    · rw [record] at current crashedState lock
      exact ⟨current, crashedState, lock, steady.generation.trans (record ▸ current)⟩
  -- a delay that runs out becomes the restart at the lock, in its own entry
  have becomes : ∀ v : World, v.WellNumbered → v.sup = w.sup → (∃ u, (tid, u) ∈ v.tasks) →
      (tid, Task.lifecycle handle op (.clearing c)) ∈ ((v.setTask tid (.lifecycle none
        (.autoRestart g) .locking)).pollLifecycle tid none (.autoRestart g) .locking).tasks →
      w.supervision.generation = g ∧ w.supervision.state = .crashed ∧
        (w.supervision.lockHolder = some tid ∨ w.supervision.lockHolder = none) ∧
        ((v.setTask tid (.lifecycle none (.autoRestart g) .locking)).pollLifecycle tid none
          (.autoRestart g) .locking).supervision.generation = g := by
    rintro v numbered' same ⟨u, present⟩ mem
    exact atLock _ (numbered'.setTask tid _) same none
      (mem_setTask.mpr (.inl ⟨rfl, rfl, u, present⟩)) mem
  have delayed := mem_of_task? found
  rcases Task.restartOf_eq_some pending with ⟨delay, timer?, rfl⟩ | ⟨h, rfl⟩
  · simp only [pollTask, found] at clearing ⊢
    have timed := (KeepsSupervisor.timer w delay).numbered numbered
    cases timer? with
    | none =>
      dsimp only [pollRestartDelay] at clearing ⊢
      by_cases due : (w.timer delay).2.deadline ≤ (w.timer delay).1.now
      · rw [if_pos due] at clearing ⊢
        exact becomes _ timed rfl ⟨_, delayed⟩ clearing
      · rw [if_neg due] at clearing
        rcases mem_setTask.mp clearing with ⟨-, wrong, -⟩ | ⟨other, -⟩
        · cases wrong
        · exact absurd rfl other
    | some t =>
      dsimp only [pollRestartDelay] at clearing ⊢
      by_cases due : t.deadline ≤ w.now
      · rw [if_pos due] at clearing ⊢
        exact becomes w numbered rfl ⟨_, delayed⟩ clearing
      · rw [if_neg due] at clearing
        cases numbered.eq_of_mem delayed clearing
  · simp only [pollTask, found] at clearing ⊢
    exact atLock w numbered rfl h delayed clearing

end Clearing

end World

end Engine

end LspBridge
