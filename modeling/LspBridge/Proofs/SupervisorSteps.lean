import LspBridge.Proofs.ConnectionFrame
import LspBridge.Proofs.SupervisorLifecycle
/-!
# The supervisor's turns, change by change

Every turn of a lifecycle operation, of a monitor or of a restart delay changes what the
supervisor's history follows only through a handful of changes: a change of state other than a
start (`transition`), the start of a new generation (`beginSession`), the record of a crash
(`crashed`, which may arm an automatic restart), and the reset of the count of automatic restarts
when the host starts or restarts. Between them it makes moves that leave the state, the
generation, the count, the configuration and the events alone and keep what is over
(`World.Lasts`). `World.SupStep` lists these changes and `World.Recorded` chains them; each
supervisor function is shown to be such a chain, in the order of the definitions.

A move of a supervised client (`World.Move`) is a request of the host, a failed launch it asks
for, a turn of a task, or something outside that keeps the supervisor and what is over; every such
move is a chain of `SupStep`s (`Move.recorded`), so an invariant of the supervisor's history needs
proving for these few changes only.
-/

namespace LspBridge

namespace Engine

open Json Rpc Client Server

namespace Supervision

/-- What the supervisor's history follows of its record: the state, the generation, the count of
automatic restarts since the host last started, and the configuration. -/
def course (s : Supervision) : SessionState × Nat × Nat × Config :=
  (s.state, s.generation, s.restarts, s.config)

end Supervision

/-- A lifecycle operation the host may ask for: start, stop or restart. -/
def LifecycleOp.isHost : LifecycleOp → Bool
  | .autoRestart _ => false
  | _ => true

/-- A host's start or restart: the operations that reset the count of automatic restarts once
they hold the lock. -/
def LifecycleOp.resetsCount : LifecycleOp → Bool
  | .start | .restart => true
  | _ => false

/-- An operation the host asks for stands for no automatic restart. -/
theorem Task.restartOf_of_isHost {handle : Option Nat} {op : LifecycleOp} {stage : Stage}
    (host : op.isHost = true) : (Task.lifecycle handle op stage).restartOf = none := by
  cases op <;> cases stage <;> simp_all [Task.restartOf, LifecycleOp.isHost]

namespace World

/-- One change a turn of the supervisor makes, as its history sees it.

`quiet`: a move that leaves the course of the record and the events alone and keeps what is over.
`transition`: a change of state to anything but Starting. `begin`: a new generation begins. `crash`:
the end of a generation's session is recorded. `reset`: the host starts afresh: the count of
automatic restarts goes back to zero. -/
inductive SupStep : World → World → Prop where
  | quiet {w w' : World} (lasts : Lasts w w') (course : w'.supervision.course = w.supervision.course)
      (events : w'.events = w.events) (supervised : w'.sup.isSome = w.sup.isSome) : SupStep w w'
  | transition (w : World) (gen : Option Nat) (next : SessionState) (notStart : next ≠ .starting) :
      SupStep w (w.transition gen next).2
  | begin (w : World) : SupStep w w.beginSession.2
  | crash (w : World) (gen : Nat) (reason : CrashReason) : SupStep w (w.crashed gen reason)
  | reset (w : World) : SupStep w (w.modifySup fun s => { s with restarts := 0 })

/-- The changes of a part of a turn of the supervisor, one after another. -/
def Recorded : World → World → Prop := Relation.ReflTransGen SupStep

/-- A chain of the supervisor's changes that never lowers the count of automatic restarts: any
change but the reset of a host's start or restart. -/
def Rising : World → World → Prop :=
  Relation.ReflTransGen fun w w' => SupStep w w' ∧ w.supervision.restarts ≤ w'.supervision.restarts

/-- A chain of the supervisor's changes that begins no session either: it keeps the generation. -/
def Steady : World → World → Prop :=
  Relation.ReflTransGen fun w w' => SupStep w w' ∧
    w.supervision.restarts ≤ w'.supervision.restarts ∧
      w'.supervision.generation = w.supervision.generation

theorem course_modifySup (w : World) {f : Supervision → Supervision}
    (keeps : ∀ s, (f s).course = s.course) :
    (w.modifySup f).supervision.course = w.supervision.course := by
  unfold supervision modifySup
  cases w.sup <;> simp [keeps]

theorem generation_modifySup (w : World) {f : Supervision → Supervision}
    (keeps : ∀ s, (f s).generation = s.generation) :
    (w.modifySup f).supervision.generation = w.supervision.generation := by
  unfold supervision modifySup
  cases w.sup <;> simp [keeps]

theorem restarts_modifySup (w : World) {f : Supervision → Supervision}
    (keeps : ∀ s, (f s).restarts = s.restarts) :
    (w.modifySup f).supervision.restarts = w.supervision.restarts := by
  unfold supervision modifySup
  cases w.sup <;> simp [keeps]

theorem le_restarts_modifySup (w : World) {f : Supervision → Supervision}
    (grows : w.supervision.restarts ≤ (f w.supervision).restarts) :
    w.supervision.restarts ≤ (w.modifySup f).supervision.restarts := by
  cases found : w.sup with
  | none => simp [supervision, modifySup, found]
  | some s => simpa [supervision, modifySup, found] using grows

theorem sup_foldl_dropTask (ids : List Nat) (w : World) :
    (ids.foldl dropTask w).sup = w.sup ∧ (ids.foldl dropTask w).events = w.events := by
  induction ids generalizing w with
  | nil => exact ⟨rfl, rfl⟩
  | cons tid rest ih => exact ih (w.dropTask tid)

/-- No change of the supervisor's record removes or installs the supervisor. -/
theorem SupStep.supervised {w w' : World} (step : SupStep w w') : w'.sup.isSome = w.sup.isSome := by
  cases step with
  | quiet lasts course events supervised => exact supervised
  | transition gen next notStart =>
    rcases moved : w.transition gen next with ⟨_ | _, w'⟩
    · rw [(transition_eq_false moved).1]
    · rw [(transition_eq_true moved).2.2]
      simp
  | begin =>
    unfold beginSession
    dsimp only
    split <;> simp
  | crash gen reason =>
    unfold crashed
    split
    · rename_i w' stayed
      rw [(transition_eq_false stayed).1]
    · rename_i w' moved
      rw [(transition_eq_true moved).2.2]
      dsimp only
      split <;> simp [spawn]
  | reset => simp

/-- A change of state keeps the count of automatic restarts and the generation. -/
theorem counts_transition (w : World) (gen : Option Nat) (next : SessionState) :
    (w.transition gen next).2.supervision.restarts = w.supervision.restarts ∧
      (w.transition gen next).2.supervision.generation = w.supervision.generation := by
  rcases moved : w.transition gen next with ⟨_ | _, w'⟩
  · obtain ⟨rfl, -⟩ := transition_eq_false moved
    exact ⟨rfl, rfl⟩
  · obtain ⟨-, -, rfl⟩ := transition_eq_true moved
    exact ⟨restarts_modifySup w fun _ => rfl, generation_modifySup w fun _ => rfl⟩

/-- A crash keeps the generation, and counts one more automatic restart if it arms one. -/
theorem counts_crashed (w : World) (gen : Nat) (reason : CrashReason) :
    w.supervision.restarts ≤ (w.crashed gen reason).supervision.restarts ∧
      (w.crashed gen reason).supervision.generation = w.supervision.generation := by
  unfold crashed
  split
  · rename_i w' stayed
    obtain ⟨rfl, -⟩ := transition_eq_false stayed
    exact ⟨le_rfl, rfl⟩
  · rename_i w' moved
    have kept := counts_transition w (some gen) .crashed
    rw [moved] at kept
    dsimp only
    split
    · exact ⟨kept.1.ge, kept.2⟩
    · refine ⟨kept.1.ge.trans (le_restarts_modifySup (w'.emit _) (by simp)), ?_⟩
      rw [← kept.2]
      exact generation_modifySup _ fun _ => rfl

theorem restarts_beginSession (w : World) :
    w.beginSession.2.supervision.restarts = w.supervision.restarts := by
  unfold beginSession
  dsimp only
  split
  · exact restarts_modifySup w fun _ => rfl
  · rfl

namespace Recorded

variable {w w₁ w₂ w₃ : World}

/-- The run lemma of the supervisor's changes: what each change keeps from a supervised world,
every chain of them keeps. -/
theorem preserve {P : World → Prop}
    (step : ∀ {v v' : World}, v.sup.isSome → P v → SupStep v v' → P v')
    (recorded : Recorded w w') (supervised : w.sup.isSome) (holds : P w) : P w' := by
  induction recorded with
  | refl => exact holds
  | tail earlier last ih =>
    -- the supervisor stays installed along the chain
    have installed : ∀ {v v'}, Recorded v v' → v'.sup.isSome = v.sup.isSome := fun chain => by
      induction chain with
      | refl => rfl
      | tail _ change same => rw [change.supervised, same]
    exact step ((installed earlier).trans supervised) ih last

theorem refl (w : World) : Recorded w w := Relation.ReflTransGen.refl

theorem trans (first : Recorded w₁ w₂) (second : Recorded w₂ w₃) : Recorded w₁ w₃ :=
  Relation.ReflTransGen.trans first second

theorem conns_transition (w : World) (gen : Option Nat) (next : SessionState) :
    (w.transition gen next).2.conns = w.conns := by
  rcases moved : w.transition gen next with ⟨_ | _, w'⟩
  · obtain ⟨rfl, -⟩ := transition_eq_false moved
    rfl
  · obtain ⟨-, -, rfl⟩ := transition_eq_true moved
    rfl

theorem conns_crashed (w : World) (gen : Nat) (reason : CrashReason) :
    (w.crashed gen reason).conns = w.conns := by
  unfold World.crashed
  split
  · rename_i w' stayed
    obtain ⟨rfl, -⟩ := transition_eq_false stayed
    rfl
  · rename_i w' moved
    have same : w'.conns = w.conns := by
      have := conns_transition w (some gen) .crashed
      rwa [moved] at this
    dsimp only
    split
    · exact same
    · exact same

end Recorded

namespace Rising

variable {w w₁ w₂ w₃ : World}

theorem refl (w : World) : Rising w w := Relation.ReflTransGen.refl

theorem trans (first : Rising w₁ w₂) (second : Rising w₂ w₃) : Rising w₁ w₃ :=
  Relation.ReflTransGen.trans first second

theorem recorded (rising : Rising w₁ w₂) : Recorded w₁ w₂ := by
  unfold Rising at rising
  exact Relation.ReflTransGen.mono (fun _ _ step => step.1) _ _ rising

end Rising

namespace Steady

variable {w w₁ w₂ w₃ : World}

theorem refl (w : World) : Steady w w := Relation.ReflTransGen.refl

theorem trans (first : Steady w₁ w₂) (second : Steady w₂ w₃) : Steady w₁ w₃ :=
  Relation.ReflTransGen.trans first second

theorem rising (steady : Steady w₁ w₂) : Rising w₁ w₂ := by
  unfold Steady at steady
  exact Relation.ReflTransGen.mono (fun _ _ step => ⟨step.1, step.2.1⟩) _ _ steady

theorem recorded (steady : Steady w₁ w₂) : Recorded w₁ w₂ :=
  steady.rising.recorded

theorem generation (steady : Steady w₁ w₂) :
    w₂.supervision.generation = w₁.supervision.generation := by
  unfold Steady at steady
  induction steady with
  | refl => rfl
  | tail _ step earlier => exact step.2.2.trans earlier

/-- A move that keeps the record and the events, and what is over. -/
theorem same {w w' : World} (lasts : Lasts w w') (sup : w'.sup = w.sup)
    (events : w'.events = w.events) : Steady w w' := by
  have record : w'.supervision = w.supervision := by simp only [supervision, sup]
  exact .single ⟨.quiet lasts (by rw [record]) events (by rw [sup]), by rw [record],
    by rw [record]⟩

theorem of_keeps {w w' : World} (keeps : KeepsSupervisor w w') (lasts : Lasts w w') :
    Steady w w' :=
  same lasts keeps.sup keeps.events

/-- A change of the record outside its course. -/
theorem update (w : World) (f : Supervision → Supervision) (keeps : ∀ s, (f s).course = s.course) :
    Steady w (w.modifySup f) := by
  have course := course_modifySup w keeps
  simp only [Supervision.course, Prod.mk.injEq] at course
  exact .single ⟨.quiet (.of_conns rfl rfl) (course_modifySup w keeps) rfl (by simp),
    course.2.2.1.ge, course.2.1⟩

theorem transition (w : World) (gen : Option Nat) (next : SessionState)
    (notStart : next ≠ .starting) : Steady w (w.transition gen next).2 :=
  .single ⟨.transition w gen next notStart, (counts_transition w gen next).1.ge,
    (counts_transition w gen next).2⟩

theorem crashed (w : World) (gen : Nat) (reason : CrashReason) :
    Steady w (w.crashed gen reason) :=
  .single ⟨.crash w gen reason, (counts_crashed w gen reason).1, (counts_crashed w gen reason).2⟩

theorem spawn (w : World) {t : Task} (kind : t.restartOf = none) : Steady w (w.spawn t).1 :=
  same (Lasts.spawn kind) rfl rfl

theorem setTask (w : World) (tid : Nat) {t : Task} (kind : t.restartOf = none) :
    Steady w (w.setTask tid t) :=
  same (Lasts.setTask (.inl kind)) rfl rfl

theorem dropTask (w : World) (tid : Nat) : Steady w (w.dropTask tid) :=
  same (Lasts.dropTask w tid) rfl rfl

theorem timer (w : World) (ms : Nat) : Steady w (w.timer ms).1 :=
  same (Lasts.timer w ms) rfl rfl

theorem wakeIf (w : World) (p : Task → Bool) : Steady w (w.wakeIf p) :=
  of_keeps (KeepsSupervisor.wakeIf w p) (Lasts.wakeIf w p)

theorem closePeer (w : World) (c : Nat) : Steady w (w.closePeer c).2 :=
  of_keeps (KeepsSupervisor.closePeer w c) (Lasts.closePeer w c)

theorem stepCall (w : World) (c : Nat) (call : Call) : Steady w (w.stepCall c call).1 :=
  of_keeps (KeepsSupervisor.stepCall w c call) (Lasts.stepCall w c call)

theorem of_stepCall {w w' : World} {c : Nat} {call call' : Call}
    (stepped : w.stepCall c call = (w', call')) : Steady w w' := by
  have sent := stepCall w c call
  rw [stepped] at sent
  exact sent

theorem requestKill (w : World) (c : Nat) : Steady w (w.requestKill c) :=
  of_keeps (KeepsSupervisor.requestKill w c) (Lasts.requestKill w c)

theorem markExpected (w : World) (c : Nat) :
    Steady w (w.modifyConn c fun k => { k with expectedExit := true }) :=
  of_keeps (KeepsSupervisor.modifyConn w c _)
    (Lasts.modifyConn_of_eq w c (fun _ => by rfl) fun _ => by rfl)

theorem takeSession (w : World) (r : SessionRecord) : Steady w (w.takeSession r) :=
  (update w (fun s => { s with session := none }) fun _ => rfl).trans (markExpected _ r.conn)

/-! ### The lock and the end of an operation -/

theorem releaseLock (w : World) : Steady w w.releaseLock := by
  unfold World.releaseLock
  split
  · exact update w _ fun _ => by rfl
  · exact (update w _ fun _ => by rfl).trans
      (of_keeps (KeepsSupervisor.wake _ _) (Lasts.wake _ _))

theorem finishOp (w : World) (tid : Nat) (handle : Option Nat) (r : Except Server.Error Unit) :
    Steady w (w.finishOp tid handle r) := by
  unfold World.finishOp
  have dropped := (releaseLock w).trans (dropTask w.releaseLock tid)
  split
  · exact dropped.trans (same (Lasts.report _ _ _) rfl rfl)
  · exact dropped

/-! ### The handshake -/

theorem failHandshake (w : World) (tid : Nat) (handle : Option Nat) (gen c : Nat)
    (failure : String) : Steady w (w.failHandshake tid handle gen c failure) := by
  unfold World.failHandshake
  dsimp only
  refine (crashed w gen (.handshake failure)).trans ?_
  generalize w.crashed gen (.handshake failure) = w₁
  -- the process is told to die only if the session is still this generation's
  split
  · split
    · exact ((markExpected w₁ c).trans (requestKill _ c)).trans (finishOp _ tid handle _)
    · exact finishOp _ tid handle _
  · exact finishOp _ tid handle _

theorem handshakeDone (w : World) (tid : Nat) (handle : Option Nat) (gen c : Nat)
    (r : Except Rpc.Error Value) : Steady w (w.handshakeDone tid handle gen c r) := by
  unfold World.handshakeDone
  split
  · exact failHandshake w tid handle gen c _
  split
  · exact failHandshake w tid handle gen c _
  split
  · exact failHandshake w tid handle gen c _
  rename_i caps _ _ w₁ sent
  have notified := of_keeps (KeepsSupervisor.notify sent) (Lasts.notify sent)
  dsimp only
  -- the capabilities go to the session of this generation
  have noted := update w₁ (fun s => { s with session := s.session.map fun r =>
    if r.generation == gen then { r with capabilities := some caps } else r }) fun _ => rfl
  refine notified.trans (noted.trans ?_)
  split
  · rename_i w₃ moved
    have step := transition (w₁.modifySup fun s => { s with session := s.session.map fun r =>
      if r.generation == gen then { r with capabilities := some caps } else r }) (some gen)
      .running (by decide)
    rw [moved] at step
    exact step.trans (finishOp _ tid handle _)
  · rename_i w₃ stayed
    obtain ⟨rfl, -⟩ := transition_eq_false stayed
    exact failHandshake _ tid handle gen c _

theorem handshakeTimeout (w : World) (tid : Nat) (handle : Option Nat) (gen c : Nat) (call : Call) :
    Steady w (w.handshakeTimeout tid handle gen c call) := by
  unfold World.handshakeTimeout
  exact (of_keeps (KeepsSupervisor.abandon w call) (Lasts.abandon w call)).trans
    (failHandshake _ tid handle gen c _)

/-! ### Launching, and what an operation past the lock sets -/

theorem launch (w : World) : Steady w w.launch.2 := by
  unfold World.launch
  dsimp only
  split
  · exact update w _ fun _ => rfl
  · split
    · exact same (Lasts.push w _ rfl) rfl rfl
    · split
      · exact refl w
      · split
        · exact (same (Lasts.push w _ rfl) rfl rfl).trans
            (of_keeps (KeepsSupervisor.processEnds _ _ _) (Lasts.processEnds _ w.conns.size _))
        · exact same (Lasts.push w _ rfl) rfl rfl

/-- An operation that moves past the lock sets a stage that stands for no restart. -/
theorem setStage (w : World) (tid : Nat) {handle : Option Nat} {op : LifecycleOp} {stage : Stage}
    (past : stage ≠ .locking) : Steady w (w.setTask tid (.lifecycle handle op stage)) :=
  setTask w tid (Task.restartOf_lifecycle_of_ne past)

theorem awaitInitialize (w : World) (tid : Nat) (handle : Option Nat) (op : LifecycleOp)
    (gen c : Nat) (call : Call) (t : Timer) :
    Steady w (w.awaitInitialize tid handle op gen c call t) := by
  unfold World.awaitInitialize
  split
  · exact handshakeDone w tid handle gen c _
  · split
    · exact handshakeTimeout w tid handle gen c _
    · exact setStage w tid (by simp)

/-- After a stop, anything but a restart ends the operation. -/
theorem afterStop (w : World) (tid : Nat) (handle : Option Nat) {op : LifecycleOp}
    (keeps : op ≠ .restart) : Steady w (w.afterStop tid handle op) := by
  cases op with
  | restart => exact absurd rfl keeps
  | start => exact finishOp w tid handle _
  | stop => exact finishOp w tid handle _
  | autoRestart gen => exact finishOp w tid handle _

/-! ### Monitors -/

/-- A monitor marks itself finished on a closed connection. -/
theorem markDone (w : World) (c : Nat) (shut : c < w.conns.size → (w.conn c).Closed) :
    Steady w (w.modifyConn c fun k => { k with monitorDone := true }) :=
  of_keeps (KeepsSupervisor.modifyConn w c _) (Lasts.modifyConn w c fun present =>
    ⟨fun _ => (shut present), fun _ => rfl, fun _ => .inr (shut present)⟩)

theorem finishMonitor (w : World) (tid c gen : Nat) (reason : Option CrashReason) :
    Steady w (w.finishMonitor tid c gen reason) := by
  unfold World.finishMonitor World.wakeOnMonitor
  dsimp only
  have closed := closePeer w c
  have shut : c < (w.closePeer c).2.conns.size → ((w.closePeer c).2.conn c).Closed :=
    fun present => by
      rw [conn_closePeer (by simpa using present)]
      exact ⟨rfl, rfl⟩
  generalize (w.closePeer c).2 = w₁ at closed shut
  -- a crash, if one is recorded, leaves the connections alone
  have finish : ∀ w₂, Steady w₁ w₂ → w₂.conns = w₁.conns → ∀ p, Steady w
      (((w₂.modifyConn c fun k => { k with monitorDone := true }).dropTask tid).wakeIf p) := by
    intro w₂ steady same p
    have shut₂ : c < w₂.conns.size → (w₂.conn c).Closed := by
      unfold World.conn
      rw [same]
      exact shut
    exact (((closed.trans steady).trans (markDone _ c shut₂)).trans (dropTask _ tid)).trans
      (wakeIf _ _)
  split
  · exact finish w₁ (refl w₁) rfl _
  · split
    · exact finish _ (crashed w₁ gen _) (Recorded.conns_crashed w₁ gen _) _
    · exact finish w₁ (refl w₁) rfl _

theorem terminate (w : World) (c : Nat) : Steady w (w.terminate c) :=
  of_keeps (KeepsSupervisor.terminate w c) (Lasts.terminate w c)

theorem abortReader (w : World) (c : Nat) : Steady w (w.abortReader c) := by
  have kept := Lasts.abortReader w c
  unfold World.abortReader World.dropHandlers at kept ⊢
  dsimp only at kept ⊢
  exact same kept (by simp [modifyConn, sup_foldl_dropTask])
    (by simp [modifyConn, sup_foldl_dropTask])

theorem conclude (w : World) (tid c gen : Nat) (exited : Option (Except String (Option Int)))
    (failure : Option String) : Steady w (w.conclude tid c gen exited failure) := by
  unfold World.conclude
  split
  · exact (terminate w c).trans (finishMonitor _ tid c gen _)
  · exact finishMonitor w tid c gen _
  · exact (terminate w c).trans (finishMonitor _ tid c gen _)

theorem awaitExit (w : World) (tid c gen : Nat) (failure : Option String) (t : Timer) :
    Steady w (w.awaitExit tid c gen failure t) := by
  dsimp only [World.awaitExit]
  split
  · exact conclude w tid c gen _ _
  · exact conclude w tid c gen _ _
  · exact setTask w tid rfl

theorem pollMonitor (w : World) (tid c gen : Nat) (watch : Watch) :
    Steady w (w.pollMonitor tid c gen watch) := by
  cases watch with
  | watching =>
    dsimp only [World.pollMonitor]
    split
    · exact (timer w _).trans (awaitExit _ tid c gen _ _)
    · exact (timer w _).trans (setTask _ tid rfl)
    · exact ((terminate w c).trans (abortReader _ c)).trans (finishMonitor _ tid c gen _)
    · exact refl w
  | draining status t =>
    dsimp only [World.pollMonitor]
    split
    · exact finishMonitor w tid c gen _
    · split
      · exact (abortReader w c).trans (finishMonitor _ tid c gen _)
      · exact refl w
  | lingering failure t =>
    dsimp only [World.pollMonitor]
    split
    · exact awaitExit w tid c gen _ _
    · exact refl w

end Steady

namespace Rising

variable {w w₁ w₂ w₃ : World}

/-! ### Starting under the lock -/

theorem begin (w : World) : Rising w w.beginSession.2 :=
  .single ⟨.begin w, (restarts_beginSession w).ge⟩

end Rising

/-- What a start does once its generation has begun, or could not: changes that begin no other
session. -/
theorem Steady.afterBegin (w : World) (tid : Nat) (handle : Option Nat) (op : LifecycleOp) :
    Steady w.beginSession.2 (w.startFresh tid handle op) := by
  unfold World.startFresh
  split
  · rename_i w₁ started
    rw [started]
    exact Steady.finishOp _ tid handle _
  · rename_i gen w₁ started
    rw [started]
    dsimp only
    have launched := Steady.launch w₁
    split
    · rename_i reason w₂ failed
      rw [failed] at launched
      exact launched.trans ((Steady.crashed _ gen _).trans (Steady.finishOp _ tid handle _))
    · rename_i c w₂ succeeded
      rw [succeeded] at launched
      refine launched.trans ?_
      -- the reader and the monitor start, and the session is recorded
      have spawned : Steady w₂ ((w₂.spawn (.reader c false none)).1.spawn
          (.monitor c gen .watching)).1 :=
        (Steady.spawn w₂ rfl).trans (Steady.spawn _ rfl)
      refine spawned.trans ?_
      generalize ((w₂.spawn (.reader c false none)).1.spawn (.monitor c gen .watching)).1 = w₃
      refine (Steady.update w₃ (fun s => { s with session := some { generation := gen, conn := c } })
        fun _ => rfl).trans ?_
      generalize w₃.modifySup (fun s => { s with session := some { generation := gen, conn := c } })
        = w₄
      -- the `initialize` call goes out under the startup deadline
      generalize stepped : w₄.stepCall c _ = p
      obtain ⟨w₅, call⟩ := p
      dsimp only
      exact ((Steady.of_stepCall stepped).trans
        (Steady.timer w₅ w₁.supervision.config.startupTimeout)).trans
        (Steady.awaitInitialize _ tid handle op gen c call _)

namespace Rising

variable {w w₁ w₂ w₃ : World}

theorem startFresh (w : World) (tid : Nat) (handle : Option Nat) (op : LifecycleOp) :
    Rising w (w.startFresh tid handle op) :=
  (begin w).trans (Steady.afterBegin w tid handle op).rising

theorem afterClear (w : World) (tid : Nat) (handle : Option Nat) (op : LifecycleOp) (c : Nat) :
    Rising w (w.afterClear tid handle op c) := by
  unfold World.afterClear
  exact ((Steady.closePeer w c).trans (Steady.transition _ none .stopped (by decide))).rising.trans
    (startFresh _ tid handle op)

theorem startLocked (w : World) (tid : Nat) (handle : Option Nat) (op : LifecycleOp) :
    Rising w (w.startLocked tid handle op) := by
  unfold World.startLocked
  split
  · exact (Steady.finishOp w tid handle _).rising
  · exact (Steady.finishOp w tid handle _).rising
  · split
    · rename_i r held
      -- the crashed session is taken, its process told to die, and its monitor waited for
      dsimp only
      have killed := (Steady.takeSession w r).trans (Steady.requestKill _ r.conn)
      refine killed.rising.trans ?_
      split
      · exact afterClear _ tid handle op r.conn
      · exact (Steady.setStage _ tid (by simp)).rising
    · exact (Steady.transition w none .stopped (by decide)).rising.trans (startFresh _ tid handle op)
  · exact startFresh w tid handle op

theorem afterStop (w : World) (tid : Nat) (handle : Option Nat) (op : LifecycleOp) :
    Rising w (w.afterStop tid handle op) := by
  unfold World.afterStop
  split
  · exact startLocked w tid handle _
  · exact (Steady.finishOp w tid handle _).rising

end Rising

/-- A stop under way: changes that begin no session, after which the stop waits, or goes on as
`afterStop` does. -/
def StopsThen (w w' : World) (tid : Nat) (handle : Option Nat) (op : LifecycleOp) : Prop :=
  ∃ w₁, Steady w w₁ ∧ (w' = w₁ ∨ w' = w₁.afterStop tid handle op)

namespace StopsThen

variable {w w₁ w' : World} {tid : Nat} {handle : Option Nat} {op : LifecycleOp}

theorem after (first : Steady w w₁) (rest : StopsThen w₁ w' tid handle op) :
    StopsThen w w' tid handle op := by
  obtain ⟨w₂, steady, ended⟩ := rest
  exact ⟨w₂, first.trans steady, ended⟩

theorem waits (steady : Steady w w') : StopsThen w w' tid handle op :=
  ⟨w', steady, .inl rfl⟩

theorem finishStop (w : World) (c : Nat) :
    StopsThen w (w.finishStop tid handle op c) tid handle op := by
  unfold World.finishStop
  exact ⟨_, (Steady.closePeer w c).trans (Steady.transition _ none .stopped (by decide)), .inr rfl⟩

theorem killAndWait (w : World) (gen c : Nat) :
    StopsThen w (w.killAndWait tid handle op gen c) tid handle op := by
  unfold World.killAndWait
  dsimp only
  refine after (Steady.requestKill w c) ?_
  split
  · exact finishStop _ c
  · exact waits (Steady.setStage _ tid (by simp))

/-- After `exit` the monitor is waited for, for the grace period. -/
theorem waitForMonitor (w : World) (gen c : Nat) :
    StopsThen w (w.waitForMonitor tid handle op gen c) tid handle op := by
  unfold World.waitForMonitor
  split
  · exact finishStop w c
  · split
    rename_i w₁ t armed
    have timed := Steady.timer w w.supervision.config.shutdownGrace
    rw [armed] at timed
    split
    · exact after timed (killAndWait _ gen c)
    · exact StopsThen.waits (timed.trans (Steady.setStage _ tid (by simp)))

theorem afterShutdown (w : World) (gen c : Nat) :
    StopsThen w (w.afterShutdown tid handle op gen c) tid handle op := by
  cases sent : w.notify c "exit" .null with
  | ok w' =>
    rw [World.afterShutdown_of_sent sent]
    exact after (Steady.of_keeps (KeepsSupervisor.notify sent) (Lasts.notify sent))
      (waitForMonitor w' gen c)
  | error e =>
    rw [World.afterShutdown_of_refused sent]
    exact waitForMonitor w gen c

/-- A stop's move on the session it has taken: `shutdown`, or the process killed. -/
theorem stopSession (w : World) (r : SessionRecord) :
    StopsThen w (w.stopSession tid handle op r) tid handle op := by
  unfold World.stopSession
  have moved := Steady.transition w (some r.generation) .stopping (by decide)
  split
  · rename_i w₂ went
    rw [went] at moved
    refine after moved ?_
    -- `shutdown` goes out, bounded by the grace period
    generalize stepped : w₂.stepCall r.conn _ = p
    obtain ⟨w₃, call⟩ := p
    dsimp only
    refine after (Steady.of_stepCall stepped) ?_
    split
    · exact afterShutdown w₃ _ _
    · exact waits (Steady.setStage w₃ tid (by simp))
  · rename_i w₂ stayed
    rw [stayed] at moved
    exact after moved (killAndWait _ _ _)

theorem stopLocked (w : World) : StopsThen w (w.stopLocked tid handle op) tid handle op := by
  cases held : w.supervision.session with
  | none =>
    rw [stopLocked_of_none held]
    exact ⟨_, Steady.transition w none .stopped (by decide), .inr rfl⟩
  | some r =>
    rw [stopLocked_of_some held]
    exact after (Steady.takeSession w r) (stopSession _ r)

/-- A stop under way never lowers the count of automatic restarts. -/
theorem rising (stops : StopsThen w w' tid handle op) : Rising w w' := by
  obtain ⟨w₁, steady, rfl | rfl⟩ := stops
  · exact steady.rising
  · exact steady.rising.trans (Rising.afterStop w₁ tid handle op)

/-- A stop under way that is no restart begins no session. -/
theorem steady (stops : StopsThen w w' tid handle op) (keeps : op ≠ .restart) : Steady w w' := by
  obtain ⟨w₁, steady, rfl | rfl⟩ := stops
  · exact steady
  · exact steady.trans (Steady.afterStop w₁ tid handle keeps)

end StopsThen

/-- The turn of task `tid` is a host's start or restart that takes the lock, free or its own. -/
def HostTakesLock (w : World) (tid : Nat) : Prop :=
  ∃ handle op, w.task? tid = some (.lifecycle handle op .locking) ∧ op.resetsCount = true ∧
    (w.supervision.lockHolder = some tid ∨ w.supervision.lockHolder = none)

namespace Rising

variable {w : World}

/-- What an operation does once it holds the lock, when it resets no count: a stop, or an
automatic restart. -/
theorem afterLock (w : World) (tid : Nat) (handle : Option Nat) {op : LifecycleOp}
    (keeps : op.resetsCount = false) : Rising w (w.afterLock tid handle op) := by
  unfold World.afterLock
  cases op with
  | start => simp [LifecycleOp.resetsCount] at keeps
  | restart => simp [LifecycleOp.resetsCount] at keeps
  | stop => exact (StopsThen.stopLocked w).rising
  | autoRestart gen =>
    dsimp only
    split
    · exact (Steady.finishOp w tid handle _).rising
    · exact startLocked w tid handle _

/-- A host's start or restart, once it holds the lock, goes on from the reset of the count. -/
theorem afterReset (w : World) (tid : Nat) (handle : Option Nat) {op : LifecycleOp}
    (resets : op.resetsCount = true) :
    Rising (w.modifySup fun s => { s with restarts := 0 }) (w.afterLock tid handle op) := by
  unfold World.afterLock
  cases op with
  | start => exact startLocked _ tid handle _
  | restart => exact (StopsThen.stopLocked _).rising
  | stop => simp [LifecycleOp.resetsCount] at resets
  | autoRestart gen => simp [LifecycleOp.resetsCount] at resets

/-- A turn of an operation that resets no count: anything but a host's start or restart that
takes the lock. -/
theorem pollLifecycle (w : World) (tid : Nat) (handle : Option Nat) {op : LifecycleOp}
    {stage : Stage} (keeps : stage = .locking → op.resetsCount = true →
      w.supervision.lockHolder ≠ some tid ∧ w.supervision.lockHolder ≠ none) :
    Rising w (w.pollLifecycle tid handle op stage) := by
  cases stage with
  | locking =>
    dsimp only [World.pollLifecycle]
    split
    · rename_i holds
      refine afterLock w tid handle (Bool.eq_false_iff.mpr fun resets => ?_)
      exact (keeps rfl resets).1 (by simpa using holds)
    · split
      · rename_i free
        refine (Steady.update w (fun s => { s with lockHolder := some tid }) fun _ => rfl).rising.trans
          (afterLock _ tid handle (Bool.eq_false_iff.mpr fun resets => ?_))
        exact (keeps rfl resets).2 (by simpa using free)
      · split
        · exact refl w
        · exact Steady.rising (Steady.update w _ fun _ => rfl)
  | clearing c =>
    dsimp only [World.pollLifecycle]
    split
    · exact afterClear w tid handle op c
    · exact refl w
  | handshake gen c call t =>
    dsimp only [World.pollLifecycle]
    rcases stepped : w.stepCall c call with ⟨w₁, call'⟩
    dsimp only
    exact (Steady.of_stepCall stepped).rising.trans
      (Steady.awaitInitialize w₁ tid handle op gen c call' t).rising
  | shutdown gen c call =>
    dsimp only [World.pollLifecycle]
    rcases stepped : w.stepCall c call with ⟨w₁, call'⟩
    dsimp only
    refine (Steady.of_stepCall stepped).rising.trans ?_
    split
    · exact (StopsThen.afterShutdown w₁ gen c).rising
    · exact (Steady.setStage w₁ tid (by simp)).rising
  | grace gen c t =>
    dsimp only [World.pollLifecycle]
    split
    · exact (StopsThen.finishStop w c).rising
    · split
      · exact (StopsThen.killAndWait w gen c).rising
      · exact refl w
  | killed gen c =>
    dsimp only [World.pollLifecycle]
    split
    · exact (StopsThen.finishStop w c).rising
    · exact refl w

/-- A restart delay becomes the restart it stands for, which goes for the lock. -/
theorem becomeRestart (w : World) (tid gen : Nat) {t : Task} (mem : (tid, t) ∈ w.tasks)
    (pending : t.restartOf = some gen) :
    Rising w ((w.setTask tid (.lifecycle none (.autoRestart gen) .locking)).pollLifecycle tid
      none (.autoRestart gen) .locking) :=
  (Steady.same (Lasts.setTask (.inr ⟨t, mem, pending.trans rfl⟩)) rfl rfl).rising.trans
    (pollLifecycle _ tid none fun _ resets => by simp [LifecycleOp.resetsCount] at resets)

theorem pollRestartDelay (w : World) (tid gen delay : Nat) (timer? : Option Timer)
    (mem : (tid, .restartDelay gen delay timer?) ∈ w.tasks) :
    Rising w (w.pollRestartDelay tid gen delay timer?) := by
  cases timer? with
  | none =>
    dsimp only [World.pollRestartDelay]
    split
    · exact (Steady.timer w delay).rising.trans (becomeRestart _ tid gen mem rfl)
    · exact Steady.rising ((Steady.timer w delay).trans
        (Steady.same (Lasts.setTask (.inr ⟨_, mem, rfl⟩)) rfl rfl))
  | some t =>
    dsimp only [World.pollRestartDelay]
    split
    · exact becomeRestart w tid gen mem rfl
    · exact refl w

/-- A turn of any task but a host's start or restart taking the lock never lowers the count of
automatic restarts: the client's own tasks leave the supervisor alone and keep what is over, and
the supervisor's tasks are taken apart above. -/
theorem pollTask (numbered : w.WellNumbered) {tid : Nat} (keeps : ¬ w.HostTakesLock tid) :
    Rising w (w.pollTask tid) := by
  have own : ∀ {t : Task}, w.task? tid = some t → t.isLifecycle = false → w.NotOperation tid :=
    fun found kind => numbered.notOperation_of_task? found kind
  unfold World.pollTask
  split
  · exact refl w
  · rename_i c started ended found
    exact (Steady.of_keeps (KeepsSupervisor.pollReader numbered (own found rfl) c started ended)
      (Lasts.pollReader w tid c started ended)).rising
  · rename_i c found
    exact (Steady.of_keeps (KeepsSupervisor.pollWriter (own found rfl) c)
      (Lasts.pollWriter w tid c)).rising
  · rename_i c id method work found
    exact (Steady.of_keeps (KeepsSupervisor.pollHandler (own found rfl) c id method work)
      (Lasts.pollHandler w tid c id method work)).rising
  · rename_i handle target call typed found
    exact (Steady.of_keeps (KeepsSupervisor.pollCall (own found rfl) handle target call typed)
      (Lasts.pollCall w tid handle target call typed)).rising
  · rename_i handle c each found
    exact (Steady.of_keeps (KeepsSupervisor.pollCalls (own found rfl) handle c each)
      (Lasts.pollCalls w tid handle c each)).rising
  · rename_i handle op stage found
    refine pollLifecycle w tid handle fun locking resets => ⟨fun held => ?_, fun free => ?_⟩
    · subst locking
      exact keeps ⟨handle, op, found, resets, .inl held⟩
    · subst locking
      exact keeps ⟨handle, op, found, resets, .inr free⟩
  · exact (Steady.pollMonitor w tid _ _ _).rising
  · rename_i gen delay timer? found
    exact pollRestartDelay w tid gen delay timer? (mem_of_task? found)
  · rename_i c action t found
    exact (Steady.of_keeps (KeepsSupervisor.pollTimed (own found rfl) c action t)
      (Lasts.pollTimed w tid c action t)).rising

end Rising

namespace Steady

/-- A turn of an operation that begins no session: a handshake, or a stop at the lock or waiting
for the end of its session; a restart is the one operation that starts after it stops. -/
theorem pollLifecycle (w : World) (tid : Nat) (handle : Option Nat) {op : LifecycleOp}
    {stage : Stage} (notRestart : op ≠ .restart) (lockStop : stage = .locking → op = .stop)
    (notClearing : ∀ c, stage ≠ .clearing c) : Steady w (w.pollLifecycle tid handle op stage) := by
  cases stage with
  | locking =>
    obtain rfl := lockStop rfl
    dsimp only [World.pollLifecycle]
    split
    · exact (StopsThen.stopLocked w).steady notRestart
    · split
      · exact (update w (fun s => { s with lockHolder := some tid }) fun _ => rfl).trans
          ((StopsThen.stopLocked _).steady notRestart)
      · split
        · exact refl w
        · exact update w _ fun _ => rfl
  | clearing c => exact absurd rfl (notClearing c)
  | handshake gen c call t =>
    dsimp only [World.pollLifecycle]
    rcases stepped : w.stepCall c call with ⟨w₁, call'⟩
    dsimp only
    exact (of_stepCall stepped).trans (awaitInitialize w₁ tid handle op gen c call' t)
  | shutdown gen c call =>
    dsimp only [World.pollLifecycle]
    rcases stepped : w.stepCall c call with ⟨w₁, call'⟩
    dsimp only
    refine (of_stepCall stepped).trans ?_
    split
    · exact (StopsThen.afterShutdown w₁ gen c).steady notRestart
    · exact setStage w₁ tid (by simp)
  | grace gen c t =>
    dsimp only [World.pollLifecycle]
    split
    · exact (StopsThen.finishStop w c).steady notRestart
    · split
      · exact (StopsThen.killAndWait w gen c).steady notRestart
      · exact refl w
  | killed gen c =>
    dsimp only [World.pollLifecycle]
    split
    · exact (StopsThen.finishStop w c).steady notRestart
    · exact refl w

end Steady

namespace Recorded

variable {w : World}

/-- What an operation does once it holds the lock: a host's start or restart first resets the
count of automatic restarts. -/
theorem afterLock (w : World) (tid : Nat) (handle : Option Nat) (op : LifecycleOp) :
    Recorded w (w.afterLock tid handle op) := by
  cases resets : op.resetsCount
  · exact (Rising.afterLock w tid handle resets).recorded
  · exact (Relation.ReflTransGen.single (.reset w)).trans (Rising.afterReset w tid handle resets).recorded

theorem pollLifecycle (w : World) (tid : Nat) (handle : Option Nat) (op : LifecycleOp)
    (stage : Stage) : Recorded w (w.pollLifecycle tid handle op stage) := by
  cases stage with
  | locking =>
    dsimp only [World.pollLifecycle]
    split
    · exact afterLock w tid handle op
    · split
      · exact (Steady.update w (fun s => { s with lockHolder := some tid }) fun _ => rfl).recorded.trans
          (afterLock _ tid handle op)
      · split
        · exact refl w
        · exact Steady.recorded (Steady.update w _ fun _ => rfl)
  | clearing c => exact (Rising.pollLifecycle w tid handle fun never => by cases never).recorded
  | handshake => exact (Rising.pollLifecycle w tid handle fun never => by cases never).recorded
  | shutdown => exact (Rising.pollLifecycle w tid handle fun never => by cases never).recorded
  | grace => exact (Rising.pollLifecycle w tid handle fun never => by cases never).recorded
  | killed => exact (Rising.pollLifecycle w tid handle fun never => by cases never).recorded

/-- A turn of any task is a chain of the supervisor's changes. -/
theorem pollTask (numbered : w.WellNumbered) (tid : Nat) : Recorded w (w.pollTask tid) := by
  by_cases takes : w.HostTakesLock tid
  · obtain ⟨handle, op, found, -, -⟩ := takes
    simp only [World.pollTask, found]
    exact pollLifecycle w tid handle op .locking
  · exact (Rising.pollTask numbered takes).recorded

/-- A chain of the supervisor's changes keeps what is over in every connection: the changes of
the record itself touch no connection. -/
theorem lasts_conn (recorded : Recorded w w') (c : Nat) : (w.conn c).Lasts (w'.conn c) := by
  induction recorded with
  | refl => exact .refl _
  | tail _ step earlier =>
    refine earlier.trans ?_
    cases step with
    | quiet lasts => exact lasts.conns c
    | transition gen next =>
      simp only [conn, conns_transition]
      exact .refl _
    | begin =>
      have same : ∀ v : World, v.beginSession.2.conns = v.conns := fun v => by
        unfold beginSession
        dsimp only
        split <;> rfl
      simp only [conn, same]
      exact .refl _
    | crash gen reason =>
      simp only [conn, conns_crashed]
      exact .refl _
    | reset => exact .refl _

end Recorded

/-- One move of a supervised client as the host drives it: the host asks for a start, a stop or a
restart, or makes the next launch fail; a task takes a turn; or something outside the supervisor
happens that keeps what is over (time passes, a server writes, exits or closes its output, the
host calls the server). -/
inductive Move : World → World → Prop where
  | request (w : World) (handle : Option Nat) (op : LifecycleOp) (host : op.isHost = true) :
    Move w (w.spawn (.lifecycle handle op .locking)).1
  | failLaunch (w : World) (reason : String) :
    Move w (w.modifySup fun s => { s with failNext := some reason })
  | turn (w : World) (tid : Nat) : Move w (w.pollTask tid)
  | outside {w w' : World} (keeps : KeepsSupervisor w w') (lasts : Lasts w w') : Move w w'

namespace Move

variable {w w' : World}

theorem step (move : Move w w') : Step w w' := by
  cases move with
  | request handle op => exact .request w handle op
  | failLaunch reason => exact .failLaunch w reason
  | turn tid => exact .turn w tid
  | outside keeps => exact .outside keeps

theorem run {w w' : World} (moves : Relation.ReflTransGen Move w w') :
    Relation.ReflTransGen Step w w' := by
  induction moves with
  | refl => exact .refl
  | tail _ move steps => exact steps.tail move.step

/-- Turns of tasks taken one after another, in any order the scheduler may choose. -/
theorem turns (w : World) (tids : List Nat) :
    Relation.ReflTransGen Move w (tids.foldl pollTask w) := by
  induction tids generalizing w with
  | nil => exact .refl
  | cons tid rest ih => exact .head (.turn w tid) (ih (w.pollTask tid))

/-- A server's process ends. -/
theorem processEnds (w : World) (c : Nat) (code : Option Int) : Move w (w.processEnds c code) :=
  .outside (KeepsSupervisor.processEnds w c code) (Lasts.processEnds w c code)

/-- Waiting for a server's process fails. -/
theorem waitFails (w : World) (c : Nat) (error : String) : Move w (w.waitFails c error) :=
  .outside (KeepsSupervisor.waitFails w c error) (Lasts.waitFails w c error)

/-- The clock moves on. -/
theorem tick (w : World) (ms : Nat) : Move w { w with now := w.now + ms } :=
  .outside (KeepsSupervisor.of_tasks rfl rfl rfl rfl) (Lasts.of_conns rfl rfl)

/-- Every move is a chain of the supervisor's changes. -/
theorem recorded (numbered : w.WellNumbered) (move : Move w w') : Recorded w w' := by
  cases move with
  | request handle op host => exact (Steady.spawn w (Task.restartOf_of_isHost host)).recorded
  | failLaunch reason => exact Steady.recorded (Steady.update w _ fun _ => rfl)
  | turn tid => exact Recorded.pollTask numbered tid
  | outside keeps lasts => exact (Steady.of_keeps keeps lasts).recorded

/-- The run lemma for the host's moves: what every change of the supervisor keeps holds along
every run from a world that keeps the supervisor's invariant. -/
theorem preserve {P : World → Prop}
    (step : ∀ {v v' : World}, v.sup.isSome → P v → SupStep v v' → P v')
    (lawful : w.Lawful) (moves : Relation.ReflTransGen Move w w') (holds : P w) : P w' := by
  induction moves with
  | refl => exact holds
  | tail earlier last ih =>
    have reached := lawful.run (Move.run earlier)
    exact Recorded.preserve step (last.recorded reached.numbered) reached.supervised ih

/-- Along every run of the host, every connection keeps what is over in it. -/
theorem lasts_conn (lawful : w.Lawful) (moves : Relation.ReflTransGen Move w w') (c : Nat) :
    (w.conn c).Lasts (w'.conn c) := by
  induction moves with
  | refl => exact .refl _
  | tail earlier last ih =>
    exact ih.trans ((last.recorded (lawful.run (Move.run earlier)).numbered).lasts_conn c)

end Move


end World

end Engine

end LspBridge
