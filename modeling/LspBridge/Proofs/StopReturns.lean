import LspBridge.Proofs.SessionTeardown
import LspBridge.Proofs.OperationStages
import Mathlib
/-!
# A stop returns with success

A stop takes the lifecycle lock and then acts on the state it finds, which is settled:

* Stopped, or Crashed with no session (a launch that failed): it moves to Stopped, if it is not
  there already, and returns;
* Running: it takes the session away, marks its end expected and moves to Stopping; it sends
  `shutdown` with the grace period as its timeout and, once that call has ended, `exit`; it waits
  for the session's monitor for the grace period, and has the process killed after that;
* Crashed with a session (a crash came first): it takes the session away and has the process
  killed at once.

Once the monitor of the session it took away has finished, it closes the connection, moves to
Stopped and returns with success.

Of every world a run of the host reaches, this file shows that every turn of a stop leaves it
waiting or returns it with success, leaving the state Stopped and no session held
(`StopReturns`, `Lawful.stopTurn`); that the session it took away has ended when it returns
(`Lawful.stop_ends_session`); that a stop from Stopped changes nothing but the lock and emits no
event (`pollTask_stop_of_stopped`); and that a stop waiting for a `shutdown` answer waits on its
own request (`StopsSent.run`).
-/

namespace LspBridge

namespace Engine

open Json Rpc Client Server

/-- A call that has ended, or waits for the answer to `method` under `id` on connection `c`. -/
def Call.EndsOrWaits (c : Nat) (id : RequestId) (method : String) :
    Call → Prop
  | .finished _ => True
  | .waiting c' id' method' _ => c' = c ∧ id' = id ∧ method' = method
  | _ => False

/-- At a `shutdown` stage the call waited on is the `shutdown` request, sent on the stage's
connection. -/
def Stage.ShutdownSent : Stage → Prop
  | .shutdown _ c call => ∃ id deadline, call = .waiting c id "shutdown" deadline
  | _ => True

namespace World

/-- What a turn of the stop `tid`, asked for under `handle`, leaves in `w'`: the stop still
waits, at the lock or at a stage of its own (waiting on its own `shutdown` request, if on one),
or it has returned with success from a world `v` in which the state is Stopped and no session is
held. -/
def StopReturns (w' : World) (tid : Nat) (handle : Option Nat) : Prop :=
  (∃ stage, w'.task? tid = some (.lifecycle handle .stop stage) ∧ stage.ShutdownSent) ∨
    ∃ v : World, v.sup.isSome ∧ v.supervision.state = .stopped ∧ v.supervision.session = none ∧
      w' = v.finishOp tid handle (.ok ())

/-! ### Where a call waits -/

section Calls

variable (w : World) (c : Nat) (id : RequestId) (method : String)

theorem expire_endsOrWaits : (w.expire c id method).2.EndsOrWaits c id method := by
  unfold World.expire
  split <;> trivial

theorem checkWait_endsOrWaits (deadline : Option Timer) :
    (w.checkWait c id method deadline).2.EndsOrWaits c id method := by
  unfold World.checkWait
  split
  · trivial
  · split
    · split
      · exact expire_endsOrWaits ..
      · exact ⟨rfl, rfl, rfl⟩
    · exact ⟨rfl, rfl, rfl⟩

theorem beginWait_endsOrWaits (limit : Option Nat) :
    (w.beginWait c id method limit).2.EndsOrWaits c id method := by
  unfold World.beginWait
  split
  · trivial
  · split
    · exact ⟨rfl, rfl, rfl⟩
    · dsimp only
      split
      · exact expire_endsOrWaits ..
      · exact ⟨rfl, rfl, rfl⟩

/-- A call sent now has ended, or waits on its connection for the answer to its method. -/
theorem stepCall_fresh_endsOrWaits (params : Value) (limit : Limit) :
    ∃ id, (w.stepCall c (.fresh method params limit)).2.EndsOrWaits c id method := by
  unfold World.stepCall
  dsimp only
  split
  · exact ⟨.number 0, trivial⟩
  · exact ⟨_, beginWait_endsOrWaits ..⟩

/-- A call that waits goes on waiting where it was sent, or ends. -/
theorem stepCall_waiting_endsOrWaits (c' : Nat) (deadline : Option Timer) :
    (w.stepCall c' (.waiting c id method deadline)).2.EndsOrWaits c id method :=
  checkWait_endsOrWaits ..

end Calls


/-! ### Returning -/

section Return

variable {w v : World} {tid : Nat} {handle : Option Nat}

/-- A returned operation is gone, and the state, the session and the generation are as it left
them. -/
theorem finishOp_returns (supervised : v.sup.isSome) (tid : Nat) (handle : Option Nat)
    (r : Except Server.Error Unit) :
    (v.finishOp tid handle r).task? tid = none ∧
      (v.finishOp tid handle r).supervision.state = v.supervision.state ∧
      (v.finishOp tid handle r).supervision.session = v.supervision.session ∧
      (v.finishOp tid handle r).supervision.generation = v.supervision.generation := by
  obtain ⟨holder, waiters, queue, unlocked⟩ := releaseLock_eq supervised
  have record : (v.releaseLock.dropTask tid).supervision =
      { v.supervision with lockHolder := holder, lockWaiters := waiters } := by
    simp [unlocked, World.dropTask, supervision]
  -- the report touches neither the tasks nor the record
  have left : (v.releaseLock.dropTask tid).task? tid = none ∧
      (v.releaseLock.dropTask tid).supervision.state = v.supervision.state ∧
      (v.releaseLock.dropTask tid).supervision.session = v.supervision.session ∧
      (v.releaseLock.dropTask tid).supervision.generation = v.supervision.generation := by
    simp [task?_dropTask_self, record]
  unfold World.finishOp
  split
  · exact left
  · exact left

theorem StopReturns.setStage (holding : w.Holding tid) {stage : Stage}
    (sent : stage.ShutdownSent) :
    StopReturns (w.setTask tid (.lifecycle handle .stop stage)) tid handle := by
  obtain ⟨handle', op', stage', mem⟩ := holding.own
  have filed : (tid, Task.lifecycle handle .stop stage) ∈
      (w.setTask tid (.lifecycle handle .stop stage)).tasks :=
    mem_setTask.mpr (.inl ⟨rfl, rfl, _, mem⟩)
  exact .inl ⟨stage, task?_of_mem (holding.numbered.setTask tid _) filed, sent⟩

/-- Waiting on a call that is not over, at a `shutdown` stage, is waiting on the `shutdown`
request sent on the stage's connection. -/
theorem shutdownSent_of_endsOrWaits {gen c : Nat} {id : RequestId} {call : Call}
    (waits : call.EndsOrWaits c id "shutdown") (pending : ∀ r, call ≠ .finished r) :
    (Stage.shutdown gen c call).ShutdownSent := by
  cases call with
  | waiting c' id' method deadline =>
    obtain ⟨rfl, rfl, rfl⟩ := waits
    exact ⟨_, _, rfl⟩
  | finished r => exact absurd rfl (pending r)
  | fresh => cases waits
  | issued => cases waits

/-- With the session taken and the state Stopping or Crashed, the end of a stop closes the
connection, moves to Stopped and returns. -/
theorem StopReturns.finishStop (holding : w.Holding tid)
    (ending : (w.supervision.state = .stopping ∨ w.supervision.state = .crashed) ∧
      w.supervision.session = none) (c : Nat) :
    StopReturns (w.finishStop tid handle .stop c) tid handle := by
  have closed := KeepsSupervisor.closePeer w c
  have ready : (w.closePeer c).2.supervision.state.canStep .stopped = true := by
    rw [closed.supervision]
    rcases ending.1 with stopping | crashed
    · rw [stopping]
      rfl
    · rw [crashed]
      rfl
  obtain ⟨holding', stopped, empty, -⟩ :=
    (holding.keeps closed).toStopped (by rw [closed.supervision]; exact ending.2) (.inl ready)
  exact .inr ⟨_, holding'.supervised, stopped, empty, rfl⟩

theorem StopReturns.killAndWait (holding : w.Holding tid)
    (ending : (w.supervision.state = .stopping ∨ w.supervision.state = .crashed) ∧
      w.supervision.session = none) (gen c : Nat) :
    StopReturns (w.killAndWait tid handle .stop gen c) tid handle := by
  have killed := KeepsSupervisor.requestKill w c
  rw [← killed.supervision] at ending
  unfold World.killAndWait
  dsimp only
  split
  · exact .finishStop (holding.keeps killed) ending c
  · exact .setStage (holding.keeps killed) trivial

/-- After `exit` the stop returns if the monitor is done, and otherwise waits for the grace period
or has the process killed. -/
theorem StopReturns.waitForMonitor (holding : w.Holding tid)
    (ending : w.supervision.state = .stopping ∧ w.supervision.session = none) (gen c : Nat) :
    StopReturns (w.waitForMonitor tid handle .stop gen c) tid handle := by
  unfold World.waitForMonitor
  split
  · exact .finishStop holding ⟨.inl ending.1, ending.2⟩ c
  · have timed := KeepsSupervisor.timer w w.supervision.config.shutdownGrace
    split
    rename_i w₁ t result
    rw [result] at timed
    rw [← timed.supervision] at ending
    split
    · exact .killAndWait (holding.keeps timed) ⟨.inl ending.1, ending.2⟩ gen c
    · exact .setStage (holding.keeps timed) trivial

theorem StopReturns.afterShutdown (holding : w.Holding tid)
    (ending : w.supervision.state = .stopping ∧ w.supervision.session = none) (gen c : Nat) :
    StopReturns (w.afterShutdown tid handle .stop gen c) tid handle := by
  cases sent : w.notify c "exit" .null with
  | ok w' =>
    rw [afterShutdown_of_sent sent]
    have exited := KeepsSupervisor.notify sent
    rw [← exited.supervision] at ending
    exact .waitForMonitor (holding.keeps exited) ending gen c
  | error e =>
    rw [afterShutdown_of_refused sent]
    exact .waitForMonitor holding ending gen c

/-- A stop's move on the session it has taken from a settled record waits or returns. -/
theorem StopReturns.stopSession (holding : w.Holding tid) {s : Supervision} (fits : s.SessionFits)
    (settled : s.Settled) {r : SessionRecord} (held : s.session = some r)
    (taken : w.supervision = { s with session := none }) :
    StopReturns (w.stopSession tid handle .stop r) tid handle := by
  unfold World.stopSession
  split
  · rename_i w₂ moved
    -- a running session is asked to shut down
    obtain ⟨holding₂, ending, -⟩ := holding.toStopping (by simp [taken]) moved
    have called := KeepsSupervisor.stepCall w₂ r.conn
      (.fresh "shutdown" .null (.given (some w₂.supervision.config.shutdownGrace)))
    rw [← called.supervision] at ending
    obtain ⟨id, waits⟩ := stepCall_fresh_endsOrWaits w₂ r.conn "shutdown" .null
      (.given (some w₂.supervision.config.shutdownGrace))
    dsimp only
    split
    · exact .afterShutdown (holding₂.keeps called) ending _ _
    · rename_i call pending
      exact .setStage (holding₂.keeps called) (shutdownSent_of_endsOrWaits waits pending)
  · rename_i w₂ stayed
    -- otherwise the session is a crashed one, and its process is killed
    have crashed := crashed_of_stopping_refused fits settled held taken stayed
    obtain ⟨rfl, -⟩ := transition_eq_false stayed
    exact .killAndWait holding ⟨.inr (by simp [taken, crashed]), by simp [taken]⟩ _ _

/-- A stop with the lock in hand, from a settled state, waits or returns. -/
theorem StopReturns.stopLocked (holding : w.Holding tid) (fits : w.supervision.SessionFits)
    (settled : w.supervision.Settled) : StopReturns (w.stopLocked tid handle .stop) tid handle := by
  cases held : w.supervision.session with
  | none =>
    rw [stopLocked_of_none held]
    obtain ⟨holding', stopped, empty', -⟩ := holding.toStopped held (fits.stoppable settled held)
    exact .inr ⟨_, holding'.supervised, stopped, empty', rfl⟩
  | some r =>
    rw [stopLocked_of_some held]
    exact .stopSession (holding.takeSession r) fits settled held
      (supervision_takeSession holding.supervised r)

end Return

/-! ### A turn of a stop -/

section Turn

variable {w : World} {tid c : Nat} {handle : Option Nat} {stage : Stage}

/-- A lifecycle operation's turn is a turn of its stage. -/
theorem pollTask_lifecycle {op : LifecycleOp}
    (found : w.task? tid = some (.lifecycle handle op stage)) :
    w.pollTask tid = w.pollLifecycle tid handle op stage := by
  simp only [World.pollTask, found]

/-- A stop waits at the lock or at a stage of its own: the `shutdown` call, the grace period, or a
killed process. -/
theorem StagesFit.stop_waits (fits : w.StagesFit)
    (mem : (tid, Task.lifecycle handle .stop stage) ∈ w.tasks) : stage = .locking ∨ stage.stops :=
  fits tid handle .stop stage mem

/-- Every turn of a stop leaves it waiting or returns it with success, with the state Stopped. -/
theorem Lawful.stopReturns (lawful : w.Lawful) (fits : w.StagesFit)
    (mem : (tid, Task.lifecycle handle .stop stage) ∈ w.tasks) (sent : stage.ShutdownSent) :
    StopReturns (w.pollLifecycle tid handle .stop stage) tid handle := by
  have present := task?_of_mem lawful.numbered mem
  have stay : StopReturns w tid handle := .inl ⟨stage, present, sent⟩
  -- past the lock, the stop holds it and finds what its stage expects
  have moving : stage ≠ .locking → w.Holding tid ∧ w.supervision.AtStage stage := fun moving =>
    have held := lawful.alone tid handle .stop stage mem moving
    ⟨lawful.holding mem held, lawful.atStage mem held⟩
  cases stage with
  | locking =>
    dsimp only [World.pollLifecycle]
    split
    · rename_i holds
      have held : w.supervision.lockHolder = some tid := by simpa using holds
      exact .stopLocked (lawful.holding mem held) lawful.fits (lawful.atStage mem held)
    split
    · rename_i free
      have free : w.supervision.lockHolder = none := by simpa using free
      have record :=
        supervision_modifySup lawful.supervised fun s => { s with lockHolder := some tid }
      have settled := lawful.lock
      simp only [LockFits, free] at settled
      exact .stopLocked (lawful.acquire mem free) (by rw [record]; exact lawful.fits)
        (by rw [record]; exact settled)
    split
    · exact stay
    · exact .inl ⟨.locking, present, trivial⟩
  | clearing c' =>
    have waits := fits.stop_waits mem
    simp [Stage.stops] at waits
  | handshake gen c' call t =>
    have waits := fits.stop_waits mem
    simp [Stage.stops] at waits
  | shutdown gen c' call =>
    obtain ⟨holding, ending⟩ := moving (by simp)
    obtain ⟨id, deadline, rfl⟩ := sent
    have called := KeepsSupervisor.stepCall w c' (.waiting c' id "shutdown" deadline)
    rw [← called.supervision] at ending
    have waits := stepCall_waiting_endsOrWaits w c' id "shutdown" c' deadline
    dsimp only [World.pollLifecycle]
    split
    · exact .afterShutdown (holding.keeps called) ending gen c'
    · rename_i call' pending
      exact .setStage (holding.keeps called) (shutdownSent_of_endsOrWaits waits pending)
  | grace gen c' t =>
    obtain ⟨holding, ending⟩ := moving (by simp)
    dsimp only [World.pollLifecycle]
    split
    · exact .finishStop holding ⟨.inl ending.1, ending.2⟩ c'
    split
    · exact .killAndWait holding ⟨.inl ending.1, ending.2⟩ gen c'
    · exact stay
  | killed gen c' =>
    obtain ⟨holding, ending⟩ := moving (by simp)
    dsimp only [World.pollLifecycle]
    split
    · exact .finishStop holding ending c'
    · exact stay

theorem Lawful.stopTurn (lawful : w.Lawful) (fits : w.StagesFit)
    (found : w.task? tid = some (.lifecycle handle .stop stage)) (sent : stage.ShutdownSent) :
    StopReturns (w.pollTask tid) tid handle := by
  rw [pollTask_lifecycle found]
  exact lawful.stopReturns fits (mem_of_task? found) sent

/-- In Stopped, a stop with the lock in hand only returns: the step to Stopped is refused, so no
event is emitted and the record stays as it is. -/
theorem stopLocked_of_stopped (stopped : w.supervision.state = .stopped)
    (empty : w.supervision.session = none) :
    w.stopLocked tid handle .stop = w.finishOp tid handle (.ok ()) := by
  have stays : w.transition none .stopped = (false, w) := by
    simp [World.transition, stopped, SessionState.canStep]
  unfold World.stopLocked
  rw [empty]
  simp only [stays]
  rfl

/-- With no one waiting, taking the lock and returning is returning: the lock is free after. -/
theorem finishOp_of_idle (supervised : w.sup.isSome) (idle : w.supervision.lockWaiters = [])
    (r : Except Server.Error Unit) :
    (w.modifySup fun s => { s with lockHolder := some tid }).finishOp tid handle r =
      w.finishOp tid handle r := by
  obtain ⟨s, found⟩ := Option.isSome_iff_exists.mp supervised
  rw [supervision_eq found] at idle
  have released : (w.modifySup fun s => { s with lockHolder := some tid }).releaseLock =
      w.releaseLock := by
    simp [World.releaseLock, World.modifySup, supervision, found, idle]
  simp only [World.finishOp, released]

/-- A stop from Stopped changes nothing: its turn with the lock free or its own returns it with
success, hands the lock on, and leaves the state, the session, the connections and the events as
they were. -/
theorem pollTask_stop_of_stopped (lawful : w.Lawful)
    (found : w.task? tid = some (.lifecycle handle .stop .locking))
    (stopped : w.supervision.state = .stopped)
    (free : w.supervision.lockHolder = none ∨ w.supervision.lockHolder = some tid) :
    w.pollTask tid = w.finishOp tid handle (.ok ()) := by
  rw [pollTask_lifecycle found]
  dsimp only [World.pollLifecycle]
  have empty := lawful.fits.session_of_stopped stopped
  split
  · exact stopLocked_of_stopped stopped empty
  rename_i notHeld
  rcases free with free | mine
  · have record :=
      supervision_modifySup lawful.supervised fun s => { s with lockHolder := some tid }
    simp only [free, Option.isNone_none, if_true]
    rw [show (w.modifySup fun s => { s with lockHolder := some tid }).afterLock tid handle .stop =
      (w.modifySup fun s => { s with lockHolder := some tid }).stopLocked tid handle .stop from rfl,
      stopLocked_of_stopped (by rw [record]; exact stopped) (by rw [record]; exact empty)]
    exact finishOp_of_idle lawful.supervised (lawful.idle free) _
  · simp [mine] at notHeld

/-- When a stop returns, the session it took away has ended: its monitor has finished and its
connection is closed. -/
theorem Lawful.stop_ends_session (lawful : w.Lawful)
    (found : w.task? tid = some (.lifecycle handle .stop stage))
    (took : stage.waitsOn = some c ∨ stage = .locking ∧
      (w.supervision.lockHolder = none ∨ w.supervision.lockHolder = some tid) ∧
      (w.supervision.session.map (·.conn)) = some c)
    (returned : (w.pollTask tid).task? tid = none) : (w.pollTask tid).Ended c := by
  have mem := mem_of_task? found
  rcases took with waits | ⟨rfl, free, held⟩
  · -- past the lock, the stop waits on the session it took away
    have moving : stage ≠ .locking := by
      rintro rfl
      cases waits
    have waiting : w.WaitsOn tid c :=
      ⟨lawful.alone tid handle .stop stage mem moving, handle, .stop, stage, mem, waits⟩
    exact (waiting.ownTurn lawful).ended returned
  · obtain ⟨r, session, rfl⟩ := Option.map_eq_some_iff.mp held
    exact (teardown_discardTurn lawful found free session trivial).ended returned

end Turn

/-! ### A stop waits on its own `shutdown` request -/

/-- Every stop waiting for a `shutdown` answer waits on its own request, sent on the connection
of the session it stops. -/
def StopsSent (w : World) : Prop :=
  ∀ j handle stage, (j, Task.lifecycle handle .stop stage) ∈ w.tasks → stage.ShutdownSent

namespace StopsSent

variable {w w' : World}

/-- A change that files no stop anew keeps every stop waiting where it was. -/
theorem of_filed (sent : w.StopsSent) {j : Nat} {op : LifecycleOp} {S : Stage → Prop}
    (filed : Filed w w' j op S) (other : op ≠ .stop) : w'.StopsSent := by
  intro i handle stage mem
  rcases filed i handle .stop stage mem with old | ⟨-, same, -⟩
  · exact sent i handle stage old
  · exact absurd same.symm other

theorem of_keeps (sent : w.StopsSent) (keeps : KeepsSupervisor w w') : w'.StopsSent :=
  fun j handle stage mem => sent j handle stage ((mem_of_operations_eq keeps.operations).mp mem)

/-- The step lemma for a turn: a stop's own turn leaves it waiting on its own request, if on one,
and any other task files no stop. -/
theorem turn (sent : w.StopsSent) (lawful : w.Lawful) (fits : w.StagesFit) (j : Nat) :
    (w.pollTask j).StopsSent := by
  have after := (lawful.turn j).lawful
  have kept : ∀ {w'}, KeepsSupervisor w w' → w'.StopsSent := fun keeps => sent.of_keeps keeps
  have own : ∀ {t : Task}, w.task? j = some t → t.isLifecycle = false → w.NotOperation j :=
    fun found kind => lawful.numbered.notOperation_of_task? found kind
  cases found : w.task? j with
  | none => simpa [World.pollTask, found] using sent
  | some t =>
    cases t with
    | reader c started ended =>
      simp only [World.pollTask, found]
      exact kept (KeepsSupervisor.pollReader lawful.numbered (own found rfl) c started ended)
    | writer c =>
      simp only [World.pollTask, found]
      exact kept (KeepsSupervisor.pollWriter (own found rfl) c)
    | handler c id method work =>
      simp only [World.pollTask, found]
      exact kept (KeepsSupervisor.pollHandler (own found rfl) c id method work)
    | call handle target call typed =>
      simp only [World.pollTask, found]
      exact kept (KeepsSupervisor.pollCall (own found rfl) handle target call typed)
    | calls handle c each =>
      simp only [World.pollTask, found]
      exact kept (KeepsSupervisor.pollCalls (own found rfl) handle c each)
    | timed c action t =>
      simp only [World.pollTask, found]
      exact kept (KeepsSupervisor.pollTimed (own found rfl) c action t)
    | monitor c gen watch =>
      simp only [World.pollTask, found]
      have filed : Filed w (w.pollMonitor j c gen watch) j .start fun _ => True :=
        Filed.pollMonitor lawful.numbered j c gen watch
      exact sent.of_filed filed (by simp)
    | restartDelay gen delay timer =>
      simp only [World.pollTask, found]
      have filed : Filed w (w.pollRestartDelay j gen delay timer) j (.autoRestart gen) _ :=
        Filed.pollRestartDelay w gen delay timer
      exact sent.of_filed filed (by simp)
    | lifecycle handle op stage =>
      have turn := pollTask_lifecycle found
      have mem := mem_of_task? found
      have filed : Filed w (w.pollLifecycle j handle op stage) j op _ :=
        Filed.pollLifecycle w handle (fits j handle op stage mem)
      by_cases stop : op = .stop
      · subst stop
        -- the stop's own entry is the one its turn leaves
        intro i handle' stage' entry
        rcases filed i handle' .stop stage' (turn ▸ entry) with old | ⟨same, -, -⟩
        · exact sent i handle' stage' old
        · rw [same] at entry
          have filedNow := task?_of_mem after.numbered entry
          rcases (lawful.stopReturns fits mem (sent j handle stage mem)) with
            ⟨stage'', waits, shut⟩ | ⟨v, supervised, -, -, returned⟩
          · rw [← turn, filedNow] at waits
            cases waits
            exact shut
          · have gone := (finishOp_returns supervised j handle (.ok ())).1
            rw [← returned, ← turn, filedNow] at gone
            cases gone
      · rw [turn]
        exact sent.of_filed filed stop

/-- The step lemma: the host files a stop at the lock, and no move files a stop anew elsewhere
but the stop's own turn. -/
theorem move (sent : w.StopsSent) (lawful : w.Lawful) (fits : w.StagesFit) (move : Move w w') :
    w'.StopsSent := by
  cases move with
  | request handle op host =>
    intro j h stage mem
    rcases List.mem_append.mp mem with old | added
    · exact sent j h stage old
    · obtain ⟨-, same⟩ := Prod.mk.inj (List.mem_singleton.mp added)
      cases same
      trivial
  | failLaunch reason => exact fun j h stage mem => sent j h stage mem
  | turn j => exact sent.turn lawful fits j
  | outside keeps lasts =>
    exact sent.of_keeps keeps

theorem of_fresh (fresh : w.Fresh) : w.StopsSent := by
  intro j handle stage mem
  have listed := mem_operations.mpr mem
  rw [fresh.idle] at listed
  cases listed

/-- The run lemma: along every run of the host, every stop waiting for a `shutdown` answer waits
on its own request. -/
theorem run (fresh : w.Fresh) (moves : Relation.ReflTransGen Move w w') : w'.StopsSent := by
  induction moves with
  | refl => exact of_fresh fresh
  | tail earlier last ih =>
    exact ih.move (fresh.lawful.run (Move.run earlier)) (StagesFit.run fresh (Move.run earlier))
      last

end StopsSent

end World

end Engine

end LspBridge
