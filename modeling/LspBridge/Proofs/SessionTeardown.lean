import LspBridge.Console.Supervision
import LspBridge.Proofs.StaleGenerations
/-!
# A session that ends takes its calls with it

A session's monitor closes the session's connection before it finishes: every call still in
flight ends as unavailable and the table refuses new calls (`conn_finishMonitor`). So along every
run a finished monitor stands over a closed connection (`MonitorsClose.run`).

A lifecycle operation that takes a session away (a stop, a restart, or a start over a crashed
session) keeps the lock until that session's monitor has finished and its connection is closed.
From the turn it takes the session on, it either still waits on the session's connection at a
stage of its own, or that session has ended (`Teardown`, kept by every move in `Teardown.run`).
An operation that has returned has left no session behind.

A closed connection refuses calls, requests and notifications and queues nothing for them; a call
once sent stays on its connection until it ends and is never sent again. The supervisor hands out
its session's connection only while the session runs and the connection is open.
-/

namespace LspBridge

namespace Engine

open Json Rpc Client Server

/-- The connection whose session an operation has taken away and still waits on: for the
`shutdown` call of a session being stopped, or for the monitor of a session that ends. -/
def Stage.waitsOn : Stage → Option Nat
  | .clearing c | .shutdown _ c _ | .grace _ c _ | .killed _ c => some c
  | .locking | .handshake .. => none

/-- Whether an operation that takes the lock over the supervisor's record takes its session away:
a stop or a restart does, a start or the automatic restart of the current generation only over a
crashed session. -/
def LifecycleOp.Discards (s : Supervision) : LifecycleOp → Prop
  | .stop | .restart => True
  | .start => s.state = .crashed
  | .autoRestart gen => gen = s.generation ∧ s.state = .crashed

/-- The connection and id a call was sent under, while it waits for its outcome. -/
def Call.sent? : Call → Option (Nat × RequestId)
  | .issued c id _ _ | .waiting c id _ _ => some (c, id)
  | .fresh .. | .finished _ => none

namespace World

/-- The session on a connection has ended: its monitor has finished and the connection is closed,
with no call left in flight. -/
def Ended (w : World) (c : Nat) : Prop := (w.conn c).monitorDone = true ∧ (w.conn c).Closed

/-- Every monitor that has finished has closed its connection. -/
def MonitorsClose (w : World) : Prop := ∀ c, (w.conn c).monitorDone = true → (w.conn c).Closed

/-- Operation `tid` holds the lock, filed under its id at some stage. -/
structure HoldsLock (w : World) (tid : Nat) : Prop where
  holder : w.supervision.lockHolder = some tid
  filed : ∃ handle op stage, (tid, Task.lifecycle handle op stage) ∈ w.tasks

/-- Operation `tid` holds the lock and waits on the session it took away on connection `c`. -/
structure WaitsOn (w : World) (tid c : Nat) : Prop where
  holder : w.supervision.lockHolder = some tid
  waits : ∃ handle op stage, (tid, Task.lifecycle handle op stage) ∈ w.tasks ∧
    stage.waitsOn = some c

/-- Operation `tid` has taken away the session on connection `c`: it still waits on it, holding
the lock, or that session has ended. -/
def Teardown (w : World) (tid c : Nat) : Prop := w.WaitsOn tid c ∨ w.Ended c

variable {w w' : World} {tid c : Nat}

/-! ### A session that has ended stays so -/

theorem Ended.of_lasts (ended : w.Ended c) (lasts : (w.conn c).Lasts (w'.conn c)) : w'.Ended c :=
  ⟨lasts.monitor ended.1, lasts.closed ended.2⟩

theorem Ended.recorded (ended : w.Ended c) (recorded : Recorded w w') : w'.Ended c :=
  ended.of_lasts (recorded.lasts_conn c)

/-- A connection whose monitor has finished ends when it is closed. -/
theorem ended_closePeer (done : (w.conn c).monitorDone = true) : (w.closePeer c).2.Ended c := by
  -- a monitor finishes only on a connection that exists
  have present : c < w.conns.size := by
    by_contra outside
    rw [conn_of_size_le (Nat.le_of_not_lt outside)] at done
    cases done
  rw [Ended, conn_closePeer present]
  exact ⟨done, rfl, rfl⟩

theorem ended_finishStop (done : (w.conn c).monitorDone = true) (handle : Option Nat)
    (op : LifecycleOp) : (w.finishStop tid handle op c).Ended c := by
  unfold finishStop
  exact (ended_closePeer done).recorded
    ((Steady.transition _ none .stopped (by decide)).rising.trans
      (Rising.afterStop _ tid handle op)).recorded

theorem ended_afterClear (done : (w.conn c).monitorDone = true) (handle : Option Nat)
    (op : LifecycleOp) : (w.afterClear tid handle op c).Ended c := by
  unfold afterClear
  exact (ended_closePeer done).recorded
    ((Steady.transition _ none .stopped (by decide)).rising.trans
      (Rising.startFresh _ tid handle op)).recorded

/-! ### The holder of the lock -/

theorem HoldsLock.of_kept (holds : w.HoldsLock tid) (kept : KeepsHolder w w' tid) :
    w'.HoldsLock tid where
  holder := by rw [kept.holder]; exact holds.holder
  filed := by
    obtain ⟨handle, op, stage, mem⟩ := holds.filed
    exact ⟨handle, op, stage, kept.entry _ _ _ mem⟩

/-- A change of state leaves the lock and the operations alone. -/
theorem HoldsLock.transition (holds : w.HoldsLock tid) (supervised : w.sup.isSome)
    (gen : Option Nat) (next : SessionState) : (w.transition gen next).2.HoldsLock tid := by
  rcases moved : w.transition gen next with ⟨_ | _, w₁⟩
  · obtain ⟨rfl, -⟩ := transition_eq_false moved
    exact holds
  · obtain ⟨-, -, rfl⟩ := transition_eq_true moved
    exact ⟨by simp [supervision_modifySup supervised, holds.holder], holds.filed⟩

/-- The holder of the lock moves to a stage where it waits on a connection. -/
theorem HoldsLock.waitsOn (holds : w.HoldsLock tid) {handle : Option Nat} {op : LifecycleOp}
    {stage : Stage} (waits : stage.waitsOn = some c) :
    (w.setTask tid (.lifecycle handle op stage)).WaitsOn tid c where
  holder := holds.holder
  waits := by
    obtain ⟨_, _, _, mem⟩ := holds.filed
    exact ⟨handle, op, stage, mem_setTask.mpr (.inl ⟨rfl, rfl, _, mem⟩), waits⟩

theorem WaitsOn.holdsLock (waits : w.WaitsOn tid c) : w.HoldsLock tid where
  holder := waits.holder
  filed := by
    obtain ⟨handle, op, stage, mem, -⟩ := waits.waits
    exact ⟨handle, op, stage, mem⟩

theorem WaitsOn.of_kept (waits : w.WaitsOn tid c) (kept : KeepsHolder w w' tid) :
    w'.WaitsOn tid c where
  holder := by rw [kept.holder]; exact waits.holder
  waits := by
    obtain ⟨handle, op, stage, mem, on⟩ := waits.waits
    exact ⟨handle, op, stage, kept.entry _ _ _ mem, on⟩

/-! ### Taking a session away -/

section Discard

variable {handle : Option Nat} {op : LifecycleOp}

theorem teardown_killAndWait (holds : w.HoldsLock tid) (gen c : Nat) :
    (w.killAndWait tid handle op gen c).Teardown tid c := by
  have killed := holds.of_kept (.of_keeps (KeepsSupervisor.requestKill w c))
  unfold killAndWait
  dsimp only
  split
  · exact .inr (ended_finishStop ‹_› handle op)
  · exact .inl (killed.waitsOn rfl)

/-- After `exit` the operation waits for the monitor, for the grace period, and then has the
process killed. -/
theorem teardown_waitForMonitor (holds : w.HoldsLock tid) (gen c : Nat) :
    (w.waitForMonitor tid handle op gen c).Teardown tid c := by
  unfold waitForMonitor
  split
  · exact .inr (ended_finishStop ‹_› handle op)
  · split
    rename_i w₁ t armed
    have timed := KeepsSupervisor.timer w w.supervision.config.shutdownGrace
    rw [armed] at timed
    have held := holds.of_kept (.of_keeps timed)
    split
    · exact teardown_killAndWait held gen c
    · exact .inl (held.waitsOn rfl)

theorem teardown_afterShutdown (holds : w.HoldsLock tid) (gen c : Nat) :
    (w.afterShutdown tid handle op gen c).Teardown tid c := by
  cases sent : w.notify c "exit" .null with
  | ok w₁ =>
    rw [afterShutdown_of_sent sent]
    exact teardown_waitForMonitor (holds.of_kept (.of_keeps (KeepsSupervisor.notify sent))) gen c
  | error e =>
    rw [afterShutdown_of_refused sent]
    exact teardown_waitForMonitor holds gen c

/-- A stop's move on the session it has taken: it asks the session to shut down and waits, or
kills its process and waits for the monitor. -/
theorem teardown_stopSession (holds : w.HoldsLock tid) (supervised : w.sup.isSome)
    (r : SessionRecord) : (w.stopSession tid handle op r).Teardown tid r.conn := by
  unfold stopSession
  have holds₂ := holds.transition supervised (some r.generation) .stopping
  rcases moved : w.transition (some r.generation) .stopping with ⟨_ | _, w₂⟩
  · obtain ⟨rfl, -⟩ := transition_eq_false moved
    exact teardown_killAndWait holds _ _
  · -- `shutdown` goes out, bounded by the grace period
    rw [moved] at holds₂
    dsimp only
    rcases stepped : w₂.stepCall r.conn
      (.fresh "shutdown" .null (.given (some w₂.supervision.config.shutdownGrace))) with ⟨w₃, call⟩
    have called := KeepsSupervisor.stepCall w₂ r.conn
      (.fresh "shutdown" .null (.given (some w₂.supervision.config.shutdownGrace)))
    rw [stepped] at called
    have holds₃ := holds₂.of_kept (.of_keeps called)
    dsimp only
    split
    · exact teardown_afterShutdown holds₃ _ _
    · exact .inl (holds₃.waitsOn rfl)

/-- A stop takes the session away: it asks a running session to shut down and waits, or kills a
crashed one and waits for its monitor. -/
theorem teardown_stopLocked (holds : w.HoldsLock tid) (supervised : w.sup.isSome)
    {r : SessionRecord} (held : w.supervision.session = some r) :
    (w.stopLocked tid handle op).Teardown tid r.conn := by
  rw [stopLocked_of_some held]
  exact teardown_stopSession (holds.of_kept (KeepsHolder.takeSession supervised r))
    (by simpa using supervised) r

/-- A start over a crashed session takes it away: it has the process killed and waits for the
monitor. -/
theorem teardown_startLocked (holds : w.HoldsLock tid) (supervised : w.sup.isSome)
    (crashed : w.supervision.state = .crashed) {r : SessionRecord}
    (held : w.supervision.session = some r) :
    (w.startLocked tid handle op).Teardown tid r.conn := by
  unfold startLocked
  rw [crashed]
  dsimp only
  split
  · rename_i r' held'
    rw [held] at held'
    cases held'
    have killed := KeepsSupervisor.requestKill (w.takeSession r) r.conn
    have holds₁ := holds.of_kept ((KeepsHolder.takeSession supervised r).trans (.of_keeps killed))
    split
    · exact .inr (ended_afterClear ‹_› handle op)
    · exact .inl (holds₁.waitsOn rfl)
  · rename_i empty
    rw [held] at empty
    cases empty

/-- With the lock in hand, an operation that takes the session away waits on its connection until
the session has ended. -/
theorem teardown_afterLock (holds : w.HoldsLock tid) (supervised : w.sup.isSome)
    {r : SessionRecord} (held : w.supervision.session = some r) (discards : op.Discards w.supervision) :
    (w.afterLock tid handle op).Teardown tid r.conn := by
  -- a host's start or restart first resets the count of automatic restarts
  have record := supervision_modifySup supervised fun s => { s with restarts := 0 }
  have reset := holds.of_kept (.modifySup supervised (fun s => { s with restarts := 0 })
    fun _ => ⟨rfl, rfl, rfl⟩)
  have supervised₁ : (w.modifySup fun s => { s with restarts := 0 }).sup.isSome := by
    simpa using supervised
  unfold afterLock
  cases op with
  | start =>
    exact teardown_startLocked reset supervised₁ (by rw [record]; exact discards)
      (by rw [record]; exact held)
  | stop => exact teardown_stopLocked holds supervised held
  | restart => exact teardown_stopLocked reset supervised₁ (by rw [record]; exact held)
  | autoRestart gen =>
    obtain ⟨current, crashed⟩ := discards
    dsimp only
    rw [if_neg (by simp [current, crashed])]
    exact teardown_startLocked holds supervised crashed held

/-- The turn in which an operation takes the lock and a session away. -/
theorem teardown_discardTurn (lawful : w.Lawful)
    (found : w.task? tid = some (.lifecycle handle op .locking))
    (free : w.supervision.lockHolder = none ∨ w.supervision.lockHolder = some tid)
    {r : SessionRecord} (held : w.supervision.session = some r)
    (discards : op.Discards w.supervision) : (w.pollTask tid).Teardown tid r.conn := by
  have mem := mem_of_task? found
  simp only [pollTask, found]
  dsimp only [pollLifecycle]
  split
  · rename_i holds
    exact teardown_afterLock ⟨by simpa using holds, handle, op, .locking, mem⟩
      lawful.supervised held discards
  · split
    · have record :=
        supervision_modifySup lawful.supervised fun s => { s with lockHolder := some tid }
      have holds : (w.modifySup fun s => { s with lockHolder := some tid }).HoldsLock tid :=
        ⟨by rw [record], handle, op, .locking, mem⟩
      exact teardown_afterLock holds (by simpa using lawful.supervised)
        (by rw [record]; exact held) (by rw [record]; exact discards)
    · rename_i notHeld taken
      rcases free with none | mine
      · rw [none] at taken
        exact absurd rfl taken
      · rw [mine] at notHeld
        simp at notHeld

end Discard

/-! ### While the operation waits -/

/-- The waiting operation's own turn: it goes on waiting, or finds the monitor finished and closes
the connection. -/
theorem WaitsOn.ownTurn (waits : w.WaitsOn tid c) (lawful : w.Lawful) :
    (w.pollTask tid).Teardown tid c := by
  obtain ⟨handle, op, stage, mem, on⟩ := waits.waits
  have holds := waits.holdsLock
  simp only [pollTask, task?_of_mem lawful.numbered mem]
  cases stage with
  | locking => cases on
  | handshake => cases on
  | clearing c' =>
    cases on
    dsimp only [pollLifecycle]
    split
    · exact .inr (ended_afterClear ‹_› handle op)
    · exact .inl waits
  | shutdown gen c' call =>
    cases on
    dsimp only [pollLifecycle]
    rcases stepped : w.stepCall c call with ⟨w₁, call'⟩
    have called := KeepsSupervisor.stepCall w c call
    rw [stepped] at called
    have holds₁ := holds.of_kept (.of_keeps called)
    dsimp only
    split
    · exact teardown_afterShutdown holds₁ gen c
    · exact .inl (holds₁.waitsOn rfl)
  | grace gen c' t =>
    cases on
    dsimp only [pollLifecycle]
    split
    · exact .inr (ended_finishStop ‹_› handle op)
    · split
      · exact teardown_killAndWait holds gen c
      · exact .inl waits
  | killed gen c' =>
    cases on
    dsimp only [pollLifecycle]
    split
    · exact .inr (ended_finishStop ‹_› handle op)
    · exact .inl waits

/-- While an operation waits on a session it took away, no session is starting or running. -/
theorem WaitsOn.asleep (waits : w.WaitsOn tid c) (lawful : w.Lawful) :
    ∀ gen, ¬ w.supervision.Live gen := by
  obtain ⟨handle, op, stage, mem, on⟩ := waits.waits
  have found := lawful.atStage mem waits.holder
  rintro gen ⟨-, starting | running⟩ <;>
    cases stage <;> simp_all [Stage.waitsOn, Supervision.AtStage]

/-- A turn of any other task leaves the waiting operation waiting. -/
theorem WaitsOn.otherTurn (waits : w.WaitsOn tid c) (lawful : w.Lawful) {j : Nat}
    (other : j ≠ tid) : (w.pollTask j).WaitsOn tid c :=
  waits.of_kept (.otherTurn lawful waits.holder (waits.asleep lawful) other)

/-- The step lemma for `Teardown`: every move of the host keeps it. -/
theorem Teardown.move (lawful : w.Lawful) (teardown : w.Teardown tid c) (move : Move w w') :
    w'.Teardown tid c := by
  rcases teardown with waits | ended
  · cases move with
    | request handle op host => exact .inl (waits.of_kept (.spawn _))
    | failLaunch reason =>
      exact .inl (waits.of_kept (.modifySup lawful.supervised _ fun _ => ⟨rfl, rfl, rfl⟩))
    | turn j =>
      by_cases same : j = tid
      · subst same
        exact waits.ownTurn lawful
      · exact .inl (waits.otherTurn lawful same)
    | outside keeps lasts => exact .inl (waits.of_kept (.of_keeps keeps))
  · exact .inr (ended.recorded (move.recorded lawful.numbered))

/-- The run lemma for `Teardown`. -/
theorem Teardown.run (lawful : w.Lawful) (teardown : w.Teardown tid c)
    (moves : Relation.ReflTransGen Move w w') : w'.Teardown tid c := by
  induction moves with
  | refl => exact teardown
  | tail earlier last ih => exact ih.move (lawful.run (Move.run earlier)) last

/-- An operation that has returned waits on nothing: the session it took away has ended. -/
theorem Teardown.ended (teardown : w.Teardown tid c) (returned : w.task? tid = none) :
    w.Ended c := by
  rcases teardown with waits | ended
  · obtain ⟨_, _, _, mem, -⟩ := waits.waits
    exact absurd returned (task?_ne_none mem)
  · exact ended

/-! ### The monitor closes its session's connection -/

/-- A finishing monitor closes its connection: every call still in flight ends as unavailable, in
order, the table refuses new calls, and the monitor is marked finished. A crash it records leaves
the connection alone. -/
theorem conn_finishMonitor (present : c < w.conns.size) (tid gen : Nat)
    (reason : Option CrashReason) :
    (w.finishMonitor tid c gen reason).conn c =
      { w.conn c with
        pending := { (w.conn c).pending with calls := [], closed := true }
        filled := (w.conn c).filled ++
          (w.conn c).pending.calls.map fun entry => (entry.1, Outcome.unavailable)
        monitorDone := true } := by
  unfold finishMonitor wakeOnMonitor
  dsimp only
  have closed := conn_closePeer present
  have size : c < (w.closePeer c).2.conns.size := by simpa using present
  generalize (w.closePeer c).2 = w₁ at closed size
  have finish : ∀ w₂ : World, w₂.conns = w₁.conns → ∀ p,
      (((w₂.modifyConn c fun k => { k with monitorDone := true }).dropTask tid).wakeIf p).conn c =
        { w₁.conn c with monitorDone := true } := by
    intro w₂ same p
    have present₂ : c < w₂.conns.size := by
      rw [same]
      exact size
    rw [conn_wakeIf, conn_dropTask, conn_modifyConn_self _ _ _ present₂]
    simp only [conn, same]
  split
  · rw [finish w₁ rfl, closed]
  · split
    · rw [finish _ (Recorded.conns_crashed w₁ gen _), closed]
    · rw [finish w₁ rfl, closed]

/-- The run lemma for `MonitorsClose`: a monitor finishes only on a closed connection, and a
closed connection stays closed. -/
theorem MonitorsClose.run (lawful : w.Lawful) (closes : w.MonitorsClose)
    (moves : Relation.ReflTransGen Move w w') : w'.MonitorsClose := by
  intro c done
  have lasts := Move.lasts_conn lawful moves c
  rcases lasts.finishes done with before | shut
  · exact lasts.closed (closes c before)
  · exact shut

/-! ### A closed connection, and calls already sent -/

/-- A request on a closed connection fails as unavailable; it uses up an id and queues nothing. -/
theorem issue_closed (closed : (w.conn c).pending.closed = true) (method : String)
    (params : Value) :
    (w.issue c method params).1 = .error .serverUnavailable ∧
      ∀ d, ((w.issue c method params).2.conn d).outbound = (w.conn d).outbound := by
  rw [issue_of_closed closed]
  exact ⟨rfl, fun d => view_modifyConn Conn.outbound fun _ => rfl⟩

theorem notify_closed (closed : (w.conn c).pending.closed = true) (method : String)
    (params : Value) : w.notify c method params = .error .serverUnavailable := by
  simp [notify, closed]

/-- A call on a closed connection ends at once as unavailable, having sent nothing. -/
theorem stepCall_fresh_closed (closed : (w.conn c).pending.closed = true) (method : String)
    (params : Value) (limit : Limit) :
    w.stepCall c (.fresh method params limit) =
      ((w.issue c method params).2, .finished (.error .serverUnavailable)) := by
  simp only [stepCall, issue_of_closed closed]

theorem outbound_takeFilled (w : World) (c : Nat) (id : RequestId) (d : Nat) :
    ((w.takeFilled c id).2.conn d).outbound = (w.conn d).outbound := by
  unfold takeFilled
  split
  · exact view_modifyConn Conn.outbound fun _ => rfl
  · rfl

theorem outbound_forget (w : World) (c : Nat) (id : RequestId) (d : Nat) :
    ((w.forget c id).2.conn d).outbound = (w.conn d).outbound := by
  unfold forget
  split
  · exact view_modifyConn Conn.outbound fun _ => rfl
  · rfl

/-- What becomes of a sent call at one look: it queues nothing, and keeps its connection and id
until it ends. -/
def SentStep (w : World) (c : Nat) (id : RequestId) (step : World × Call) : Prop :=
  (∀ d, (step.1.conn d).outbound = (w.conn d).outbound) ∧
    (step.2.sent? = some (c, id) ∨ step.2.result?.isSome)

theorem sentStep_expire (w : World) (c : Nat) (id : RequestId) (method : String) :
    w.SentStep c id (w.expire c id method) := by
  have forgotten := outbound_forget w c id
  unfold expire
  rcases forgot : w.forget c id with ⟨_ | _, w₁⟩ <;> rw [forgot] at forgotten
  · exact ⟨forgotten, .inr rfl⟩
  · exact ⟨forgotten, .inr rfl⟩

theorem sentStep_beginWait (w : World) (c : Nat) (id : RequestId) (method : String)
    (limit : Option Nat) : w.SentStep c id (w.beginWait c id method limit) := by
  have taken := outbound_takeFilled w c id
  unfold beginWait
  rcases took : w.takeFilled c id with ⟨_ | o, w₁⟩ <;> rw [took] at taken
  · cases limit with
    | none => exact ⟨taken, .inl rfl⟩
    | some ms =>
      dsimp only
      split
      · exact ⟨fun d => ((sentStep_expire _ c id method).1 d).trans (taken d),
          (sentStep_expire _ c id method).2⟩
      · exact ⟨taken, .inl rfl⟩
  · exact ⟨taken, .inr rfl⟩

theorem sentStep_checkWait (w : World) (c : Nat) (id : RequestId) (method : String)
    (deadline : Option Timer) : w.SentStep c id (w.checkWait c id method deadline) := by
  have taken := outbound_takeFilled w c id
  unfold checkWait
  rcases took : w.takeFilled c id with ⟨_ | o, w₁⟩ <;> rw [took] at taken
  · cases deadline with
    | none => exact ⟨taken, .inl rfl⟩
    | some t =>
      dsimp only
      split
      · exact ⟨fun d => ((sentStep_expire w₁ c id method).1 d).trans (taken d),
          (sentStep_expire w₁ c id method).2⟩
      · exact ⟨taken, .inl rfl⟩
  · exact ⟨taken, .inr rfl⟩

/-- A call already sent is never sent again: moving it on queues nothing on any connection, and it
keeps the connection and id it was sent under until it ends. -/
theorem sentStep_stepCall (w : World) (c : Nat) {call : Call} {c' : Nat} {id : RequestId}
    (sent : call.sent? = some (c', id)) : w.SentStep c' id (w.stepCall c call) := by
  cases call with
  | fresh => cases sent
  | finished => cases sent
  | issued c'' id' method limit =>
    simp only [Call.sent?, Option.some.injEq, Prod.mk.injEq] at sent
    obtain ⟨rfl, rfl⟩ := sent
    exact sentStep_beginWait w c'' id' method limit
  | waiting c'' id' method deadline =>
    simp only [Call.sent?, Option.some.injEq, Prod.mk.injEq] at sent
    obtain ⟨rfl, rfl⟩ := sent
    exact sentStep_checkWait w c'' id' method deadline

/-! ### The running session's connection -/

/-- The supervisor hands out its session's connection exactly while the session runs and the
connection is open. -/
theorem runningPeer_eq_some_iff : w.runningPeer = some c ↔ w.supervision.state = .running ∧
    (∃ r, w.supervision.session = some r ∧ r.conn = c) ∧ (w.conn c).pending.closed = false := by
  unfold runningPeer
  dsimp only
  by_cases running : w.supervision.state = .running
  · have isRunning : w.supervision.state.isRunning = true := by
      rw [running]
      rfl
    rw [if_pos isRunning]
    cases held : w.supervision.session with
    | none => simp
    | some r =>
      simp only [Option.some.injEq, exists_eq_left', running, true_and]
      constructor
      · intro found
        split at found
        · cases found
        · rename_i shut
          cases found
          exact ⟨rfl, by simpa using shut⟩
      · rintro ⟨rfl, shut⟩
        simp [shut]
  · have idle : w.supervision.state.isRunning = false := by
      cases state : w.supervision.state <;> simp_all [SessionState.isRunning]
    simp [idle, running]

/-- Without a running session on an open connection, the supervisor shows no capabilities, and a
call to its running session ends at once as unavailable. -/
theorem pollCall_running_of_none (absent : w.runningPeer = none) (tid handle : Nat) (call : Call)
    (typed : Option Shape) :
    Console.runningCapabilities w = none ∧
      w.pollCall tid handle .running call typed =
        (w.report handle (.call (.error .serverUnavailable))).dropTask tid := by
  refine ⟨by simp [Console.runningCapabilities, absent], ?_⟩
  unfold pollCall finishCall
  rw [absent]
  cases typed <;> rfl

/-! ### Calls never outlive their session -/

/-- Calls never outlive their session. A monitor closes its session's connection as it finishes,
ending every call still in flight as unavailable, so along every run from a fresh supervisor a
finished monitor stands over a closed connection. A stop, a restart, or a start over a crashed
session that takes a session away keeps the lock, waiting on the session's connection, until that
session's monitor has finished and the connection is closed, however the run goes on; once it has
returned, the session has ended. A closed connection fails requests, notifications and calls as
unavailable and queues nothing; a call already sent keeps its connection and id until it ends and
queues nothing again. The supervisor hands out its session's connection exactly while the session
runs and the connection is open; without it there are no capabilities to show and a call to the
running session ends at once as unavailable. -/
theorem calls_never_outlive_their_session :
    (∀ (w : World) (tid c gen : Nat) (reason : Option CrashReason), c < w.conns.size →
      (w.finishMonitor tid c gen reason).conn c =
        { w.conn c with
          pending := { (w.conn c).pending with calls := [], closed := true }
          filled := (w.conn c).filled ++
            (w.conn c).pending.calls.map fun entry => (entry.1, Outcome.unavailable)
          monitorDone := true }) ∧
    (∀ w₀ w : World, w₀.Fresh → w₀.MonitorsClose → Relation.ReflTransGen Move w₀ w →
      w.MonitorsClose) ∧
    (∀ (w₀ w w' : World) (tid : Nat) (handle : Option Nat) (op : LifecycleOp) (r : SessionRecord),
      w₀.Fresh → Relation.ReflTransGen Step w₀ w →
      w.task? tid = some (.lifecycle handle op .locking) →
      (w.supervision.lockHolder = none ∨ w.supervision.lockHolder = some tid) →
      w.supervision.session = some r → op.Discards w.supervision →
      Relation.ReflTransGen Move (w.pollTask tid) w' →
      w'.Teardown tid r.conn ∧ (w'.task? tid = none → w'.Ended r.conn)) ∧
    (∀ (w : World) (c : Nat) (method : String) (params : Value) (limit : Limit),
      (w.conn c).pending.closed = true →
      (w.issue c method params).1 = .error .serverUnavailable ∧
      (∀ d, ((w.issue c method params).2.conn d).outbound = (w.conn d).outbound) ∧
      w.notify c method params = .error .serverUnavailable ∧
      w.stepCall c (.fresh method params limit) =
        ((w.issue c method params).2, .finished (.error .serverUnavailable))) ∧
    (∀ (w : World) (c c' : Nat) (id : RequestId) (call : Call), call.sent? = some (c', id) →
      (∀ d, ((w.stepCall c call).1.conn d).outbound = (w.conn d).outbound) ∧
      ((w.stepCall c call).2.sent? = some (c', id) ∨ (w.stepCall c call).2.result?.isSome)) ∧
    (∀ (w : World) (c : Nat), w.runningPeer = some c ↔ w.supervision.state = .running ∧
      (∃ r, w.supervision.session = some r ∧ r.conn = c) ∧ (w.conn c).pending.closed = false) ∧
    (∀ (w : World) (tid handle : Nat) (call : Call) (typed : Option Shape),
      w.runningPeer = none →
      Console.runningCapabilities w = none ∧
      w.pollCall tid handle .running call typed =
        (w.report handle (.call (.error .serverUnavailable))).dropTask tid) := by
  refine ⟨fun w tid c gen reason present => conn_finishMonitor present tid gen reason,
    fun w₀ w fresh closes moves => closes.run fresh.lawful moves, ?_,
    fun w c method params limit closed => ⟨(issue_closed closed method params).1,
      (issue_closed closed method params).2, notify_closed closed method params,
      stepCall_fresh_closed closed method params limit⟩,
    fun w c c' id call sent => sentStep_stepCall w c sent,
    fun w c => runningPeer_eq_some_iff,
    fun w tid handle call typed absent => pollCall_running_of_none absent tid handle call typed⟩
  intro w₀ w w' tid handle op r fresh steps found free held discards later
  have lawful := fresh.lawful.run steps
  -- the operation's turn takes the session away, and every later move keeps the teardown
  have teardown := (teardown_discardTurn lawful found free held discards).run
    (lawful.turn tid).lawful later
  exact ⟨teardown, teardown.ended⟩

/-- A monitor finishing over a connection with a call in flight closes it and ends the call. -/
theorem calls_never_outlive_their_session_one_call :
    0 < ({ conns := #[{ pending := { calls := [(.number 0, "initialize")] } }] } : World).conns.size ∧
      ((({ conns := #[{ pending := { calls := [(.number 0, "initialize")] } }] } : World).finishMonitor
        0 0 1 none).conn 0).pending.closed = true ∧
      ((({ conns := #[{ pending := { calls := [(.number 0, "initialize")] } }] } : World).finishMonitor
        0 0 1 none).conn 0).filled.map Prod.fst = [.number 0] := by
  have closes := calls_never_outlive_their_session.1
    { conns := #[{ pending := { calls := [(.number 0, "initialize")] } }] } 0 0 1 none (by decide)
  exact ⟨by decide, by rw [closes], by rw [closes]; rfl⟩

end World

end Engine

end LspBridge
