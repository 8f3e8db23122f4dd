import LspBridge.Proofs.StopReturns
import LspBridge.Proofs.SessionTraffic
import Mathlib
/-!
# The graceful shutdown

A stop ends a running session gracefully: it queues `shutdown` under the next id of the session's
connection and waits for the answer at most the grace period, then queues `exit`, and waits the
grace period for the session's monitor before it has the process killed.

Of every turn of a stop from a world a run of the host reaches, this file shows what it queues on
each connection (`Lawful.stopQueues`): `shutdown` and then `exit` on the connection of a running
session, and nothing else (`StopQueues`); that every timer it waits on after the turn is the one
it waited on before, or fires the grace period after the turn (`Lawful.stopTimed`), so that the
grace period for the monitor starts once `exit` is queued; and that once that period is over and
the monitor has not finished, the process is killed (`pollLifecycle_grace_kills`).
-/

namespace LspBridge

namespace Engine

open Json Rpc Client Server

/-- The timer a stop waits on at a stage: its `shutdown` call's, or the grace period's. -/
def Stage.stopTimer? : Stage → Option Timer
  | .shutdown _ _ call => call.timer?
  | .grace _ _ t => some t
  | _ => none

/-- The `shutdown` request, under the id a connection hands out next. -/
def shutdownRequest (id : Int) : Message := .request (.number id) "shutdown" .null

/-- The `exit` notification. -/
def exitNote : Message := .notification "exit" .null

namespace World

/-! ### The timers of calls -/

section Timers

variable (w : World) (c : Nat) (id : RequestId) (method : String)

/-- A call that begins to wait with a timeout waits on a timer that fires the timeout after now. -/
theorem beginWait_timer (ms : Nat) {t : Timer}
    (timed : (w.beginWait c id method (some ms)).2.timer? = some t) :
    t.deadline = (w.beginWait c id method (some ms)).1.now + ms := by
  unfold World.beginWait at timed ⊢
  split at timed
  · cases timed
  dsimp only at timed ⊢
  split at timed
  · unfold World.expire at timed
    split at timed <;> cases timed
  · rename_i late
    rw [if_neg late]
    cases timed
    rfl

theorem stepCall_fresh_timer (params : Value) (ms : Nat) {t : Timer}
    (timed : (w.stepCall c (.fresh method params (.given (some ms)))).2.timer? = some t) :
    t.deadline = (w.stepCall c (.fresh method params (.given (some ms)))).1.now + ms := by
  unfold World.stepCall at timed ⊢
  dsimp only at timed ⊢
  split at timed
  · cases timed
  · rename_i i w' sent
    exact beginWait_timer w' c i method ms timed

/-- A call that waits keeps its timer, or ends. -/
theorem checkWait_timer (deadline : Option Timer) :
    (w.checkWait c id method deadline).2.timer? = none ∨
      (w.checkWait c id method deadline).2.timer? = deadline := by
  unfold World.checkWait
  split
  · exact .inl rfl
  · split
    · split
      · unfold World.expire
        split <;> exact .inl rfl
      · exact .inr rfl
    · exact .inr rfl

end Timers

/-! ### What a stop queues -/

namespace Pushes

variable {c : Nat} {w : World}

theorem modifySup (w : World) (f : Supervision → Supervision) : Pushes c [] w (w.modifySup f) :=
  of_conns rfl rfl rfl

theorem releaseLock (w : World) : Pushes c [] w w.releaseLock := by
  unfold World.releaseLock
  split
  · exact modifySup w _
  · exact (modifySup w _).trans_quiet (wake _ _)

theorem finishOp (w : World) (tid : Nat) (handle : Option Nat) (r : Except Server.Error Unit) :
    Pushes c [] w (w.finishOp tid handle r) := by
  have dropped := (releaseLock (c := c) w).trans_quiet (dropTask _ tid)
  unfold World.finishOp
  split
  · exact dropped.trans_quiet (of_conns rfl rfl rfl)
  · exact dropped

theorem transition (w : World) (gen : Option Nat) (next : SessionState) :
    Pushes c [] w (w.transition gen next).2 := by
  rcases moved : w.transition gen next with ⟨_ | _, w'⟩
  · obtain ⟨rfl, -⟩ := transition_eq_false moved
    exact refl _
  · obtain ⟨-, -, rfl⟩ := transition_eq_true moved
    exact of_conns rfl rfl rfl

theorem requestKill (w : World) (d : Nat) : Pushes c [] w (w.requestKill d) := by
  unfold World.requestKill World.wakeMonitorOnProcess
  exact (keep w d fun _ => by rfl).trans (wakeIf _ _)

theorem finishStop (w : World) (tid : Nat) (handle : Option Nat) (d : Nat) :
    Pushes c [] w (w.finishStop tid handle .stop d) :=
  ((closePeer w d).trans_quiet (transition _ none .stopped)).trans_quiet (finishOp _ tid handle _)

theorem killAndWait (w : World) (tid : Nat) (handle : Option Nat) (gen d : Nat) :
    Pushes c [] w (w.killAndWait tid handle .stop gen d) := by
  unfold World.killAndWait
  dsimp only
  split
  · exact (requestKill w d).trans_quiet (finishStop _ tid handle d)
  · exact (requestKill w d).trans_quiet (setTask _ tid _)

theorem waitForMonitor (w : World) (tid : Nat) (handle : Option Nat) (gen d : Nat) :
    Pushes c [] w (w.waitForMonitor tid handle .stop gen d) := by
  unfold World.waitForMonitor
  split
  · exact finishStop w tid handle d
  · split
    rename_i w₁ t result
    have timed := timer (c := c) w w.supervision.config.shutdownGrace
    rw [result] at timed
    split
    · exact timed.trans_quiet (killAndWait _ tid handle gen d)
    · exact timed.trans_quiet (setTask _ tid _)

theorem beginWait (w : World) (d : Nat) (i : RequestId) (method : String) (limit : Option Nat) :
    Pushes c [] w (w.beginWait d i method limit).1 :=
  World.beginWait_of takeFilled forget timer w d i method limit

theorem checkWait (w : World) (d : Nat) (i : RequestId) (method : String)
    (deadline : Option Timer) : Pushes c [] w (w.checkWait d i method deadline).1 :=
  World.checkWait_of takeFilled forget w d i method deadline

/-- A change of another connection leaves this one's queue alone. -/
theorem modifyConn_of_ne (w : World) {d : Nat} (f : Conn → Conn) (other : c ≠ d) :
    Pushes c [] w (w.modifyConn d f) where
  size := size_conns_modifyConn w d f
  queue := by rw [conn_modifyConn_of_ne w f other, List.append_nil]
  sent := rfl
  done := by rw [conn_modifyConn_of_ne w f other]
  router := rfl
  reads := by
    rw [conn_modifyConn_of_ne w f other]
    exact id

theorem enqueue_of_ne (w : World) {d : Nat} (m : Message) (other : c ≠ d) :
    Pushes c [] w ((w.enqueue d m).getD w) := by
  unfold World.enqueue
  split
  · exact refl w
  · rw [Option.getD_some]
    unfold World.wakeWriter
    exact (modifyConn_of_ne w _ other).trans (wakeIf _ _)

theorem issue_of_ne (w : World) {d : Nat} (method : String) (params : Value) (other : c ≠ d) :
    Pushes c [] w (w.issue d method params).2 := by
  have counted := modifyConn_of_ne w (fun k => { k with nextId := k.nextId + 1 }) other
  unfold World.issue
  dsimp only
  split
  · exact counted
  · rename_i p registered
    have inTable := counted.trans_quiet (modifyConn_of_ne _ (fun k => { k with pending := p }) other)
    split
    · rename_i w' queued
      have pushed := enqueue_of_ne (c := c) ((w.modifyConn d fun k => { k with nextId := k.nextId + 1 }).modifyConn d
        fun k => { k with pending := p }) (.request (.number (w.conn d).nextId.toInt) method params) other
      rw [queued] at pushed
      exact inTable.trans_quiet pushed
    · exact inTable.trans_quiet (forget _ d _)

theorem stepCall_fresh_of_ne (w : World) {d : Nat} (method : String) (params : Value)
    (limit : Limit) (other : c ≠ d) : Pushes c [] w (w.stepCall d (.fresh method params limit)).1 := by
  have issued := issue_of_ne w method params other
  unfold World.stepCall
  dsimp only
  rcases sent : w.issue d method params with ⟨_ | i, w'⟩
  · rw [sent] at issued
    exact issued
  · rw [sent] at issued
    exact issued.trans_quiet (beginWait w' d i method _)

theorem notify_of_ne {w' : World} {d : Nat} {method : String} {params : Value}
    (sent : w.notify d method params = .ok w') (other : c ≠ d) : Pushes c [] w w' := by
  have pushed := enqueue_of_ne w (.notification method params) other
  rw [World.enqueue_of_notify sent] at pushed
  exact pushed

theorem afterShutdown_of_ne (w : World) (tid : Nat) (handle : Option Nat) {gen d : Nat}
    (other : c ≠ d) : Pushes c [] w (w.afterShutdown tid handle .stop gen d) := by
  cases sent : w.notify d "exit" .null with
  | error e =>
    rw [World.afterShutdown_of_refused sent]
    exact waitForMonitor w tid handle gen d
  | ok w' =>
    rw [World.afterShutdown_of_sent sent]
    exact (notify_of_ne sent other).trans_quiet (waitForMonitor _ tid handle gen d)

section Sending

variable (present : c < w.conns.size)
include present

/-- A fresh call queues its request under the next id while the table is open and the writer is
there, and nothing while it waits. -/
theorem stepCall_fresh (method : String) (params : Value) (limit : Limit) :
    Pushes c (if (w.conn c).pending.closed || (w.conn c).writerDone then []
      else [.request (.number (w.conn c).nextId.toInt) method params]) w
      (w.stepCall c (.fresh method params limit)).1 := by
  have issued := issue present method params
  unfold World.stepCall
  dsimp only
  rcases sent : w.issue c method params with ⟨_ | i, w'⟩
  · rw [sent] at issued
    exact issued
  · rw [sent] at issued
    exact issued.trans_quiet (beginWait w' c i method _)

/-- After the `shutdown` call, `exit` is queued while the table is open and the writer is there. -/
theorem afterShutdown (tid : Nat) (handle : Option Nat) (gen : Nat) :
    Pushes c (if (w.conn c).pending.closed || (w.conn c).writerDone then [] else [exitNote]) w
      (w.afterShutdown tid handle .stop gen c) := by
  -- `afterShutdown` is `waitForMonitor` from the world after `exit`, sent or refused
  exact (notify present "exit" .null).trans_quiet (waitForMonitor _ tid handle gen c)

end Sending

end Pushes

/-- What a turn of a stop at `stage` queues on connection `c` of `w`: at the lock, on the
connection of a running session, `shutdown` under the id the connection hands out next, and `exit`
after it if that call has ended at once; at its `shutdown` stage, `exit` on the connection it
shuts down; and nothing else. -/
def StopQueues (w : World) (stage : Stage) (c : Nat) (xs : List Message) : Prop :=
  xs = [] ∨
    (stage = .locking ∧ w.supervision.state = .running ∧
      w.supervision.session.map (·.conn) = some c ∧
      (xs = [shutdownRequest (w.conn c).nextId.toInt] ∨
        xs = [shutdownRequest (w.conn c).nextId.toInt, exitNote])) ∨
    ((∃ gen call, stage = .shutdown gen c call) ∧ xs = [exitNote])

section Queues

variable {w : World} {tid c : Nat} {handle : Option Nat} {stage : Stage}

@[simp]
theorem conn_modifySup (f : Supervision → Supervision) : (w.modifySup f).conn c = w.conn c :=
  rfl

/-- A connection that sends nothing more, its table closed or its writer gone, still sends
nothing once a call has been tried on it. -/
theorem stepCall_fresh_shut (present : c < w.conns.size) (method : String) (params : Value)
    (limit : Limit) (shut : ((w.conn c).pending.closed || (w.conn c).writerDone) = true) :
    (((w.stepCall c (.fresh method params limit)).1.conn c).pending.closed ||
      ((w.stepCall c (.fresh method params limit)).1.conn c).writerDone) = true := by
  cases closed : (w.conn c).pending.closed with
  | true =>
    rw [stepCall_fresh_closed closed, issue_of_closed closed]
    simp [conn_modifyConn_self _ _ _ present, closed]
  | false =>
    have done : (w.conn c).writerDone = true := by simpa [closed] using shut
    rw [(Pushes.stepCall_fresh present method params limit).done, done, Bool.or_true]

/-- `shutdown` and then `exit` where the connection still sends: both, `shutdown` alone, or
neither. -/
theorem shutdown_then_exit {before after : Bool} (keeps : before = true → after = true) (id : Int) :
    (if before then [] else [shutdownRequest id]) ++ (if after then [] else [exitNote]) = [] ∨
      (if before then [] else [shutdownRequest id]) ++ (if after then [] else [exitNote]) =
        [shutdownRequest id] ∨
      (if before then [] else [shutdownRequest id]) ++ (if after then [] else [exitNote]) =
        [shutdownRequest id, exitNote] := by
  cases before <;> cases after <;> simp_all

theorem StopQueues.locking (running : w.supervision.state = .running)
    (session : w.supervision.session.map (·.conn) = some c) {xs : List Message}
    (sent : xs = [] ∨ xs = [shutdownRequest (w.conn c).nextId.toInt] ∨
      xs = [shutdownRequest (w.conn c).nextId.toInt, exitNote]) : w.StopQueues .locking c xs := by
  rcases sent with nothing | something
  · exact .inl nothing
  · exact .inr (.inl ⟨rfl, running, session, something⟩)

/-- Only a running session moves to Stopping from a settled state. -/
theorem running_of_stopping {s : Supervision} (settled : s.Settled)
    (allowed : s.state.canStep .stopping = true) : s.state = .running := by
  obtain ⟨notStarting, notStopping⟩ := settled
  cases state : s.state <;> simp_all [SessionState.canStep]

/-- With the lock in hand, a stop queues `shutdown` and then `exit` on the connection of a running
session, and nothing on any other connection. -/
theorem stopLocked_queues (holding : w.Holding tid) (settled : w.supervision.Settled)
    (present : c < w.conns.size) :
    ∃ xs, Pushes c xs w (w.stopLocked tid handle .stop) ∧ w.StopQueues .locking c xs := by
  cases held : w.supervision.session with
  | none =>
    rw [stopLocked_of_none held]
    exact ⟨[], (Pushes.transition w none .stopped).trans_quiet (.finishOp _ tid handle _), .inl rfl⟩
  | some r =>
  rw [stopLocked_of_some held]
  unfold World.stopSession
  dsimp only
  have marked : Pushes c [] w (w.takeSession r) :=
    (Pushes.modifySup w _).trans_quiet (.keep _ r.conn fun _ => by rfl)
  split
  · rename_i w₂ moved
    have toStopping := Pushes.transition (c := c) (w.takeSession r) (some r.generation) .stopping
    rw [moved] at toStopping
    have pushed := marked.trans_quiet toStopping
    obtain ⟨-, allowed, same⟩ := transition_eq_true moved
    have running : w.supervision.state = .running := by
      rw [supervision_takeSession holding.supervised] at allowed
      exact running_of_stopping settled allowed
    -- the connection is as the stop found it
    have kept : ((w₂.conn c).nextId, (w₂.conn c).pending.closed, (w₂.conn c).writerDone) =
        ((w.conn c).nextId, (w.conn c).pending.closed, (w.conn c).writerDone) := by
      rw [same]
      exact view_modifyConn (fun k => (k.nextId, k.pending.closed, k.writerDone)) fun _ => rfl
    simp only [Prod.mk.injEq] at kept
    have present₂ : c < w₂.conns.size := by
      rw [pushed.size]
      exact present
    have session : w.supervision.session.map (·.conn) = some r.conn := by simp [held]
    by_cases mine : r.conn = c
    · rw [mine] at session ⊢
      have called := Pushes.stepCall_fresh present₂ "shutdown" .null
        (.given (some w₂.supervision.config.shutdownGrace))
      have shut := stepCall_fresh_shut present₂ "shutdown" .null
        (.given (some w₂.supervision.config.shutdownGrace))
      rw [kept.1, kept.2.1, kept.2.2] at called
      split
      · have present₃ : c < (w₂.stepCall c
            (.fresh "shutdown" .null (.given (some w₂.supervision.config.shutdownGrace)))).1.conns.size := by
          rw [called.size]
          exact present₂
        have exited := Pushes.afterShutdown present₃ tid handle r.generation
        refine ⟨_, pushed.trans (called.trans exited), ?_⟩
        rw [List.nil_append]
        refine .locking running session (shutdown_then_exit (fun before => shut ?_) _)
        rw [kept.2.1, kept.2.2]
        exact before
      · refine ⟨_, pushed.trans (called.trans_quiet (.setTask _ tid _)), ?_⟩
        rw [List.nil_append]
        refine .locking running session ?_
        split
        · exact .inl rfl
        · exact .inr (.inl rfl)
    · have other : c ≠ r.conn := fun same => mine same.symm
      have called := Pushes.stepCall_fresh_of_ne (c := c) w₂ "shutdown" .null
        (.given (some w₂.supervision.config.shutdownGrace)) other
      split
      · exact ⟨[], pushed.trans_quiet (called.trans_quiet (.afterShutdown_of_ne _ tid handle other)),
          .inl rfl⟩
      · exact ⟨[], pushed.trans_quiet (called.trans_quiet (.setTask _ tid _)), .inl rfl⟩
  · rename_i w₂ stayed
    -- a crashed session is killed, with nothing sent
    obtain ⟨rfl, -⟩ := transition_eq_false stayed
    exact ⟨[], marked.trans_quiet (.killAndWait _ tid handle _ _), .inl rfl⟩

/-- Every turn of a stop queues, on each connection, what `StopQueues` allows: `shutdown` before
`exit`, on the connection of the running session it stops. -/
theorem Lawful.stopQueues (lawful : w.Lawful) (fits : w.StagesFit)
    (mem : (tid, Task.lifecycle handle .stop stage) ∈ w.tasks) (sent : stage.ShutdownSent)
    (present : c < w.conns.size) :
    ∃ xs, Pushes c xs w (w.pollLifecycle tid handle .stop stage) ∧ w.StopQueues stage c xs := by
  have quiet : ∀ {w'}, Pushes c [] w w' → ∃ xs, Pushes c xs w w' ∧ w.StopQueues stage c xs :=
    fun pushes => ⟨[], pushes, .inl rfl⟩
  cases stage with
  | locking =>
    dsimp only [World.pollLifecycle]
    split
    · rename_i holds
      have held : w.supervision.lockHolder = some tid := by simpa using holds
      exact stopLocked_queues (lawful.holding mem held) (lawful.atStage mem held) present
    split
    · rename_i free
      have free : w.supervision.lockHolder = none := by simpa using free
      have record :=
        supervision_modifySup lawful.supervised fun s => { s with lockHolder := some tid }
      have settled := lawful.lock
      simp only [LockFits, free] at settled
      obtain ⟨xs, pushes, queues⟩ :=
        stopLocked_queues (lawful.acquire mem free) (by rw [record]; exact settled) present
      have taken := (Pushes.modifySup w _).trans pushes
      rw [List.nil_append] at taken
      refine ⟨xs, taken, ?_⟩
      simpa only [StopQueues, record, conn_modifySup] using queues
    split
    · exact quiet (.refl w)
    · exact quiet (.modifySup w _)
  | clearing c' =>
    have waits := fits.stop_waits mem
    simp [Stage.stops] at waits
  | handshake gen c' call t =>
    have waits := fits.stop_waits mem
    simp [Stage.stops] at waits
  | shutdown gen c' call =>
    obtain ⟨id, deadline, rfl⟩ := sent
    have waited := Pushes.checkWait (c := c) w c' id "shutdown" deadline
    dsimp only [World.pollLifecycle]
    split
    · by_cases mine : c' = c
      · subst mine
        have present₁ : c' < (w.checkWait c' id "shutdown" deadline).1.conns.size := by
          rw [waited.size]
          exact present
        refine ⟨_, waited.trans (Pushes.afterShutdown present₁ tid handle gen), ?_⟩
        rw [List.nil_append]
        split
        · exact .inl rfl
        · exact .inr (.inr ⟨⟨gen, _, rfl⟩, rfl⟩)
      · exact quiet (waited.trans_quiet (.afterShutdown_of_ne _ tid handle fun same => mine same.symm))
    · exact quiet (waited.trans_quiet (.setTask _ tid _))
  | grace gen c' t =>
    dsimp only [World.pollLifecycle]
    split
    · exact quiet (.finishStop w tid handle c')
    split
    · exact quiet (.killAndWait w tid handle gen c')
    · exact quiet (.refl w)
  | killed gen c' =>
    dsimp only [World.pollLifecycle]
    split
    · exact quiet (.finishStop w tid handle c')
    · exact quiet (.refl w)

end Queues

/-! ### The kill after the grace period -/

section Grace

variable {w : World} {tid c gen : Nat} {handle : Option Nat} {t : Timer}

theorem conn_requestKill (present : c < w.conns.size) :
    (w.requestKill c).conn c = { w.conn c with kill := true } := by
  unfold World.requestKill World.wakeMonitorOnProcess
  rw [conn_wakeIf, conn_modifyConn_self _ _ _ present]

/-- Once the grace period is over and the monitor has not finished, the stop has the process
killed and waits for the monitor. -/
theorem pollLifecycle_grace_kills (present : c < w.conns.size)
    (running : (w.conn c).monitorDone = false) (late : t.deadline ≤ w.now) :
    w.pollLifecycle tid handle .stop (.grace gen c t) =
        (w.requestKill c).setTask tid (.lifecycle handle .stop (.killed gen c)) ∧
      ((w.pollLifecycle tid handle .stop (.grace gen c t)).conn c).kill = true := by
  have killed := conn_requestKill (w := w) present
  have turn : w.pollLifecycle tid handle .stop (.grace gen c t) =
      (w.requestKill c).setTask tid (.lifecycle handle .stop (.killed gen c)) := by
    simp [World.pollLifecycle, World.killAndWait, running, late, killed]
  refine ⟨turn, ?_⟩
  rw [turn, conn_setTask, killed]

/-- The entry a task takes when it is replaced. -/
theorem task?_setTask_self (w : World) (tid : Nat) (u : Task) :
    (w.setTask tid u).task? tid = (w.task? tid).map fun _ => u := by
  simp only [task?, setTask]
  induction w.tasks with
  | nil => rfl
  | cons entry rest ih =>
    obtain ⟨i, v⟩ := entry
    by_cases same : i = tid
    · subst same
      simp [List.lookup]
    · have other : (tid == i) = false := by simpa using fun h => same h.symm
      simp at ih
      simp [List.lookup, same, other, ih]

@[simp]
theorem sup_isSome_transition (w : World) (gen : Option Nat) (next : SessionState) :
    (w.transition gen next).2.sup.isSome = w.sup.isSome := by
  rcases moved : w.transition gen next with ⟨_ | _, w'⟩
  · obtain ⟨rfl, -⟩ := transition_eq_false moved
    rfl
  · obtain ⟨-, -, rfl⟩ := transition_eq_true moved
    simp

theorem task?_finishStop (supervised : w.sup.isSome) :
    (w.finishStop tid handle .stop c).task? tid = none := by
  have closed := KeepsSupervisor.closePeer w c
  have moved : ((w.closePeer c).2.transition none .stopped).2.sup.isSome := by
    rw [sup_isSome_transition, closed.sup]
    exact supervised
  exact (finishOp_returns moved tid handle (.ok ())).1

end Grace

/-- Every timer the stop `tid` waits on in `w'` is `kept`, or fires the grace period after now. -/
def TimedFromNow (w' : World) (tid : Nat) (kept : Option Timer) : Prop :=
  ∀ handle stage t, w'.task? tid = some (.lifecycle handle .stop stage) →
    stage.stopTimer? = some t →
    some t = kept ∨ t.deadline = w'.now + w'.supervision.config.shutdownGrace

namespace TimedFromNow

variable {w : World} {tid : Nat} {handle : Option Nat} {kept : Option Timer}

theorem of_task {stage : Stage} (found : w.task? tid = some (.lifecycle handle .stop stage))
    (timer : stage.stopTimer? = none ∨ stage.stopTimer? = kept) : TimedFromNow w tid kept := by
  intro handle' stage' t waits timed
  rw [found] at waits
  cases waits
  rcases timer with none | same
  · rw [none] at timed
    cases timed
  · exact .inl (timed.symm.trans same)

theorem of_gone (gone : w.task? tid = none) : TimedFromNow w tid kept := by
  intro handle stage t waits
  rw [gone] at waits
  cases waits

/-- The stop moves to a stage whose timer, if it has one, is `kept` or fires the grace period
after now. -/
theorem setTask (w : World) (tid : Nat) (handle : Option Nat) {stage : Stage}
    (timer : ∀ t, stage.stopTimer? = some t →
      some t = kept ∨ t.deadline = w.now + w.supervision.config.shutdownGrace) :
    TimedFromNow (w.setTask tid (.lifecycle handle .stop stage)) tid kept := by
  intro handle' stage' t waits timed
  rw [task?_setTask_self] at waits
  obtain ⟨-, -, same⟩ := Option.map_eq_some_iff.mp waits
  cases same
  exact timer t timed

theorem finishStop (supervised : w.sup.isSome) (c : Nat) :
    TimedFromNow (w.finishStop tid handle .stop c) tid kept :=
  of_gone (task?_finishStop supervised)

theorem killAndWait (supervised : w.sup.isSome) (gen c : Nat) :
    TimedFromNow (w.killAndWait tid handle .stop gen c) tid kept := by
  have killed := KeepsSupervisor.requestKill w c
  unfold World.killAndWait
  dsimp only
  split
  · exact finishStop (by rw [killed.sup]; exact supervised) c
  · exact setTask _ tid handle fun t timed => by cases timed

/-- After `exit`, a stop that waits for the monitor waits the grace period from now. -/
theorem waitForMonitor (supervised : w.sup.isSome) (gen c : Nat) :
    TimedFromNow (w.waitForMonitor tid handle .stop gen c) tid kept := by
  unfold World.waitForMonitor
  split
  · exact finishStop supervised c
  split
  rename_i w₁ t₀ timed
  simp only [World.timer, Prod.mk.injEq] at timed
  obtain ⟨rfl, rfl⟩ := timed
  split
  · exact killAndWait (w := { w with timerSeq := w.timerSeq + 1 }) supervised gen c
  · refine setTask _ tid handle fun t timed => .inr ?_
    cases timed
    rfl

theorem afterShutdown (supervised : w.sup.isSome) (gen c : Nat) :
    TimedFromNow (w.afterShutdown tid handle .stop gen c) tid kept := by
  cases sent : w.notify c "exit" .null with
  | ok w' =>
    rw [World.afterShutdown_of_sent sent]
    exact waitForMonitor (by rw [(KeepsSupervisor.notify sent).sup]; exact supervised) gen c
  | error e =>
    rw [World.afterShutdown_of_refused sent]
    exact waitForMonitor supervised gen c

/-- A stop's move on the session it has taken sends `shutdown` with the grace period as its
timeout. -/
theorem stopSession (supervised : w.sup.isSome) (r : SessionRecord) :
    TimedFromNow (w.stopSession tid handle .stop r) tid kept := by
  unfold World.stopSession
  split
  · rename_i w₂ moved
    have supervised₂ : w₂.sup.isSome := by
      have same := sup_isSome_transition w (some r.generation) .stopping
      rw [moved] at same
      rw [same]
      exact supervised
    have called := KeepsSupervisor.stepCall w₂ r.conn
      (.fresh "shutdown" .null (.given (some w₂.supervision.config.shutdownGrace)))
    dsimp only
    split
    · exact afterShutdown (by rw [called.sup]; exact supervised₂) _ _
    · refine setTask _ tid handle fun t timed => .inr ?_
      rw [stepCall_fresh_timer w₂ r.conn "shutdown" .null _ timed, called.supervision]
  · rename_i w₂ stayed
    obtain ⟨rfl, -⟩ := transition_eq_false stayed
    exact killAndWait supervised _ _

/-- With the lock in hand, a stop sends `shutdown` with the grace period as its timeout. -/
theorem stopLocked (supervised : w.sup.isSome) :
    TimedFromNow (w.stopLocked tid handle .stop) tid kept := by
  cases held : w.supervision.session with
  | none =>
    rw [stopLocked_of_none held]
    exact of_gone (finishOp_returns (by simpa using supervised) tid handle (.ok ())).1
  | some r =>
    rw [stopLocked_of_some held]
    exact stopSession (by simpa using supervised) r

end TimedFromNow

section Grace

variable {w : World} {tid : Nat} {handle : Option Nat} {stage : Stage}

/-- After a turn of a stop, every timer it waits on is the one it waited on, or one that fires the
grace period after the turn: the `shutdown` call is sent with the grace period as its timeout, and
the grace period for the monitor starts once `exit` is queued. -/
theorem Lawful.stopTimed (lawful : w.Lawful) (fits : w.StagesFit)
    (mem : (tid, Task.lifecycle handle .stop stage) ∈ w.tasks) (sent : stage.ShutdownSent) :
    TimedFromNow (w.pollLifecycle tid handle .stop stage) tid stage.stopTimer? := by
  have present := task?_of_mem lawful.numbered mem
  have supervised := lawful.supervised
  cases stage with
  | locking =>
    dsimp only [World.pollLifecycle]
    split
    · exact .stopLocked supervised
    split
    · exact .stopLocked (by simpa using supervised)
    split
    · exact .of_task present (.inl rfl)
    · exact .of_task present (.inl rfl)
  | clearing c' =>
    have waits := fits.stop_waits mem
    simp [Stage.stops] at waits
  | handshake gen c' call t =>
    have waits := fits.stop_waits mem
    simp [Stage.stops] at waits
  | shutdown gen c' call =>
    obtain ⟨id, deadline, rfl⟩ := sent
    have kept := checkWait_timer w c' id "shutdown" deadline
    dsimp only [World.pollLifecycle]
    split
    · exact .afterShutdown (by rw [(KeepsSupervisor.stepCall w c' _).sup]; exact supervised) _ _
    · -- a call still waited on keeps its timer
      refine .setTask _ tid handle fun t timed => .inl ?_
      have timed' : (w.checkWait c' id "shutdown" deadline).2.timer? = some t := timed
      rcases kept with none | same
      · rw [none] at timed'
        cases timed'
      · exact timed'.symm.trans same
  | grace gen c' t =>
    dsimp only [World.pollLifecycle]
    split
    · exact .finishStop supervised c'
    split
    · exact .killAndWait supervised gen c'
    · exact .of_task present (.inr rfl)
  | killed gen c' =>
    dsimp only [World.pollLifecycle]
    split
    · exact .finishStop supervised c'
    · exact .of_task present (.inl rfl)

end Grace

end World

end Engine

end LspBridge
