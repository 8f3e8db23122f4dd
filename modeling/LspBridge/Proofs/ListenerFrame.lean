import LspBridge.Engine.Scheduler
import LspBridge.Proofs.WorldFrame
import Mathlib
/-!
# Only a handler's turn changes the classpath listeners

The classpath listeners the servers registered are kept in the world beside the connections and
the tasks. Of all the client's code, one place writes them: the first turn of a request handler's
task, which sets them to what the handler's reaction leaves. Everything else a turn can reach
(pumping connections, waiting for calls, the server programs, the supervisor) keeps them.

This file says so once for each function (`listeners_*`, tagged `simp`, so that a composite
function's lemma is a case split closed by `simp`), and ends with the turn of any task
(`listeners_pollTask`): after a turn the listeners are the reaction's when the turn ran a handler
(`handlerRun?`), and as they were otherwise.
-/

namespace LspBridge

namespace Engine

open Json Rpc Client

/-- A run of a request handler: the handler, the method it was called for and the params. -/
structure HandlerRun where
  handler : RequestHandler
  method : String
  params : Value

namespace World

/-- The handler a task's turn runs: a request handler's task runs its handler on its first turn,
and no other turn runs one. -/
def handlerRun? (w : World) (tid : Nat) : Option HandlerRun :=
  match w.task? tid with
  | some (.handler _ _ method (.run h params)) => some ⟨h, method, params⟩
  | _ => none

/-- A fold whose every step keeps the listeners keeps them. -/
theorem listeners_foldl {α : Type} (f : World → α → World)
    (step : ∀ acc a, (f acc a).listeners = acc.listeners) (entries : List α) (acc : World) :
    (entries.foldl f acc).listeners = acc.listeners := by
  induction entries generalizing acc with
  | nil => rfl
  | cons a rest ih => rw [List.foldl_cons, ih, step]

/-- The same for a fold that carries a world beside other data. -/
theorem listeners_foldl_fst {α β : Type} (f : World × β → α → World × β)
    (step : ∀ acc a, (f acc a).1.listeners = acc.1.listeners) (entries : List α) (acc : World × β) :
    (entries.foldl f acc).1.listeners = acc.1.listeners := by
  induction entries generalizing acc with
  | nil => rfl
  | cons a rest ih => rw [List.foldl_cons, ih, step]

section Primitives

variable (w : World)

@[simp]
theorem listeners_modifyConn (c : Nat) (f : Conn → Conn) :
    (w.modifyConn c f).listeners = w.listeners :=
  rfl

@[simp]
theorem listeners_setTask (tid : Nat) (t : Task) : (w.setTask tid t).listeners = w.listeners :=
  rfl

@[simp]
theorem listeners_dropTask (tid : Nat) : (w.dropTask tid).listeners = w.listeners :=
  rfl

@[simp]
theorem listeners_spawn (t : Task) : (w.spawn t).1.listeners = w.listeners :=
  rfl

@[simp]
theorem listeners_timer (ms : Nat) : (w.timer ms).1.listeners = w.listeners :=
  rfl

@[simp]
theorem listeners_report (handle : Nat) (r : Report) : (w.report handle r).listeners = w.listeners :=
  rfl

@[simp]
theorem listeners_emit (e : Server.SessionEvent) : (w.emit e).listeners = w.listeners :=
  rfl

@[simp]
theorem listeners_note (rs : List Value) : (w.note rs).listeners = w.listeners :=
  rfl

@[simp]
theorem listeners_modifySup (f : Supervision → Supervision) :
    (w.modifySup f).listeners = w.listeners :=
  rfl

@[simp]
theorem listeners_wake (tid : Nat) : (w.wake tid).listeners = w.listeners := by
  obtain ⟨queue, woken⟩ := w.wake_eq tid
  rw [woken]

@[simp]
theorem listeners_wakeIf (p : Task → Bool) : (w.wakeIf p).listeners = w.listeners := by
  obtain ⟨queue, woken⟩ := w.wakeIf_eq p
  rw [woken]

-- the wakers of particular tasks are `wakeIf` with a selection of their own
@[simp]
theorem listeners_wakeSlot (c : Nat) (id : RequestId) : (w.wakeSlot c id).listeners = w.listeners :=
  listeners_wakeIf w _

@[simp]
theorem listeners_wakeReader (c : Nat) : (w.wakeReader c).listeners = w.listeners :=
  listeners_wakeIf w _

@[simp]
theorem listeners_wakeWriter (c : Nat) : (w.wakeWriter c).listeners = w.listeners :=
  listeners_wakeIf w _

@[simp]
theorem listeners_wakeDrainingReader (c : Nat) :
    (w.wakeDrainingReader c).listeners = w.listeners :=
  listeners_wakeIf w _

@[simp]
theorem listeners_wakeMonitorOnReader (c : Nat) :
    (w.wakeMonitorOnReader c).listeners = w.listeners :=
  listeners_wakeIf w _

@[simp]
theorem listeners_wakeMonitorOnProcess (c : Nat) :
    (w.wakeMonitorOnProcess c).listeners = w.listeners :=
  listeners_wakeIf w _

@[simp]
theorem listeners_wakeOnMonitor (c : Nat) : (w.wakeOnMonitor c).listeners = w.listeners :=
  listeners_wakeIf w _

@[simp]
theorem listeners_wakeIdleWriters : w.wakeIdleWriters.listeners = w.listeners := by
  obtain ⟨queue, woken⟩ := w.wakeIdleWriters_eq
  rw [woken]

end Primitives

/-! ### Talking over a connection -/

section Peer

variable (w : World)

@[simp]
theorem listeners_fill (c : Nat) (id : RequestId) (o : Outcome) :
    (w.fill c id o).listeners = w.listeners := by
  simp [fill]

@[simp]
theorem listeners_takeFilled (c : Nat) (id : RequestId) :
    (w.takeFilled c id).2.listeners = w.listeners := by
  unfold takeFilled
  split <;> rfl

theorem listeners_of_enqueue {w' : World} {c : Nat} {m : Message}
    (queued : w.enqueue c m = some w') : w'.listeners = w.listeners := by
  obtain rfl := World.eq_of_enqueue queued
  simp

theorem listeners_of_notify {w' : World} {c : Nat} {method : String} {params : Value}
    (sent : w.notify c method params = .ok w') : w'.listeners = w.listeners := by
  exact listeners_of_enqueue w (World.enqueue_of_notify sent)

@[simp]
theorem listeners_reply (c : Nat) (id : RequestId) (r : Except ResponseError Value) :
    (w.reply c id r).listeners = w.listeners := by
  unfold reply
  cases queued : w.enqueue c (.response id r) with
  | none => rfl
  | some w' => exact listeners_of_enqueue w queued

theorem listeners_of_takeFilled {c : Nat} {id : RequestId} {o : Option Outcome} {w' : World}
    (taken : w.takeFilled c id = (o, w')) : w'.listeners = w.listeners := by
  simpa [taken] using listeners_takeFilled w c id

@[simp]
theorem listeners_forget (c : Nat) (id : RequestId) : (w.forget c id).2.listeners = w.listeners := by
  unfold forget
  split <;> rfl

theorem listeners_of_forget {c : Nat} {id : RequestId} {method : Option String} {w' : World}
    (forgot : w.forget c id = (method, w')) : w'.listeners = w.listeners := by
  simpa [forgot] using listeners_forget w c id

@[simp]
theorem listeners_issue (c : Nat) (method : String) (params : Value) :
    (w.issue c method params).2.listeners = w.listeners := by
  unfold issue
  dsimp only
  split
  · rfl
  · split
    · rename_i queued
      exact (listeners_of_enqueue _ queued).trans rfl
    · simp

theorem listeners_of_issue {c : Nat} {method : String} {params : Value}
    {r : Except Error RequestId} {w' : World} (issued : w.issue c method params = (r, w')) :
    w'.listeners = w.listeners := by
  simpa [issued] using listeners_issue w c method params

@[simp]
theorem listeners_cancel (c : Nat) (id : RequestId) : (w.cancel c id).2.listeners = w.listeners := by
  unfold cancel
  split
  · rename_i w₁ taken
    dsimp only
    split
    · rename_i sent
      rw [listeners_of_notify _ sent, listeners_fill, listeners_of_forget w taken]
    · rw [listeners_fill, listeners_of_forget w taken]
  · rename_i w₁ taken
    exact listeners_of_forget w taken

@[simp]
theorem listeners_closePeer (c : Nat) : (w.closePeer c).2.listeners = w.listeners :=
  listeners_foldl _ (fun acc id => listeners_fill acc c id _) _ _

@[simp]
theorem listeners_deliver (c : Nat) (id : RequestId) (r : Except ResponseError Value) :
    (w.deliver c id r).listeners = w.listeners := by
  unfold deliver
  split <;> simp

end Peer

/-! ### The server programs -/

section Programs

variable (w : World)

@[simp]
theorem listeners_programWrite (c : Nat) (v : Value) :
    (w.programWrite c v).listeners = w.listeners := by
  unfold programWrite
  split <;> simp

@[simp]
theorem listeners_processEnds (c : Nat) (code : Option Int) :
    (w.processEnds c code).listeners = w.listeners := by
  unfold processEnds
  split <;> simp

@[simp]
theorem listeners_modifyProgram (c : Nat) (f : Machine.ServerProcess → Machine.ServerProcess) :
    (w.modifyProgram c f).listeners = w.listeners :=
  rfl

@[simp]
theorem listeners_programReply (c : Nat) (id : RequestId) (r : Machine.Reply) :
    (w.programReply c id r).listeners = w.listeners := by
  unfold programReply
  split <;> simp

@[simp]
theorem listeners_pumpRequests (c fuel : Nat) :
    (World.pumpRequests c fuel w).listeners = w.listeners := by
  induction fuel generalizing w with
  | zero => rfl
  | succ fuel ih =>
    unfold pumpRequests
    split
    · split
      · rfl
      · split
        · rfl
        · simp [ih]
    · rfl

@[simp]
theorem listeners_programInitialized (c : Nat) (b : Machine.Behaviour) :
    (w.programInitialized c b).listeners = w.listeners := by
  unfold programInitialized
  dsimp only
  rw [apply_ite World.listeners, listeners_wakeReader, listeners_modifyConn, ite_self]
  refine (listeners_foldl _ ?_ _ _).trans (by simp)
  -- each timed action is armed with a timer and a task of its own
  rintro acc ⟨ms, action⟩
  rfl

@[simp]
theorem listeners_programHandle (c : Nat) (m : Message) :
    (w.programHandle c m).listeners = w.listeners := by
  unfold programHandle
  split
  · rfl
  · split
    · rfl
    · split
      · split <;> simp
      · split <;> simp

@[simp]
theorem listeners_programArrive (c : Nat) (m : Option Message) :
    (w.programArrive c m).listeners = w.listeners := by
  unfold programArrive
  dsimp only
  split <;> simp

@[simp]
theorem listeners_programRead (c : Nat) : (w.programRead c).listeners = w.listeners := by
  unfold programRead
  split
  · split
    · rfl
    · dsimp only
      split
      · simp
      · split
        · split <;> simp
        · simp
  · rfl

@[simp]
theorem listeners_programAct (c : Nat) (action : Machine.Timed) :
    (w.programAct c action).listeners = w.listeners := by
  unfold programAct
  split
  · rfl
  · split <;> simp

@[simp]
theorem listeners_receive (c : Nat) (m : Message) : (w.receive c m).listeners = w.listeners := by
  unfold receive programReceive
  dsimp only
  split
  · rfl
  · split
    · rw [listeners_programArrive]
      split <;> rfl
    · rfl

@[simp]
theorem listeners_pollTimed (tid c : Nat) (action : Machine.Timed) (t : Timer) :
    (w.pollTimed tid c action t).listeners = w.listeners := by
  unfold pollTimed
  split <;> simp

end Programs

/-! ### Waiting for calls -/

section Calls

variable (w : World)

@[simp]
theorem listeners_expire (c : Nat) (id : RequestId) (method : String) :
    (w.expire c id method).1.listeners = w.listeners := by
  unfold expire
  split <;>
  · rename_i w' forgot
    exact listeners_of_forget w forgot

@[simp]
theorem listeners_checkWait (c : Nat) (id : RequestId) (method : String) (deadline : Option Timer) :
    (w.checkWait c id method deadline).1.listeners = w.listeners := by
  unfold checkWait
  split
  · rename_i w' found
    exact listeners_of_takeFilled w found
  · rename_i w' found
    have taken := listeners_of_takeFilled w found
    split
    · split
      · rw [listeners_expire, taken]
      · exact taken
    · exact taken

@[simp]
theorem listeners_beginWait (c : Nat) (id : RequestId) (method : String) (limit : Option Nat) :
    (w.beginWait c id method limit).1.listeners = w.listeners := by
  unfold beginWait
  split
  · rename_i w' found
    exact listeners_of_takeFilled w found
  · rename_i w' found
    have taken := listeners_of_takeFilled w found
    split
    · exact taken
    · dsimp only
      split <;> simp [taken]

@[simp]
theorem listeners_stepCall (c : Nat) (call : Call) :
    (w.stepCall c call).1.listeners = w.listeners := by
  unfold stepCall
  split
  · dsimp only
    split
    · rename_i w' sent
      exact listeners_of_issue w sent
    · rename_i id w' sent
      rw [listeners_beginWait, listeners_of_issue w sent]
  · simp
  · simp
  · rfl

theorem listeners_of_stepCall {c : Nat} {call call' : Call} {w' : World}
    (stepped : w.stepCall c call = (w', call')) : w'.listeners = w.listeners := by
  simpa [stepped] using listeners_stepCall w c call

@[simp]
theorem listeners_abandon (call : Call) : (w.abandon call).listeners = w.listeners := by
  unfold abandon
  split <;> simp

end Calls

/-! ### The tasks of a connection -/

section Connection

variable (w : World)

@[simp]
theorem listeners_dispatch (c : Nat) (payload : List UInt8) :
    (w.dispatch c payload).listeners = w.listeners := by
  unfold dispatch
  split
  · rfl
  · simp
  · split <;> simp
  · split <;> simp

@[simp]
theorem listeners_dropHandlers (c : Nat) : (w.dropHandlers c).listeners = w.listeners :=
  listeners_foldl _ (fun acc tid => listeners_dropTask acc tid) _ _

@[simp]
theorem listeners_finishReader (tid c : Nat) (r : Except Error Unit) :
    (w.finishReader tid c r).listeners = w.listeners := by
  simp [finishReader]

@[simp]
theorem listeners_endReading (tid c : Nat) (r : Except Error Unit) :
    (w.endReading tid c r).listeners = w.listeners := by
  unfold endReading
  dsimp only
  split <;> simp

@[simp]
theorem listeners_readFrames (tid c fuel : Nat) :
    (World.readFrames tid c fuel w).listeners = w.listeners := by
  induction fuel generalizing w with
  | zero => rfl
  | succ fuel ih =>
    unfold readFrames
    dsimp only
    split <;> simp [ih]

@[simp]
theorem listeners_pollReader (tid c : Nat) (started : Bool) (ended : Option (Except Error Unit)) :
    (w.pollReader tid c started ended).listeners = w.listeners := by
  have begun : (if started then w else ((w.setTask tid (.reader c true none)).spawn
      (.writer c)).1).listeners = w.listeners := by
    split <;> rfl
  unfold pollReader
  dsimp only
  generalize (if started then w else ((w.setTask tid (.reader c true none)).spawn (.writer c)).1) =
    w₁ at begun ⊢
  split
  · rw [listeners_readFrames, begun]
  · split
    · rw [listeners_finishReader, begun]
    · exact begun

@[simp]
theorem listeners_finishWriter (tid c : Nat) : (w.finishWriter tid c).listeners = w.listeners := by
  simp [finishWriter, programInputEnds]

@[simp]
theorem listeners_writeQueued (tid c fuel : Nat) :
    (World.writeQueued tid c fuel w).listeners = w.listeners := by
  induction fuel generalizing w with
  | zero => rfl
  | succ fuel ih =>
    unfold writeQueued
    dsimp only
    split
    · simp
    · split
      · simp [ih]
      · split <;> simp

@[simp]
theorem listeners_pollWriter (tid c : Nat) : (w.pollWriter tid c).listeners = w.listeners :=
  listeners_writeQueued w tid c _

/-- A handler's first turn leaves the listeners its reaction gives. -/
theorem listeners_pollHandler_run (tid c : Nat) (id : RequestId) (method : String)
    (h : RequestHandler) (params : Value) :
    (w.pollHandler tid c id method (.run h params)).listeners =
      (h.react method params w.model w.listeners).listeners := by
  simp only [pollHandler]
  split
  · simp
  · simp
  · split <;> simp

/-- A sleeping handler's turn keeps the listeners. -/
@[simp]
theorem listeners_pollHandler_sleeping (tid c : Nat) (id : RequestId) (method : String) (t : Timer)
    (v : Value) : (w.pollHandler tid c id method (.sleeping t v)).listeners = w.listeners := by
  simp only [pollHandler]
  split <;> simp

end Connection

/-! ### Host calls -/

section Host

variable (w : World)

@[simp]
theorem listeners_finishCall (tid handle : Nat) (typed : Option Shape) (r : Except Error Value) :
    (w.finishCall tid handle typed r).listeners = w.listeners := by
  simp [finishCall]

@[simp]
theorem listeners_pollCall (tid handle : Nat) (target : Target) (call : Call)
    (typed : Option Shape) : (w.pollCall tid handle target call typed).listeners = w.listeners := by
  unfold pollCall
  dsimp only
  split
  · simp
  · rename_i c _
    split
    · rename_i w' r stepped
      rw [listeners_finishCall, listeners_of_stepCall w stepped]
    · rename_i w' call' _ stepped
      rw [listeners_setTask, listeners_of_stepCall w stepped]

@[simp]
theorem listeners_pollCalls (tid handle c : Nat) (each : List Call) :
    (w.pollCalls tid handle c each).listeners = w.listeners := by
  unfold pollCalls
  split
  rename_i w' calls result
  have stepped := congrArg (fun p => p.1.listeners) result
  -- every call moves on with the world's listeners kept
  rw [listeners_foldl_fst] at stepped
  · dsimp only at stepped
    dsimp only
    split <;> simp [stepped]
  · rintro ⟨acc, done⟩ call
    exact listeners_stepCall acc c call

end Host

/-! ### The supervisor -/

section Supervisor

variable (w : World)

@[simp]
theorem listeners_transition (gen : Option Nat) (next : Server.SessionState) :
    (w.transition gen next).2.listeners = w.listeners := by
  unfold transition
  dsimp only
  split
  all_goals
    split <;> rfl

theorem listeners_of_transition {gen : Option Nat} {next : Server.SessionState} {moved : Bool}
    {w' : World} (result : w.transition gen next = (moved, w')) : w'.listeners = w.listeners := by
  simpa [result] using listeners_transition w gen next

@[simp]
theorem listeners_beginSession : w.beginSession.2.listeners = w.listeners := by
  unfold beginSession
  dsimp only
  split <;> rfl

theorem listeners_of_beginSession {gen : Option Nat} {w' : World}
    (begun : w.beginSession = (gen, w')) : w'.listeners = w.listeners := by
  simpa [begun] using listeners_beginSession w

@[simp]
theorem listeners_crashed (gen : Nat) (reason : Server.CrashReason) :
    (w.crashed gen reason).listeners = w.listeners := by
  unfold crashed
  split
  · rename_i w' stayed
    exact listeners_of_transition w stayed
  · rename_i w' went
    dsimp only
    split <;> simp [listeners_of_transition w went]

@[simp]
theorem listeners_releaseLock : w.releaseLock.listeners = w.listeners := by
  unfold releaseLock
  split <;> simp

@[simp]
theorem listeners_finishOp (tid : Nat) (handle : Option Nat) (r : Except Server.Error Unit) :
    (w.finishOp tid handle r).listeners = w.listeners := by
  unfold finishOp
  dsimp only
  split <;> simp

@[simp]
theorem listeners_requestKill (c : Nat) : (w.requestKill c).listeners = w.listeners := by
  simp [requestKill]

@[simp]
theorem listeners_failHandshake (tid : Nat) (handle : Option Nat) (gen c : Nat) (failure : String) :
    (w.failHandshake tid handle gen c failure).listeners = w.listeners := by
  unfold failHandshake
  dsimp only
  simp [apply_ite World.listeners]

@[simp]
theorem listeners_handshakeDone (tid : Nat) (handle : Option Nat) (gen c : Nat)
    (r : Except Rpc.Error Value) : (w.handshakeDone tid handle gen c r).listeners = w.listeners := by
  unfold handshakeDone
  split
  · simp
  split
  · simp
  split
  · simp
  rename_i sent
  dsimp only
  split
  · rename_i w₁ moved
    rw [listeners_finishOp, listeners_of_transition _ moved, listeners_modifySup,
      listeners_of_notify w sent]
  · rename_i w₁ stayed
    rw [listeners_failHandshake, listeners_of_transition _ stayed, listeners_modifySup,
      listeners_of_notify w sent]

@[simp]
theorem listeners_handshakeTimeout (tid : Nat) (handle : Option Nat) (gen c : Nat) (call : Call) :
    (w.handshakeTimeout tid handle gen c call).listeners = w.listeners := by
  simp [handshakeTimeout]

@[simp]
theorem listeners_launch : w.launch.2.listeners = w.listeners := by
  unfold launch
  dsimp only
  split
  · rfl
  · split
    · rfl
    · split
      · rfl
      · split <;> simp

theorem listeners_of_launch {r : Except String Nat} {w' : World} (launched : w.launch = (r, w')) :
    w'.listeners = w.listeners := by
  simpa [launched] using listeners_launch w

@[simp]
theorem listeners_startFresh (tid : Nat) (handle : Option Nat) (op : LifecycleOp) :
    (w.startFresh tid handle op).listeners = w.listeners := by
  unfold startFresh
  split
  · rename_i w₁ begun
    rw [listeners_finishOp, listeners_of_beginSession w begun]
  · rename_i gen w₁ begun
    dsimp only
    split
    · rename_i reason w₂ failed
      simp [listeners_of_launch w₁ failed, listeners_of_beginSession w begun]
    · rename_i c w₂ launched
      have before : w₂.listeners = w.listeners :=
        (listeners_of_launch w₁ launched).trans (listeners_of_beginSession w begun)
      -- the reader and the monitor start, the session is noted, and `initialize` goes out
      split
      · simp [before]
      · simp [apply_ite World.listeners, before]

@[simp]
theorem listeners_afterClear (tid : Nat) (handle : Option Nat) (op : LifecycleOp) (c : Nat) :
    (w.afterClear tid handle op c).listeners = w.listeners := by
  simp [afterClear]

@[simp]
theorem listeners_startLocked (tid : Nat) (handle : Option Nat) (op : LifecycleOp) :
    (w.startLocked tid handle op).listeners = w.listeners := by
  unfold startLocked
  split
  · simp
  · simp
  · split
    · dsimp only
      split <;> simp
    · simp
  · simp

@[simp]
theorem listeners_afterStop (tid : Nat) (handle : Option Nat) (op : LifecycleOp) :
    (w.afterStop tid handle op).listeners = w.listeners := by
  unfold afterStop
  split <;> simp

@[simp]
theorem listeners_finishStop (tid : Nat) (handle : Option Nat) (op : LifecycleOp) (c : Nat) :
    (w.finishStop tid handle op c).listeners = w.listeners := by
  simp [finishStop]

@[simp]
theorem listeners_killAndWait (tid : Nat) (handle : Option Nat) (op : LifecycleOp) (gen c : Nat) :
    (w.killAndWait tid handle op gen c).listeners = w.listeners := by
  unfold killAndWait
  dsimp only
  split <;> simp

@[simp]
theorem listeners_afterShutdown (tid : Nat) (handle : Option Nat) (op : LifecycleOp) (gen c : Nat) :
    (w.afterShutdown tid handle op gen c).listeners = w.listeners := by
  unfold afterShutdown
  dsimp only
  -- `exit` goes out if it can
  split
  · rename_i w₁ sent
    have exited := listeners_of_notify w sent
    split
    · simp [exited]
    · split <;> simp [exited]
  · split
    · simp
    · split <;> simp

@[simp]
theorem listeners_stopLocked (tid : Nat) (handle : Option Nat) (op : LifecycleOp) :
    (w.stopLocked tid handle op).listeners = w.listeners := by
  unfold stopLocked
  split
  · simp
  · dsimp only
    split
    · rename_i w₁ went
      have kept := listeners_of_transition _ went
      simp only [listeners_modifyConn, listeners_modifySup] at kept
      split <;> simp [kept]
    · rename_i w₁ stayed
      have kept := listeners_of_transition _ stayed
      simp only [listeners_modifyConn, listeners_modifySup] at kept
      simp [kept]

@[simp]
theorem listeners_afterLock (tid : Nat) (handle : Option Nat) (op : LifecycleOp) :
    (w.afterLock tid handle op).listeners = w.listeners := by
  unfold afterLock
  split
  · simp
  · simp
  · simp
  · dsimp only
    split <;> simp

@[simp]
theorem listeners_pollLifecycle (tid : Nat) (handle : Option Nat) (op : LifecycleOp)
    (stage : Stage) : (w.pollLifecycle tid handle op stage).listeners = w.listeners := by
  unfold pollLifecycle
  split
  · -- waiting for the lock
    dsimp only
    split
    · simp
    · split
      · simp
      · split <;> simp
  · split <;> simp
  · -- the handshake
    dsimp only
    split
    · simp
    · split <;> simp
  · dsimp only
    split <;> simp
  · split
    · simp
    · split <;> simp
  · split <;> simp

@[simp]
theorem listeners_terminate (c : Nat) : (w.terminate c).listeners = w.listeners := by
  unfold terminate
  split <;> simp

@[simp]
theorem listeners_abortReader (c : Nat) : (w.abortReader c).listeners = w.listeners := by
  unfold abortReader
  dsimp only
  rw [listeners_modifyConn, listeners_dropHandlers]
  exact listeners_foldl _ (fun acc tid => listeners_dropTask acc tid) _ _

@[simp]
theorem listeners_finishMonitor (tid c gen : Nat) (reason : Option Server.CrashReason) :
    (w.finishMonitor tid c gen reason).listeners = w.listeners := by
  unfold finishMonitor
  dsimp only
  split
  · simp
  · split <;> simp

@[simp]
theorem listeners_conclude (tid c gen : Nat) (exited : Option (Except String (Option Int)))
    (failure : Option String) : (w.conclude tid c gen exited failure).listeners = w.listeners := by
  unfold conclude
  split <;> simp

@[simp]
theorem listeners_awaitExit (tid c gen : Nat) (failure : Option String) (t : Timer) :
    (w.awaitExit tid c gen failure t).listeners = w.listeners := by
  unfold awaitExit
  dsimp only
  split <;> simp

@[simp]
theorem listeners_pollMonitor (tid c gen : Nat) (watch : Watch) :
    (w.pollMonitor tid c gen watch).listeners = w.listeners := by
  unfold pollMonitor
  split
  · -- watching: the reader's end, the exit or a kill, whichever the scheduler picked
    dsimp only
    split <;> simp
  · split
    · simp
    · split <;> simp
  · dsimp only
    split <;> simp

@[simp]
theorem listeners_pollRestartDelay (tid gen delay : Nat) (timer : Option Timer) :
    (w.pollRestartDelay tid gen delay timer).listeners = w.listeners := by
  unfold pollRestartDelay
  split
  · dsimp only
    split <;> simp
  · split <;> simp

end Supervisor

/-- A task's turn leaves the listeners the reaction of the handler it runs gives, if it runs one,
and keeps them otherwise. -/
theorem listeners_pollTask (w : World) (tid : Nat) :
    (w.pollTask tid).listeners = (w.handlerRun? tid).elim w.listeners
      fun run => (run.handler.react run.method run.params w.model w.listeners).listeners := by
  unfold pollTask handlerRun?
  cases found : w.task? tid with
  | none => rfl
  | some t =>
    cases t with
    | handler c id method work =>
      cases work with
      | run h params => exact listeners_pollHandler_run w tid c id method h params
      | sleeping t v => simp
    | _ => simp

end World

end Engine

end LspBridge
