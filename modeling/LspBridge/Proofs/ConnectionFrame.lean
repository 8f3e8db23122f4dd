import LspBridge.Proofs.ConnectionReader
import LspBridge.Proofs.SessionInvariant
/-!
# What stays over once it is over

Some things, once they happen to a connection, are never undone: a table closed with no call left
in it stays so, and a monitor that has finished stays finished. A monitor only finishes on a
closed connection, and automatic restarts are armed only by the supervisor, on a crash.
`World.Lasts w w'` says so of a move from `w` to `w'`: every connection of `w'` keeps what was over
in `w` (`Conn.Lasts`), and the automatic restarts under way in `w'` are some of those of `w`.

The relation is proved once for each primitive update, then for each function of the connection
layer and of the server programs, and last for the turn of every task that is not the
supervisor's own, in the order of `KeepsSupervisor`'s proofs. A task replaces or drops only
itself, and none of these tasks stands for an automatic restart.
-/

namespace LspBridge

namespace Engine

open Json Rpc Client

namespace Conn

/-- The call table refuses new calls and holds none. -/
def Closed (k : Conn) : Prop := k.pending.closed = true ∧ k.pending.calls = []

/-- What a move keeps of a connection: a closed table with no call stays so, a finished monitor
stays finished, and a monitor finishes only once the table is closed. -/
structure Lasts (k k' : Conn) : Prop where
  closed : k.Closed → k'.Closed
  monitor : k.monitorDone = true → k'.monitorDone = true
  finishes : k'.monitorDone = true → k.monitorDone = true ∨ k'.Closed

namespace Lasts

variable {k k₁ k₂ k₃ k' : Conn}

theorem refl (k : Conn) : Lasts k k := ⟨id, id, .inl⟩

theorem trans (first : Lasts k₁ k₂) (second : Lasts k₂ k₃) : Lasts k₁ k₃ where
  closed := second.closed ∘ first.closed
  monitor := second.monitor ∘ first.monitor
  finishes := fun done => by
    rcases second.finishes done with before | shut
    · rcases first.finishes before with earlier | shut
      · exact .inl earlier
      · exact .inr (second.closed shut)
    · exact .inr shut

/-- A change that keeps the monitor's mark and never opens a closed, empty table. -/
theorem of_table (table : k.Closed → k'.Closed) (monitor : k'.monitorDone = k.monitorDone) :
    Lasts k k' where
  closed := table
  monitor := fun done => monitor.trans done
  finishes := fun done => .inl (monitor.symm.trans done)

/-- A change that keeps the call table and the monitor's mark. -/
theorem of_eq (pending : k'.pending = k.pending) (monitor : k'.monitorDone = k.monitorDone) :
    Lasts k k' :=
  of_table (fun closed => by unfold Closed; rw [pending]; exact closed) monitor

/-- A change of an open table that keeps the monitor's mark. -/
theorem of_open (opened : ¬ k.Closed) (monitor : k'.monitorDone = k.monitorDone) : Lasts k k' :=
  of_table (fun closed => absurd closed opened) monitor

end Lasts

/-- A table with a call in flight is not closed and empty. -/
theorem not_closed_of_lookup {k : Conn} {id : RequestId} {method : String}
    (found : k.pending.calls.lookup id = some method) : ¬ k.Closed := by
  rintro ⟨-, empty⟩
  rw [empty] at found
  cases found

end Conn

namespace Task

/-- The automatic restart a task stands for, by generation, until it takes the lifecycle lock:
the delay before the restart, or the restart waiting for the lock. -/
def restartOf : Task → Option Nat
  | .restartDelay gen _ _ => some gen
  | .lifecycle _ (.autoRestart gen) .locking => some gen
  | _ => none

/-- An operation past the lock stands for no restart. -/
theorem restartOf_lifecycle_of_ne {handle : Option Nat} {op : LifecycleOp} {stage : Stage}
    (past : stage ≠ .locking) : (Task.lifecycle handle op stage).restartOf = none := by
  cases op <;> cases stage <;> simp_all [restartOf]

end Task

namespace World

/-- The automatic restarts under way, by task id and generation, in order of creation. -/
def pendingRestarts (w : World) : List (Nat × Nat) :=
  w.tasks.filterMap fun e => e.2.restartOf.map (e.1, ·)

/-- A move that keeps what is over: every connection keeps what was over in it, and no automatic
restart is armed. -/
structure Lasts (w w' : World) : Prop where
  conns : ∀ c, (w.conn c).Lasts (w'.conn c)
  restarts : w'.pendingRestarts ⊆ w.pendingRestarts

theorem mem_pendingRestarts {w : World} {tid g : Nat} :
    (tid, g) ∈ w.pendingRestarts ↔ ∃ t, (tid, t) ∈ w.tasks ∧ t.restartOf = some g := by
  simp [pendingRestarts]

/-- Replacing a task by one that stands for no restart, or for the restart it stood for, arms
none. -/
theorem pendingRestarts_setTask {w : World} {tid : Nat} {t : Task}
    (same : t.restartOf = none ∨ ∃ u, (tid, u) ∈ w.tasks ∧ u.restartOf = t.restartOf) :
    (w.setTask tid t).pendingRestarts ⊆ w.pendingRestarts := by
  rintro ⟨j, g⟩ listed
  obtain ⟨u, mem, kind⟩ := mem_pendingRestarts.mp listed
  refine mem_pendingRestarts.mpr ?_
  rcases mem_setTask.mp mem with ⟨rfl, rfl, -⟩ | ⟨-, old⟩
  · rcases same with none | ⟨v, present, restart⟩
    · rw [none] at kind
      cases kind
    · exact ⟨v, present, restart.trans kind⟩
  · exact ⟨u, old, kind⟩

theorem pendingRestarts_dropTask (w : World) (tid : Nat) :
    (w.dropTask tid).pendingRestarts ⊆ w.pendingRestarts :=
  ((List.filter_sublist).filterMap _).subset

@[simp]
theorem pendingRestarts_spawn (w : World) (t : Task) :
    (w.spawn t).1.pendingRestarts =
      w.pendingRestarts ++ (t.restartOf.map (w.nextTask, ·)).toList := by
  cases kind : t.restartOf <;> simp [pendingRestarts, spawn, List.filterMap_append, kind]

namespace Lasts

variable {w w₁ w₂ w₃ : World}

theorem refl (w : World) : Lasts w w := ⟨fun _ => .refl _, List.Subset.refl _⟩

theorem trans (first : Lasts w₁ w₂) (second : Lasts w₂ w₃) : Lasts w₁ w₃ where
  conns := fun c => (first.conns c).trans (second.conns c)
  restarts := List.Subset.trans second.restarts first.restarts

instance : IsPreorder World Lasts where
  refl := World.Lasts.refl
  trans _ _ _ := World.Lasts.trans

/-- A move that keeps the connections and the task table keeps what is over. -/
theorem of_conns {w w' : World} (conns : w'.conns = w.conns) (tasks : w'.tasks = w.tasks) :
    Lasts w w' where
  conns := fun c => by
    unfold World.conn
    rw [conns]
    exact .refl _
  restarts := by
    unfold World.pendingRestarts
    rw [tasks]
    exact List.Subset.refl _

/-- Changing a connection keeps what is over if the change keeps it of that connection, when
it exists. -/
theorem modifyConn (w : World) (c : Nat) {f : Conn → Conn}
    (keeps : c < w.conns.size → (w.conn c).Lasts (f (w.conn c))) :
    Lasts w (w.modifyConn c f) where
  conns := fun d => by
    by_cases same : d = c
    · subst same
      by_cases present : d < w.conns.size
      · rw [conn_modifyConn_self _ _ _ present]
        exact keeps present
      · have unchanged : (w.modifyConn d f).conn d = w.conn d := by
          simp [conn, Nat.le_of_not_lt present]
        rw [unchanged]
        exact .refl _
    · rw [conn_modifyConn_of_ne _ _ same]
      exact .refl _
  restarts := List.Subset.refl _

/-- A change of a connection that keeps its call table and its monitor's mark. -/
theorem modifyConn_of_eq (w : World) (c : Nat) {f : Conn → Conn}
    (pending : ∀ k, (f k).pending = k.pending) (monitor : ∀ k, (f k).monitorDone = k.monitorDone) :
    Lasts w (w.modifyConn c f) :=
  modifyConn w c fun _ => .of_eq (pending _) (monitor _)

/-- A new connection starts with its monitor not finished. -/
theorem push (w : World) (k : Conn) (fresh : k.monitorDone = false) :
    Lasts w { w with conns := w.conns.push k } where
  conns := fun c => by
    rcases Nat.lt_trichotomy c w.conns.size with before | rfl | after
    · have kept : ({ w with conns := w.conns.push k } : World).conn c = w.conn c := by
        simp [conn, Array.getElem?_push, Nat.ne_of_lt before]
      rw [kept]
      exact .refl _
    · -- the connection is new: nothing was over in it, and its monitor has not finished
      have added : ({ w with conns := w.conns.push k } : World).conn w.conns.size = k := by
        simp [conn]
      rw [added]
      refine ⟨fun closed => ?_, fun done => ?_, fun done => ?_⟩
      · simp [conn, Conn.Closed] at closed
      · simp [conn] at done
      · rw [fresh] at done
        cases done
    · have beyond : ∀ v : World, v.conns.size ≤ c → v.conn c = {} := fun v short => by
        simp [conn, short]
      rw [beyond _ (Nat.le_of_lt after), beyond _ (by simp; omega)]
      exact .refl _
  restarts := List.Subset.refl _

theorem wake (w : World) (tid : Nat) : Lasts w (w.wake tid) := by
  obtain ⟨queue, woken⟩ := w.wake_eq tid
  rw [woken]
  exact of_conns rfl rfl

theorem wakeIf (w : World) (p : Task → Bool) : Lasts w (w.wakeIf p) := by
  obtain ⟨queue, woken⟩ := w.wakeIf_eq p
  rw [woken]
  exact of_conns rfl rfl

theorem report (w : World) (handle : Nat) (r : Report) : Lasts w (w.report handle r) :=
  of_conns rfl rfl

theorem note (w : World) (rs : List Value) : Lasts w (w.note rs) :=
  of_conns rfl rfl

theorem timer (w : World) (ms : Nat) : Lasts w (w.timer ms).1 :=
  of_conns rfl rfl

/-- A task replaces itself by one that stands for no restart, or for the one it stood for. -/
theorem setTask {tid : Nat} {t : Task}
    (same : t.restartOf = none ∨ ∃ u, (tid, u) ∈ w.tasks ∧ u.restartOf = t.restartOf) :
    Lasts w (w.setTask tid t) where
  conns := fun _ => .refl _
  restarts := pendingRestarts_setTask same

theorem dropTask (w : World) (tid : Nat) : Lasts w (w.dropTask tid) where
  conns := fun _ => .refl _
  restarts := pendingRestarts_dropTask w tid

theorem spawn {t : Task} (kind : t.restartOf = none) : Lasts w (w.spawn t).1 where
  conns := fun _ => .refl _
  restarts := by simp [kind]

/-! ### The connection layer -/

theorem fill (w : World) (c : Nat) (id : RequestId) (o : Outcome) : Lasts w (w.fill c id o) :=
  (modifyConn_of_eq w c (fun _ => by rfl) fun _ => by rfl).trans (wakeIf _ _)

theorem takeFilled (w : World) (c : Nat) (id : RequestId) : Lasts w (w.takeFilled c id).2 := by
  unfold World.takeFilled
  split
  · exact modifyConn_of_eq w c (fun _ => by rfl) fun _ => by rfl
  · exact refl w

theorem enqueue {w w' : World} {c : Nat} {m : Message} (queued : w.enqueue c m = some w') :
    Lasts w w' := by
  obtain rfl := World.eq_of_enqueue queued
  exact (modifyConn_of_eq w c (fun _ => by rfl) fun _ => by rfl).trans (wakeIf _ _)

theorem notify {w w' : World} {c : Nat} {method : String} {params : Value}
    (sent : w.notify c method params = .ok w') : Lasts w w' := by
  exact enqueue (World.enqueue_of_notify sent)

theorem reply (w : World) (c : Nat) (id : RequestId) (r : Except ResponseError Value) :
    Lasts w (w.reply c id r) := by
  unfold World.reply
  cases queued : w.enqueue c (.response id r) with
  | none => exact refl w
  | some w' => exact enqueue queued

/-- Taking a call out of a table that holds it: the table was open. -/
theorem forget (w : World) (c : Nat) (id : RequestId) : Lasts w (w.forget c id).2 := by
  unfold World.forget
  split
  · rename_i method p taken
    obtain ⟨found, -⟩ := (PendingTable.take_eq_some_iff _ _ _ _).mp taken
    exact modifyConn w c fun _ => .of_open (Conn.not_closed_of_lookup found) rfl
  · exact refl w

theorem issue (w : World) (c : Nat) (method : String) (params : Value) :
    Lasts w (w.issue c method params).2 := by
  unfold World.issue
  dsimp only
  have counted : Lasts w (w.modifyConn c fun k => { k with nextId := k.nextId + 1 }) :=
    modifyConn_of_eq w c (fun _ => by rfl) fun _ => by rfl
  split
  · exact counted
  · rename_i p registered
    -- a call is registered only in an open table
    have opened : ¬ ((w.modifyConn c fun k => { k with nextId := k.nextId + 1 }).conn c).Closed := by
      rintro ⟨shut, -⟩
      have same : ((w.modifyConn c fun k => { k with nextId := k.nextId + 1 }).conn c).ledger =
          (w.conn c).ledger :=
        view_modifyConn Conn.ledger fun _ => by rfl
      simp only [Conn.ledger, Prod.mk.injEq] at same
      rw [same.1] at shut
      simp [PendingTable.register, shut] at registered
    have registers : Lasts (w.modifyConn c fun k => { k with nextId := k.nextId + 1 })
        ((w.modifyConn c fun k => { k with nextId := k.nextId + 1 }).modifyConn c
          fun k => { k with pending := p }) :=
      modifyConn _ c fun _ => .of_open opened rfl
    have recorded := counted.trans registers
    split
    · rename_i queued
      exact recorded.trans (enqueue queued)
    · exact recorded.trans (forget _ c _)

theorem cancel (w : World) (c : Nat) (id : RequestId) : Lasts w (w.cancel c id).2 :=
  World.cancel_of forget fill w c id fun _ _ sent => notify sent

/-- Closing a connection leaves its table closed and empty. -/
theorem closePeer (w : World) (c : Nat) : Lasts w (w.closePeer c).2 :=
  (modifyConn w c fun _ => .of_table (fun _ => ⟨rfl, rfl⟩) rfl).trans
    (World.fillAll_of fill c _ _ _)

theorem deliver (w : World) (c : Nat) (id : RequestId) (r : Except ResponseError Value) :
    Lasts w (w.deliver c id r) := by
  unfold World.deliver
  split
  · rename_i p completed
    -- a response is delivered only to a call in flight, so the table was open
    have opened : ¬ (w.conn c).Closed := by
      intro closed
      have missing : (w.conn c).pending.calls.lookup id = none := by
        rw [closed.2]
        rfl
      unfold PendingTable.complete at completed
      rw [(PendingTable.take_eq_none_iff _ _).mpr missing] at completed
      simp only [Prod.mk.injEq] at completed
      obtain ⟨kind, -⟩ := completed
      split at kind <;> cases kind
    exact (modifyConn w c fun _ => .of_open opened rfl).trans (fill _ c id _)
  · exact refl w

theorem stepCall (w : World) (c : Nat) (call : Call) : Lasts w (w.stepCall c call).1 :=
  World.stepCall_of takeFilled forget timer w c call fun method params _ _ =>
    issue w c method params

theorem abandon (w : World) (call : Call) : Lasts w (w.abandon call) :=
  World.abandon_of forget w call

theorem serverWrite {w w' : World} {c : Nat} {bytes : List UInt8}
    (written : w.serverWrite c bytes = .ok w') : Lasts w w' := by
  obtain rfl := World.eq_of_serverWrite written
  exact (modifyConn_of_eq w c (fun _ => by rfl) fun _ => by rfl).trans (wakeIf _ _)

theorem serverCloseOutput (w : World) (c : Nat) : Lasts w (w.serverCloseOutput c) := by
  unfold World.serverCloseOutput World.wakeReader
  exact (modifyConn_of_eq w c (fun _ => by rfl) fun _ => by rfl).trans (wakeIf _ _)

/-! ### The server programs -/

theorem programWrite (w : World) (c : Nat) (v : Value) : Lasts w (w.programWrite c v) := by
  unfold World.programWrite
  split
  · exact refl w
  · exact (modifyConn_of_eq w c (fun _ => by rfl) fun _ => by rfl).trans (wakeIf _ _)

theorem processEnds (w : World) (c : Nat) (code : Option Int) :
    Lasts w (w.processEnds c code) := by
  unfold World.processEnds
  split
  · exact refl w
  · exact ((modifyConn_of_eq w c (fun _ => by rfl) fun _ => by rfl).trans (wakeIf _ _)).trans
      (wakeIf _ _)

theorem waitFails (w : World) (c : Nat) (error : String) : Lasts w (w.waitFails c error) := by
  unfold World.waitFails
  split
  · exact refl w
  · exact (modifyConn_of_eq w c (fun _ => by rfl) fun _ => by rfl).trans (wakeIf _ _)

theorem modifyProgram (w : World) (c : Nat) (f : Machine.ServerProcess → Machine.ServerProcess) :
    Lasts w (w.modifyProgram c f) :=
  modifyConn_of_eq w c (fun _ => by rfl) fun _ => by rfl

theorem programFrame : ProgramFrame Lasts where
  modifyProgram := World.Lasts.modifyProgram
  programWrite := World.Lasts.programWrite
  processEnds := World.Lasts.processEnds
  timer := World.Lasts.timer
  spawnTimed _ _ _ _ := spawn rfl
  closeOutput w c := (modifyConn_of_eq w c (fun _ => by rfl) fun _ => by rfl).trans (wakeIf _ _)
  interrupt _ := of_conns rfl rfl

theorem programArrive (w : World) (c : Nat) (m : Option Message) :
    Lasts w (w.programArrive c m) :=
  programFrame.programArrive w c m

theorem programAct (w : World) (c : Nat) (action : Machine.Timed) :
    Lasts w (w.programAct c action) :=
  programFrame.programAct w c action

theorem receive (w : World) (c : Nat) (m : Message) : Lasts w (w.receive c m) := by
  unfold World.receive
  dsimp only
  split
  · exact refl w
  · split
    · rename_i m' _
      have noted : Lasts w { w with sent := w.sent ++ [(c, m')] } := of_conns rfl rfl
      refine (noted.trans ?_).trans (programArrive _ c _)
      split
      · exact modifyConn_of_eq _ c (fun _ => by rfl) fun _ => by rfl
      · exact refl _
    · exact refl w

/-! ### Dropping tasks by kind -/

theorem dropAll (ids : List Nat) (acc : World) : Lasts acc (ids.foldl World.dropTask acc) := by
  induction ids generalizing acc with
  | nil => exact refl acc
  | cons j rest ih => exact (dropTask acc j).trans (ih _)

theorem dropHandlers (w : World) (c : Nat) : Lasts w (w.dropHandlers c) :=
  dropAll _ w

theorem abortReader (w : World) (c : Nat) : Lasts w (w.abortReader c) :=
  ((dropAll _ w).trans (dropHandlers _ c)).trans (modifyConn_of_eq _ c (fun _ => by rfl) fun _ => by rfl)

theorem requestKill (w : World) (c : Nat) : Lasts w (w.requestKill c) := by
  unfold World.requestKill World.wakeMonitorOnProcess
  exact (modifyConn_of_eq w c (fun _ => by rfl) fun _ => by rfl).trans (wakeIf _ _)

theorem terminate (w : World) (c : Nat) : Lasts w (w.terminate c) := by
  unfold World.terminate
  split
  · exact processEnds w c none
  · exact modifyConn_of_eq w c (fun _ => by rfl) fun _ => by rfl

/-! ### The client's own tasks -/

theorem dispatch (w : World) (c : Nat) (payload : List UInt8) :
    Lasts w (w.dispatch c payload) := by
  unfold World.dispatch
  split
  · exact refl w
  · exact deliver w c _ _
  · split
    · exact note w _
    · exact refl w
  · split
    · exact spawn rfl
    · exact reply w c _ _

theorem finishReader (w : World) (tid c : Nat) (r : Except Error Unit) :
    Lasts w (w.finishReader tid c r) := by
  unfold World.finishReader World.wakeMonitorOnReader
  exact ((modifyConn_of_eq w c (fun _ => by rfl) fun _ => by rfl).trans (dropTask _ tid)).trans
    (wakeIf _ _)

theorem endReading (w : World) (tid c : Nat) (r : Except Error Unit) :
    Lasts w (w.endReading tid c r) := by
  unfold World.endReading
  dsimp only
  have stopped : Lasts w
      ((((w.closePeer c).2.dropHandlers c).modifyConn c fun k =>
        { k with shutdown := true }).wakeWriter c) :=
    ((closePeer w c).trans (dropHandlers _ c)).trans
      ((modifyConn_of_eq _ c (fun _ => by rfl) fun _ => by rfl).trans (wakeIf _ _))
  split
  · exact stopped.trans (finishReader _ tid c r)
  · exact stopped.trans (setTask (.inl rfl))

theorem readFrames (tid c fuel : Nat) (w : World) : Lasts w (World.readFrames tid c fuel w) := by
  induction fuel generalizing w with
  | zero => exact refl w
  | succ fuel ih =>
    unfold World.readFrames
    dsimp only
    split
    · rename_i payload rest _
      have moved : Lasts w (w.modifyConn c fun k => { k with inbound := rest }) :=
        modifyConn_of_eq w c (fun _ => by rfl) fun _ => by rfl
      have taken := moved.trans (dispatch _ c payload)
      exact taken.trans (ih _)
    · exact refl w
    · exact endReading _ tid c _
    · exact endReading _ tid c _
    · exact endReading _ tid c _

theorem pollReader (w : World) (tid c : Nat) (started : Bool)
    (ended : Option (Except Error Unit)) : Lasts w (w.pollReader tid c started ended) := by
  unfold World.pollReader
  have begun : Lasts w
      (if started then w else ((w.setTask tid (.reader c true none)).spawn (.writer c)).1) := by
    split
    · exact refl w
    · exact (setTask (.inl rfl)).trans (spawn rfl)
  dsimp only
  generalize (if started then w else ((w.setTask tid (.reader c true none)).spawn (.writer c)).1) =
    w₁ at begun ⊢
  split
  · exact begun.trans (readFrames tid c _ _)
  · split
    · exact begun.trans (finishReader _ tid c _)
    · exact begun

theorem finishWriter (w : World) (tid c : Nat) : Lasts w (w.finishWriter tid c) := by
  unfold World.finishWriter World.wakeDrainingReader World.programInputEnds
  exact (((modifyConn_of_eq w c (fun _ => by rfl) fun _ => by rfl).trans (dropTask _ tid)).trans
    (wakeIf _ _)).trans (programArrive _ c none)

theorem writeQueued (tid c : Nat) (fuel : Nat) (w : World) :
    Lasts w (World.writeQueued tid c fuel w) := by
  induction fuel generalizing w with
  | zero => exact refl w
  | succ fuel ih =>
    unfold World.writeQueued
    dsimp only
    split
    · exact finishWriter w tid c
    · split
      · rename_i m rest _
        have taken : Lasts w (w.modifyConn c fun k => { k with outbound := rest }) :=
          modifyConn_of_eq w c (fun _ => by rfl) fun _ => by rfl
        exact (taken.trans (receive _ c m)).trans (ih _)
      · split
        · exact refl w
        · exact finishWriter w tid c

theorem pollWriter (w : World) (tid c : Nat) : Lasts w (w.pollWriter tid c) :=
  writeQueued tid c _ w

theorem pollHandler (w : World) (tid c : Nat) (id : RequestId) (method : String) (work : Work) :
    Lasts w (w.pollHandler tid c id method work) := by
  unfold World.pollHandler
  split
  · rename_i h params
    dsimp only
    have noted : Lasts w { w.note (h.react method params w.model w.listeners).records with
        listeners := (h.react method params w.model w.listeners).listeners } :=
      of_conns rfl rfl
    generalize { w.note (h.react method params w.model w.listeners).records with
        listeners := (h.react method params w.model w.listeners).listeners } = w₁ at noted ⊢
    -- each answer is queued, and the task ends or sleeps until its timer
    split
    · rename_i r _
      exact (noted.trans (reply w₁ c id r)).trans (dropTask _ tid)
    · exact (noted.trans (reply w₁ c id _)).trans (dropTask _ tid)
    · rename_i ms v _
      have waited := noted.trans (timer w₁ ms)
      split
      · exact (waited.trans (reply (w₁.timer ms).1 c id (.ok v))).trans (dropTask _ tid)
      · exact waited.trans (setTask (.inl rfl))
  · rename_i t v
    split
    · exact (reply w c id (.ok v)).trans (dropTask _ tid)
    · exact refl w

theorem pollTimed (w : World) (tid c : Nat) (action : Machine.Timed) (t : Timer) :
    Lasts w (w.pollTimed tid c action t) := by
  unfold World.pollTimed
  split
  · exact (programAct w c action).trans (dropTask _ tid)
  · exact refl w

theorem finishCall (w : World) (tid handle : Nat) (typed : Option Shape) (r : Except Error Value) :
    Lasts w (w.finishCall tid handle typed r) := by
  unfold World.finishCall
  dsimp only
  exact (report w handle _).trans (dropTask _ tid)

theorem pollCall (w : World) (tid handle : Nat) (target : Target) (call : Call)
    (typed : Option Shape) : Lasts w (w.pollCall tid handle target call typed) := by
  unfold World.pollCall
  dsimp only
  split
  · exact finishCall w tid handle typed _
  · rename_i c _
    have stepped := stepCall w c call
    split
    · rename_i w' r result
      rw [result] at stepped
      exact stepped.trans (finishCall w' tid handle typed r)
    · rename_i w' call' _ result
      rw [result] at stepped
      exact stepped.trans (setTask (.inl rfl))

theorem stepCalls (c : Nat) (each : List Call) (acc : World × List Call) :
    Lasts acc.1 (each.foldl (fun (acc : World × List Call) call =>
      let (w, done) := acc
      let (w, call) := w.stepCall c call
      (w, done ++ [call])) acc).1 := by
  induction each generalizing acc with
  | nil => exact refl acc.1
  | cons call rest ih =>
    obtain ⟨w, done⟩ := acc
    have stepped := stepCall w c call
    rcases result : w.stepCall c call with ⟨w', call'⟩
    rw [result] at stepped
    simp only [List.foldl_cons, result]
    exact stepped.trans (ih (w', done ++ [call']))

theorem pollCalls (w : World) (tid handle c : Nat) (each : List Call) :
    Lasts w (w.pollCalls tid handle c each) := by
  unfold World.pollCalls
  have stepped := stepCalls c each (w, [])
  split
  rename_i w' calls result
  rw [result] at stepped
  dsimp only
  split
  · exact (stepped.trans (report w' handle _)).trans (dropTask _ tid)
  · exact stepped.trans (setTask (.inl rfl))

theorem wakeIdleWriters (w : World) : Lasts w w.wakeIdleWriters := by
  obtain ⟨queue, woken⟩ := w.wakeIdleWriters_eq
  rw [woken]
  exact of_conns rfl rfl

end Lasts

end World

end Engine

end LspBridge
