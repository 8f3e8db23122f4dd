import LspBridge.Engine.Scheduler
import LspBridge.Proofs.WorldFrame
import Mathlib
/-!
# What leaves the supervisor alone

The supervisor's record, its events and its lifecycle operations are written by the supervisor's
code only. The rest of the client (pumping connections, running handlers, waiting for calls) and
the server programs at the other end change connections, the ready queue, notes for the host and
tasks of their own kinds. `KeepsSupervisor w w'` says so of a move from `w` to `w'`: the record
and the events are as they were, so are the lifecycle operations among the tasks, and task ids
stay distinct and below the id of the next task (`WellNumbered`).

The relation is proved once for each primitive update, then for each function of the connection
layer and of the server programs, and last for the turn of every task that is not the
supervisor's own. A task replaces or drops only itself; the hypothesis `NotOperation` says that no
lifecycle operation is filed under its id.

The last sections name the tails that several functions of the lifecycle share, with their
equations: a start's or a handshake turn's `awaitInitialize`; `afterShutdown`, which is `exit`
followed by `waitForMonitor`; and `stopLocked` over a session, which is `takeSession` followed by
`stopSession`. Each relation on worlds proves the parts once.
-/

namespace LspBridge

namespace Engine

open Json Rpc Client

namespace Task

/-- Whether a task is a lifecycle operation of the supervisor. -/
def isLifecycle : Task → Bool
  | .lifecycle .. => true
  | _ => false

end Task

namespace World

/-- The lifecycle operations among the live tasks, in order of creation. -/
def operations (w : World) : List (Nat × Task) := w.tasks.filter (·.2.isLifecycle)

/-- Task ids are distinct and below the id the next task gets. -/
structure WellNumbered (w : World) : Prop where
  distinct : (w.tasks.map (·.1)).Nodup
  below : ∀ e ∈ w.tasks, e.1 < w.nextTask

/-- No lifecycle operation is filed under an id. -/
def NotOperation (w : World) (tid : Nat) : Prop :=
  ∀ t, (tid, t) ∈ w.tasks → t.isLifecycle = false

/-- A move that leaves the supervisor alone: its record, its events and the lifecycle operations
among the tasks are kept, and so is the numbering of the tasks. -/
structure KeepsSupervisor (w w' : World) : Prop where
  sup : w'.sup = w.sup
  events : w'.events = w.events
  operations : w'.operations = w.operations
  numbered : w.WellNumbered → w'.WellNumbered

theorem mem_of_task? {w : World} {tid : Nat} {t : Task} (found : w.task? tid = some t) :
    (tid, t) ∈ w.tasks := by
  obtain ⟨before, after, split, -⟩ := List.lookup_eq_some_iff.mp found
  rw [split]
  simp

/-- Under distinct ids, the task an id finds is the only one filed under it. -/
theorem WellNumbered.eq_of_mem {w : World} (numbered : w.WellNumbered) {tid : Nat} {t u : Task}
    (first : (tid, t) ∈ w.tasks) (second : (tid, u) ∈ w.tasks) : t = u := by
  have same := List.inj_on_of_nodup_map numbered.distinct first second rfl
  simpa using same

theorem WellNumbered.notOperation {w : World} (numbered : w.WellNumbered) {tid : Nat} {t : Task}
    (mem : (tid, t) ∈ w.tasks) (kind : t.isLifecycle = false) : w.NotOperation tid := by
  intro u other
  rw [← numbered.eq_of_mem mem other]
  exact kind

theorem WellNumbered.notOperation_of_task? {w : World} (numbered : w.WellNumbered) {tid : Nat}
    {t : Task} (found : w.task? tid = some t) (kind : t.isLifecycle = false) :
    w.NotOperation tid :=
  numbered.notOperation (mem_of_task? found) kind

section TaskTable

variable {tid : Nat} {t : Task}

/-- Replacing the entries of an id that holds no operation by a task that is none keeps the
operations. -/
theorem filter_replace (l : List (Nat × Task)) (kind : t.isLifecycle = false)
    (own : ∀ u, (tid, u) ∈ l → u.isLifecycle = false) :
    (l.map fun (i, u) => if i == tid then (i, t) else (i, u)).filter (·.2.isLifecycle) =
      l.filter (·.2.isLifecycle) := by
  rw [List.filter_map]
  -- an entry under the id is no operation before the change nor after it
  have kept : l.filter ((·.2.isLifecycle) ∘ fun (i, u) => if i == tid then (i, t) else (i, u)) =
      l.filter (·.2.isLifecycle) := by
    apply List.filter_congr
    intro ⟨i, u⟩ mem
    by_cases same : i = tid
    · subst same
      simp [kind, own u mem]
    · simp [same]
  rw [kept]
  -- and every operation stands under another id, which the change leaves alone
  conv => rhs; rw [← List.map_id (l.filter _)]
  apply List.map_congr_left
  intro ⟨i, u⟩ mem
  have listed := List.mem_filter.mp mem
  have other : i ≠ tid := by
    rintro rfl
    simp [own u listed.1] at listed
  simp [other]

theorem keys_replace (l : List (Nat × Task)) :
    (l.map fun (i, u) => if i == tid then (i, t) else (i, u)).map (·.1) = l.map (·.1) := by
  rw [List.map_map]
  apply List.map_congr_left
  intro ⟨i, u⟩ _
  by_cases same : i = tid <;> simp [same]

/-- Dropping the entries of an id that holds no operation keeps the operations. -/
theorem filter_drop (l : List (Nat × Task)) (own : ∀ u, (tid, u) ∈ l → u.isLifecycle = false) :
    (l.filter (·.1 != tid)).filter (·.2.isLifecycle) = l.filter (·.2.isLifecycle) := by
  rw [List.filter_filter]
  apply List.filter_congr
  intro ⟨i, u⟩ mem
  by_cases same : i = tid
  · subst same
    simp [own u mem]
  · simp [same]

end TaskTable

namespace WellNumbered

variable {w : World}

theorem setTask (numbered : w.WellNumbered) (tid : Nat) (t : Task) :
    (w.setTask tid t).WellNumbered where
  distinct := by
    simp only [World.setTask]
    rw [keys_replace]
    exact numbered.distinct
  below := by
    intro e mem
    obtain ⟨⟨i, u⟩, original, rfl⟩ := List.mem_map.mp mem
    have bound := numbered.below (i, u) original
    by_cases same : i = tid <;> simpa [World.setTask, same] using bound

theorem dropTask (numbered : w.WellNumbered) (tid : Nat) : (w.dropTask tid).WellNumbered where
  distinct := numbered.distinct.sublist ((List.filter_sublist).map _)
  below := fun e mem => numbered.below e (List.mem_filter.mp mem).1

theorem spawn (numbered : w.WellNumbered) (t : Task) : (w.spawn t).1.WellNumbered where
  distinct := by
    simp only [World.spawn, List.map_append, List.map_cons, List.map_nil, List.nodup_append,
      List.nodup_cons, List.not_mem_nil, not_false_eq_true, List.nodup_nil, and_self,
      List.mem_singleton, true_and]
    refine ⟨numbered.distinct, fun a mem b same => ?_⟩
    obtain ⟨e, present, rfl⟩ := List.mem_map.mp mem
    have bound := numbered.below e present
    omega
  below := by
    intro e mem
    simp only [World.spawn, List.mem_append, List.mem_singleton] at mem
    rcases mem with old | rfl
    · exact Nat.lt_succ_of_lt (numbered.below e old)
    · exact Nat.lt_succ_self _

end WellNumbered


namespace KeepsSupervisor

variable {w w₁ w₂ w₃ : World}

theorem refl (w : World) : KeepsSupervisor w w := ⟨rfl, rfl, rfl, id⟩

theorem trans (first : KeepsSupervisor w₁ w₂) (second : KeepsSupervisor w₂ w₃) :
    KeepsSupervisor w₁ w₃ where
  sup := second.sup.trans first.sup
  events := second.events.trans first.events
  operations := second.operations.trans first.operations
  numbered := fun numbered => second.numbered (first.numbered numbered)

instance : IsPreorder World KeepsSupervisor where
  refl := KeepsSupervisor.refl
  trans _ _ _ := KeepsSupervisor.trans

/-- A move that keeps the task table and the next id keeps the supervisor if it keeps its record
and its events. -/
theorem of_tasks {w w' : World} (sup : w'.sup = w.sup) (events : w'.events = w.events)
    (tasks : w'.tasks = w.tasks) (next : w'.nextTask = w.nextTask) : KeepsSupervisor w w' where
  sup := sup
  events := events
  operations := by simp only [World.operations, tasks]
  numbered := fun numbered => ⟨tasks ▸ numbered.distinct, by
    rw [tasks, next]
    exact numbered.below⟩

/-- A task keeps the mark of having no operation under its id. -/
theorem notOperation (keeps : KeepsSupervisor w₁ w₂) {tid : Nat} (own : w₁.NotOperation tid) :
    w₂.NotOperation tid := by
  intro t mem
  cases kind : t.isLifecycle with
  | false => rfl
  | true =>
    have listed : (tid, t) ∈ w₂.operations := List.mem_filter.mpr ⟨mem, kind⟩
    rw [keeps.operations] at listed
    rw [own t (List.mem_filter.mp listed).1] at kind
    simp at kind

theorem modifyConn (w : World) (c : Nat) (f : Conn → Conn) :
    KeepsSupervisor w (w.modifyConn c f) :=
  of_tasks rfl rfl rfl rfl

theorem wake (w : World) (tid : Nat) : KeepsSupervisor w (w.wake tid) := by
  obtain ⟨queue, woken⟩ := w.wake_eq tid
  rw [woken]
  exact of_tasks rfl rfl rfl rfl

theorem wakeIf (w : World) (p : Task → Bool) : KeepsSupervisor w (w.wakeIf p) := by
  obtain ⟨queue, woken⟩ := w.wakeIf_eq p
  rw [woken]
  exact of_tasks rfl rfl rfl rfl

theorem report (w : World) (handle : Nat) (r : Report) : KeepsSupervisor w (w.report handle r) :=
  of_tasks rfl rfl rfl rfl

theorem note (w : World) (rs : List Value) : KeepsSupervisor w (w.note rs) :=
  of_tasks rfl rfl rfl rfl

theorem timer (w : World) (ms : Nat) : KeepsSupervisor w (w.timer ms).1 :=
  of_tasks rfl rfl rfl rfl

theorem setTask {tid : Nat} {t : Task} (own : w.NotOperation tid) (kind : t.isLifecycle = false) :
    KeepsSupervisor w (w.setTask tid t) where
  sup := rfl
  events := rfl
  operations := filter_replace w.tasks kind own
  numbered := fun numbered => numbered.setTask tid t

theorem dropTask {tid : Nat} (own : w.NotOperation tid) : KeepsSupervisor w (w.dropTask tid) where
  sup := rfl
  events := rfl
  operations := filter_drop w.tasks own
  numbered := fun numbered => numbered.dropTask tid

theorem spawn {t : Task} (kind : t.isLifecycle = false) : KeepsSupervisor w (w.spawn t).1 where
  sup := rfl
  events := rfl
  operations := by simp [World.spawn, World.operations, kind]
  numbered := fun numbered => numbered.spawn t

/-! ### The connection layer -/

theorem fill (w : World) (c : Nat) (id : RequestId) (o : Outcome) :
    KeepsSupervisor w (w.fill c id o) :=
  (modifyConn w c _).trans (wakeIf _ _)

theorem takeFilled (w : World) (c : Nat) (id : RequestId) :
    KeepsSupervisor w (w.takeFilled c id).2 := by
  unfold World.takeFilled
  split
  · exact modifyConn w c _
  · exact refl w

theorem enqueue {w w' : World} {c : Nat} {m : Message} (queued : w.enqueue c m = some w') :
    KeepsSupervisor w w' := by
  obtain rfl := World.eq_of_enqueue queued
  exact (modifyConn w c _).trans (wakeIf _ _)

theorem notify {w w' : World} {c : Nat} {method : String} {params : Value}
    (sent : w.notify c method params = .ok w') : KeepsSupervisor w w' := by
  exact enqueue (World.enqueue_of_notify sent)

theorem reply (w : World) (c : Nat) (id : RequestId) (r : Except ResponseError Value) :
    KeepsSupervisor w (w.reply c id r) := by
  unfold World.reply
  cases queued : w.enqueue c (.response id r) with
  | none => exact refl w
  | some w' => exact enqueue queued

theorem forget (w : World) (c : Nat) (id : RequestId) : KeepsSupervisor w (w.forget c id).2 := by
  unfold World.forget
  split
  · exact modifyConn w c _
  · exact refl w

theorem issue (w : World) (c : Nat) (method : String) (params : Value) :
    KeepsSupervisor w (w.issue c method params).2 := by
  unfold World.issue
  dsimp only
  split
  · exact modifyConn w c _
  · split
    · rename_i queued
      exact ((modifyConn w c _).trans (modifyConn _ c _)).trans (enqueue queued)
    · exact ((modifyConn w c _).trans (modifyConn _ c _)).trans (forget _ c _)

theorem cancel (w : World) (c : Nat) (id : RequestId) : KeepsSupervisor w (w.cancel c id).2 :=
  World.cancel_of forget fill w c id fun _ _ sent => notify sent

theorem closePeer (w : World) (c : Nat) : KeepsSupervisor w (w.closePeer c).2 :=
  (modifyConn w c _).trans (World.fillAll_of fill c _ _ _)

theorem deliver (w : World) (c : Nat) (id : RequestId) (r : Except ResponseError Value) :
    KeepsSupervisor w (w.deliver c id r) := by
  unfold World.deliver
  split
  · exact (modifyConn w c _).trans (fill _ c id _)
  · exact refl w

theorem expire (w : World) (c : Nat) (id : RequestId) (method : String) :
    KeepsSupervisor w (w.expire c id method).1 :=
  World.expire_of forget w c id method

theorem stepCall (w : World) (c : Nat) (call : Call) : KeepsSupervisor w (w.stepCall c call).1 :=
  World.stepCall_of takeFilled forget timer w c call fun method params _ _ =>
    issue w c method params

theorem abandon (w : World) (call : Call) : KeepsSupervisor w (w.abandon call) :=
  World.abandon_of forget w call

theorem serverWrite {w w' : World} {c : Nat} {bytes : List UInt8}
    (written : w.serverWrite c bytes = .ok w') : KeepsSupervisor w w' := by
  obtain rfl := World.eq_of_serverWrite written
  exact (modifyConn w c _).trans (wakeIf _ _)

theorem serverCloseOutput (w : World) (c : Nat) : KeepsSupervisor w (w.serverCloseOutput c) := by
  unfold World.serverCloseOutput World.wakeReader
  exact (modifyConn w c _).trans (wakeIf _ _)

theorem readFails (w : World) (c : Nat) (detail : String) : KeepsSupervisor w (w.readFails c detail) := by
  unfold World.readFails World.wakeReader
  split
  · exact refl w
  · exact (modifyConn w c _).trans (wakeIf _ _)

/-! ### The server programs -/

theorem programWrite (w : World) (c : Nat) (v : Value) :
    KeepsSupervisor w (w.programWrite c v) := by
  unfold World.programWrite
  split
  · exact refl w
  · exact (modifyConn w c _).trans (wakeIf _ _)

theorem processEnds (w : World) (c : Nat) (code : Option Int) :
    KeepsSupervisor w (w.processEnds c code) := by
  unfold World.processEnds
  split
  · exact refl w
  · exact ((modifyConn w c _).trans (wakeIf _ _)).trans (wakeIf _ _)

theorem waitFails (w : World) (c : Nat) (error : String) : KeepsSupervisor w (w.waitFails c error) := by
  unfold World.waitFails
  split
  · exact refl w
  · exact (modifyConn w c _).trans (wakeIf _ _)

theorem modifyProgram (w : World) (c : Nat) (f : Machine.ServerProcess → Machine.ServerProcess) :
    KeepsSupervisor w (w.modifyProgram c f) :=
  modifyConn w c _

theorem programFrame : ProgramFrame KeepsSupervisor where
  modifyProgram := KeepsSupervisor.modifyProgram
  programWrite := KeepsSupervisor.programWrite
  processEnds := KeepsSupervisor.processEnds
  timer := KeepsSupervisor.timer
  spawnTimed _ _ _ _ := spawn rfl
  closeOutput w c := (modifyConn w c _).trans (wakeIf _ _)
  interrupt _ := of_tasks rfl rfl rfl rfl

theorem programArrive (w : World) (c : Nat) (m : Option Message) :
    KeepsSupervisor w (w.programArrive c m) :=
  programFrame.programArrive w c m

theorem programAct (w : World) (c : Nat) (action : Machine.Timed) :
    KeepsSupervisor w (w.programAct c action) :=
  programFrame.programAct w c action

theorem receive (w : World) (c : Nat) (m : Message) : KeepsSupervisor w (w.receive c m) := by
  unfold World.receive
  dsimp only
  split
  · exact refl w
  · split
    · rename_i m' _
      have noted : KeepsSupervisor w { w with sent := w.sent ++ [(c, m')] } :=
        of_tasks rfl rfl rfl rfl
      refine (noted.trans ?_).trans (programArrive _ c _)
      split
      · exact modifyConn _ c _
      · exact refl _
    · exact refl w

/-! ### Dropping tasks by kind -/

theorem dropAll (ids : List Nat) (acc : World) (own : ∀ j ∈ ids, acc.NotOperation j) :
    KeepsSupervisor acc (ids.foldl World.dropTask acc) := by
  induction ids generalizing acc with
  | nil => exact refl acc
  | cons j rest ih =>
    have dropped := dropTask (own j List.mem_cons_self)
    exact dropped.trans
      (ih _ fun j' mem => dropped.notOperation (own j' (List.mem_cons_of_mem _ mem)))

/-- Dropping the tasks a selection picks keeps the supervisor when the selection picks a task by
its own id and never picks an operation. -/
theorem dropSelected (numbered : w.WellNumbered) (select : Nat × Task → Option Nat)
    (picks : ∀ e j, select e = some j → j = e.1 ∧ e.2.isLifecycle = false) :
    KeepsSupervisor w ((w.tasks.filterMap select).foldl World.dropTask w) := by
  apply dropAll
  intro j mem
  obtain ⟨e, present, found⟩ := List.mem_filterMap.mp mem
  obtain ⟨rfl, kind⟩ := picks e j found
  exact numbered.notOperation present kind

theorem dropHandlers (numbered : w.WellNumbered) (c : Nat) :
    KeepsSupervisor w (w.dropHandlers c) := by
  unfold World.dropHandlers
  apply dropSelected numbered
  intro ⟨i, t⟩ j found
  cases t with
  | handler c' _ _ _ =>
    simp only at found
    split at found
    · cases found
      exact ⟨rfl, rfl⟩
    · cases found
  | _ => simp at found

/-- Dropping selected tasks and then the handlers of a connection keeps the supervisor. -/
theorem dropSelected_dropHandlers (numbered : w.WellNumbered) (select : Nat × Task → Option Nat)
    (picks : ∀ e j, select e = some j → j = e.1 ∧ e.2.isLifecycle = false) (c : Nat) :
    KeepsSupervisor w (((w.tasks.filterMap select).foldl World.dropTask w).dropHandlers c) := by
  have stopped := dropSelected numbered select picks
  exact stopped.trans (dropHandlers (stopped.numbered numbered) c)

theorem abortReader (numbered : w.WellNumbered) (c : Nat) :
    KeepsSupervisor w (w.abortReader c) := by
  unfold World.abortReader
  dsimp only
  refine (dropSelected_dropHandlers numbered _ ?_ c).trans (modifyConn _ c _)
  -- the readers of the connection are picked by their own ids, and none is an operation
  rintro ⟨i, t⟩ j found
  cases t with
  | reader c' _ _ =>
    simp only at found
    split at found
    · cases found
      exact ⟨rfl, rfl⟩
    · cases found
  | _ => simp at found

theorem requestKill (w : World) (c : Nat) : KeepsSupervisor w (w.requestKill c) := by
  unfold World.requestKill World.wakeMonitorOnProcess
  exact (modifyConn w c _).trans (wakeIf _ _)

theorem terminate (w : World) (c : Nat) : KeepsSupervisor w (w.terminate c) := by
  unfold World.terminate
  split
  · exact processEnds w c none
  · exact modifyConn w c _

/-! ### The client's own tasks -/

theorem dispatch (w : World) (c : Nat) (payload : List UInt8) :
    KeepsSupervisor w (w.dispatch c payload) := by
  unfold World.dispatch
  split
  · exact refl w
  · exact deliver w c _ _
  · split
    · exact note w _
    · exact refl w
  · split
    · exact spawn rfl
    · exact reply w c _ _

theorem finishReader {tid : Nat} (own : w.NotOperation tid) (c : Nat) (r : Except Error Unit) :
    KeepsSupervisor w (w.finishReader tid c r) := by
  unfold World.finishReader World.wakeMonitorOnReader
  have marked := modifyConn w c fun k => { k with ended := some r, readerGone := true }
  exact (marked.trans (dropTask (marked.notOperation own))).trans (wakeIf _ _)

theorem endReading {tid : Nat} (numbered : w.WellNumbered) (own : w.NotOperation tid) (c : Nat)
    (r : Except Error Unit) : KeepsSupervisor w (w.endReading tid c r) := by
  unfold World.endReading
  dsimp only
  have closed := closePeer w c
  have dropped := closed.trans (dropHandlers (closed.numbered numbered) c)
  have stopped : KeepsSupervisor w
      ((((w.closePeer c).2.dropHandlers c).modifyConn c fun k =>
        { k with shutdown := true }).wakeWriter c) :=
    dropped.trans ((modifyConn _ c _).trans (wakeIf _ _))
  split
  · exact stopped.trans (finishReader (stopped.notOperation own) c r)
  · exact stopped.trans (setTask (stopped.notOperation own) rfl)

theorem readFrames {tid : Nat} (c : Nat) (fuel : Nat) :
    ∀ w : World, w.WellNumbered → w.NotOperation tid →
      KeepsSupervisor w (World.readFrames tid c fuel w) := by
  induction fuel with
  | zero => exact fun w _ _ => refl w
  | succ fuel ih =>
    intro w numbered own
    unfold World.readFrames
    dsimp only
    split
    · rename_i payload rest _
      have taken := (modifyConn w c fun k => { k with inbound := rest }).trans
        (dispatch _ c payload)
      exact taken.trans (ih _ (taken.numbered numbered) (taken.notOperation own))
    · exact refl w
    · exact endReading numbered own c _
    · exact endReading numbered own c _
    · exact endReading numbered own c _

theorem pollReader {tid : Nat} (numbered : w.WellNumbered) (own : w.NotOperation tid) (c : Nat)
    (started : Bool) (ended : Option (Except Error Unit)) :
    KeepsSupervisor w (w.pollReader tid c started ended) := by
  unfold World.pollReader
  have begun : KeepsSupervisor w
      (if started then w else ((w.setTask tid (.reader c true none)).spawn (.writer c)).1) := by
    split
    · exact refl w
    · exact (setTask own rfl).trans (spawn rfl)
  dsimp only
  generalize (if started then w else ((w.setTask tid (.reader c true none)).spawn (.writer c)).1) =
    w₁ at begun ⊢
  split
  · exact begun.trans (readFrames c _ _ (begun.numbered numbered) (begun.notOperation own))
  · split
    · exact begun.trans (finishReader (begun.notOperation own) c _)
    · exact begun

theorem finishWriter {tid : Nat} (own : w.NotOperation tid) (c : Nat) :
    KeepsSupervisor w (w.finishWriter tid c) := by
  unfold World.finishWriter World.wakeDrainingReader World.programInputEnds
  have marked := modifyConn w c fun k => { k with writerDone := true }
  exact ((marked.trans (dropTask (marked.notOperation own))).trans (wakeIf _ _)).trans
    (programArrive _ c none)

theorem writeQueued {tid : Nat} (c : Nat) (fuel : Nat) :
    ∀ w : World, w.NotOperation tid → KeepsSupervisor w (World.writeQueued tid c fuel w) := by
  induction fuel with
  | zero => exact fun w _ => refl w
  | succ fuel ih =>
    intro w own
    unfold World.writeQueued
    dsimp only
    split
    · exact finishWriter own c
    · split
      · rename_i m rest _
        have written := (modifyConn w c fun k => { k with outbound := rest }).trans
          (receive _ c m)
        exact written.trans (ih _ (written.notOperation own))
      · split
        · exact refl w
        · exact finishWriter own c

theorem pollWriter {tid : Nat} (own : w.NotOperation tid) (c : Nat) :
    KeepsSupervisor w (w.pollWriter tid c) :=
  writeQueued c _ w own

theorem pollHandler {tid : Nat} (own : w.NotOperation tid) (c : Nat) (id : RequestId)
    (method : String) (work : Work) : KeepsSupervisor w (w.pollHandler tid c id method work) := by
  unfold World.pollHandler
  split
  · rename_i h params
    dsimp only
    have noted : KeepsSupervisor w { w.note (h.react method params w.model w.listeners).records with
        listeners := (h.react method params w.model w.listeners).listeners } :=
      of_tasks rfl rfl rfl rfl
    generalize { w.note (h.react method params w.model w.listeners).records with
        listeners := (h.react method params w.model w.listeners).listeners } = w₁ at noted ⊢
    -- each answer is queued, and the task ends or sleeps until its timer
    split
    · rename_i r _
      have replied := noted.trans (reply w₁ c id r)
      exact replied.trans (dropTask (replied.notOperation own))
    · exact (noted.trans (reply w₁ c id _)).trans
        (dropTask ((noted.trans (reply w₁ c id _)).notOperation own))
    · rename_i ms v _
      have waited := noted.trans (timer w₁ ms)
      split
      · have replied := waited.trans (reply (w₁.timer ms).1 c id (.ok v))
        exact replied.trans (dropTask (replied.notOperation own))
      · exact waited.trans (setTask (waited.notOperation own) rfl)
  · rename_i t v
    split
    · have replied := reply w c id (.ok v)
      exact replied.trans (dropTask (replied.notOperation own))
    · exact refl w

theorem pollTimed {tid : Nat} (own : w.NotOperation tid) (c : Nat) (action : Machine.Timed)
    (t : Timer) : KeepsSupervisor w (w.pollTimed tid c action t) := by
  unfold World.pollTimed
  split
  · have acted := programAct w c action
    exact acted.trans (dropTask (acted.notOperation own))
  · exact refl w

theorem finishCall {tid : Nat} (own : w.NotOperation tid) (handle : Nat) (typed : Option Shape)
    (r : Except Error Value) : KeepsSupervisor w (w.finishCall tid handle typed r) := by
  unfold World.finishCall
  dsimp only
  exact (report w handle _).trans (dropTask ((report w handle _).notOperation own))

theorem pollCall {tid : Nat} (own : w.NotOperation tid) (handle : Nat) (target : Target)
    (call : Call) (typed : Option Shape) :
    KeepsSupervisor w (w.pollCall tid handle target call typed) := by
  unfold World.pollCall
  dsimp only
  split
  · exact finishCall own handle typed _
  · rename_i c _
    have stepped := stepCall w c call
    split
    · rename_i w' r result
      rw [result] at stepped
      exact stepped.trans (finishCall (stepped.notOperation own) handle typed r)
    · rename_i w' call' _ result
      rw [result] at stepped
      exact stepped.trans (setTask (stepped.notOperation own) rfl)

theorem stepCalls (c : Nat) (each : List Call) (acc : World × List Call) :
    KeepsSupervisor acc.1 (each.foldl (fun (acc : World × List Call) call =>
      let (w, done) := acc
      let (w, call) := w.stepCall c call
      (w, done ++ [call])) acc).1 := by
  induction each generalizing acc with
  | nil => exact refl acc.1
  | cons call rest ih =>
    obtain ⟨w, done⟩ := acc
    have stepped := stepCall w c call
    rcases result : w.stepCall c call with ⟨w', call'⟩
    rw [result] at stepped
    simp only [List.foldl_cons, result]
    exact stepped.trans (ih (w', done ++ [call']))

theorem pollCalls {tid : Nat} (own : w.NotOperation tid) (handle c : Nat) (each : List Call) :
    KeepsSupervisor w (w.pollCalls tid handle c each) := by
  unfold World.pollCalls
  have stepped := stepCalls c each (w, [])
  split
  rename_i w' calls result
  rw [result] at stepped
  dsimp only
  split
  · exact (stepped.trans (report w' handle _)).trans
      (dropTask ((stepped.trans (report w' handle _)).notOperation own))
  · exact stepped.trans (setTask (stepped.notOperation own) rfl)

theorem wakeIdleWriters (w : World) : KeepsSupervisor w w.wakeIdleWriters := by
  obtain ⟨queue, woken⟩ := w.wakeIdleWriters_eq
  rw [woken]
  exact of_tasks rfl rfl rfl rfl

end KeepsSupervisor

/-! ### The wait for `initialize` -/

/-- What a start, and each later turn at the handshake, does once its `initialize` call has been
stepped, with the startup timer `t`: the handshake is done if the call has ended, given up if the
deadline has passed, and otherwise waited on at the handshake stage. -/
def awaitInitialize (w : World) (tid : Nat) (handle : Option Nat) (op : LifecycleOp) (gen c : Nat)
    (call : Call) (t : Timer) : World :=
  match call with
  | .finished r => w.handshakeDone tid handle gen c r
  | _ =>
    if t.deadline ≤ w.now then w.handshakeTimeout tid handle gen c call
    else w.setTask tid (.lifecycle handle op (.handshake gen c call t))

/-! ### The end of a shutdown -/

/-- What a stop does once its `shutdown` call has ended and `exit` has gone out, or could not:
it is done if the monitor is, and otherwise the grace period starts, with the process killed at
once if the grace period is over already. -/
def waitForMonitor (w : World) (tid : Nat) (handle : Option Nat) (op : LifecycleOp) (gen c : Nat) :
    World :=
  if (w.conn c).monitorDone then w.finishStop tid handle op c
  else
    let (w, t) := w.timer w.supervision.config.shutdownGrace
    if t.deadline ≤ w.now then w.killAndWait tid handle op gen c
    else w.setTask tid (.lifecycle handle op (.grace gen c t))

section Shutdown

variable {w : World} {tid : Nat} {handle : Option Nat} {op : LifecycleOp} {gen c : Nat}

theorem afterShutdown_of_sent {w' : World} (sent : w.notify c "exit" .null = .ok w') :
    w.afterShutdown tid handle op gen c = w'.waitForMonitor tid handle op gen c := by
  simp only [afterShutdown, sent]
  rfl

theorem afterShutdown_of_refused {e : Rpc.Error} (refused : w.notify c "exit" .null = .error e) :
    w.afterShutdown tid handle op gen c = w.waitForMonitor tid handle op gen c := by
  simp only [afterShutdown, refused]
  rfl

end Shutdown

/-! ### A stop's session -/

/-- The first move of a lock holder on the session it ends: the supervisor lets go of it, and the
end of its connection is marked as expected. -/
def takeSession (w : World) (r : SessionRecord) : World :=
  (w.modifySup fun s => { s with session := none }).modifyConn r.conn
    fun k => { k with expectedExit := true }

/-- What a stop does with the session it has taken: if the session may move to Stopping, it does,
and `shutdown` goes out with the grace period as its timeout; otherwise the process is killed. -/
def stopSession (w : World) (tid : Nat) (handle : Option Nat) (op : LifecycleOp)
    (r : SessionRecord) : World :=
  match w.transition (some r.generation) .stopping with
  | (true, w) =>
    let (w, call) := w.stepCall r.conn
      (.fresh "shutdown" .null (.given (some w.supervision.config.shutdownGrace)))
    match call with
    | .finished _ => w.afterShutdown tid handle op r.generation r.conn
    | _ => w.setTask tid (.lifecycle handle op (.shutdown r.generation r.conn call))
  | (false, w) => w.killAndWait tid handle op r.generation r.conn

section Stop

variable {w : World} {tid : Nat} {handle : Option Nat} {op : LifecycleOp}

theorem stopLocked_of_none (empty : w.supervision.session = none) :
    w.stopLocked tid handle op = (w.transition none .stopped).2.afterStop tid handle op := by
  simp only [stopLocked, empty]

theorem stopLocked_of_some {r : SessionRecord} (held : w.supervision.session = some r) :
    w.stopLocked tid handle op = (w.takeSession r).stopSession tid handle op r := by
  simp only [stopLocked, held]
  rfl

end Stop

end World

end Engine

end LspBridge
