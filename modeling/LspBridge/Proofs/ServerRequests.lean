import LspBridge.Proofs.OutboundQueue
/-!
# Every server request is answered once

The main loop of a connection is its reader, while it reads, and the handler task of each server
request it has taken on. A request frame whose method has no handler is answered by the reader at
once, with method-not-found; one whose method has a handler gets a task, which answers with the
handler's result, or with an internal error if the handler panicked. When the input ends, the
reader drops the handler tasks still running, unanswered.

`World.loop` is that loop as a list of tasks, `World.owed` the requests its handlers still owe an
answer to. A move takes requests on (`World.requestsRead`) and queues answers (the responses among
`World.sends`); `answered_once` proves that along every run, the answers queued and the requests
still owed are, as a multiset of ids, the requests owed at the start and those read, as long as the
loop reads, and some of them once it has ended. So every request frame gets exactly one response
with its id while the loop runs, two frames with one id get one each, and the loop queues no other
response.

The accounting rests on the loop changing only where the reader takes frames on, where a handler
answers and where the reading ends. `Spawns c ids` says of a move that it adds handlers for `ids`
to the loop and keeps whether the connection is told to stop and whether its writer is done; it is
proved for each function, as `Pushes` is for the queue.
-/

namespace LspBridge

namespace Engine

open Json Rpc Client

/-- The part a task plays in the main loop of a connection.

`reading`: the reader, while it still reads. `handling`: the task handling the server request with
this id. -/
inductive LoopPart where
  | reading
  | handling (id : RequestId)
  deriving DecidableEq

/-- The request a part of the loop still owes an answer to. -/
def LoopPart.handled : LoopPart → Option RequestId
  | .reading => none
  | .handling id => some id

/-- The part a task plays in the main loop of connection `c`, if any. A reader reads until it has
run and its input has ended; its first turn starts it reading, whatever it is marked with. -/
def Task.loopPart (c : Nat) : Task → Option LoopPart
  | .reader c' started ended =>
    if c' = c ∧ (started = false ∨ ended.isNone = true) then some .reading else none
  | .handler c' id _ _ => if c' = c then some (.handling id) else none
  | _ => none

/-- A task plays a part in the loop of `c` exactly when it is its reader, still reading, or one of
its request handlers. -/
theorem Task.loopPart_eq_some_iff {c : Nat} {t : Task} {p : LoopPart} :
    t.loopPart c = some p ↔ (p = .reading ∧ ∃ started ended, t = .reader c started ended ∧
      (started = false ∨ ended.isNone = true)) ∨
      (∃ id method work, p = .handling id ∧ t = .handler c id method work) := by
  constructor
  · intro part
    cases t with
    | reader c' started ended =>
      simp only [Task.loopPart] at part
      split at part
      · rename_i reads
        obtain ⟨rfl, reads⟩ := reads
        cases part
        exact .inl ⟨rfl, started, ended, rfl, reads⟩
      · cases part
    | handler c' id method work =>
      simp only [Task.loopPart] at part
      split at part
      · rename_i own
        subst own
        cases part
        exact .inr ⟨id, method, work, rfl, rfl⟩
      · cases part
    | _ => simp [Task.loopPart] at part
  · rintro (⟨rfl, started, ended, rfl, reads⟩ | ⟨id, method, work, rfl, rfl⟩)
    · have open_ : started = true → ended = none := by
        rintro rfl
        simpa using reads
      simpa [Task.loopPart] using open_
    · simp [Task.loopPart]

/-- The server request a payload carries, by id. -/
def requestOf (payload : List UInt8) : Option RequestId :=
  match Message.decode payload with
  | .ok (.request id _ _) => some id
  | _ => none

/-- The server request a payload carries, by id, when a handler takes it on. -/
def handledBy (router : Router) (payload : List UInt8) : Option RequestId :=
  match Message.decode payload with
  | .ok (.request id method _) => if (router.requestHandler method).isSome then some id else none
  | _ => none

/-- The id a response answers. -/
def answerTo : Message → Option RequestId
  | .response id _ => some id
  | _ => none

/-- A request frame gets an answer at once or a handler, never both. -/
theorem answer_or_handler (router : Router) (payload : List UInt8) :
    ((inlineAnswer router payload).bind answerTo).toList ++ (handledBy router payload).toList =
      (requestOf payload).toList := by
  unfold inlineAnswer handledBy requestOf
  cases decoded : Message.decode payload with
  | error e => simp
  | ok m =>
    cases m with
    | request id method params =>
      cases handler : router.requestHandler method <;> simp [answerTo, handler]
    | response id r => simp
    | notification method params => simp

/-- The connection is told to stop, and its writer is done. -/
def Conn.stops (k : Conn) : Bool × Bool := (k.shutdown, k.writerDone)

namespace World

/-- The main loop of connection `c`: its tasks by id, in order of creation, with their parts. -/
def loop (w : World) (c : Nat) : List (Nat × LoopPart) :=
  w.tasks.filterMap fun e => (e.2.loopPart c).map (e.1, ·)

/-- The server requests of `c` that handlers are still working on, in order of arrival. -/
def owed (w : World) (c : Nat) : List RequestId :=
  (w.loop c).filterMap (·.2.handled)

/-- The main loop of `c` still reads. -/
def Reading (w : World) (c : Nat) : Prop :=
  ∃ tid, (tid, LoopPart.reading) ∈ w.loop c

/-- No task filed under an id is part of the main loop of `c`. -/
def OffLoop (w : World) (c tid : Nat) : Prop :=
  ∀ p, (tid, p) ∉ w.loop c

variable {w : World} {c : Nat}

theorem mem_loop {tid : Nat} {p : LoopPart} :
    (tid, p) ∈ w.loop c ↔ ∃ t, (tid, t) ∈ w.tasks ∧ t.loopPart c = some p := by
  simp [loop]

theorem keys_filterMap_sublist {α β : Type} (l : List (Nat × α)) (f : α → Option β) :
    ((l.filterMap fun e => (f e.2).map (e.1, ·)).map (·.1)).Sublist (l.map (·.1)) := by
  induction l with
  | nil => simp
  | cons e rest ih =>
    cases found : f e.2 with
    | none => simpa [found] using ih.cons e.1
    | some b => simpa [found] using ih.cons_cons e.1

/-- Task ids stay distinct in the loop. -/
theorem WellNumbered.loop_nodup (numbered : w.WellNumbered) : ((w.loop c).map (·.1)).Nodup :=
  numbered.distinct.sublist (keys_filterMap_sublist w.tasks (Task.loopPart c))

theorem offLoop_of_mem (numbered : w.WellNumbered) {tid : Nat} {t : Task}
    (mem : (tid, t) ∈ w.tasks) (kind : t.loopPart c = none) : w.OffLoop c tid := by
  intro p listed
  obtain ⟨u, other, part⟩ := mem_loop.mp listed
  rw [numbered.eq_of_mem mem other, part] at kind
  cases kind

/-- Replacing a task by one that plays the same part keeps the loop. -/
theorem loop_setTask {tid : Nat} {t : Task}
    (same : ∀ u, (tid, u) ∈ w.tasks → u.loopPart c = t.loopPart c) :
    (w.setTask tid t).loop c = w.loop c := by
  unfold loop setTask
  rw [List.filterMap_map]
  apply List.filterMap_congr
  intro ⟨i, u⟩ mem
  by_cases here : i = tid
  · subst here
    simp [same u mem]
  · simp [here]

/-- Replacing a task by one that plays no part takes it out of the loop. -/
theorem loop_setTask_off {tid : Nat} {t : Task} (kind : t.loopPart c = none) :
    (w.setTask tid t).loop c = (w.loop c).filter (·.1 != tid) := by
  unfold loop setTask
  rw [List.filterMap_map, List.filter_filterMap]
  apply List.filterMap_congr
  intro ⟨i, u⟩ _
  by_cases here : i = tid
  · subst here
    cases part : u.loopPart c <;> simp [kind, Option.filter]
  · cases part : u.loopPart c <;> simp [here, part, Option.filter]

theorem loop_dropTask (tid : Nat) : (w.dropTask tid).loop c = (w.loop c).filter (·.1 != tid) := by
  unfold loop dropTask
  rw [List.filter_filterMap, List.filterMap_filter]
  apply List.filterMap_congr
  intro ⟨i, u⟩ _
  by_cases here : i = tid
  · subst here
    cases u.loopPart c <;> simp [Option.filter]
  · cases u.loopPart c <;> simp [here, Option.filter]

@[simp]
theorem loop_spawn (t : Task) :
    (w.spawn t).1.loop c = w.loop c ++ ((t.loopPart c).map (w.nextTask, ·)).toList := by
  cases part : t.loopPart c <;> simp [loop, spawn, List.filterMap_append, part]

theorem filter_key_of_offLoop {tid : Nat} (off : w.OffLoop c tid) :
    (w.loop c).filter (·.1 != tid) = w.loop c := by
  apply List.filter_eq_self.mpr
  intro ⟨i, p⟩ mem
  have other : i ≠ tid := by
    rintro rfl
    exact off p mem
  simpa using other

/-- The loop without one of its tasks owes what it owed, less that task's request. -/
theorem owed_perm_of_mem (numbered : w.WellNumbered) {tid : Nat} {p : LoopPart}
    (mem : (tid, p) ∈ w.loop c) :
    (p.handled.toList ++ ((w.loop c).filter (·.1 != tid)).filterMap (·.2.handled)).Perm (w.owed c)
    := by
  have keys := numbered.loop_nodup (c := c)
  -- under distinct ids, dropping the id is erasing the one task filed under it
  have erased : (w.loop c).filter (·.1 != tid) = (w.loop c).erase (tid, p) := by
    rw [(List.Nodup.of_map _ keys).erase_eq_filter]
    apply List.filter_congr
    intro ⟨i, q⟩ listed
    by_cases here : i = tid
    · subst here
      have same : q = p := by
        have := List.inj_on_of_nodup_map keys listed mem rfl
        simpa using this
      simp [same]
    · have other : (i, q) ≠ (tid, p) := fun same => here (Prod.mk.inj same).1
      rw [Bool.eq_iff_iff, bne_iff_ne, bne_iff_ne]
      exact ⟨fun _ => other, fun _ => here⟩
  rw [erased, owed]
  have moved := ((List.perm_cons_erase mem).filterMap (·.2.handled)).symm
  cases part : p.handled with
  | none => simpa [part] using moved
  | some id => simpa [part] using moved

end World

/-- A move that adds handlers for the requests `ids` to the main loop of `c`, in order, changes
nothing else in it, and keeps whether the connection is told to stop and whether its writer is
done. -/
structure Spawns (c : Nat) (ids : List RequestId) (w w' : World) : Prop where
  loop : ∃ added : List (Nat × LoopPart),
    w'.loop c = w.loop c ++ added ∧ added.map (·.2) = ids.map .handling
  stops : (w'.conn c).stops = (w.conn c).stops

namespace Spawns

variable {c : Nat} {ids ids' : List RequestId} {w w₁ w₂ w₃ : World}

theorem refl (w : World) : Spawns c [] w w := ⟨⟨[], by simp, rfl⟩, rfl⟩

theorem trans (first : Spawns c ids w₁ w₂) (second : Spawns c ids' w₂ w₃) :
    Spawns c (ids ++ ids') w₁ w₃ where
  loop := by
    obtain ⟨added, grown, parts⟩ := first.loop
    obtain ⟨added', grown', parts'⟩ := second.loop
    exact ⟨added ++ added', by rw [grown', grown, List.append_assoc], by simp [parts, parts']⟩
  stops := second.stops.trans first.stops

theorem trans_quiet (first : Spawns c ids w₁ w₂) (second : Spawns c [] w₂ w₃) :
    Spawns c ids w₁ w₃ := by
  simpa using first.trans second

instance : IsPreorder World (Spawns c []) where
  refl := Spawns.refl
  trans _ _ _ := Spawns.trans_quiet

/-- A move that adds nothing keeps the loop. -/
theorem loop_eq (keeps : Spawns c [] w₁ w₂) : w₂.loop c = w₁.loop c := by
  obtain ⟨added, grown, parts⟩ := keeps.loop
  rw [grown, List.map_eq_nil_iff.mp parts, List.append_nil]

theorem shutdown_eq (grows : Spawns c ids w₁ w₂) : (w₂.conn c).shutdown = (w₁.conn c).shutdown :=
  congrArg Prod.fst grows.stops

theorem offLoop (keeps : Spawns c [] w₁ w₂) {tid : Nat} (off : w₁.OffLoop c tid) :
    w₂.OffLoop c tid := by
  intro p
  rw [keeps.loop_eq]
  exact off p

theorem owed (grows : Spawns c ids w₁ w₂) : w₂.owed c = w₁.owed c ++ ids := by
  obtain ⟨added, grown, parts⟩ := grows.loop
  have handled : added.filterMap (·.2.handled) = ids := by
    have := congrArg (List.filterMap LoopPart.handled) parts
    simpa [List.filterMap_map, Function.comp_def, LoopPart.handled] using this
  rw [World.owed, grown, List.filterMap_append, ← handled]
  rfl

/-- The tasks a move adds are handlers: the readers of the loop stay as they were. -/
theorem mem_reading (grows : Spawns c ids w₁ w₂) {tid : Nat} :
    (tid, LoopPart.reading) ∈ w₂.loop c ↔ (tid, LoopPart.reading) ∈ w₁.loop c := by
  obtain ⟨added, grown, parts⟩ := grows.loop
  have none : (tid, LoopPart.reading) ∉ added := by
    intro mem
    have listed : LoopPart.reading ∈ ids.map .handling := by
      rw [← parts]
      exact List.mem_map.mpr ⟨_, mem, rfl⟩
    simp at listed
  rw [grown, List.mem_append]
  exact ⟨fun found => found.resolve_right none, .inl⟩

theorem reading_iff (grows : Spawns c ids w₁ w₂) : w₂.Reading c ↔ w₁.Reading c :=
  exists_congr fun _ => grows.mem_reading

/-- A move that keeps the task table and the connections keeps the loop. -/
theorem of_conns {w w' : World} (conns : w'.conns = w.conns) (tasks : w'.tasks = w.tasks) :
    Spawns c [] w w' where
  loop := ⟨[], by simp [World.loop, tasks], rfl⟩
  stops := by simp [World.conn, conns]

theorem modifyConn (w : World) (d : Nat) {f : Conn → Conn} (keeps : ∀ k, (f k).stops = k.stops) :
    Spawns c [] w (w.modifyConn d f) where
  loop := ⟨[], by simp [World.loop, World.modifyConn], rfl⟩
  stops := World.view_modifyConn Conn.stops keeps

theorem wake (w : World) (tid : Nat) : Spawns c [] w (w.wake tid) := by
  obtain ⟨queue, woken⟩ := w.wake_eq tid
  rw [woken]
  exact of_conns rfl rfl

theorem wakeIf (w : World) (p : Task → Bool) : Spawns c [] w (w.wakeIf p) := by
  obtain ⟨queue, woken⟩ := w.wakeIf_eq p
  rw [woken]
  exact of_conns rfl rfl

theorem note (w : World) (rs : List Value) : Spawns c [] w (w.note rs) :=
  of_conns rfl rfl

theorem timer (w : World) (ms : Nat) : Spawns c [] w (w.timer ms).1 :=
  of_conns rfl rfl

theorem setTask {tid : Nat} {t : Task}
    (same : ∀ u, (tid, u) ∈ w.tasks → u.loopPart c = t.loopPart c) :
    Spawns c [] w (w.setTask tid t) where
  loop := ⟨[], by rw [World.loop_setTask same, List.append_nil], rfl⟩
  stops := rfl

theorem dropTask {tid : Nat} (off : w.OffLoop c tid) : Spawns c [] w (w.dropTask tid) where
  loop := ⟨[], by rw [World.loop_dropTask, World.filter_key_of_offLoop off, List.append_nil], rfl⟩
  stops := rfl

theorem spawn {t : Task} (kind : t.loopPart c = none) : Spawns c [] w (w.spawn t).1 where
  loop := ⟨[], by simp [kind], rfl⟩
  stops := rfl

/-! ### The connection layer -/

theorem fill (w : World) (d : Nat) (id : RequestId) (o : Outcome) : Spawns c [] w (w.fill d id o) :=
  (modifyConn w d fun _ => by rfl).trans_quiet (wakeIf _ _)

theorem takeFilled (w : World) (d : Nat) (id : RequestId) : Spawns c [] w (w.takeFilled d id).2 := by
  unfold World.takeFilled
  split
  · exact modifyConn w d fun _ => by rfl
  · exact refl w

theorem enqueue {w w' : World} {d : Nat} {m : Message} (queued : w.enqueue d m = some w') :
    Spawns c [] w w' := by
  obtain rfl := World.eq_of_enqueue queued
  exact (modifyConn w d fun _ => by rfl).trans_quiet (wakeIf _ _)

theorem notify {w w' : World} {d : Nat} {method : String} {params : Value}
    (sent : w.notify d method params = .ok w') : Spawns c [] w w' := by
  exact enqueue (World.enqueue_of_notify sent)

theorem reply (w : World) (d : Nat) (id : RequestId) (r : Except ResponseError Value) :
    Spawns c [] w (w.reply d id r) := by
  unfold World.reply
  cases queued : w.enqueue d (.response id r) with
  | none => exact refl w
  | some w' => exact enqueue queued

theorem forget (w : World) (d : Nat) (id : RequestId) : Spawns c [] w (w.forget d id).2 := by
  unfold World.forget
  split
  · exact modifyConn w d fun _ => by rfl
  · exact refl w

theorem issue (w : World) (d : Nat) (method : String) (params : Value) :
    Spawns c [] w (w.issue d method params).2 := by
  unfold World.issue
  dsimp only
  split
  · exact modifyConn w d fun _ => by rfl
  · split
    · rename_i queued
      exact ((modifyConn w d fun _ => by rfl).trans_quiet (modifyConn _ d fun _ => by rfl)).trans_quiet
        (enqueue queued)
    · exact ((modifyConn w d fun _ => by rfl).trans_quiet (modifyConn _ d fun _ => by rfl)).trans_quiet
        (forget _ d _)

theorem cancel (w : World) (d : Nat) (id : RequestId) : Spawns c [] w (w.cancel d id).2 :=
  World.cancel_of forget fill w d id fun _ _ sent => notify sent

theorem closePeer (w : World) (d : Nat) : Spawns c [] w (w.closePeer d).2 :=
  (modifyConn w d fun _ => by rfl).trans_quiet (World.fillAll_of fill d _ _ _)

theorem deliver (w : World) (d : Nat) (id : RequestId) (r : Except ResponseError Value) :
    Spawns c [] w (w.deliver d id r) := by
  unfold World.deliver
  split
  · exact (modifyConn w d fun _ => by rfl).trans_quiet (fill _ d id _)
  · exact refl w

theorem expire (w : World) (d : Nat) (id : RequestId) (method : String) :
    Spawns c [] w (w.expire d id method).1 :=
  World.expire_of forget w d id method

theorem peerStep (w : World) (op : PeerOp) : Spawns c [] w (w.peerStep c op) := by
  cases op with
  | startCall method params => exact issue w c method params
  | respond id result => exact deliver w c id result
  | cancel id => exact cancel w c id
  | expire id method => exact expire w c id method
  | drop id => exact forget w c id
  | close => exact closePeer w c
  | collect id => exact takeFilled w c id

theorem serverWrite {w w' : World} {d : Nat} {bytes : List UInt8}
    (written : w.serverWrite d bytes = .ok w') : Spawns c [] w w' := by
  obtain rfl := World.eq_of_serverWrite written
  exact (modifyConn w d fun _ => by rfl).trans_quiet (wakeIf _ _)

theorem serverCloseOutput (w : World) (d : Nat) : Spawns c [] w (w.serverCloseOutput d) := by
  unfold World.serverCloseOutput World.wakeReader
  exact (modifyConn w d fun _ => by rfl).trans_quiet (wakeIf _ _)

theorem readFails (w : World) (d : Nat) (detail : String) : Spawns c [] w (w.readFails d detail) := by
  unfold World.readFails World.wakeReader
  split
  · exact refl w
  · exact (modifyConn w d fun _ => by rfl).trans_quiet (wakeIf _ _)

/-! ### The server programs -/

theorem programWrite (w : World) (d : Nat) (v : Value) : Spawns c [] w (w.programWrite d v) := by
  unfold World.programWrite
  split
  · exact refl w
  · exact (modifyConn w d fun _ => by rfl).trans_quiet (wakeIf _ _)

theorem processEnds (w : World) (d : Nat) (code : Option Int) :
    Spawns c [] w (w.processEnds d code) := by
  unfold World.processEnds
  split
  · exact refl w
  · exact ((modifyConn w d fun _ => by rfl).trans_quiet (wakeIf _ _)).trans_quiet (wakeIf _ _)

theorem modifyProgram (w : World) (d : Nat) (f : Machine.ServerProcess → Machine.ServerProcess) :
    Spawns c [] w (w.modifyProgram d f) :=
  modifyConn w d fun _ => by rfl

theorem programFrame : World.ProgramFrame (Spawns c []) where
  modifyProgram := Spawns.modifyProgram
  programWrite := Spawns.programWrite
  processEnds := Spawns.processEnds
  timer := Spawns.timer
  spawnTimed _ _ _ _ := spawn rfl
  closeOutput w d := (modifyConn w d fun _ => by rfl).trans_quiet (wakeIf _ _)
  interrupt _ := of_conns rfl rfl

theorem programArrive (w : World) (d : Nat) (m : Option Message) :
    Spawns c [] w (w.programArrive d m) :=
  programFrame.programArrive w d m

theorem programAct (w : World) (d : Nat) (action : Machine.Timed) :
    Spawns c [] w (w.programAct d action) :=
  programFrame.programAct w d action

theorem receive (w : World) (d : Nat) (m : Message) : Spawns c [] w (w.receive d m) := by
  unfold World.receive
  dsimp only
  split
  · exact refl w
  · split
    · rename_i m' _
      have noted : Spawns c [] w { w with sent := w.sent ++ [(d, m')] } := of_conns rfl rfl
      refine (noted.trans_quiet ?_).trans_quiet (programArrive _ d _)
      split
      · exact modifyConn _ d fun _ => by rfl
      · exact refl _
    · exact refl w

theorem pollTimed {tid : Nat} (off : w.OffLoop c tid) (d : Nat) (action : Machine.Timed)
    (t : Timer) : Spawns c [] w (w.pollTimed tid d action t) := by
  unfold World.pollTimed
  split
  · have acted := programAct (c := c) w d action
    exact acted.trans_quiet (dropTask (acted.offLoop off))
  · exact refl w

/-- A reader whose reading has ended is outside the loop; its end drops it. -/
theorem finishReader {tid : Nat} (off : w.OffLoop c tid) (d : Nat) (r : Except Error Unit) :
    Spawns c [] w (w.finishReader tid d r) := by
  unfold World.finishReader World.wakeMonitorOnReader
  have marked := modifyConn (c := c) w d
    (f := fun k => { k with ended := some r, readerGone := true }) fun _ => rfl
  exact (marked.trans_quiet (dropTask (marked.offLoop off))).trans_quiet (wakeIf _ _)

/-! ### The reader takes requests on -/

/-- A handler task of `c` joins the loop. -/
theorem spawnHandler (w : World) (id : RequestId) (method : String) (work : Work) :
    Spawns c [id] w (w.spawn (.handler c id method work)).1 where
  loop := ⟨[(w.nextTask, .handling id)], by simp [Task.loopPart], rfl⟩
  stops := rfl

/-- Handling one payload takes on the request it carries if a handler takes it. -/
theorem dispatch (w : World) (payload : List UInt8) :
    Spawns c (handledBy w.router payload).toList w (w.dispatch c payload) := by
  cases decoded : Message.decode payload with
  | error e =>
    simp only [World.dispatch, handledBy, decoded]
    exact refl w
  | ok m =>
    cases m with
    | response i r =>
      simp only [World.dispatch, handledBy, decoded]
      exact deliver w c i r
    | notification method params =>
      simp only [World.dispatch, handledBy, decoded]
      cases handler : w.router.notificationHandler method with
      | some h => exact note w _
      | none => exact refl w
    | request i method params =>
      simp only [World.dispatch, handledBy, decoded]
      cases handler : w.router.requestHandler method with
      | some h => simpa using spawnHandler w i method (.run h params)
      | none => simpa using reply w c i _

/-- The frames a reader takes are handled in order, each request taken on if a handler takes
it. -/
theorem dispatchReads {w : World} (present : c < w.conns.size)
    (reads : List (List UInt8 × List UInt8)) :
    Spawns c ((reads.map Prod.fst).filterMap (handledBy w.router)) w (w.dispatchReads c reads) := by
  induction reads generalizing w with
  | nil => exact refl w
  | cons read rest ih =>
    have moved : Spawns c [] w (w.modifyConn c fun k => { k with inbound := read.2 }) :=
      modifyConn w c fun _ => by rfl
    have handled := dispatch (c := c) (w.modifyConn c fun k => { k with inbound := read.2 }) read.1
    have pushed := World.Pushes.dispatch (c := c) (w := w.modifyConn c fun k => { k with inbound := read.2 })
      (by simpa using present) read.1
    have later := ih (w := (w.modifyConn c fun k => { k with inbound := read.2 }).dispatch c read.1)
      (by rw [pushed.size]; simpa using present)
    rw [pushed.router] at later
    have all := (moved.trans handled).trans later
    simp only [World.dispatchReads, List.foldl_cons] at all ⊢
    convert all using 1
    cases taken : handledBy w.router read.1 <;> simp [World.modifyConn, taken]

/-- A move that keeps the loop and then drops a task. -/
theorem dropTask_after {w₁ : World} (keeps : Spawns c [] w w₁) (tid : Nat) :
    ((w₁.dropTask tid).conn c).stops = (w.conn c).stops ∧
    (w₁.dropTask tid).loop c = (w.loop c).filter (·.1 != tid) := by
  rw [World.conn_dropTask, World.loop_dropTask, keeps.loop_eq]
  exact ⟨keeps.stops, rfl⟩

/-- The reader's first turn starts the writer; it stays the loop's reader. -/
theorem beginReading (numbered : w.WellNumbered) {tid : Nat} {t : Task}
    (found : (tid, t) ∈ w.tasks) (part : t.loopPart c = some .reading) :
    Spawns c [] w ((w.setTask tid (.reader c true none)).spawn (.writer c)).1 := by
  refine (setTask fun u mem => ?_).trans_quiet (spawn rfl)
  rw [numbered.eq_of_mem mem found, part]
  simp [Task.loopPart]

end Spawns

namespace World

variable {w : World} {c : Nat}

theorem loop_modifyConn (d : Nat) (f : Conn → Conn) : (w.modifyConn d f).loop c = w.loop c :=
  rfl

theorem loop_foldl_dropTask (ids : List Nat) (acc : World) :
    (ids.foldl World.dropTask acc).loop c = (acc.loop c).filter (fun e => !ids.contains e.1) := by
  induction ids generalizing acc with
  | nil => simp
  | cons j rest ih =>
    rw [List.foldl_cons, ih, loop_dropTask, List.filter_filter]
    apply List.filter_congr
    intro e _
    by_cases same : e.1 = j <;> simp [same]

/-- The ids of the handler tasks of `c`, which the end of the reading drops. -/
def handlerTasks (w : World) (c : Nat) : List Nat :=
  w.tasks.filterMap fun (tid, t) => match t with
    | .handler c' _ _ _ => if c' == c then some tid else none
    | _ => none

theorem dropHandlers_eq : w.dropHandlers c = (w.handlerTasks c).foldl World.dropTask w :=
  rfl

theorem mem_handlerTasks {i : Nat} :
    i ∈ w.handlerTasks c ↔ ∃ id method work, (i, Task.handler c id method work) ∈ w.tasks := by
  unfold handlerTasks
  rw [List.mem_filterMap]
  constructor
  · rintro ⟨⟨j, t⟩, mem, picked⟩
    cases t with
    | handler c' id method work =>
      by_cases own : c' = c
      · subst own
        simp only [beq_self_eq_true, if_true, Option.some.injEq] at picked
        subst picked
        exact ⟨id, method, work, mem⟩
      · simp [own] at picked
    | _ => cases picked
  · rintro ⟨id, method, work, mem⟩
    exact ⟨_, mem, by simp⟩

/-- Dropping the handlers of `c` leaves its reader alone in the loop. -/
theorem loop_dropHandlers (numbered : w.WellNumbered) :
    (w.dropHandlers c).loop c = (w.loop c).filter (·.2 == .reading) := by
  rw [dropHandlers_eq, loop_foldl_dropTask]
  apply List.filter_congr
  intro ⟨i, p⟩ mem
  obtain ⟨t, present, part⟩ := mem_loop.mp mem
  rcases Task.loopPart_eq_some_iff.mp part with ⟨rfl, started, ended, rfl, -⟩ |
    ⟨id, method, work, rfl, rfl⟩
  · -- the task under the reader's id is no handler, so it is not dropped
    have kept : i ∉ w.handlerTasks c := by
      intro doomed
      obtain ⟨id, method, work, other⟩ := mem_handlerTasks.mp doomed
      cases numbered.eq_of_mem present other
    simpa using kept
  · have doomed : i ∈ w.handlerTasks c := mem_handlerTasks.mpr ⟨id, method, work, present⟩
    have differ : (LoopPart.handling id == LoopPart.reading) = false :=
      beq_eq_false_iff_ne.mpr (by simp)
    simp [doomed, differ]

theorem loop_finishReader (tid d : Nat) (r : Except Error Unit) :
    (w.finishReader tid d r).loop c = (w.loop c).filter (·.1 != tid) := by
  unfold World.finishReader World.wakeMonitorOnReader
  rw [(Spawns.wakeIf (c := c) _ _).loop_eq, loop_dropTask, loop_modifyConn]

/-- The end of the reading drops the handlers and the reader itself: what stays of the loop are
other readers of the connection. -/
theorem loop_endReading (numbered : w.WellNumbered) (tid : Nat) (r : Except Error Unit) :
    (w.endReading tid c r).loop c = (w.loop c).filter (fun e => e.1 != tid && e.2 == .reading) := by
  unfold World.endReading
  dsimp only
  have closed := Spawns.closePeer (c := c) w c
  have stopped : ((((w.closePeer c).2.dropHandlers c).modifyConn c fun k =>
      { k with shutdown := true }).wakeWriter c).loop c = (w.loop c).filter (·.2 == .reading) := by
    unfold World.wakeWriter
    rw [(Spawns.wakeIf (c := c) _ _).loop_eq, loop_modifyConn,
      loop_dropHandlers ((KeepsSupervisor.closePeer w c).numbered numbered), closed.loop_eq]
  split
  · rw [loop_finishReader, stopped, List.filter_filter]
  · rw [loop_setTask_off (by simp [Task.loopPart]), stopped, List.filter_filter]

/-- A reader that is the only one of its loop leaves nothing of it when its reading ends. -/
theorem loop_endReading_of_single (numbered : w.WellNumbered) {tid : Nat}
    (single : ∀ j, (j, LoopPart.reading) ∈ w.loop c → j = tid) (r : Except Error Unit) :
    (w.endReading tid c r).loop c = [] := by
  rw [loop_endReading numbered, List.filter_eq_nil_iff]
  intro ⟨j, p⟩ mem
  cases p with
  | reading => simp [single j mem]
  | handling id => simp

/-! ### A handler answers -/

/-- A handler's turn leaves the loop, when it answers; otherwise it stays in it. -/
theorem pollHandler_loop (numbered : w.WellNumbered) {tid : Nat} {i : RequestId} {method : String}
    {work : Work} (found : (tid, Task.handler c i method work) ∈ w.tasks) :
    ((w.pollHandler tid c i method work).conn c).stops = (w.conn c).stops ∧
    (w.pollHandler tid c i method work).loop c =
      if (w.handlerAnswer method work).isSome then (w.loop c).filter (·.1 != tid) else w.loop c := by
  cases work with
  | run h params =>
    unfold World.pollHandler
    dsimp only
    have noted : Spawns c [] w { w.note (h.react method params w.model w.listeners).records with
        listeners := (h.react method params w.model w.listeners).listeners } :=
      Spawns.of_conns rfl rfl
    have clock : ({ w.note (h.react method params w.model w.listeners).records with
        listeners := (h.react method params w.model w.listeners).listeners } : World).now = w.now :=
      rfl
    have kept : ({ w.note (h.react method params w.model w.listeners).records with
        listeners := (h.react method params w.model w.listeners).listeners } : World).tasks =
        w.tasks :=
      rfl
    generalize { w.note (h.react method params w.model w.listeners).records with
        listeners := (h.react method params w.model w.listeners).listeners } = w₁ at noted clock kept ⊢
    cases reaction : (h.react method params w.model w.listeners).reaction with
    | reply r =>
      simp only [handlerAnswer, reaction, Option.isSome_some, if_true]
      exact (noted.trans_quiet (Spawns.reply w₁ c i r)).dropTask_after tid
    | panic =>
      simp only [handlerAnswer, reaction, Option.isSome_some, if_true]
      exact (noted.trans_quiet (Spawns.reply w₁ c i (.error (panicked method)))).dropTask_after tid
    | later ms v =>
      have timed : Spawns c [] w { w₁ with timerSeq := w₁.timerSeq + 1 } :=
        noted.trans_quiet (Spawns.timer w₁ ms)
      by_cases due : ms = 0
      · subst due
        simp only [handlerAnswer, reaction, World.timer, Nat.add_zero, le_refl, if_true,
          Option.isSome_some]
        exact (timed.trans_quiet (Spawns.reply _ c i (.ok v))).dropTask_after tid
      · have notDue : ¬ w₁.now + ms ≤ w₁.now := by omega
        simp only [handlerAnswer, reaction, World.timer, notDue, due, if_false, Option.isSome_none,
          Bool.false_eq_true]
        -- the handler waits for its timer, in the same place of the loop
        refine ⟨timed.stops, ?_⟩
        rw [loop_setTask fun u mem => ?_, timed.loop_eq]
        rw [kept] at mem
        rw [numbered.eq_of_mem mem found]
        rfl
  | sleeping t v =>
    by_cases due : t.deadline ≤ w.now
    · simp only [World.pollHandler, handlerAnswer, due, if_true, Option.isSome_some]
      exact (Spawns.reply w c i _).dropTask_after tid
    · simp [World.pollHandler, handlerAnswer, due]

/-! ### The writer -/

/-- A reading reader holds its connection, so the writer does not finish while it reads. -/
theorem connHeld_of_reading (reading : w.Reading c) : w.connHeld c = true := by
  obtain ⟨tid, listed⟩ := reading
  obtain ⟨t, mem, part⟩ := mem_loop.mp listed
  have holds : t.holds c = true := by
    rcases Task.loopPart_eq_some_iff.mp part with ⟨-, started, ended, rfl, -⟩ | ⟨_, _, _, wrong, -⟩
    · simp [Task.holds]
    · cases wrong
  have any : w.tasks.any (fun (_, t) => t.holds c) = true := List.any_eq_true.mpr ⟨_, mem, holds⟩
  simp [connHeld, any]

theorem finishWriter_keeps {tid : Nat} (off : w.OffLoop c tid) (d : Nat) :
    (w.finishWriter tid d).loop c = w.loop c ∧
    ((w.finishWriter tid d).conn c).shutdown = (w.conn c).shutdown := by
  unfold World.finishWriter World.wakeDrainingReader World.programInputEnds
  constructor
  · rw [(Spawns.programArrive (c := c) _ d none).loop_eq, (Spawns.wakeIf (c := c) _ _).loop_eq,
      loop_dropTask, loop_modifyConn, filter_key_of_offLoop off]
  · rw [(Spawns.programArrive (c := c) _ d none).shutdown_eq, (Spawns.wakeIf (c := c) _ _).shutdown_eq,
      conn_dropTask]
    exact view_modifyConn Conn.shutdown fun _ => rfl

/-- The writer's turn keeps the loop and whether the connection is told to stop. -/
theorem writeQueued_keeps {tid : Nat} (d : Nat) (fuel : Nat) :
    ∀ w : World, w.OffLoop c tid → (World.writeQueued tid d fuel w).loop c = w.loop c ∧
      ((World.writeQueued tid d fuel w).conn c).shutdown = (w.conn c).shutdown := by
  induction fuel with
  | zero => exact fun w _ => ⟨rfl, rfl⟩
  | succ fuel ih =>
    intro w off
    unfold World.writeQueued
    dsimp only
    split
    · exact finishWriter_keeps off d
    · split
      · rename_i m rest _
        have written := (Spawns.modifyConn (c := c) w d
          (f := fun k => { k with outbound := rest }) fun _ => by rfl).trans_quiet
          (Spawns.receive _ d m)
        obtain ⟨loop, shut⟩ := ih _ (written.offLoop off)
        exact ⟨loop.trans written.loop_eq, shut.trans written.shutdown_eq⟩
      · split
        · exact ⟨rfl, rfl⟩
        · exact finishWriter_keeps off d

/-- While the loop reads and the connection is not told to stop, the writer's turn writes and
keeps going: it keeps the loop and does not finish. -/
theorem writeQueued_reading {tid : Nat} (fuel : Nat) :
    ∀ w : World, w.OffLoop c tid → w.Reading c → (w.conn c).shutdown = false →
      Spawns c [] w (World.writeQueued tid c fuel w) := by
  induction fuel with
  | zero => exact fun w _ _ _ => Spawns.refl w
  | succ fuel ih =>
    intro w off reading running
    unfold World.writeQueued
    dsimp only
    split
    · rename_i stopping
      rw [running] at stopping
      cases stopping
    · split
      · rename_i m rest _
        have written := (Spawns.modifyConn (c := c) w c
          (f := fun k => { k with outbound := rest }) fun _ => by rfl).trans_quiet
          (Spawns.receive _ c m)
        have still : ((((w.modifyConn c fun k => { k with outbound := rest }).receive c m)).conn
            c).shutdown = false := by
          rw [← running]
          exact written.shutdown_eq
        exact written.trans_quiet
          (ih _ (written.offLoop off) (written.reading_iff.mpr reading) still)
      · rw [connHeld_of_reading reading]
        exact Spawns.refl w

end World


/-! ### Splitting the request frames -/

theorem filterMap_cons_toList {α β : Type} (f : α → Option β) (a : α) (l : List α) :
    (a :: l).filterMap f = (f a).toList ++ l.filterMap f := by
  cases found : f a <;> simp [found]

/-- Two selections that together select what a third does, element by element, select it together
up to order. -/
theorem perm_filterMap_append {α β : Type} {f g h : α → Option β} (l : List α)
    (split : ∀ a, (f a).toList ++ (g a).toList = (h a).toList) :
    (l.filterMap f ++ l.filterMap g).Perm (l.filterMap h) := by
  induction l with
  | nil => simp
  | cons a rest ih =>
    rw [filterMap_cons_toList f, filterMap_cons_toList g, filterMap_cons_toList h, ← split a]
    -- the heads go first, the tails after them
    have moved : (rest.filterMap f ++ ((g a).toList ++ rest.filterMap g)).Perm
        ((g a).toList ++ rest.filterMap h) :=
      (List.perm_append_comm_assoc _ _ _).trans (ih.append_left _)
    simpa only [List.append_assoc] using moved.append_left (f a).toList

/-- The request frames of a reader's turn are those it answers at once and those it hands to a
handler. -/
theorem inline_handled_perm (router : Router) (frames : List (List UInt8)) :
    ((frames.filterMap (inlineAnswer router)).filterMap answerTo ++
      frames.filterMap (handledBy router)).Perm (frames.filterMap requestOf) := by
  rw [List.filterMap_filterMap]
  exact perm_filterMap_append frames (answer_or_handler router)

/-! ### The loop along a run -/

/-- What holds of the main loop of `c` along every run from a state where it holds: task ids are
distinct, the loop has at most one reader, handlers run only while it reads, and while it reads the
connection is not told to stop and its writer is there. -/
structure LoopWF (c : Nat) (w : World) : Prop where
  numbered : w.WellNumbered
  single : ∀ i j, (i, LoopPart.reading) ∈ w.loop c → (j, LoopPart.reading) ∈ w.loop c → i = j
  handled : w.owed c ≠ [] → w.Reading c
  opened : w.Reading c → (w.conn c).stops = (false, false)

/-- A handler runs only while the loop reads. -/
theorem LoopWF.reading_of_handler {c : Nat} {w : World} (wf : LoopWF c w) {tid : Nat}
    {i : RequestId} {method : String} {work : Work}
    (mem : (tid, Task.handler c i method work) ∈ w.tasks) : w.Reading c :=
  wf.handled fun none => by
    have owes : i ∈ w.owed c :=
      List.mem_filterMap.mpr ⟨(tid, .handling i), World.mem_loop.mpr ⟨_, mem, by simp [Task.loopPart]⟩,
        rfl⟩
    rw [none] at owes
    cases owes

namespace World

/-- The requests a move takes on: the request frames its reader's turn reads while it reads. -/
def requestsRead (w : World) (c : Nat) : LinkOp → List RequestId
  | .turn tid =>
    match w.task? tid with
    | some (.reader c' _ none) => if c' = c then (w.readerFrames c).filterMap requestOf else []
    | _ => []
  | _ => []

/-- The requests the moves of a run take on, in order. -/
def requestsBy (c : Nat) (moves : List (World × LinkOp)) : List RequestId :=
  moves.flatMap fun m => m.1.requestsRead c m.2

@[simp]
theorem requestsBy_nil (c : Nat) : requestsBy c [] = [] := rfl

@[simp]
theorem requestsBy_concat (c : Nat) (moves : List (World × LinkOp)) (w : World) (op : LinkOp) :
    requestsBy c (moves ++ [(w, op)]) = requestsBy c moves ++ w.requestsRead c op := by
  simp [requestsBy]

variable {w : World} {c : Nat}

theorem keeps_dispatchReads (w : World) (c : Nat) (reads : List (List UInt8 × List UInt8)) :
    KeepsSupervisor w (w.dispatchReads c reads) := by
  induction reads generalizing w with
  | nil => exact .refl w
  | cons read rest ih =>
    simp only [dispatchReads, List.foldl_cons]
    exact ((KeepsSupervisor.modifyConn w c _).trans (KeepsSupervisor.dispatch _ c _)).trans (ih _)

theorem keeps_peerStep (w : World) (c : Nat) (op : PeerOp) : KeepsSupervisor w (w.peerStep c op) := by
  cases op with
  | startCall method params => exact KeepsSupervisor.issue w c method params
  | respond id result => exact KeepsSupervisor.deliver w c id result
  | cancel id => exact KeepsSupervisor.cancel w c id
  | expire id method => exact KeepsSupervisor.expire w c id method
  | drop id => exact KeepsSupervisor.forget w c id
  | close => exact KeepsSupervisor.closePeer w c
  | collect id => exact KeepsSupervisor.takeFilled w c id

/-- The reader and a handler of the loop are different tasks. -/
theorem reader_ne_handler (numbered : w.WellNumbered) {j tid : Nat} {i : RequestId}
    (reader : (j, LoopPart.reading) ∈ w.loop c) (handler : (tid, LoopPart.handling i) ∈ w.loop c) :
    j ≠ tid := by
  rintro rfl
  have same := List.inj_on_of_nodup_map numbered.loop_nodup reader handler rfl
  simp at same

end World

/-- One move on the loop of `c` from `w` to `w'` that queues answers to the requests `answered` and
takes on the requests `read`: the loop stays well formed and does not start reading again, and the
answers with the requests still owed are among the requests owed before and those read, all of
them while the loop reads. -/
structure LoopStep (c : Nat) (w w' : World) (answered read : List RequestId) : Prop where
  wf : LoopWF c w'
  reading : w'.Reading c → w.Reading c
  atMostOnce : (answered ++ w'.owed c).Subperm (w.owed c ++ read)
  exactlyOnce : w'.Reading c → (answered ++ w'.owed c).Perm (w.owed c ++ read)

namespace LoopStep

variable {c : Nat} {w w' : World}

/-- A move that keeps the loop, and keeps the connection's marks while the loop reads, answers
nothing and takes nothing on. -/
theorem of_loop_eq (wf : LoopWF c w) (numbered : w'.WellNumbered) (loop : w'.loop c = w.loop c)
    (stops : w.Reading c → (w'.conn c).stops = (w.conn c).stops) : LoopStep c w w' [] [] := by
  have owed : w'.owed c = w.owed c := by rw [World.owed, World.owed, loop]
  have reading : w'.Reading c ↔ w.Reading c := by rw [World.Reading, World.Reading, loop]
  refine ⟨⟨numbered, ?_, ?_, ?_⟩, reading.mp, ?_, fun _ => ?_⟩
  · rw [loop]
    exact wf.single
  · rw [owed]
    exact fun owing => reading.mpr (wf.handled owing)
  · intro now
    rw [stops (reading.mp now)]
    exact wf.opened (reading.mp now)
  · rw [owed, List.nil_append, List.append_nil]
  · rw [owed, List.nil_append, List.append_nil]

theorem of_keeps (wf : LoopWF c w) (numbered : w'.WellNumbered) (keeps : Spawns c [] w w') :
    LoopStep c w w' [] [] :=
  of_loop_eq wf numbered keeps.loop_eq fun _ => keeps.stops

/-- A reader's turn while it reads: it answers at once the request frames it reads whose method
has no handler, hands the others to handlers, and drops every handler if the input has ended. -/
theorem pollReader_reading (present : c < w.conns.size) (wf : LoopWF c w) {tid : Nat}
    {started : Bool} (found : w.task? tid = some (.reader c started none)) :
    LoopStep c w (w.pollReader tid c started none)
      (((w.readerFrames c).filterMap (inlineAnswer w.router)).filterMap answerTo)
      ((w.readerFrames c).filterMap requestOf) := by
  have mem := World.mem_of_task? found
  have listed : (tid, LoopPart.reading) ∈ w.loop c :=
    World.mem_loop.mpr ⟨_, mem, by simp [Task.loopPart]⟩
  have reading : w.Reading c := ⟨tid, listed⟩
  have numbered := (World.KeepsSupervisor.pollReader wf.numbered
    (wf.numbered.notOperation_of_task? found rfl) c started none).numbered wf.numbered
  -- the first turn starts the writer, and the reader stays the loop's reader
  obtain ⟨w₁, begun, conns, router, numbered₁, turn⟩ : ∃ w₁, Spawns c [] w w₁ ∧
      w₁.conns = w.conns ∧ w₁.router = w.router ∧ w₁.WellNumbered ∧
      w.pollReader tid c started none =
        World.readFrames tid c ((w.conn c).inbound.length + 1) w₁ := by
    cases started with
    | true => exact ⟨w, .refl w, rfl, rfl, wf.numbered, rfl⟩
    | false =>
      exact ⟨_, .beginReading wf.numbered mem (by simp [Task.loopPart]), rfl, rfl,
        (wf.numbered.setTask tid _).spawn _, rfl⟩
  have progress : w₁.readProgress c ((w.conn c).inbound.length + 1) =
      w.readProgress c ((w.conn c).inbound.length + 1) := by
    simp only [World.readProgress, World.conn, conns]
  rw [turn, World.readFrames_eq, progress] at numbered ⊢
  have all : Spawns c ((w.readerFrames c).filterMap (handledBy w.router)) w
      (w₁.dispatchReads c (w.readProgress c ((w.conn c).inbound.length + 1)).reads) := by
    have grown := Spawns.dispatchReads (c := c) (w := w₁) (by rw [conns]; exact present)
      (w.readProgress c ((w.conn c).inbound.length + 1)).reads
    rw [router] at grown
    simpa [World.readerFrames, Frame.Progress.frames, List.filterMap_map, Function.comp_def] using
      begun.trans grown
  have split := inline_handled_perm w.router (w.readerFrames c)
  have numbered₂ := (World.keeps_dispatchReads w₁ c
    (w.readProgress c ((w.conn c).inbound.length + 1)).reads).numbered numbered₁
  generalize w₁.dispatchReads c (w.readProgress c ((w.conn c).inbound.length + 1)).reads = w₂
    at all numbered numbered₂ ⊢
  cases ended : (w.readProgress c ((w.conn c).inbound.length + 1)).ended with
  | none =>
    simp only [ended, World.endRead] at numbered ⊢
    -- the reader reads on: requests with a handler join the loop, the others are answered
    have owing : (((w.readerFrames c).filterMap (inlineAnswer w.router)).filterMap answerTo ++
        w₂.owed c).Perm (w.owed c ++ (w.readerFrames c).filterMap requestOf) := by
      rw [all.owed]
      exact (List.perm_append_comm_assoc _ _ _).trans (split.append_left _)
    refine ⟨⟨numbered, fun i j first second => ?_, fun _ => all.reading_iff.mpr reading,
      fun _ => by rw [all.stops, wf.opened reading]⟩, fun _ => reading, owing.subperm,
      fun _ => owing⟩
    exact wf.single i j (all.mem_reading.mp first) (all.mem_reading.mp second)
  | some e =>
    simp only [ended, World.endRead] at numbered ⊢
    -- the input has ended: the handlers are dropped with the reader, and the loop is over
    generalize (e.atFailure (w₂.conn c).readError).result = r at numbered ⊢
    have gone := World.loop_endReading_of_single (c := c) numbered₂
      (fun j mine => wf.single j tid (all.mem_reading.mp mine) listed) r
    have owedNil : (w₂.endReading tid c r).owed c = [] := by
      rw [World.owed, gone]
      rfl
    have empty : ∀ i, (i, LoopPart.reading) ∉ (w₂.endReading tid c r).loop c :=
      fun i mine => by
        rw [gone] at mine
        cases mine
    have done : ¬ (w₂.endReading tid c r).Reading c := by
      rintro ⟨j, mine⟩
      exact empty j mine
    refine ⟨⟨numbered, fun i _ first _ => absurd first (empty i), fun owing => absurd owedNil owing,
      fun now => absurd now done⟩, fun now => absurd now done, ?_, fun now => absurd now done⟩
    rw [owedNil, List.append_nil]
    exact ((List.sublist_append_left _ _).subperm.trans split.subperm).trans
      (List.sublist_append_right _ _).subperm

/-- A reader's turn once its reading has ended: it finishes when the writer has. -/
theorem pollReader_ended (wf : LoopWF c w) {tid : Nat} {started : Bool} {r : Except Error Unit}
    (found : w.task? tid = some (.reader c started (some r))) :
    LoopStep c w (w.pollReader tid c started (some r)) [] [] := by
  have mem := World.mem_of_task? found
  have numbered := (World.KeepsSupervisor.pollReader wf.numbered
    (wf.numbered.notOperation_of_task? found rfl) c started (some r)).numbered wf.numbered
  refine of_keeps wf numbered ?_
  cases started with
  | true =>
    have off := World.offLoop_of_mem (c := c) wf.numbered mem (by simp [Task.loopPart])
    unfold World.pollReader
    simp only [if_true]
    split
    · exact Spawns.finishReader off c r
    · exact Spawns.refl w
  | false =>
    -- it has not run yet, so it still counts as reading: its first turn starts it, and the writer
    -- is there
    have part : (Task.reader c false (some r)).loopPart c = some .reading := by
      simp [Task.loopPart]
    have done : (w.conn c).writerDone = false :=
      congrArg Prod.snd (wf.opened ⟨tid, World.mem_loop.mpr ⟨_, mem, part⟩⟩)
    have same : (((w.setTask tid (.reader c true none)).spawn (.writer c)).1.conn c) = w.conn c :=
      rfl
    unfold World.pollReader
    simp only [Bool.false_eq_true, if_false, same, done]
    exact Spawns.beginReading wf.numbered mem part

/-- A handler's turn: when it answers, its request leaves the loop. -/
theorem pollHandler (wf : LoopWF c w) {tid : Nat} {i : RequestId} {method : String} {work : Work}
    (found : w.task? tid = some (.handler c i method work)) :
    LoopStep c w (w.pollHandler tid c i method work)
      ((w.handlerAnswer method work).map fun _ => i).toList [] := by
  have mem := World.mem_of_task? found
  have listed : (tid, LoopPart.handling i) ∈ w.loop c :=
    World.mem_loop.mpr ⟨_, mem, by simp [Task.loopPart]⟩
  have reading := wf.reading_of_handler mem
  have numbered := (World.KeepsSupervisor.pollHandler (wf.numbered.notOperation_of_task? found rfl)
    c i method work).numbered wf.numbered
  obtain ⟨stops, loop⟩ := World.pollHandler_loop wf.numbered mem
  cases answer : w.handlerAnswer method work with
  | none =>
    simp only [answer, Option.isSome_none, Bool.false_eq_true, if_false] at loop
    exact of_loop_eq wf numbered loop fun _ => stops
  | some r =>
    simp only [answer, Option.isSome_some, if_true] at loop
    -- the handler leaves the loop with its request answered; the reader stays
    have kept : ∀ j, (j, LoopPart.reading) ∈ (w.pollHandler tid c i method work).loop c ↔
        (j, LoopPart.reading) ∈ w.loop c := by
      intro j
      rw [loop, List.mem_filter]
      exact ⟨fun both => both.1, fun mine =>
        ⟨mine, by simpa using World.reader_ne_handler wf.numbered mine listed⟩⟩
    have owing : ([i] ++ (w.pollHandler tid c i method work).owed c).Perm (w.owed c) := by
      rw [World.owed, loop]
      exact World.owed_perm_of_mem wf.numbered listed
    obtain ⟨j, mine⟩ := reading
    have readingNow : (w.pollHandler tid c i method work).Reading c := ⟨j, (kept j).mpr mine⟩
    refine ⟨⟨numbered, fun a b first second => wf.single a b ((kept a).mp first) ((kept b).mp second),
      fun _ => readingNow, fun _ => by rw [stops, wf.opened ⟨j, mine⟩]⟩, fun _ => ⟨j, mine⟩, ?_,
      fun _ => ?_⟩
    · simpa using owing.subperm
    · simpa using owing

/-- The writer's turn: while the loop reads, the writer writes and does not finish. -/
theorem pollWriter (wf : LoopWF c w) {tid : Nat} (found : w.task? tid = some (.writer c)) :
    LoopStep c w (w.pollWriter tid c) [] [] := by
  have off := World.offLoop_of_mem (c := c) wf.numbered (World.mem_of_task? found) rfl
  have numbered := (World.KeepsSupervisor.pollWriter (wf.numbered.notOperation_of_task? found rfl)
    c).numbered wf.numbered
  by_cases reading : w.Reading c
  · have running : (w.conn c).shutdown = false := congrArg Prod.fst (wf.opened reading)
    exact of_keeps wf numbered (World.writeQueued_reading _ w off reading running)
  · exact of_loop_eq wf numbered (World.writeQueued_keeps c _ w off).1 fun now => absurd now reading

theorem pollTimed (wf : LoopWF c w) {tid : Nat} {action : Machine.Timed} {t : Timer}
    (found : w.task? tid = some (.timed c action t)) :
    LoopStep c w (w.pollTimed tid c action t) [] [] :=
  of_keeps wf ((World.KeepsSupervisor.pollTimed (wf.numbered.notOperation_of_task? found rfl) c
    action t).numbered wf.numbered)
    (Spawns.pollTimed (World.offLoop_of_mem (c := c) wf.numbered (World.mem_of_task? found) rfl) c
      action t)

theorem answers_handler (o : Option (Except ResponseError Value)) (i : RequestId) :
    (o.map (Message.response i)).toList.filterMap answerTo = (o.map fun _ => i).toList := by
  cases o <;> rfl

/-- A turn of one of the connection's own tasks does what its kind says; any other task does not
run. -/
theorem turn (present : c < w.conns.size) (wf : LoopWF c w) (tid : Nat) :
    LoopStep c w (w.linkStep c (.turn tid)) ((w.sends c (.turn tid)).filterMap answerTo)
      (w.requestsRead c (.turn tid)) := by
  cases found : w.task? tid with
  | none =>
    simp only [World.linkStep, World.linkTurn, World.sends, World.requestsRead, found,
      List.filterMap_nil]
    exact of_keeps wf wf.numbered (.refl w)
  | some t =>
    -- a task of another connection, or of no connection, does not run
    have idle : t.onConn c = false → w.sends c (.turn tid) = [] → w.requestsRead c (.turn tid) = [] →
        LoopStep c w (w.linkStep c (.turn tid)) ((w.sends c (.turn tid)).filterMap answerTo)
          (w.requestsRead c (.turn tid)) :=
      fun other sends reads => by
        rw [sends, reads]
        simp only [World.linkStep, World.linkTurn_of_other found other, List.filterMap_nil]
        exact of_keeps wf wf.numbered (.refl w)
    have mem := World.mem_of_task? found
    cases t with
    | reader c' started ended =>
      by_cases same : c' = c
      · subst same
        simp only [World.linkStep, World.linkTurn_of_own (c := c') found (by simp [Task.onConn]),
          World.pollTask, found]
        cases ended with
        | none =>
          have done : (w.conn c').writerDone = false := congrArg Prod.snd
            (wf.opened ⟨tid, World.mem_loop.mpr ⟨_, mem, by simp [Task.loopPart]⟩⟩)
          simp only [World.sends, World.requestsRead, found, decide_true, Bool.true_and, done,
            Bool.not_false, if_true]
          exact pollReader_reading present wf found
        | some r =>
          simp only [World.sends, World.requestsRead, found, List.filterMap_nil]
          exact pollReader_ended wf found
      · exact idle (by simp [Task.onConn, same]) (by cases ended <;> simp [World.sends, found, same])
          (by cases ended <;> simp [World.requestsRead, found, same])
    | writer c' =>
      by_cases same : c' = c
      · subst same
        simp only [World.linkStep, World.linkTurn_of_own (c := c') found (by simp [Task.onConn]),
          World.pollTask, found, World.sends, World.requestsRead, List.filterMap_nil]
        exact pollWriter wf found
      · exact idle (by simp [Task.onConn, same]) (by simp [World.sends, found])
          (by simp [World.requestsRead, found])
    | handler c' i method work =>
      by_cases same : c' = c
      · subst same
        have done : (w.conn c').writerDone = false :=
          congrArg Prod.snd (wf.opened (wf.reading_of_handler mem))
        simp only [World.linkStep, World.linkTurn_of_own (c := c') found (by simp [Task.onConn]),
          World.pollTask, found, World.sends, World.requestsRead, decide_true, Bool.true_and, done,
          Bool.not_false, if_true, answers_handler]
        exact pollHandler wf found
      · exact idle (by simp [Task.onConn, same]) (by simp [World.sends, found, same])
          (by simp [World.requestsRead, found])
    | timed c' action timer =>
      by_cases same : c' = c
      · subst same
        simp only [World.linkStep, World.linkTurn_of_own (c := c') found (by simp [Task.onConn]),
          World.pollTask, found, World.sends, World.requestsRead, List.filterMap_nil]
        exact pollTimed wf found
      · exact idle (by simp [Task.onConn, same]) (by simp [World.sends, found])
          (by simp [World.requestsRead, found])
    | call handle target call typed =>
      exact idle rfl (by simp [World.sends, found]) (by simp [World.requestsRead, found])
    | calls handle c' each =>
      exact idle rfl (by simp [World.sends, found]) (by simp [World.requestsRead, found])
    | lifecycle handle op stage =>
      exact idle rfl (by simp [World.sends, found]) (by simp [World.requestsRead, found])
    | monitor c' gen watch =>
      exact idle rfl (by simp [World.sends, found]) (by simp [World.requestsRead, found])
    | restartDelay gen delay timer =>
      exact idle rfl (by simp [World.sends, found]) (by simp [World.requestsRead, found])

/-- Every move on a connection keeps its loop well formed and accounts for the requests it reads
and the answers it queues. -/
theorem linkStep (present : c < w.conns.size) (wf : LoopWF c w) (op : LinkOp) :
    LoopStep c w (w.linkStep c op) ((w.sends c op).filterMap answerTo) (w.requestsRead c op) := by
  cases op with
  | peer op =>
    have quiet : (w.sends c (.peer op)).filterMap answerTo = [] := by
      cases op <;> simp only [World.sends] <;> (try split) <;> rfl
    rw [quiet]
    exact of_keeps wf ((World.keeps_peerStep w c op).numbered wf.numbered) (Spawns.peerStep w op)
  | notify method params =>
    have quiet : (w.sends c (.notify method params)).filterMap answerTo = [] := by
      simp only [World.sends]
      split <;> rfl
    rw [quiet]
    simp only [World.linkStep]
    split
    · rename_i w' sent
      exact of_keeps wf ((World.KeepsSupervisor.notify sent).numbered wf.numbered) (Spawns.notify sent)
    · exact of_keeps wf wf.numbered (.refl w)
  | turn tid => exact turn present wf tid
  | arrive bytes =>
    simp only [World.linkStep]
    split
    · rename_i w' written
      exact of_keeps wf ((World.KeepsSupervisor.serverWrite written).numbered wf.numbered)
        (Spawns.serverWrite written)
    · exact of_keeps wf wf.numbered (.refl w)
  | closeOutput =>
    exact of_keeps wf ((World.KeepsSupervisor.serverCloseOutput w c).numbered wf.numbered)
      (Spawns.serverCloseOutput w c)
  | failRead detail =>
    exact of_keeps wf ((World.KeepsSupervisor.readFails w c detail).numbered wf.numbered)
      (Spawns.readFails w c detail)
  | tick ms => exact of_keeps wf (wf.numbered.congr rfl rfl) (Spawns.of_conns rfl rfl)
  | route router => exact of_keeps wf (wf.numbered.congr rfl rfl) (Spawns.of_conns rfl rfl)

end LoopStep

/-! ### What each response says -/

/-- What a response that a move queues on `c` answers, and with what.

`inline`: a request frame the reader's turn reads whose method has no handler gets method-not-found,
queued before the turn handles the next frame. `handler`: the handler whose turn it is answers its
own request, with the handler's result, an internal error if the handler panicked, or its delayed
result once due. -/
inductive Answers (c : Nat) (w : World) : LinkOp → RequestId → Except ResponseError Value → Prop
  | inline {tid : Nat} {started : Bool} {payload : List UInt8} {id : RequestId} {method : String}
      {params : Value} (reader : w.task? tid = some (.reader c started none))
      (read : payload ∈ w.readerFrames c)
      (request : Message.decode payload = .ok (.request id method params))
      (unhandled : w.router.requestHandler method = none) :
      Answers c w (.turn tid) id (.error (World.methodNotFound method))
  | handler {tid : Nat} {id : RequestId} {method : String} {work : Work}
      {r : Except ResponseError Value} (handler : w.task? tid = some (.handler c id method work))
      (answer : w.handlerAnswer method work = some r) :
      Answers c w (.turn tid) id r

/-- The responses a move queues are those two kinds of answer and no other. -/
theorem response_mem_sends {w : World} {c : Nat} {op : LinkOp} {i : RequestId}
    {r : Except ResponseError Value} (mem : Message.response i r ∈ w.sends c op) :
    Answers c w op i r := by
  cases op with
  | turn tid =>
    simp only [World.sends] at mem
    split at mem
    · rename_i c' started found
      split at mem
      · rename_i own
        obtain ⟨payload, read, answer⟩ := List.mem_filterMap.mp mem
        have mine : c' = c := by simpa using (Bool.and_eq_true _ _).mp own |>.1
        subst mine
        unfold inlineAnswer at answer
        split at answer
        · rename_i id method params decoded
          split at answer
          · cases answer
          · rename_i unhandled
            cases answer
            exact .inline found read decoded unhandled
        · cases answer
      · cases mem
    · rename_i c' id method work found
      split at mem
      · rename_i own
        have mine : c' = c := by simpa using (Bool.and_eq_true _ _).mp own |>.1
        subst mine
        cases answer : w.handlerAnswer method work with
        | none => simp [answer] at mem
        | some r' =>
          simp only [answer, Option.map_some, Option.toList_some, List.mem_singleton,
            Message.response.injEq] at mem
          obtain ⟨rfl, rfl⟩ := mem
          exact .handler found answer
      · cases mem
    · cases mem
  | peer op =>
    cases op <;> simp only [World.sends] at mem <;> (try split at mem) <;> simp at mem
  | notify method params =>
    simp only [World.sends] at mem
    split at mem <;> simp at mem
  | arrive | closeOutput | failRead | tick | route => simp [World.sends] at mem

namespace LinkRun

variable {c : Nat} {w₀ w : World} {moves : List (World × LinkOp)}

/-- Along a run from a well-formed loop, the loop stays well formed, and the answers queued with
the requests still owed are among the requests owed at the start and those read; all of them while
the loop reads. -/
theorem accounts (present : c < w₀.conns.size) (wf : LoopWF c w₀) (run : LinkRun c w₀ w moves) :
    LoopWF c w ∧
    ((World.queuedBy c moves).filterMap answerTo ++ w.owed c).Subperm
      (w₀.owed c ++ World.requestsBy c moves) ∧
    (w.Reading c → ((World.queuedBy c moves).filterMap answerTo ++ w.owed c).Perm
      (w₀.owed c ++ World.requestsBy c moves)) := by
  induction run with
  | start => exact ⟨wf, by simpa using List.Subperm.refl _, fun _ => by simp⟩
  | @step w moves run op ih =>
    obtain ⟨wf', before, whole⟩ := ih
    have step := LoopStep.linkStep (run.size present) wf' op
    rw [World.queuedBy_concat, World.requestsBy_concat, List.filterMap_append]
    refine ⟨step.wf, ?_, fun reading => ?_⟩
    · -- the move's answers and requests go after those of the run so far
      have moved := (List.subperm_append_left ((World.queuedBy c moves).filterMap answerTo)).mpr
        step.atMostOnce
      have earlier := (List.subperm_append_right (w.requestsRead c op)).mpr before
      simp only [List.append_assoc] at moved earlier ⊢
      exact moved.trans earlier
    · have moved := (step.exactlyOnce reading).append_left
        ((World.queuedBy c moves).filterMap answerTo)
      have earlier := (whole (step.reading reading)).append_right (w.requestsRead c op)
      simp only [List.append_assoc] at moved earlier ⊢
      exact moved.trans earlier

end LinkRun

/-- What every run on connection `c` from a well-formed loop does with the server's requests.

`queued`: the messages the moves queue are the ones the connection's queue receives, in order.
`answers`: each response answers a request frame with no handler, with method-not-found, or is the
answer of the handler of its request. `atMostOnce`: no request is answered twice, and no response
answers a request that was not read or owed at the start. `exactlyOnce`: while the loop reads, every
request read is answered once or is still being handled, one response per request frame even when
two carry the same id. -/
structure AnsweredOnce (c : Nat) (w₀ w : World) (moves : List (World × LinkOp)) : Prop where
  queued : World.writtenBy c moves ++ (w.conn c).outbound =
    (w₀.conn c).outbound ++ World.queuedBy c moves
  answers : ∀ v op, (v, op) ∈ moves → ∀ i r, Message.response i r ∈ v.sends c op →
    Answers c v op i r
  atMostOnce : ((World.queuedBy c moves).filterMap answerTo ++ w.owed c).Subperm
    (w₀.owed c ++ World.requestsBy c moves)
  exactlyOnce : w.Reading c → ((World.queuedBy c moves).filterMap answerTo ++ w.owed c).Perm
    (w₀.owed c ++ World.requestsBy c moves)

/-- Every server request is answered once: over every interleaving of what happens on a
connection, the main loop queues one response for each request frame it reads, method-not-found
at once when no handler takes it and the handler's answer otherwise, unless the input ends first
and the handler is dropped, and it queues no other response. -/
theorem answered_once {c : Nat} {w₀ w : World} {moves : List (World × LinkOp)}
    (present : c < w₀.conns.size) (wf : LoopWF c w₀) (run : LinkRun c w₀ w moves) :
    AnsweredOnce c w₀ w moves := by
  obtain ⟨-, atMostOnce, exactlyOnce⟩ := run.accounts present wf
  exact ⟨run.fifo present, fun _ _ _ _ _ mem => response_mem_sends mem, atMostOnce, exactlyOnce⟩

/-- A request for a method nobody handles arrives, and the reader's first turn reads it. -/
theorem answered_once_unknown_method :
    0 < ({ conns := #[{}], tasks := [(0, .reader 0 false none)], nextTask := 1 } : World).conns.size ∧ LoopWF 0 ({ conns := #[{}], tasks := [(0, .reader 0 false none)], nextTask := 1 } : World) ∧
    LinkRun 0 ({ conns := #[{}], tasks := [(0, .reader 0 false none)], nextTask := 1 } : World) ((({ conns := #[{}], tasks := [(0, .reader 0 false none)], nextTask := 1 } : World).linkStep 0 (.arrive (Frame.encode (Message.request (.number 1) "workspace/unknown" .null).encode))).linkStep 0 (.turn 0))
      ([] ++ [(({ conns := #[{}], tasks := [(0, .reader 0 false none)], nextTask := 1 } : World), LinkOp.arrive (Frame.encode (Message.request (.number 1) "workspace/unknown" .null).encode))] ++ [((({ conns := #[{}], tasks := [(0, .reader 0 false none)], nextTask := 1 } : World).linkStep 0 (.arrive (Frame.encode (Message.request (.number 1) "workspace/unknown" .null).encode))), .turn 0)]) ∧
    AnsweredOnce 0 ({ conns := #[{}], tasks := [(0, .reader 0 false none)], nextTask := 1 } : World) ((({ conns := #[{}], tasks := [(0, .reader 0 false none)], nextTask := 1 } : World).linkStep 0 (.arrive (Frame.encode (Message.request (.number 1) "workspace/unknown" .null).encode))).linkStep 0 (.turn 0))
      ([] ++ [(({ conns := #[{}], tasks := [(0, .reader 0 false none)], nextTask := 1 } : World), LinkOp.arrive (Frame.encode (Message.request (.number 1) "workspace/unknown" .null).encode))] ++ [((({ conns := #[{}], tasks := [(0, .reader 0 false none)], nextTask := 1 } : World).linkStep 0 (.arrive (Frame.encode (Message.request (.number 1) "workspace/unknown" .null).encode))), .turn 0)]) :=
  have wf : LoopWF 0 ({ conns := #[{}], tasks := [(0, .reader 0 false none)], nextTask := 1 } : World) :=
    ⟨⟨by simp, by simp⟩, by simp [World.loop, Task.loopPart],
      by simp [World.owed, World.loop, Task.loopPart, LoopPart.handled], fun _ => rfl⟩
  ⟨by decide, wf, (LinkRun.start.step _).step _,
    answered_once (by decide) wf ((LinkRun.start.step _).step _)⟩

end Engine

end LspBridge
