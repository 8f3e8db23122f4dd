import LspBridge.Proofs.ServerRequests
/-!
# The reading of a connection over a whole run

Over any interleaving of what happens on a connection (`LinkRun`), its reading is the frame
reader run over every byte that has arrived. Each move either feeds the input, adding bytes after
those that have arrived (`World.arrivedBy`), or is a turn of the reader, which takes the frames
that have arrived one at a time, in order, hands each on before reading the next
(`World.framesRead`), and, once the input has ended, a read has failed or a header block is
refused, ends the reading (`World.readingEnd`).

`Feeds` says of a move that it only feeds the input, and is proved for each function a move is
made of, as `Pushes` is for the queue. `Follows` is what the reading has made of the input at a
point of a run; `Follows.step` carries it across one move and `reader_follows_input` along every
run: while the loop reads, the frames handed on are the first frames of the whole input whatever
comes next; once it has ended, they are all its frames, and the reading ended as reading the whole
input ends, with the failed read where a failing input stops.
-/

namespace LspBridge

namespace Engine

open Json Rpc Client

/-- What the reading of a connection reads from, and how its run ended. -/
def Conn.readSide (k : Conn) : (List UInt8 × Bool × Nat × Option String) × Option (Except Error Unit) :=
  (k.input, k.ended)

namespace World

/-- The reading of `c` has returned `r`, or holds `r` to return once the writer has finished. -/
def Returns (w : World) (c : Nat) (r : Except Error Unit) : Prop :=
  (w.conn c).ended = some r ∨ ∃ tid started, (tid, Task.reader c started (some r)) ∈ w.tasks

namespace Returns

variable {c : Nat} {w w' : World} {r : Except Error Unit}

theorem of_tasks (ended : (w'.conn c).ended = (w.conn c).ended) (tasks : w'.tasks ⊆ w.tasks)
    (ret : w'.Returns c r) : w.Returns c r := by
  rcases ret with returned | ⟨tid, started, mem⟩
  · exact .inl (ended ▸ returned)
  · exact .inr ⟨tid, started, tasks mem⟩

theorem of_setTask {tid : Nat} {t : Task} (ret : (w.setTask tid t).Returns c r) :
    w.Returns c r ∨ ∃ started, t = .reader c started (some r) := by
  rcases ret with returned | ⟨j, started, mem⟩
  · exact .inl (.inl returned)
  · rcases mem_setTask.mp mem with ⟨-, same, -⟩ | ⟨-, kept⟩
    · exact .inr ⟨started, same.symm⟩
    · exact .inl (.inr ⟨j, started, kept⟩)

theorem wakeIf_iff (p : Task → Bool) : (w.wakeIf p).Returns c r ↔ w.Returns c r := by
  obtain ⟨queue, woken⟩ := w.wakeIf_eq p
  rw [woken]
  rfl

/-- The end of a reader's run returns its result. -/
theorem of_finishReader {tid d : Nat} {r' : Except Error Unit}
    (ret : (w.finishReader tid d r').Returns c r) : w.Returns c r ∨ (d = c ∧ r = r') := by
  unfold World.finishReader World.wakeMonitorOnReader at ret
  rw [wakeIf_iff] at ret
  rcases ret with returned | ⟨j, started, mem⟩
  · by_cases mine : d = c
    · subst mine
      rcases conn_modifyConn_eq_or w d d (fun k => { k with ended := some r', readerGone := true })
        with kept | changed
      · exact .inl (.inl (by rw [← kept]; exact returned))
      · rw [conn_dropTask, changed] at returned
        exact .inr ⟨rfl, (Option.some.inj returned).symm⟩
    · rw [conn_dropTask, conn_modifyConn_of_ne _ _ (Ne.symm mine)] at returned
      exact .inl (.inl returned)
  · exact .inl (.inr ⟨j, started, (mem_dropTask.mp mem).2⟩)

end Returns

theorem input_finishReader {c : Nat} (w : World) (tid d : Nat) (r : Except Error Unit) :
    ((w.finishReader tid d r).conn c).input = (w.conn c).input := by
  unfold World.finishReader World.wakeMonitorOnReader
  rw [conn_wakeIf, conn_dropTask]
  exact view_modifyConn Conn.input fun _ => rfl

/-- A move that feeds the input of connection `c` and does nothing else to its reading: the bytes
that have arrived stay, perhaps with more after them, the limit on a payload stays, nothing of an
input that has ended changes, and the reading returns nothing it did not hold to return. -/
structure Feeds (c : Nat) (w w' : World) : Prop where
  grows : (w.conn c).inbound <+: (w'.conn c).inbound
  limit : (w'.conn c).maxFrame = (w.conn c).maxFrame
  shut : (w.conn c).inboundClosed = true → (w'.conn c).input = (w.conn c).input
  returns : ∀ r, w'.Returns c r → w.Returns c r

namespace Feeds

variable {c : Nat} {w w' w₀ w₁ w₂ w₃ : World}

theorem refl (w : World) : Feeds c w w := ⟨List.prefix_refl _, rfl, fun _ => rfl, fun _ => id⟩

theorem closed (feeds : Feeds c w₁ w₂) (closed : (w₁.conn c).inboundClosed = true) :
    (w₂.conn c).inboundClosed = true := by
  have kept := congrArg (·.2.1) (feeds.shut closed)
  simp only [Conn.input] at kept
  rw [kept]
  exact closed

theorem trans (first : Feeds c w₁ w₂) (second : Feeds c w₂ w₃) : Feeds c w₁ w₃ where
  grows := first.grows.trans second.grows
  limit := second.limit.trans first.limit
  shut closed := (second.shut (first.closed closed)).trans (first.shut closed)
  returns r := first.returns r ∘ second.returns r

instance : IsPreorder World (Feeds c) where
  refl := Feeds.refl
  trans _ _ _ := Feeds.trans

theorem of_readSide (same : (w'.conn c).readSide = (w.conn c).readSide) (tasks : w'.tasks ⊆ w.tasks) :
    Feeds c w w' := by
  simp only [Conn.readSide, Conn.input, Prod.mk.injEq] at same
  obtain ⟨⟨inbound, closed, limit, error⟩, ended⟩ := same
  exact ⟨by rw [inbound], limit, fun _ => by simp [Conn.input, inbound, closed, limit, error],
    fun _ => Returns.of_tasks ended tasks⟩

theorem of_conns (conns : w'.conns = w.conns) (tasks : w'.tasks ⊆ w.tasks) : Feeds c w w' :=
  of_readSide (by simp [conn, conns]) tasks

/-- A change of a connection that feeds its input: it may add bytes after those that have arrived,
never to an input that has ended, and keeps the limit on a payload and how the reading's run
ended. -/
theorem modifyConn (w : World) (d : Nat) {f : Conn → Conn} (grows : ∀ k, k.inbound <+: (f k).inbound)
    (limit : ∀ k, (f k).maxFrame = k.maxFrame) (ended : ∀ k, (f k).ended = k.ended)
    (shut : d = c → (w.conn c).inboundClosed = true → (f (w.conn c)).input = (w.conn c).input) :
    Feeds c w (w.modifyConn d f) := by
  by_cases same : c = d
  · subst same
    rcases conn_modifyConn_eq_or w c c f with kept | changed
    · exact of_readSide (by rw [kept]) (List.Subset.refl _)
    · refine ⟨?_, ?_, fun closed => ?_, fun _ => Returns.of_tasks ?_ (List.Subset.refl _)⟩ <;>
        rw [changed]
      · exact grows _
      · exact limit _
      · exact shut rfl closed
      · exact ended _
  · exact of_readSide (by rw [conn_modifyConn_of_ne _ _ same]) (List.Subset.refl _)

/-- A change of a connection that leaves its reading alone. -/
theorem keep (w : World) (d : Nat) {f : Conn → Conn} (keeps : ∀ k, (f k).readSide = k.readSide) :
    Feeds c w (w.modifyConn d f) :=
  of_readSide (view_modifyConn Conn.readSide keeps) (List.Subset.refl _)

theorem wake (w : World) (tid : Nat) : Feeds c w (w.wake tid) := by
  obtain ⟨queue, woken⟩ := w.wake_eq tid
  rw [woken]
  exact of_conns rfl (List.Subset.refl _)

theorem wakeIf (w : World) (p : Task → Bool) : Feeds c w (w.wakeIf p) := by
  obtain ⟨queue, woken⟩ := w.wakeIf_eq p
  rw [woken]
  exact of_conns rfl (List.Subset.refl _)

/-- Replacing a task by one that holds no result of the reading of `c`. -/
theorem setTask (w : World) (tid : Nat) {t : Task} (other : ∀ started r, t ≠ .reader c started (some r)) :
    Feeds c w (w.setTask tid t) :=
  ⟨List.prefix_refl _, rfl, fun _ => rfl, fun r ret =>
    (Returns.of_setTask ret).resolve_right fun ⟨started, same⟩ => other started r same⟩

theorem dropTask (w : World) (tid : Nat) : Feeds c w (w.dropTask tid) :=
  of_conns rfl fun _ mem => (mem_dropTask.mp mem).2

/-- Starting a task that holds no result of the reading of `c`. -/
theorem spawn (w : World) {t : Task} (other : ∀ started r, t ≠ .reader c started (some r)) :
    Feeds c w (w.spawn t).1 := by
  refine ⟨List.prefix_refl _, rfl, fun _ => rfl, fun r ret => ?_⟩
  rcases ret with returned | ⟨tid, started, mem⟩
  · exact .inl returned
  · simp only [World.spawn, List.mem_append, List.mem_singleton, Prod.mk.injEq] at mem
    rcases mem with kept | ⟨-, same⟩
    · exact .inr ⟨tid, started, kept⟩
    · exact absurd same.symm (other started r)

theorem timer (w : World) (ms : Nat) : Feeds c w (w.timer ms).1 :=
  of_conns rfl (List.Subset.refl _)

theorem note (w : World) (rs : List Value) : Feeds c w (w.note rs) :=
  of_conns rfl (List.Subset.refl _)

/-! ### The connection layer -/

theorem fill (w : World) (d : Nat) (id : RequestId) (o : Outcome) : Feeds c w (w.fill d id o) :=
  (keep w d fun _ => by rfl).trans (wakeIf _ _)

theorem takeFilled (w : World) (d : Nat) (id : RequestId) : Feeds c w (w.takeFilled d id).2 := by
  unfold World.takeFilled
  split
  · exact keep w d fun _ => by rfl
  · exact refl w

theorem forget (w : World) (d : Nat) (id : RequestId) : Feeds c w (w.forget d id).2 := by
  unfold World.forget
  split
  · exact keep w d fun _ => by rfl
  · exact refl w

theorem enqueue {d : Nat} {m : Message} (queued : w.enqueue d m = some w') : Feeds c w w' := by
  obtain rfl := World.eq_of_enqueue queued
  exact (keep w d fun _ => by rfl).trans (wakeIf _ _)

theorem notify {d : Nat} {method : String} {params : Value}
    (sent : w.notify d method params = .ok w') : Feeds c w w' :=
  enqueue (World.enqueue_of_notify sent)

theorem reply (w : World) (d : Nat) (id : RequestId) (r : Except ResponseError Value) :
    Feeds c w (w.reply d id r) := by
  unfold World.reply
  cases queued : w.enqueue d (.response id r) with
  | none => exact refl w
  | some w' => exact enqueue queued

theorem issue (w : World) (d : Nat) (method : String) (params : Value) :
    Feeds c w (w.issue d method params).2 := by
  unfold World.issue
  dsimp only
  split
  · exact keep w d fun _ => by rfl
  · split
    · rename_i queued
      exact ((keep w d fun _ => by rfl).trans (keep _ d fun _ => by rfl)).trans (enqueue queued)
    · exact ((keep w d fun _ => by rfl).trans (keep _ d fun _ => by rfl)).trans (forget _ d _)

theorem cancel (w : World) (d : Nat) (id : RequestId) : Feeds c w (w.cancel d id).2 :=
  World.cancel_of forget fill w d id fun _ _ sent => notify sent

theorem closePeer (w : World) (d : Nat) : Feeds c w (w.closePeer d).2 :=
  (keep w d fun _ => by rfl).trans (World.fillAll_of fill d _ _ _)

theorem deliver (w : World) (d : Nat) (id : RequestId) (r : Except ResponseError Value) :
    Feeds c w (w.deliver d id r) := by
  unfold World.deliver
  split
  · exact (keep w d fun _ => by rfl).trans (fill _ d id _)
  · exact refl w

theorem peerStep (w : World) (op : PeerOp) : Feeds c w (w.peerStep c op) := by
  cases op with
  | startCall method params => exact issue w c method params
  | respond id result => exact deliver w c id result
  | cancel id => exact cancel w c id
  | expire id method => exact World.expire_of forget w c id method
  | drop id => exact forget w c id
  | close => exact closePeer w c
  | collect id => exact takeFilled w c id

/-! ### The server's side -/

theorem opened_of_serverWrite {d : Nat} {bytes : List UInt8}
    (written : w.serverWrite d bytes = .ok w') : (w.conn d).inboundClosed = false := by
  unfold World.serverWrite at written
  dsimp only at written
  split at written
  · cases written
  · split at written
    · cases written
    · rename_i accepts
      simp only [Bool.or_eq_true, not_or, Bool.not_eq_true] at accepts
      exact accepts.1.2

/-- The server's bytes go after those that have arrived, on an input that has not ended. -/
theorem serverWrite {d : Nat} {bytes : List UInt8} (written : w.serverWrite d bytes = .ok w') :
    Feeds c w w' := by
  have opened := opened_of_serverWrite written
  obtain rfl := World.eq_of_serverWrite written
  refine (modifyConn w d (fun k => List.prefix_append _ _) (fun _ => by rfl) (fun _ => by rfl)
    fun same closed => ?_).trans (wakeIf _ _)
  subst same
  simp [opened] at closed

/-- Ending an input that has ended already changes nothing of it. -/
theorem closeInput (w : World) (d : Nat) {f : Conn → Conn} (inbound : ∀ k, (f k).inbound = k.inbound)
    (limit : ∀ k, (f k).maxFrame = k.maxFrame) (ended : ∀ k, (f k).ended = k.ended)
    (shut : ∀ k, k.inboundClosed = true → (f k).input = k.input) : Feeds c w (w.modifyConn d f) :=
  modifyConn w d (fun k => by simp [inbound]) limit ended fun _ closed => shut _ closed

theorem serverCloseOutput (w : World) (d : Nat) : Feeds c w (w.serverCloseOutput d) := by
  unfold World.serverCloseOutput World.wakeReader
  exact (closeInput w d (fun _ => by rfl) (fun _ => by rfl) (fun _ => by rfl) fun _ closed => by
    simp [Conn.input, closed]).trans (wakeIf _ _)

theorem readFails (w : World) (d : Nat) (detail : String) : Feeds c w (w.readFails d detail) := by
  unfold World.readFails World.wakeReader
  split
  · exact refl w
  · rename_i opened
    refine (modifyConn w d (fun _ => by simp) (fun _ => by rfl) (fun _ => by rfl)
      fun same closed => ?_).trans (wakeIf _ _)
    subst same
    exact absurd closed opened

theorem programWrite (w : World) (d : Nat) (v : Value) : Feeds c w (w.programWrite d v) := by
  unfold World.programWrite
  split
  · exact refl w
  · rename_i opened
    refine (modifyConn w d (fun k => List.prefix_append _ _) (fun _ => by rfl) (fun _ => by rfl)
      fun same closed => ?_).trans (wakeIf _ _)
    subst same
    exact absurd closed opened

theorem processEnds (w : World) (d : Nat) (code : Option Int) : Feeds c w (w.processEnds d code) := by
  unfold World.processEnds
  split
  · exact refl w
  · exact ((closeInput w d (fun _ => by rfl) (fun _ => by rfl) (fun _ => by rfl) fun _ closed => by
      simp [Conn.input, closed]).trans (wakeIf _ _)).trans (wakeIf _ _)

theorem programFrame : ProgramFrame (Feeds c) where
  modifyProgram w d _ := keep w d fun _ => by rfl
  programWrite := Feeds.programWrite
  processEnds := Feeds.processEnds
  timer := Feeds.timer
  spawnTimed w _ _ _ := spawn w (by simp)
  closeOutput w d := (closeInput w d (fun _ => by rfl) (fun _ => by rfl) (fun _ => by rfl)
    fun _ closed => by simp [Conn.input, closed]).trans (wakeIf _ _)
  interrupt _ := of_conns rfl (List.Subset.refl _)

theorem receive (w : World) (d : Nat) (m : Message) : Feeds c w (w.receive d m) := by
  unfold World.receive
  dsimp only
  split
  · exact refl w
  · split
    · rename_i m' _
      refine ((of_conns rfl (List.Subset.refl _) : Feeds c w { w with sent := w.sent ++ [(d, m')] }).trans ?_).trans
        (programFrame.programArrive _ d _)
      split
      · exact keep _ d fun _ => by rfl
      · exact refl _
    · exact refl w

/-! ### The tasks of a connection, other than a reader that reads -/

theorem finishWriter (w : World) (tid d : Nat) : Feeds c w (w.finishWriter tid d) := by
  unfold World.finishWriter World.wakeDrainingReader World.programInputEnds
  exact (((keep w d fun _ => by rfl).trans (dropTask _ tid)).trans (wakeIf _ _)).trans
    (programFrame.programArrive _ d none)

theorem writeQueued (tid d : Nat) (fuel : Nat) : ∀ w : World, Feeds c w (World.writeQueued tid d fuel w) := by
  induction fuel with
  | zero => exact refl
  | succ fuel ih =>
    intro w
    unfold World.writeQueued
    dsimp only
    split
    · exact finishWriter w tid d
    · split
      · exact ((keep w d fun _ => by rfl).trans (receive _ d _)).trans (ih _)
      · split
        · exact refl w
        · exact finishWriter w tid d

theorem pollHandler (w : World) (tid d : Nat) (id : RequestId) (method : String) (work : Work) :
    Feeds c w (w.pollHandler tid d id method work) := by
  cases work with
  | run h params =>
    have noted : Feeds c w { w.note (h.react method params w.model w.listeners).records with
        listeners := (h.react method params w.model w.listeners).listeners } :=
      of_conns rfl (List.Subset.refl _)
    cases reaction : (h.react method params w.model w.listeners).reaction with
    | reply r =>
      simp only [World.pollHandler, reaction]
      exact (noted.trans (reply _ d id r)).trans (dropTask _ tid)
    | panic =>
      simp only [World.pollHandler, reaction]
      exact (noted.trans (reply _ d id _)).trans (dropTask _ tid)
    | later ms v =>
      simp only [World.pollHandler, reaction]
      split
      · exact ((noted.trans (timer _ ms)).trans (reply _ d id _)).trans (dropTask _ tid)
      · exact (noted.trans (timer _ ms)).trans (setTask _ tid (by simp))
  | sleeping t v =>
    simp only [World.pollHandler]
    split
    · exact (reply w d id _).trans (dropTask _ tid)
    · exact refl w

theorem pollTimed (w : World) (tid d : Nat) (action : Machine.Timed) (t : Timer) :
    Feeds c w (w.pollTimed tid d action t) := by
  unfold World.pollTimed
  split
  · exact (programFrame.programAct w d action).trans (dropTask _ tid)
  · exact refl w

/-- A reader's run that ends returns a result the reading held to return, unless it is another
connection's. -/
theorem finishReader (before : Feeds c w₀ w) (tid d : Nat) {r : Except Error Unit}
    (held : d = c → w₀.Returns c r) : Feeds c w₀ (w.finishReader tid d r) := by
  have same := input_finishReader (c := c) w tid d r
  refine ⟨before.grows.trans ?_, ?_, fun closed => ?_, fun r' ret => ?_⟩
  · simp only [Conn.input, Prod.mk.injEq] at same
    rw [same.1]
  · simp only [Conn.input, Prod.mk.injEq] at same
    rw [same.2.2.1]
    exact before.limit
  · rw [same]
    exact before.shut closed
  · rcases Returns.of_finishReader ret with kept | ⟨mine, rfl⟩
    · exact before.returns r' kept
    · exact held mine

theorem dropAll (ids : List Nat) (acc : World) : Feeds c acc (ids.foldl World.dropTask acc) := by
  induction ids generalizing acc with
  | nil => exact refl acc
  | cons j rest ih => exact (dropTask acc j).trans (ih _)

theorem dropHandlers (w : World) (d : Nat) : Feeds c w (w.dropHandlers d) :=
  dropAll _ w

/-- The end of the reading closes the table, drops the handlers and tells the writer to stop,
before the reader finishes or waits for the writer. -/
theorem stopped (w : World) (d : Nat) : Feeds c w
    ((((w.closePeer d).2.dropHandlers d).modifyConn d fun k => { k with shutdown := true }).wakeWriter d) :=
  ((closePeer w d).trans (dropHandlers _ d)).trans ((keep _ d fun _ => by rfl).trans (wakeIf _ _))

/-- A reader whose reading has ended finishes once the writer has, returning what it held. -/
theorem pollReader_ended {tid d : Nat} {started : Bool} {r : Except Error Unit}
    (found : w.task? tid = some (.reader d started (some r))) :
    Feeds c w (w.pollReader tid d started (some r)) := by
  have held : d = c → w.Returns c r := by
    rintro rfl
    exact .inr ⟨tid, started, mem_of_task? found⟩
  unfold World.pollReader
  have begun : Feeds c w (if started then w else ((w.setTask tid (.reader d true none)).spawn
      (.writer d)).1) := by
    split
    · exact refl w
    · exact (setTask w tid (by simp)).trans (spawn _ (by simp))
  generalize (if started then w else ((w.setTask tid (.reader d true none)).spawn (.writer d)).1) =
    w₁ at begun ⊢
  dsimp only
  split
  · exact begun.finishReader tid d held
  · exact begun

/-! ### The frames a reader hands on -/

/-- Handling a frame feeds no input: it leaves the bytes the readers read from as they were. -/
theorem dispatch (w : World) (d : Nat) (payload : List UInt8) : Feeds c w (w.dispatch d payload) := by
  unfold World.dispatch
  split
  · exact refl w
  · exact deliver w d _ _
  · split
    · exact note w _
    · exact refl w
  · split
    · exact spawn w (by simp)
    · exact reply w d _ _

end Feeds

/-! ### What each move does to the reading -/

/-- Whether a move is a turn of a reader of `c` that still reads. -/
def readsOn (w : World) (c : Nat) : LinkOp → Bool
  | .turn tid =>
    match w.task? tid with
    | some (.reader c' _ none) => decide (c' = c)
    | _ => false
  | _ => false

/-- The frames a move hands on: those a reader's turn reads from what has arrived. -/
def framesRead (w : World) (c : Nat) (op : LinkOp) : List (List UInt8) :=
  if w.readsOn c op then w.readerFrames c else []

/-- How a move ends the reading of `c`, if it does: the reader's turn that meets the end of the
input or a bad header block, with the failed read where a failing input stops. -/
def readingEnd (w : World) (c : Nat) (op : LinkOp) : Option Frame.End :=
  if w.readsOn c op then
    (w.readProgress c ((w.conn c).inbound.length + 1)).ended.map (·.atFailure (w.conn c).readError)
  else none

/-- The bytes a move adds to the input of `c`, after those that have arrived. -/
def arrivedBy (w : World) (c : Nat) (op : LinkOp) : List UInt8 :=
  if w.readsOn c op then [] else ((w.linkStep c op).conn c).inbound.drop (w.conn c).inbound.length

/-- The bytes the moves of a run add to the input of `c`, in order. -/
def arrivals (c : Nat) (moves : List (World × LinkOp)) : List UInt8 :=
  moves.flatMap fun m => m.1.arrivedBy c m.2

/-- The frames the moves of a run hand on, in order. -/
def framesBy (c : Nat) (moves : List (World × LinkOp)) : List (List UInt8) :=
  moves.flatMap fun m => m.1.framesRead c m.2

/-- The ends of the reading the moves of a run meet. -/
def endsBy (c : Nat) (moves : List (World × LinkOp)) : List Frame.End :=
  moves.filterMap fun m => m.1.readingEnd c m.2

@[simp]
theorem arrivals_concat (c : Nat) (moves : List (World × LinkOp)) (w : World) (op : LinkOp) :
    arrivals c (moves ++ [(w, op)]) = arrivals c moves ++ w.arrivedBy c op := by
  simp [arrivals]

@[simp]
theorem framesBy_concat (c : Nat) (moves : List (World × LinkOp)) (w : World) (op : LinkOp) :
    framesBy c (moves ++ [(w, op)]) = framesBy c moves ++ w.framesRead c op := by
  simp [framesBy]

@[simp]
theorem endsBy_concat (c : Nat) (moves : List (World × LinkOp)) (w : World) (op : LinkOp) :
    endsBy c (moves ++ [(w, op)]) = endsBy c moves ++ (w.readingEnd c op).toList := by
  cases h : w.readingEnd c op <;> simp [endsBy, h]

variable {w : World} {c : Nat}

theorem readsOn_iff {op : LinkOp} :
    w.readsOn c op = true ↔ ∃ tid started, op = .turn tid ∧ w.task? tid = some (.reader c started none) := by
  constructor
  · intro reads
    cases op with
    | turn tid =>
      simp only [readsOn] at reads
      split at reads
      · rename_i c' started found
        exact ⟨tid, started, rfl, by simpa using (decide_eq_true_iff.mp reads) ▸ found⟩
      · cases reads
    | _ => simp [readsOn] at reads
  · rintro ⟨tid, started, rfl, found⟩
    simp [readsOn, found]

/-- A move other than a reader's turn feeds the input. -/
theorem feeds_linkStep (op : LinkOp) (other : w.readsOn c op = false) : Feeds c w (w.linkStep c op) := by
  cases op with
  | peer op => exact Feeds.peerStep w op
  | notify method params =>
    simp only [linkStep]
    split
    · rename_i w' sent
      exact Feeds.notify sent
    · exact Feeds.refl w
  | turn tid =>
    simp only [linkStep, linkTurn]
    cases found : w.task? tid with
    | none => exact Feeds.refl w
    | some t =>
      simp only
      split
      · rename_i own
        simp only [pollTask, found]
        cases t with
        | reader c' started ended =>
          cases ended with
          | none =>
            have mine : c' = c := by simpa [Task.onConn] using own
            subst mine
            simp [readsOn, found] at other
          | some r => exact Feeds.pollReader_ended found
        | writer c' => exact Feeds.writeQueued tid c' _ w
        | handler c' id method work => exact Feeds.pollHandler w tid c' id method work
        | timed c' action timer => exact Feeds.pollTimed w tid c' action timer
        | _ => simp [Task.onConn] at own
      · exact Feeds.refl w
  | arrive bytes =>
    simp only [linkStep]
    split
    · rename_i w' written
      exact Feeds.serverWrite written
    · exact Feeds.refl w
  | closeOutput => exact Feeds.serverCloseOutput w c
  | failRead detail => exact Feeds.readFails w c detail
  | tick ms => exact Feeds.of_conns rfl (List.Subset.refl _)
  | route router => exact Feeds.of_conns rfl (List.Subset.refl _)

/-- A move other than a reader's turn adds its bytes after those that have arrived. -/
theorem inbound_linkStep (op : LinkOp) (other : w.readsOn c op = false) :
    ((w.linkStep c op).conn c).inbound = (w.conn c).inbound ++ w.arrivedBy c op := by
  obtain ⟨more, grown⟩ := (feeds_linkStep op other).grows
  simp [arrivedBy, other, ← grown]

/-! ### A turn of the reader -/

/-- Handling the frames a reader took leaves its input as the last of them left it. -/
theorem input_dispatchReads (present : c < w.conns.size) (reads : List (List UInt8 × List UInt8)) :
    ((w.dispatchReads c reads).conn c).input =
      ((reads.getLast?.map Prod.snd).getD (w.conn c).inbound, (w.conn c).inboundClosed,
        (w.conn c).maxFrame, (w.conn c).readError) := by
  induction reads generalizing w with
  | nil => simp [dispatchReads, Conn.input]
  | cons read rest ih =>
    have pushed := World.Pushes.dispatch (c := c) (w := w.modifyConn c fun k => { k with inbound := read.2 })
      (by simpa using present) read.1
    have moved : (((w.modifyConn c fun k => { k with inbound := read.2 }).dispatch c read.1).conn c).input =
        (read.2, (w.conn c).inboundClosed, (w.conn c).maxFrame, (w.conn c).readError) := by
      rw [input_dispatch]
      simp [conn_modifyConn_self _ _ _ present, Conn.input]
    have later := ih (w := (w.modifyConn c fun k => { k with inbound := read.2 }).dispatch c read.1)
      (by rw [pushed.size]; simpa using present)
    simp only [Conn.input, Prod.mk.injEq] at moved
    simp only [dispatchReads, List.foldl_cons] at later ⊢
    rw [later, moved.1, moved.2.1, moved.2.2.1, moved.2.2.2, List.getLast?_cons]
    cases rest.getLast? <;> rfl

/-- A turn of a reader that reads: the frames that have arrived are handled one at a time, in
order, in a world whose connections are those before the turn, and the reading then goes on or
ends as the frame reader says. -/
theorem pollReader_reading (tid : Nat) (started : Bool) :
    ∃ u : World, u.conns = w.conns ∧ Feeds c w u ∧ w.pollReader tid c started none =
      (u.dispatchReads c (w.readProgress c ((w.conn c).inbound.length + 1)).reads).endRead tid c
        (w.readProgress c ((w.conn c).inbound.length + 1)).ended := by
  cases started with
  | true => exact ⟨w, rfl, Feeds.refl w, readFrames_eq tid c _ w⟩
  | false =>
    refine ⟨((w.setTask tid (.reader c true none)).spawn (.writer c)).1, rfl,
      (Feeds.setTask w tid (by simp)).trans (Feeds.spawn _ (by simp)), ?_⟩
    have same : (((w.setTask tid (.reader c true none)).spawn (.writer c)).1.conn c) = w.conn c := rfl
    simp only [pollReader, Bool.false_eq_true, if_false]
    rw [readFrames_eq, readProgress, readProgress, same]

/-- A move that is a turn of the reader while it reads. -/
theorem linkStep_of_readsOn {op : LinkOp} (reads : w.readsOn c op = true) :
    ∃ (tid : Nat) (u : World), op = .turn tid ∧ u.conns = w.conns ∧ Feeds c w u ∧ w.linkStep c op =
      (u.dispatchReads c (w.readProgress c ((w.conn c).inbound.length + 1)).reads).endRead tid c
        (w.readProgress c ((w.conn c).inbound.length + 1)).ended := by
  obtain ⟨tid, started, rfl, found⟩ := readsOn_iff.mp reads
  obtain ⟨u, conns, feeds, turn⟩ := pollReader_reading (w := w) (c := c) tid started
  refine ⟨tid, u, rfl, conns, feeds, ?_⟩
  simp only [linkStep, linkTurn_of_own (c := c) found (by simp [Task.onConn]), pollTask, found]
  exact turn

/-- A reader's turn is a turn of a reader of the main loop. -/
theorem reading_of_readsOn {op : LinkOp} (reads : w.readsOn c op = true) : w.Reading c := by
  obtain ⟨tid, started, -, found⟩ := readsOn_iff.mp reads
  exact ⟨tid, mem_loop.mpr ⟨_, mem_of_task? found, by simp [Task.loopPart]⟩⟩

theorem returns_dispatchReads (reads : List (List UInt8 × List UInt8)) {r : Except Error Unit}
    (ret : (w.dispatchReads c reads).Returns c r) : w.Returns c r := by
  induction reads generalizing w with
  | nil => exact ret
  | cons read rest ih =>
    have moved : (w.modifyConn c fun k => { k with inbound := read.2 }).Returns c r → w.Returns c r :=
      Returns.of_tasks (view_modifyConn Conn.ended fun _ => rfl) (List.Subset.refl _)
    exact moved ((Feeds.dispatch _ c read.1).returns r
      (ih (w := (w.modifyConn c fun k => { k with inbound := read.2 }).dispatch c read.1) ret))

/-- The end of the reading returns its result, or holds it until the writer has finished. -/
theorem returns_endReading (tid : Nat) {r r' : Except Error Unit}
    (ret : (w.endReading tid c r).Returns c r') : w.Returns c r' ∨ r' = r := by
  unfold World.endReading at ret
  dsimp only at ret
  have stopped := Feeds.stopped (c := c) w c
  split at ret
  · rcases Returns.of_finishReader ret with kept | ⟨-, rfl⟩
    · exact .inl (stopped.returns r' kept)
    · exact .inr rfl
  · rcases Returns.of_setTask ret with kept | ⟨started, same⟩
    · exact .inl (stopped.returns r' kept)
    · simp only [Task.reader.injEq, Option.some.injEq] at same
      exact .inr same.2.2.symm

/-- The end of the reading leaves the bytes it read from as they were. -/
theorem input_endReading (present : c < w.conns.size) (tid : Nat) (r : Except Error Unit) :
    ((w.endReading tid c r).conn c).input = (w.conn c).input := by
  have closed : ((w.closePeer c).2.conn c).input = (w.conn c).input := by
    rw [conn_closePeer present]
    rfl
  unfold World.endReading
  dsimp only
  split
  · rw [input_finishReader, conn_wakeWriter, view_modifyConn Conn.input, conn_dropHandlers, closed]
    exact fun _ => rfl
  · rw [conn_setTask, conn_wakeWriter, view_modifyConn Conn.input, conn_dropHandlers, closed]
    exact fun _ => rfl

/-- The end of the reading tells the writer to stop. -/
theorem shutdown_endReading (present : c < w.conns.size) (tid : Nat) (r : Except Error Unit) :
    ((w.endReading tid c r).conn c).shutdown = true := by
  have told : (((((w.closePeer c).2.dropHandlers c).modifyConn c fun k =>
      { k with shutdown := true }).wakeWriter c).conn c).shutdown = true := by
    rw [conn_wakeWriter, conn_modifyConn_self _ _ _
      (by simp [World.dropHandlers, conns_foldl_dropTask, present])]
  unfold World.endReading
  dsimp only
  split
  · unfold World.finishReader World.wakeMonitorOnReader
    rw [conn_wakeIf, conn_dropTask, view_modifyConn Conn.shutdown]
    · exact told
    · exact fun _ => rfl
  · exact told

/-! ### The reading along a run -/

/-- What the reading of `c` has made of the whole input `input` when it has handed on `frames`
and met the ends `ends`. While it reads, those frames come first among the frames of the whole
input, whatever follows it, and the rest are read from the bytes not read yet. Once it has ended,
it has ended once and the main loop reads no more: the frames are all those of the whole input,
which ends as the reading met its end, or with the failed read where the input stopped; only a
refused header block ends an input that may still grow. -/
def Follows (c maxFrame : Nat) (w : World) (input : List UInt8) (frames : List (List UInt8)) :
    List Frame.End → Prop
  | [] => (w.conn c).maxFrame = maxFrame ∧ ∀ more, Frame.readAll maxFrame (input ++ more) =
      (frames ++ (Frame.readAll maxFrame ((w.conn c).inbound ++ more)).1,
        (Frame.readAll maxFrame ((w.conn c).inbound ++ more)).2)
  | [e] => ¬ w.Reading c ∧ ∃ e₀, e = e₀.atFailure (w.conn c).readError ∧
      ((w.conn c).inboundClosed = false → ∃ h, e₀ = .failed h) ∧
      ∀ more, ((w.conn c).inboundClosed = true → more = []) →
        Frame.readAll maxFrame (input ++ more) = (frames, e₀)
  | _ :: _ :: _ => False

section Follows

variable {maxFrame : Nat} {input : List UInt8} {frames : List (List UInt8)}

theorem Follows.start (w : World) (c : Nat) :
    Follows c (w.conn c).maxFrame w (w.conn c).inbound [] [] :=
  ⟨rfl, fun _ => rfl⟩

/-- A move that only feeds the input keeps what the reading has made of it, with the bytes it
adds at the end of the whole input. -/
theorem Follows.feed {w' : World} {arrived : List UInt8} {ends : List Frame.End}
    (follows : Follows c maxFrame w input frames ends) (feeds : Feeds c w w')
    (inbound : (w'.conn c).inbound = (w.conn c).inbound ++ arrived)
    (reading : w'.Reading c → w.Reading c) :
    Follows c maxFrame w' (input ++ arrived) frames ends := by
  rcases ends with _ | ⟨e, _ | ⟨e', rest⟩⟩
  · obtain ⟨limit, whole⟩ := follows
    refine ⟨feeds.limit.trans limit, fun more => ?_⟩
    rw [inbound, List.append_assoc, List.append_assoc, whole]
  · obtain ⟨done, e₀, failure, failed, whole⟩ := follows
    refine ⟨fun now => done (reading now), ?_⟩
    cases closed : (w.conn c).inboundClosed with
    | true =>
      -- an input that has ended stays as it was
      have same := feeds.shut closed
      simp only [Conn.input, Prod.mk.injEq] at same
      obtain ⟨kept, stillClosed, -, error⟩ := same
      have nothing : arrived = [] := by simpa [kept] using inbound
      subst nothing
      refine ⟨e₀, by rw [error]; exact failure, fun opened => ?_, fun more finished => ?_⟩
      · rw [stillClosed, closed] at opened
        cases opened
      · rw [List.append_nil]
        exact whole more fun shut => finished (by rw [stillClosed]; exact shut)
    | false =>
      -- only a refused header block ends an input that may still grow
      obtain ⟨h, rfl⟩ := failed closed
      refine ⟨.failed h, by simpa using failure, fun _ => ⟨h, rfl⟩, fun more _ => ?_⟩
      rw [List.append_assoc]
      exact whole _ fun shut => absurd shut (by simp [closed])
  · exact follows.elim

/-- After the frames a reader's turn reads are handled, the reader stands after the last of them,
on the same input. -/
theorem input_dispatchReads_turn (present : c < w.conns.size) {u : World} (conns : u.conns = w.conns) :
    ((u.dispatchReads c (w.readProgress c ((w.conn c).inbound.length + 1)).reads).conn c).input =
      ((w.readProgress c ((w.conn c).inbound.length + 1)).rest, (w.conn c).inboundClosed,
        (w.conn c).maxFrame, (w.conn c).readError) := by
  have same : u.conn c = w.conn c := by simp only [conn, conns]
  rw [input_dispatchReads (by rw [conns]; exact present), same, readProgress, Frame.readArrived_rest]

theorem size_dispatchReads (present : c < w.conns.size) (reads : List (List UInt8 × List UInt8)) :
    c < (w.dispatchReads c reads).conns.size := by
  rw [(Pushes.dispatchReads present reads).size]
  exact present

/-- A turn of the reader while it reads hands on the frames it reads, which come next in the whole
input, and ends the reading once the input has ended, a read has failed or a header block is
refused. -/
theorem Follows.turn (present : c < w.conns.size) (wf : LoopWF c w) {op : LinkOp}
    (reads : w.readsOn c op = true) (follows : Follows c maxFrame w input frames []) :
    Follows c maxFrame (w.linkStep c op) input (frames ++ w.framesRead c op)
      (w.readingEnd c op).toList := by
  obtain ⟨limit, whole⟩ := follows
  have wf' := (LoopStep.linkStep present wf op).wf
  simp only [framesRead, readingEnd, reads, if_true, readerFrames]
  obtain ⟨tid, u, rfl, conns, -, turn⟩ := linkStep_of_readsOn reads
  rw [turn] at wf' ⊢
  have present₁ : c < u.conns.size := by rw [conns]; exact present
  have left := input_dispatchReads_turn present conns
  -- what the turn reads comes first in the whole input, whatever may follow it
  have first : ∀ more, ((w.conn c).inboundClosed = true → more = []) →
      Frame.readAll maxFrame (input ++ more) =
        (frames ++ ((w.readProgress c ((w.conn c).inbound.length + 1)).andThen (Frame.readAll maxFrame
          ((w.readProgress c ((w.conn c).inbound.length + 1)).rest ++ more))).1,
        ((w.readProgress c ((w.conn c).inbound.length + 1)).andThen (Frame.readAll maxFrame
          ((w.readProgress c ((w.conn c).inbound.length + 1)).rest ++ more))).2) := by
    intro more done
    rw [whole more, ← limit, readProgress, Frame.readAll_append_of_readArrived done]
  have closedEnds : (w.conn c).inboundClosed = true →
      (w.readProgress c ((w.conn c).inbound.length + 1)).ended.isSome := fun closed => by
    rw [readProgress, closed]
    exact Frame.readArrived_closed_ended (Nat.lt_succ_self _)
  have openEnds : ∀ e₀, (w.conn c).inboundClosed = false →
      (w.readProgress c ((w.conn c).inbound.length + 1)).ended = some e₀ → ∃ h, e₀ = .failed h :=
    fun e₀ opened ended => by
      rw [readProgress, opened] at ended
      exact Frame.readArrived_open_ended ended
  have present₂ := size_dispatchReads present₁ (w.readProgress c ((w.conn c).inbound.length + 1)).reads
  generalize w.readProgress c ((w.conn c).inbound.length + 1) = p at left first closedEnds openEnds present₂ wf' ⊢
  simp only [Conn.input, Prod.mk.injEq] at left
  obtain ⟨rest, closed, limit₂, error⟩ := left
  cases ended : p.ended with
  | none =>
    -- the input may still grow, and the reader waits for more
    have opened : (w.conn c).inboundClosed = false := by
      cases shut : (w.conn c).inboundClosed
      · rfl
      · simpa [ended] using closedEnds shut
    simp only [endRead]
    refine ⟨limit₂.trans limit, fun more => ?_⟩
    rw [rest, first more fun shut => absurd shut (by simp [opened])]
    simp [Frame.Progress.andThen, ended]
  | some e₀ =>
    -- the reading ends, and with it the main loop
    simp only [endRead, Option.map_some, Option.toList_some]
    rw [ended, endRead] at wf'
    have kept := input_endReading present₂ tid ((e₀.atFailure
      ((u.dispatchReads c p.reads).conn c).readError).result)
    simp only [Conn.input, Prod.mk.injEq] at kept
    obtain ⟨-, closed', -, error'⟩ := kept
    refine ⟨fun now => ?_, e₀, by rw [error', error], fun opened => ?_, fun more done => ?_⟩
    · have told := wf'.opened now
      simp [Conn.stops, shutdown_endReading present₂] at told
    · rw [closed', closed] at opened
      exact openEnds e₀ opened ended
    · rw [closed', closed] at done
      rw [first more done]
      simp [Frame.Progress.andThen, ended]

/-- One move carries what the reading has made of the input. -/
theorem Follows.step {ends : List Frame.End} (present : c < w.conns.size) (wf : LoopWF c w)
    (op : LinkOp) (follows : Follows c maxFrame w input frames ends) :
    Follows c maxFrame (w.linkStep c op) (input ++ w.arrivedBy c op) (frames ++ w.framesRead c op)
      (ends ++ (w.readingEnd c op).toList) := by
  cases reads : w.readsOn c op with
  | false =>
    have quiet : w.framesRead c op = [] ∧ w.readingEnd c op = none := by
      simp [framesRead, readingEnd, reads]
    rw [quiet.1, quiet.2, List.append_nil, Option.toList_none, List.append_nil]
    exact follows.feed (feeds_linkStep op reads) (inbound_linkStep op reads)
      (LoopStep.linkStep present wf op).reading
  | true =>
    rcases ends with _ | ⟨e, _ | ⟨e', rest⟩⟩
    · have nothing : w.arrivedBy c op = [] := by simp [arrivedBy, reads]
      rw [nothing, List.append_nil, List.nil_append]
      exact follows.turn present wf reads
    · exact absurd (reading_of_readsOn reads) follows.1
    · exact follows.elim

end Follows

/-- What the reading returns after a move it held before, or it is the result of the end the move
meets. -/
theorem returns_linkStep (present : c < w.conns.size) (op : LinkOp) {r : Except Error Unit}
    (ret : (w.linkStep c op).Returns c r) :
    w.Returns c r ∨ ∃ e, w.readingEnd c op = some e ∧ r = e.result := by
  cases reads : w.readsOn c op with
  | false => exact .inl ((feeds_linkStep op reads).returns r ret)
  | true =>
    obtain ⟨tid, u, rfl, conns, feeds, turn⟩ := linkStep_of_readsOn reads
    have left := input_dispatchReads_turn present conns
    rw [turn] at ret
    simp only [readingEnd, reads, if_true]
    generalize w.readProgress c ((w.conn c).inbound.length + 1) = p at left ret ⊢
    simp only [Conn.input, Prod.mk.injEq] at left
    cases ended : p.ended with
    | none =>
      simp only [ended, endRead] at ret
      exact .inl (feeds.returns r (returns_dispatchReads _ ret))
    | some e₀ =>
      simp only [ended, endRead] at ret
      rcases returns_endReading tid ret with kept | rfl
      · exact .inl (feeds.returns r (returns_dispatchReads _ kept))
      · exact .inr ⟨_, rfl, by rw [left.2.2.2]⟩

/-- A turn of the reader once the input has ended ends the reading. -/
theorem readingEnd_of_closed {op : LinkOp} (reads : w.readsOn c op = true)
    (closed : (w.conn c).inboundClosed = true) : (w.readingEnd c op).isSome := by
  simp only [readingEnd, reads, if_true, Option.isSome_map, readProgress, closed]
  exact Frame.readArrived_closed_ended (Nat.lt_succ_self _)

/-- The move that ends the reading ends it with its result, on the connection as the reader left
it. -/
theorem linkStep_of_readingEnd (present : c < w.conns.size) {op : LinkOp} {e : Frame.End}
    (ended : w.readingEnd c op = some e) :
    ∃ (tid : Nat) (u : World), c < u.conns.size ∧ w.linkStep c op = u.endReading tid c e.result := by
  cases reads : w.readsOn c op with
  | false => simp [readingEnd, reads] at ended
  | true =>
    obtain ⟨tid, u, rfl, conns, -, turn⟩ := linkStep_of_readsOn reads
    have left := input_dispatchReads_turn present conns
    have present₂ := size_dispatchReads (w := u) (by rw [conns]; exact present)
      (w.readProgress c ((w.conn c).inbound.length + 1)).reads
    simp only [readingEnd, reads, if_true] at ended
    rw [turn]
    generalize w.readProgress c ((w.conn c).inbound.length + 1) = p at left ended present₂ ⊢
    simp only [Conn.input, Prod.mk.injEq] at left
    obtain ⟨e₀, ended₀, rfl⟩ := Option.map_eq_some_iff.mp ended
    refine ⟨tid, u.dispatchReads c p.reads, present₂, ?_⟩
    rw [ended₀, endRead, left.2.2.2]

end World

namespace LinkRun

variable {c : Nat} {w₀ w : World} {moves : List (World × LinkOp)}

/-- Every move of a run is made on a world that has the connection. -/
theorem size_of_mem (run : LinkRun c w₀ w moves) (present : c < w₀.conns.size) {v : World}
    {op : LinkOp} (mem : (v, op) ∈ moves) : c < v.conns.size := by
  induction run with
  | start => cases mem
  | @step w moves run op' ih =>
    rcases List.mem_append.mp mem with earlier | last
    · exact ih earlier
    · simp only [List.mem_singleton, Prod.mk.injEq] at last
      rw [last.1]
      exact run.size present

/-- Along a run from a well-formed loop, the reading follows the whole input, and what it returns
was there at the start or is the result of its end. -/
theorem follows (present : c < w₀.conns.size) (wf : LoopWF c w₀) (run : LinkRun c w₀ w moves) :
    LoopWF c w ∧
    World.Follows c (w₀.conn c).maxFrame w ((w₀.conn c).inbound ++ World.arrivals c moves)
      (World.framesBy c moves) (World.endsBy c moves) ∧
    ∀ r, w.Returns c r → w₀.Returns c r ∨ ∃ e ∈ World.endsBy c moves, r = e.result := by
  induction run with
  | start =>
    exact ⟨wf, by simpa [World.arrivals, World.framesBy, World.endsBy] using World.Follows.start w₀ c,
      fun _ ret => .inl ret⟩
  | @step w moves run op ih =>
    obtain ⟨wf', follows, returns⟩ := ih
    have present' := run.size present
    rw [World.arrivals_concat, World.framesBy_concat, World.endsBy_concat, ← List.append_assoc]
    refine ⟨(LoopStep.linkStep present' wf' op).wf, follows.step present' wf' op, fun r ret => ?_⟩
    rcases World.returns_linkStep present' op ret with kept | ⟨e, ended, rfl⟩
    · rcases returns r kept with start | ⟨e, mem, rfl⟩
      · exact .inl start
      · exact .inr ⟨e, List.mem_append_left _ mem, rfl⟩
    · exact .inr ⟨e, List.mem_append_right _ (by simp [ended]), rfl⟩

end LinkRun

/-- What every run on connection `c` from `w₀` to `w` makes of its input: the bytes there at the
start and those its moves add, in order.

`turns`: each turn of the reader while it reads handles the frames it reads from what has arrived,
one at a time, in order, each after moving past it, in a world whose connections are those before
the turn; then it waits, or ends the reading as the frame reader says. `reading`: while the reading
goes on, the frames handed on come first among the frames of the whole input, whatever follows it,
and the rest are read from the bytes not read yet. `ended`: the reading ends at most once. Then the
frames handed on are all the frames of the whole input, and it ended as reading the whole input
ends, or with the failed read where the input stopped. `finishes`: a turn of the reader once the
input has ended ends the reading. `closes`: the move that ends the reading closes the connection
with its result: the table refuses new calls, and every call in flight has ended as unavailable, in
order. `returns`: what the reading returns, or holds to return once the writer has finished, was
there at the start or is the result of its end. -/
structure ReadsInput (c : Nat) (w₀ w : World) (moves : List (World × LinkOp)) : Prop where
  turns : ∀ v op, (v, op) ∈ moves → v.readsOn c op = true → ∃ (tid : Nat) (u : World),
    op = .turn tid ∧ u.conns = v.conns ∧ v.linkStep c op =
      (u.dispatchReads c (v.readProgress c ((v.conn c).inbound.length + 1)).reads).endRead tid c
        (v.readProgress c ((v.conn c).inbound.length + 1)).ended
  reading : World.endsBy c moves = [] → ∀ more,
    Frame.readAll (w₀.conn c).maxFrame ((w₀.conn c).inbound ++ World.arrivals c moves ++ more) =
      (World.framesBy c moves ++ (Frame.readAll (w₀.conn c).maxFrame ((w.conn c).inbound ++ more)).1,
        (Frame.readAll (w₀.conn c).maxFrame ((w.conn c).inbound ++ more)).2)
  ended : ∀ e ∈ World.endsBy c moves, World.endsBy c moves = [e] ∧ ∃ e₀,
    Frame.readAll (w₀.conn c).maxFrame ((w₀.conn c).inbound ++ World.arrivals c moves) =
      (World.framesBy c moves, e₀) ∧ e = e₀.atFailure (w.conn c).readError
  finishes : ∀ v op, (v, op) ∈ moves → v.readsOn c op = true → (v.conn c).inboundClosed = true →
    (v.readingEnd c op).isSome
  closes : ∀ v op e, (v, op) ∈ moves → v.readingEnd c op = some e → ∃ (tid : Nat) (u : World),
    v.linkStep c op = u.endReading tid c e.result ∧
    ((v.linkStep c op).conn c).pending.closed = true ∧ ((v.linkStep c op).conn c).pending.calls = [] ∧
    ((v.linkStep c op).conn c).filled = (u.conn c).filled ++
      (u.conn c).pending.calls.map fun entry => (entry.1, Outcome.unavailable)
  returns : ∀ r, w.Returns c r → w₀.Returns c r ∨ ∃ e ∈ World.endsBy c moves, r = e.result

/-- The main loop's reading simulates the frame reader over the whole input: over every
interleaving of what happens on a connection, the reader hands on, one at a time and in order, the
frames of all the bytes that have arrived, and its run returns as reading them all ends, with the
failed read where the input stopped; the move that ends it closes the connection first. -/
theorem reader_follows_input {c : Nat} {w₀ w : World} {moves : List (World × LinkOp)}
    (present : c < w₀.conns.size) (wf : LoopWF c w₀) (run : LinkRun c w₀ w moves) :
    ReadsInput c w₀ w moves := by
  obtain ⟨-, follows, returns⟩ := run.follows present wf
  refine ⟨fun v op _ reads => ?_, fun reading => ?_, fun e mem => ?_,
    fun v op _ reads closed => World.readingEnd_of_closed reads closed, fun v op e mem ended => ?_,
    returns⟩
  · obtain ⟨tid, u, rfl, conns, -, turn⟩ := World.linkStep_of_readsOn reads
    exact ⟨tid, u, rfl, conns, turn⟩
  · rw [reading] at follows
    exact follows.2
  · generalize World.endsBy c moves = ends at follows mem ⊢
    rcases ends with _ | ⟨e', _ | ⟨e'', rest⟩⟩
    · cases mem
    · obtain rfl := List.mem_singleton.mp mem
      obtain ⟨-, e₀, failure, -, whole⟩ := follows
      exact ⟨rfl, e₀, by simpa using whole [] fun _ => rfl, failure⟩
    · exact follows.elim
  · obtain ⟨tid, u, present', step⟩ := World.linkStep_of_readingEnd (run.size_of_mem present mem) ended
    have closes := World.endReading_closes present' tid e.result
    rw [← step] at closes
    exact ⟨tid, u, step, closes⟩

/-- Part of a frame arrives and the reader's first turn waits for the rest; the rest arrives, then
reading the server's output fails, and the next turn hands the frame on and ends the reading with
the failed read. -/
theorem reader_follows_input_failed_read :
    ∃ (w : World) (moves : List (World × LinkOp)),
      LinkRun 0 { conns := #[{}], tasks := [(0, .reader 0 false none)], nextTask := 1 } w moves ∧
      World.framesBy 0 moves = [Utf8.encode "null"] ∧
      World.endsBy 0 moves = [.io "connection reset"] ∧
      ReadsInput 0 { conns := #[{}], tasks := [(0, .reader 0 false none)], nextTask := 1 } w moves :=
  have wf : LoopWF 0 ({ conns := #[{}], tasks := [(0, .reader 0 false none)], nextTask := 1 } : World) :=
    ⟨⟨by simp, by simp⟩, by simp [World.loop, Task.loopPart],
      by simp [World.owed, World.loop, Task.loopPart, LoopPart.handled], fun _ => rfl⟩
  have run := ((((LinkRun.start.step (.arrive ((Frame.encode (Utf8.encode "null")).take 12))).step
    (.turn 0)).step (.arrive ((Frame.encode (Utf8.encode "null")).drop 12))).step
    (.failRead "connection reset")).step (.turn 0)
  ⟨_, _, run, by decide +kernel, by decide +kernel, reader_follows_input (by decide) wf run⟩

end Engine

end LspBridge
