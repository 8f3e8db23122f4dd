import LspBridge.Proofs.ConnectionFrame
/-!
# One queue, one writer

Everything the client sends over a connection goes through its outbound queue. A request is
registered under its id and then put at the back; so are a notification, the `$/cancelRequest` of
a cancellation and the answer to a server request. Only the connection's writer takes from the
queue: from the front, in order, handing each message whole to the server, which decodes it from
its encoding. Framing each payload on the wire is the frame layer's business and is proved there.

`LinkOp` lists what can happen on one connection, in any interleaving: an operation of its peer, a
notification, a turn of one of its own tasks (its reader, its writer, a request handler, a timed
action of its server program), the server writing or shutting its output, reading its output
failing, the clock moving on, and the host changing the handlers. `World.sends` says what each of them puts on the queue and
`World.writes` what the writer takes from it. Each function the moves are made of is first given
the effect it has on the queue (`Pushes` for those that only append, `Traffic` for the writer's);
`linkStep_traffic` assembles them into the effect of one move, `linkStep_registers` adds that a
queued request is already in the call table, and `queue_in_order` carries both along every run.
-/

namespace LspBridge

namespace Engine

open Json Rpc Client

/-- What can happen on one connection.

`peer`: an operation of the peer: `start_call`, an inbound response, `cancel`, a deadline, a dropped
call, `close`, or a caller taking its outcome. `notify`: `notify`. `turn`: a turn of the task with
this id, if it is one of the connection's own. `arrive`: the server writes bytes. `closeOutput`: the
server shuts its output. `failRead`: reading the server's output fails. `tick`: the clock moves on.
`route`: the host changes the handlers. -/
inductive LinkOp where
  | peer (op : PeerOp)
  | notify (method : String) (params : Value)
  | turn (tid : Nat)
  | arrive (bytes : List UInt8)
  | closeOutput
  | failRead (detail : String)
  | tick (ms : Nat)
  | route (router : Router)

namespace Task

/-- Whether a task is one of a connection's own: its reader, its writer, one of its request
handlers, or a timed action of its server program. -/
def onConn (c : Nat) : Task → Bool
  | .reader c' _ _ | .writer c' | .handler c' _ _ _ | .timed c' _ _ => c' == c
  | _ => false

end Task

/-- Whether the server at the other end still reads what the client writes. -/
def Conn.reads (k : Conn) : Bool := !k.serverGone && k.serverReading

/-- The sending side of a connection: its queue, whether its writer is done, and whether its
server reads. -/
def Conn.sendSide (k : Conn) : List Message × Bool × Bool := (k.outbound, k.writerDone, k.reads)

/-- The writer's side of a connection: its queue, whether the writer was told to stop, and whether
its server reads. -/
def Conn.writerSide (k : Conn) : List Message × Bool × Bool := (k.outbound, k.shutdown, k.reads)

/-- What the server of connection `c` records of a message the client wrote: the message it
decodes from the encoding, if it decodes. -/
def received (c : Nat) (m : Message) : Option (Nat × Message) :=
  match Message.decode m.encode with
  | .ok m' => some (c, m')
  | .error _ => none

/-- The answer the reader queues at once for a payload: a request whose method has no handler
gets method-not-found. -/
def inlineAnswer (router : Router) (payload : List UInt8) : Option Message :=
  match Message.decode payload with
  | .ok (.request id method _) =>
    match router.requestHandler method with
    | some _ => none
    | none => some (.response id (.error (World.methodNotFound method)))
  | _ => none

namespace World

/-- A turn of one of a connection's own tasks; no other task runs. -/
def linkTurn (w : World) (c tid : Nat) : World :=
  match w.task? tid with
  | some t => if t.onConn c then w.pollTask tid else w
  | none => w

/-- One move on a connection. A notification or a write that is refused changes nothing. -/
def linkStep (w : World) (c : Nat) : LinkOp → World
  | .peer op => w.peerStep c op
  | .notify method params =>
    match w.notify c method params with
    | .ok w' => w'
    | .error _ => w
  | .turn tid => w.linkTurn c tid
  | .arrive bytes =>
    match w.serverWrite c bytes with
    | .ok w' => w'
    | .error _ => w
  | .closeOutput => w.serverCloseOutput c
  | .failRead detail => w.readFails c detail
  | .tick ms => { w with now := w.now + ms }
  | .route router => { w with router }

/-- The frames a reader's turn reads from what has arrived. -/
def readerFrames (w : World) (c : Nat) : List (List UInt8) :=
  (w.readProgress c ((w.conn c).inbound.length + 1)).frames

/-- The answer a request handler's task gives at a turn, if it answers then: the handler's
result, an internal error if it panicked, or its delayed result once due. -/
def handlerAnswer (w : World) (method : String) : Work → Option (Except ResponseError Value)
  | .run h params =>
    match (h.react method params w.model w.listeners).reaction with
    | .reply r => some r
    | .panic => some (.error (panicked method))
    | .later ms v => if ms = 0 then some (.ok v) else none
  | .sleeping t v => if t.deadline ≤ w.now then some (.ok v) else none

/-- What a move puts at the back of a connection's outbound queue. A request goes under the next
id while the table is open and the writer is there; a notification and a cancellation's
`$/cancelRequest` (for a call in flight) need the same; a reader's turn answers at once each
request frame with no handler, and a handler's task its own request when it answers, while the
writer is there. -/
def sends (w : World) (c : Nat) : LinkOp → List Message
  | .peer (.startCall method params) =>
    if (w.conn c).pending.closed || (w.conn c).writerDone then []
    else [.request (.number (w.conn c).nextId.toInt) method params]
  | .peer (.cancel id) =>
    if ((w.conn c).pending.calls.lookup id).isSome && !(w.conn c).pending.closed &&
        !(w.conn c).writerDone then
      [.notification cancelMethod (Value.obj [("id", id.toValue)])]
    else []
  | .notify method params =>
    if (w.conn c).pending.closed || (w.conn c).writerDone then []
    else [.notification method params]
  | .turn tid =>
    match w.task? tid with
    | some (.reader c' _ none) =>
      if c' = c && !(w.conn c).writerDone then (w.readerFrames c).filterMap (inlineAnswer w.router)
      else []
    | some (.handler c' id method work) =>
      if c' = c && !(w.conn c).writerDone then
        ((w.handlerAnswer method work).map (.response id)).toList
      else []
    | _ => []
  | _ => []

/-- What a move takes from the front of a connection's outbound queue: a turn of its writer
takes everything queued, unless the writer was told to stop. -/
def writes (w : World) (c : Nat) : LinkOp → List Message
  | .turn tid =>
    match w.task? tid with
    | some (.writer c') => if c' = c && !(w.conn c).shutdown then (w.conn c).outbound else []
    | _ => []
  | _ => []

end World

/-- The runs on connection `c` from `w₀` to `w`, with their moves, each beside the world it was
made in. -/
inductive LinkRun (c : Nat) (w₀ : World) : World → List (World × LinkOp) → Prop
  | start : LinkRun c w₀ w₀ []
  | step {w : World} {moves : List (World × LinkOp)} (run : LinkRun c w₀ w moves) (op : LinkOp) :
      LinkRun c w₀ (w.linkStep c op) (moves ++ [(w, op)])

namespace World

/-- A change that puts `xs` at the back of connection `c`'s outbound queue: it keeps the
connections there are, what the servers have received, whether `c`'s writer is done and the
handlers, and a server that no longer reads does not read again. -/
structure Pushes (c : Nat) (xs : List Message) (w w' : World) : Prop where
  size : w'.conns.size = w.conns.size
  queue : (w'.conn c).outbound = (w.conn c).outbound ++ xs
  sent : w'.sent = w.sent
  done : (w'.conn c).writerDone = (w.conn c).writerDone
  router : w'.router = w.router
  reads : (w'.conn c).reads = true → (w.conn c).reads = true

/-- Changing a connection changes it or no connection at all. -/
theorem conn_modifyConn_eq_or (w : World) (c d : Nat) (f : Conn → Conn) :
    (w.modifyConn d f).conn c = w.conn c ∨ (w.modifyConn d f).conn c = f (w.conn c) := by
  by_cases same : c = d
  · subst same
    by_cases present : c < w.conns.size
    · exact .inr (conn_modifyConn_self w c f present)
    · exact .inl (by simp [modifyConn, conn, Nat.le_of_not_lt present])
  · exact .inl (conn_modifyConn_of_ne w f same)

namespace Pushes

variable {c : Nat} {xs ys : List Message} {w w' w₁ w₂ w₃ : World}

theorem refl (w : World) : Pushes c [] w w := ⟨rfl, by simp, rfl, rfl, rfl, id⟩

theorem trans (first : Pushes c xs w₁ w₂) (second : Pushes c ys w₂ w₃) :
    Pushes c (xs ++ ys) w₁ w₃ where
  size := second.size.trans first.size
  queue := by rw [second.queue, first.queue, List.append_assoc]
  sent := second.sent.trans first.sent
  done := second.done.trans first.done
  router := second.router.trans first.router
  reads := first.reads ∘ second.reads

/-- A change that pushes nothing after one that pushes `xs` pushes `xs`. -/
theorem trans_quiet (first : Pushes c xs w₁ w₂) (second : Pushes c [] w₂ w₃) :
    Pushes c xs w₁ w₃ := by
  simpa using first.trans second

instance : IsPreorder World (Pushes c []) where
  refl := Pushes.refl
  trans _ _ _ := Pushes.trans_quiet

/-- A change that keeps the connections, what the servers have received and the handlers pushes
nothing. -/
theorem of_conns (conns : w'.conns = w.conns) (sent : w'.sent = w.sent)
    (router : w'.router = w.router) : Pushes c [] w w' where
  size := by rw [conns]
  queue := by simp [conn, conns]
  sent := sent
  done := by simp [conn, conns]
  router := router
  reads := by simp [conn, conns]

/-- A change of a connection that keeps its queue and its writer's mark, and never makes its
server read again. -/
theorem modifyConn (w : World) (d : Nat) {f : Conn → Conn}
    (outbound : ∀ k, (f k).outbound = k.outbound) (done : ∀ k, (f k).writerDone = k.writerDone)
    (reads : ∀ k, (f k).reads = true → k.reads = true) : Pushes c [] w (w.modifyConn d f) where
  size := size_conns_modifyConn w d f
  queue := by
    rcases conn_modifyConn_eq_or w c d f with same | changed
    · simp [same]
    · simp [changed, outbound]
  sent := rfl
  done := by
    rcases conn_modifyConn_eq_or w c d f with same | changed
    · rw [same]
    · rw [changed, done]
  router := rfl
  reads := by
    rcases conn_modifyConn_eq_or w c d f with same | changed
    · rw [same]
      exact id
    · rw [changed]
      exact reads _

/-- A change of a connection that leaves its sending side alone. -/
theorem keep (w : World) (d : Nat) {f : Conn → Conn} (keeps : ∀ k, (f k).sendSide = k.sendSide) :
    Pushes c [] w (w.modifyConn d f) :=
  modifyConn w d (fun k => congrArg Prod.fst (keeps k))
    (fun k => congrArg (·.2.1) (keeps k)) fun k reads => by
      have same := congrArg (·.2.2) (keeps k)
      simp only [Conn.sendSide] at same
      rwa [← same]

theorem wake (w : World) (tid : Nat) : Pushes c [] w (w.wake tid) := by
  obtain ⟨queue, woken⟩ := w.wake_eq tid
  rw [woken]
  exact of_conns rfl rfl rfl

theorem wakeIf (w : World) (p : Task → Bool) : Pushes c [] w (w.wakeIf p) := by
  obtain ⟨queue, woken⟩ := w.wakeIf_eq p
  rw [woken]
  exact of_conns rfl rfl rfl

theorem setTask (w : World) (tid : Nat) (t : Task) : Pushes c [] w (w.setTask tid t) :=
  of_conns rfl rfl rfl

theorem dropTask (w : World) (tid : Nat) : Pushes c [] w (w.dropTask tid) :=
  of_conns rfl rfl rfl

theorem spawn (w : World) (t : Task) : Pushes c [] w (w.spawn t).1 :=
  of_conns rfl rfl rfl

theorem timer (w : World) (ms : Nat) : Pushes c [] w (w.timer ms).1 :=
  of_conns rfl rfl rfl

theorem note (w : World) (rs : List Value) : Pushes c [] w (w.note rs) :=
  of_conns rfl rfl rfl

/-! ### The connection layer -/

theorem fill (w : World) (d : Nat) (i : RequestId) (o : Outcome) : Pushes c [] w (w.fill d i o) :=
  (keep w d fun _ => by rfl).trans (wakeIf _ _)

theorem takeFilled (w : World) (d : Nat) (i : RequestId) : Pushes c [] w (w.takeFilled d i).2 := by
  unfold World.takeFilled
  split
  · exact keep w d fun _ => by rfl
  · exact refl w

theorem forget (w : World) (d : Nat) (i : RequestId) : Pushes c [] w (w.forget d i).2 := by
  unfold World.forget
  split
  · exact keep w d fun _ => by rfl
  · exact refl w

theorem closePeer (w : World) (d : Nat) : Pushes c [] w (w.closePeer d).2 :=
  (keep w d fun _ => by rfl).trans (World.fillAll_of fill d _ _ _)

theorem deliver (w : World) (d : Nat) (i : RequestId) (r : Except ResponseError Value) :
    Pushes c [] w (w.deliver d i r) := by
  unfold World.deliver
  split
  · exact (keep w d fun _ => by rfl).trans (fill _ d i _)
  · exact refl w

theorem expire (w : World) (d : Nat) (i : RequestId) (method : String) :
    Pushes c [] w (w.expire d i method).1 :=
  World.expire_of forget w d i method

theorem serverWrite {w' : World} {d : Nat} {bytes : List UInt8}
    (written : w.serverWrite d bytes = .ok w') : Pushes c [] w w' := by
  obtain rfl := World.eq_of_serverWrite written
  exact (keep w d fun _ => by rfl).trans (wakeIf _ _)

theorem serverCloseOutput (w : World) (d : Nat) : Pushes c [] w (w.serverCloseOutput d) := by
  unfold World.serverCloseOutput World.wakeReader
  exact (keep w d fun _ => by rfl).trans (wakeIf _ _)

theorem readFails (w : World) (d : Nat) (detail : String) : Pushes c [] w (w.readFails d detail) := by
  unfold World.readFails World.wakeReader
  split
  · exact refl w
  · exact (keep w d fun _ => by rfl).trans (wakeIf _ _)

section Sending

variable (present : c < w.conns.size)
include present

/-- A message is queued exactly while the writer is there. -/
theorem enqueue (m : Message) :
    Pushes c (if (w.conn c).writerDone then [] else [m]) w ((w.enqueue c m).getD w) := by
  by_cases done : (w.conn c).writerDone = true
  · have refused : w.enqueue c m = none := by simp [World.enqueue, done]
    rw [refused, if_pos done]
    exact refl w
  · have appended :
        Pushes c [m] w (w.modifyConn c fun k => { k with outbound := k.outbound ++ [m] }) := by
      refine ⟨size_conns_modifyConn w c _, ?_, rfl, ?_, rfl, ?_⟩
      · rw [conn_modifyConn_self _ _ _ present]
      · rw [conn_modifyConn_self _ _ _ present]
      · rw [conn_modifyConn_self _ _ _ present]
        exact id
    have queued : w.enqueue c m =
        some ((w.modifyConn c fun k => { k with outbound := k.outbound ++ [m] }).wakeWriter c) := by
      simp [World.enqueue, done]
    rw [queued, Option.getD_some, if_neg done]
    exact appended.trans_quiet (wakeIf _ _)

theorem reply (i : RequestId) (r : Except ResponseError Value) :
    Pushes c (if (w.conn c).writerDone then [] else [.response i r]) w (w.reply c i r) :=
  enqueue present _

/-- A notification is queued while the table is open and the writer is there. -/
theorem notify (method : String) (params : Value) :
    Pushes c (if (w.conn c).pending.closed || (w.conn c).writerDone then []
      else [.notification method params]) w
      (match w.notify c method params with
        | .ok w' => w'
        | .error _ => w) := by
  cases closed : (w.conn c).pending.closed with
  | true =>
    have refused : w.notify c method params = .error .serverUnavailable := by
      simp [World.notify, closed]
    rw [refused]
    exact refl w
  | false =>
    have same : (match w.notify c method params with
        | .ok w' => w'
        | .error _ => w) = (w.enqueue c (.notification method params)).getD w := by
      unfold World.notify
      rw [closed]
      cases w.enqueue c (.notification method params) <;> rfl
    rw [same, Bool.false_or]
    exact enqueue present _

/-- `start_call` queues its request under the next id while the table is open and the writer is
there. -/
theorem issue (method : String) (params : Value) :
    Pushes c (if (w.conn c).pending.closed || (w.conn c).writerDone then []
      else [.request (.number (w.conn c).nextId.toInt) method params]) w (w.issue c method params).2 := by
  have counted : Pushes c [] w (w.modifyConn c fun k => { k with nextId := k.nextId + 1 }) :=
    keep w c fun _ => by rfl
  cases closed : (w.conn c).pending.closed with
  | true =>
    rw [issue_of_closed closed]
    exact counted
  | false =>
    have inTable : Pushes c [] w (w.registered c method) :=
      counted.trans (keep _ c fun _ => by rfl)
    cases writing : (w.conn c).writerDone with
    | true =>
      rw [issue_of_writerDone present closed writing]
      exact inTable.trans (forget _ c _)
    | false =>
      -- registered, then queued behind what is there
      have stillWriting : ((w.registered c method).conn c).writerDone = false := by
        rw [conn_registered present]
        exact writing
      have pushed := enqueue (w := w.registered c method) (by simpa [registered] using present)
        (.request (.number (w.conn c).nextId.toInt) method params)
      rw [stillWriting] at pushed
      cases queued :
          (w.registered c method).enqueue c (.request (.number (w.conn c).nextId.toInt) method params) with
      | none => simp [World.enqueue, stillWriting] at queued
      | some w' =>
        rw [queued, Option.getD_some] at pushed
        have issued : (w.issue c method params).2 = w' := by
          simp only [registered] at queued
          simp only [World.issue, register_of_open closed, queued]
        rw [issued]
        exact inTable.trans pushed

/-- Cancelling a call in flight queues its `$/cancelRequest` while the table is open and the
writer is there. -/
theorem cancel (i : RequestId) :
    Pushes c (if ((w.conn c).pending.calls.lookup i).isSome && !(w.conn c).pending.closed &&
        !(w.conn c).writerDone then
      [.notification cancelMethod (Value.obj [("id", i.toValue)])] else []) w (w.cancel c i).2 := by
  cases found : (w.conn c).pending.calls.lookup i with
  | none =>
    rw [World.cancel, forget_of_missing found]
    exact refl w
  | some method =>
    have forgotten : Pushes c [] w
        ((w.modifyConn c fun k => { k with pending := w.tableWithout c i }).fill c i .cancelled) :=
      (keep w c fun _ => by rfl).trans (fill _ c i _)
    have conn₁ := conn_fill_withPending present (w.tableWithout c i) i .cancelled
    have pushed := notify (w := (w.modifyConn c fun k => { k with pending := w.tableWithout c i }).fill
        c i .cancelled) (by simpa using present) cancelMethod (Value.obj [("id", i.toValue)])
    rw [conn₁] at pushed
    have same : (w.cancel c i).2 =
        match ((w.modifyConn c fun k => { k with pending := w.tableWithout c i }).fill c i
            .cancelled).notify c cancelMethod (Value.obj [("id", i.toValue)]) with
        | .ok w' => w'
        | .error _ =>
          (w.modifyConn c fun k => { k with pending := w.tableWithout c i }).fill c i .cancelled := by
      rw [World.cancel, forget_of_called found]
      dsimp only
      cases ((w.modifyConn c fun k => { k with pending := w.tableWithout c i }).fill c i
        .cancelled).notify c cancelMethod (Value.obj [("id", i.toValue)]) <;> rfl
    have kept : (w.tableWithout c i).closed = (w.conn c).pending.closed := by simp [tableWithout]
    rw [same]
    rw [kept] at pushed
    convert forgotten.trans pushed using 1
    cases (w.conn c).pending.closed <;> cases (w.conn c).writerDone <;> rfl

end Sending

/-! ### The server programs -/

theorem programWrite (w : World) (d : Nat) (v : Value) : Pushes c [] w (w.programWrite d v) := by
  unfold World.programWrite
  split
  · exact refl w
  · exact (keep w d fun _ => by rfl).trans (wakeIf _ _)

/-- A process that ends stops its server reading, and never starts it again. -/
theorem processEnds (w : World) (d : Nat) (code : Option Int) :
    Pushes c [] w (w.processEnds d code) := by
  unfold World.processEnds
  split
  · exact refl w
  · dsimp only
    have ended : Pushes c [] w (w.modifyConn d fun k =>
        { k with
          exit := some code
          serverReading := false
          serverGone := true
          inboundClosed := true }) :=
      modifyConn w d (fun _ => rfl) (fun _ => rfl) fun _ reading => by simp [Conn.reads] at reading
    exact (ended.trans (wakeIf _ _)).trans (wakeIf _ _)

theorem modifyProgram (w : World) (d : Nat) (f : Machine.ServerProcess → Machine.ServerProcess) :
    Pushes c [] w (w.modifyProgram d f) :=
  keep w d fun _ => by rfl

theorem programFrame : ProgramFrame (Pushes c []) where
  modifyProgram := Pushes.modifyProgram
  programWrite := Pushes.programWrite
  processEnds := Pushes.processEnds
  timer := Pushes.timer
  spawnTimed w _ _ _ := spawn w _
  closeOutput w d := (keep w d fun _ => by rfl).trans (wakeIf _ _)
  interrupt _ := of_conns rfl rfl rfl

theorem programArrive (w : World) (d : Nat) (m : Option Message) :
    Pushes c [] w (w.programArrive d m) :=
  programFrame.programArrive w d m

theorem programAct (w : World) (d : Nat) (action : Machine.Timed) :
    Pushes c [] w (w.programAct d action) :=
  programFrame.programAct w d action

theorem pollTimed (w : World) (tid d : Nat) (action : Machine.Timed) (t : Timer) :
    Pushes c [] w (w.pollTimed tid d action t) := by
  unfold World.pollTimed
  split
  · exact (programAct w d action).trans (dropTask _ tid)
  · exact refl w

/-! ### The reader and the handlers -/

theorem dropAll (ids : List Nat) (acc : World) : Pushes c [] acc (ids.foldl World.dropTask acc) := by
  induction ids generalizing acc with
  | nil => exact refl acc
  | cons j rest ih => exact (dropTask acc j).trans (ih _)

theorem dropHandlers (w : World) (d : Nat) : Pushes c [] w (w.dropHandlers d) :=
  dropAll _ w

theorem finishReader (w : World) (tid d : Nat) (r : Except Error Unit) :
    Pushes c [] w (w.finishReader tid d r) := by
  unfold World.finishReader World.wakeMonitorOnReader
  exact ((keep w d fun _ => by rfl).trans (dropTask _ tid)).trans (wakeIf _ _)

/-- The end of the reading queues nothing: it closes the table, drops the handlers and tells the
writer to stop. -/
theorem endReading (w : World) (tid d : Nat) (r : Except Error Unit) :
    Pushes c [] w (w.endReading tid d r) := by
  unfold World.endReading
  dsimp only
  have stopped : Pushes c [] w
      ((((w.closePeer d).2.dropHandlers d).modifyConn d fun k =>
        { k with shutdown := true }).wakeWriter d) :=
    ((closePeer w d).trans (dropHandlers _ d)).trans ((keep _ d fun _ => by rfl).trans (wakeIf _ _))
  split
  · exact stopped.trans (finishReader _ tid d r)
  · exact stopped.trans (setTask _ _ _)

theorem endRead (w : World) (tid d : Nat) (ended : Option Frame.End) :
    Pushes c [] w (w.endRead tid d ended) := by
  cases ended with
  | none => exact refl w
  | some e => exact endReading w tid d _

section Answers

variable (present : c < w.conns.size)
include present

/-- Handling one payload answers at once a request whose method has no handler, and queues
nothing else. -/
theorem dispatch (payload : List UInt8) :
    Pushes c (if (w.conn c).writerDone then [] else (inlineAnswer w.router payload).toList) w
      (w.dispatch c payload) := by
  cases decoded : Message.decode payload with
  | error e =>
    simp only [World.dispatch, inlineAnswer, decoded]
    simpa using refl (c := c) w
  | ok m =>
    cases m with
    | response i r =>
      simp only [World.dispatch, inlineAnswer, decoded]
      simpa using deliver (c := c) w c i r
    | notification method params =>
      simp only [World.dispatch, inlineAnswer, decoded]
      cases handler : w.router.notificationHandler method with
      | some h => simpa using note (c := c) w _
      | none => simpa using refl (c := c) w
    | request i method params =>
      simp only [World.dispatch, inlineAnswer, decoded]
      cases handler : w.router.requestHandler method with
      | some h => simpa using spawn (c := c) w (.handler c i method (.run h params))
      | none => exact reply present i _

/-- The frames a reader takes are handled in order, each answered at once if it is a request with
no handler. -/
theorem dispatchReads (reads : List (List UInt8 × List UInt8)) :
    Pushes c (if (w.conn c).writerDone then []
      else (reads.map Prod.fst).filterMap (inlineAnswer w.router)) w (w.dispatchReads c reads) := by
  induction reads generalizing w with
  | nil =>
    simp only [World.dispatchReads, List.foldl_nil, List.map_nil, List.filterMap_nil, ite_self]
    exact refl w
  | cons read rest ih =>
    have moved : Pushes c [] w (w.modifyConn c fun k => { k with inbound := read.2 }) :=
      keep w c fun _ => by rfl
    have handled := dispatch (w := w.modifyConn c fun k => { k with inbound := read.2 })
      (by simpa using present) read.1
    have later := ih (w := (w.modifyConn c fun k => { k with inbound := read.2 }).dispatch c read.1)
      (by rw [handled.size, moved.size]; exact present)
    rw [handled.done, handled.router, moved.done, moved.router] at later
    rw [moved.done, moved.router] at handled
    have all := (moved.trans handled).trans later
    simp only [dispatchReads, List.foldl_cons] at all ⊢
    convert all using 1
    cases (w.conn c).writerDone with
    | true => rfl
    | false =>
      cases answer : inlineAnswer w.router read.1 <;> simp [answer]

/-- A turn of a request handler's task queues its answer, if it answers now. -/
theorem pollHandler (tid : Nat) (i : RequestId) (method : String) (work : Work) :
    Pushes c (if (w.conn c).writerDone then []
      else ((w.handlerAnswer method work).map (.response i)).toList) w
      (w.pollHandler tid c i method work) := by
  cases work with
  | run h params =>
    have noted : Pushes c [] w { w.note (h.react method params w.model w.listeners).records with
        listeners := (h.react method params w.model w.listeners).listeners } :=
      of_conns rfl rfl rfl
    have present₁ : c < ({ w.note (h.react method params w.model w.listeners).records with
        listeners := (h.react method params w.model w.listeners).listeners } : World).conns.size :=
      present
    cases reaction : (h.react method params w.model w.listeners).reaction with
    | reply r =>
      convert (noted.trans (reply present₁ i r)).trans_quiet (dropTask _ tid) using 1
      · simp only [handlerAnswer, reaction]
        rfl
      · simp only [World.pollHandler, reaction]
    | panic =>
      convert (noted.trans (reply present₁ i (.error (panicked method)))).trans_quiet
        (dropTask _ tid) using 1
      · simp only [handlerAnswer, reaction]
        rfl
      · simp only [World.pollHandler, reaction]
    | later ms v =>
      by_cases due : ms = 0
      · subst due
        have present₂ : c < (({ w.note (h.react method params w.model w.listeners).records with
            listeners := (h.react method params w.model w.listeners).listeners } : World).timer
              0).1.conns.size :=
          present
        convert ((noted.trans (timer _ 0)).trans (reply present₂ i (.ok v))).trans_quiet
          (dropTask _ tid) using 1
        · simp only [handlerAnswer, reaction]
          rfl
        · simp only [World.pollHandler, World.timer, reaction, Nat.add_zero, le_refl, if_true]
      · have notDue : ¬ w.now + ms ≤ w.now := by omega
        convert (noted.trans (timer _ ms)).trans
          (setTask _ tid (.handler c i method (.sleeping ⟨w.now + ms, w.timerSeq⟩ v))) using 1
        · simp only [handlerAnswer, reaction, due, if_false, Option.map_none, Option.toList_none,
            ite_self, List.append_nil]
        · simp only [World.pollHandler, World.timer, World.note, reaction, notDue, if_false]
  | sleeping t v =>
    by_cases due : t.deadline ≤ w.now
    · convert (reply present i (.ok v)).trans_quiet (dropTask _ tid) using 1
      · simp only [handlerAnswer, due, if_true]
        rfl
      · simp only [World.pollHandler, due, if_true]
    · convert refl (c := c) w using 1
      · simp only [handlerAnswer, due, if_false, Option.map_none, Option.toList_none, ite_self]
      · simp only [World.pollHandler, due, if_false]

/-- The frames a reader's turn reads are handled in order, each answered at once if it is a
request with no handler. -/
theorem readFrames (tid fuel : Nat) :
    Pushes c (if (w.conn c).writerDone then []
      else (w.readProgress c fuel).frames.filterMap (inlineAnswer w.router)) w
      (World.readFrames tid c fuel w) := by
  rw [readFrames_eq]
  exact (dispatchReads present _).trans_quiet (endRead _ tid c _)

/-- A turn of a reader that still reads answers at once each request frame with no handler;
starting the writer on its first turn queues nothing. -/
theorem pollReader_reading (tid : Nat) (started : Bool) :
    Pushes c (if (w.conn c).writerDone then [] else (w.readerFrames c).filterMap (inlineAnswer w.router))
      w (w.pollReader tid c started none) := by
  unfold World.pollReader
  cases started with
  | true => exact readFrames present tid _
  | false =>
    have begun : Pushes c [] w ((w.setTask tid (.reader c true none)).spawn (.writer c)).1 :=
      (setTask w tid _).trans (spawn _ _)
    exact begun.trans (readFrames (w := ((w.setTask tid (.reader c true none)).spawn (.writer c)).1)
      present tid _)

end Answers

/-- A turn of a reader whose reading has ended queues nothing. -/
theorem pollReader_ended (w : World) (tid : Nat) (started : Bool) (r : Except Error Unit) :
    Pushes c [] w (w.pollReader tid c started (some r)) := by
  unfold World.pollReader
  have begun : Pushes c [] w
      (if started then w else ((w.setTask tid (.reader c true none)).spawn (.writer c)).1) := by
    split
    · exact refl w
    · exact (setTask w tid _).trans (spawn _ _)
  generalize (if started then w else ((w.setTask tid (.reader c true none)).spawn (.writer c)).1) =
    w₁ at begun ⊢
  dsimp only
  split
  · exact begun.trans (finishReader _ tid c r)
  · exact begun

end Pushes

/-- A move on connection `c` that puts `xs` at the back of its outbound queue and takes `ys` from
the front, handing them in order to the server, which records what it decodes while it reads. It
keeps the connections there are, and a server that no longer reads does not read again. -/
structure Traffic (c : Nat) (xs ys : List Message) (w w' : World) : Prop where
  size : w'.conns.size = w.conns.size
  queue : ys ++ (w'.conn c).outbound = (w.conn c).outbound ++ xs
  sent : w'.sent = w.sent ++ if (w.conn c).reads then ys.filterMap (received c) else []
  reads : (w'.conn c).reads = true → (w.conn c).reads = true

namespace Traffic

variable {c : Nat} {xs : List Message} {w w' : World}

theorem of_pushes (pushes : Pushes c xs w w') : Traffic c xs [] w w' where
  size := pushes.size
  queue := pushes.queue
  sent := by simp [pushes.sent]
  reads := pushes.reads

theorem of_conns (conns : w'.conns = w.conns) (sent : w'.sent = w.sent) : Traffic c [] [] w w' where
  size := by rw [conns]
  queue := by simp [conn, conns]
  sent := by simp [sent]
  reads := by simp [conn, conns]

end Traffic

theorem writerSide_programArrive (w : World) (c d : Nat) (m : Option Message) :
    ((w.programArrive d m).conn c).writerSide = (w.conn c).writerSide := by
  unfold World.programArrive
  dsimp only
  split
  · rfl
  · simp only [World.spawn, World.timer, World.modifyProgram]
    exact view_modifyConn Conn.writerSide fun _ => rfl

/-- The server receives one message: it records what it decodes from the message's encoding while
it reads, and the writer's side of every connection stays as it was. -/
theorem receive_spec (w : World) (c : Nat) (m : Message) :
    (w.receive c m).conns.size = w.conns.size ∧
    ((w.receive c m).conn c).writerSide = (w.conn c).writerSide ∧
    (w.receive c m).sent = w.sent ++ if (w.conn c).reads then (received c m).toList else [] := by
  have arrived : ∀ (v : World) (m' : Message),
      (v.programReceive c m').conns.size = v.conns.size ∧
      ((v.programReceive c m').conn c).writerSide = (v.conn c).writerSide ∧
      (v.programReceive c m').sent = v.sent := fun v m' =>
    ⟨(Pushes.programArrive (c := c) v c (some m')).size, writerSide_programArrive v c c (some m'),
      (Pushes.programArrive (c := c) v c (some m')).sent⟩
  cases gone : (w.conn c).serverGone <;> cases reading : (w.conn c).serverReading
  all_goals try simp [World.receive, Conn.reads, gone, reading]
  -- the server reads: it records the message it decodes, if any
  cases decoded : Message.decode m.encode with
  | error e => simp [received, decoded]
  | ok m' =>
    simp only [received, decoded, Option.toList_some]
    cases m' with
    | request i method params =>
      obtain ⟨size', side', sent'⟩ := arrived (({ w with sent := w.sent ++ [(c, .request i method params)] } :
        World).modifyConn c fun k =>
          { k with lastRequests := (method, i) :: k.lastRequests.filter (·.1 != method) })
        (.request i method params)
      refine ⟨by rw [size']; simp, ?_, by rw [sent']; rfl⟩
      rw [side']
      exact view_modifyConn Conn.writerSide fun _ => rfl
    | response i r =>
      obtain ⟨size', side', sent'⟩ :=
        arrived { w with sent := w.sent ++ [(c, .response i r)] } (.response i r)
      exact ⟨size', side', sent'⟩
    | notification method params =>
      obtain ⟨size', side', sent'⟩ := arrived { w with sent := w.sent ++ [(c, .notification method params)] }
        (.notification method params)
      exact ⟨size', side', sent'⟩

namespace Traffic

variable {c : Nat} {xs ys : List Message} {w₁ w₂ w₃ : World}

theorem trans_pushes (first : Traffic c xs ys w₁ w₂) (second : Pushes c [] w₂ w₃) :
    Traffic c xs ys w₁ w₃ where
  size := second.size.trans first.size
  queue := by rw [second.queue, List.append_nil, first.queue]
  sent := by rw [second.sent, first.sent]
  reads := first.reads ∘ second.reads

/-- A change of a connection that keeps its queue and never makes its server read again. -/
theorem modifyConn (w : World) (d : Nat) {f : Conn → Conn}
    (outbound : ∀ k, (f k).outbound = k.outbound)
    (reads : ∀ k, (f k).reads = true → k.reads = true) : Traffic c [] [] w (w.modifyConn d f) where
  size := size_conns_modifyConn w d f
  queue := by
    rcases conn_modifyConn_eq_or w c d f with same | changed
    · simp [same]
    · simp [changed, outbound]
  sent := by simp [World.modifyConn]
  reads := by
    rcases conn_modifyConn_eq_or w c d f with same | changed
    · rw [same]
      exact id
    · rw [changed]
      exact reads _

/-- A writer that finishes leaves the queue as it is; the server's input ends. -/
theorem finishWriter (w : World) (tid c : Nat) : Traffic c [] [] w (w.finishWriter tid c) := by
  unfold World.finishWriter World.wakeDrainingReader World.programInputEnds
  exact (((modifyConn w c (fun _ => by rfl) fun _ => by exact id).trans_pushes
    (Pushes.dropTask _ tid)).trans_pushes (Pushes.wakeIf _ _)).trans_pushes
    (Pushes.programArrive _ c none)

/-- The writer takes queued messages from the front, in order, as far as its fuel goes, and hands
each to the server; told to stop, it takes none. -/
theorem writeQueued (tid c : Nat) (fuel : Nat) (w : World) :
    Traffic c [] (if (w.conn c).shutdown then [] else (w.conn c).outbound.take fuel) w
      (World.writeQueued tid c fuel w) := by
  induction fuel generalizing w with
  | zero =>
    simp only [World.writeQueued, List.take_zero, ite_self]
    exact of_conns rfl rfl
  | succ fuel ih =>
    unfold World.writeQueued
    dsimp only
    by_cases stop : (w.conn c).shutdown = true
    · rw [if_pos stop, if_pos stop]
      exact finishWriter w tid c
    · rw [if_neg stop, if_neg stop]
      cases queue : (w.conn c).outbound with
      | nil =>
        simp only [List.take_nil]
        split
        · exact of_conns rfl rfl
        · exact finishWriter w tid c
      | cons m rest =>
        dsimp only
        -- a queued message means the connection is there
        have present : c < w.conns.size := by
          by_contra outside
          rw [conn_of_size_le (Nat.le_of_not_lt outside)] at queue
          simp at queue
        have popped : (w.modifyConn c fun k => { k with outbound := rest }).conn c =
            { w.conn c with outbound := rest } := conn_modifyConn_self _ _ _ present
        obtain ⟨size₂, side₂, sent₂⟩ :=
          receive_spec (w.modifyConn c fun k => { k with outbound := rest }) c m
        rw [popped] at side₂ sent₂
        simp only [Conn.writerSide, Prod.mk.injEq] at side₂
        obtain ⟨queue₂, shutdown₂, reads₂⟩ := side₂
        have stillReads : (((w.modifyConn c fun k => { k with outbound := rest }).receive c m).conn
            c).reads = (w.conn c).reads := reads₂
        have later := ih ((w.modifyConn c fun k => { k with outbound := rest }).receive c m)
        rw [queue₂, shutdown₂, if_neg stop] at later
        have rest_queue := later.queue
        rw [List.append_nil] at rest_queue
        refine ⟨?_, ?_, ?_, ?_⟩
        · rw [later.size, size₂, size_conns_modifyConn]
        · rw [List.take_succ_cons, List.cons_append, rest_queue, List.append_nil, queue, queue₂]
        · have recorded₂ : ((w.modifyConn c fun k => { k with outbound := rest }).receive c m).sent =
              w.sent ++ if (w.conn c).reads then (received c m).toList else [] := sent₂
          rw [later.sent, stillReads, recorded₂, List.append_assoc]
          by_cases reading : (w.conn c).reads = true
          · cases recorded : received c m <;> simp [recorded, reading]
          · simp [reading]
        · intro reading
          rw [← stillReads]
          exact later.reads reading

/-- A turn of the writer takes everything queued, unless it was told to stop. -/
theorem pollWriter (w : World) (tid c : Nat) :
    Traffic c [] (if (w.conn c).shutdown then [] else (w.conn c).outbound) w (w.pollWriter tid c) := by
  have taken := writeQueued tid c ((w.conn c).outbound.length + 1) w
  rw [List.take_of_length_le (by omega)] at taken
  exact taken

end Traffic

/-! ### One move on a connection -/

section Step

variable {w : World} {c tid : Nat}

theorem linkTurn_of_own {t : Task} (found : w.task? tid = some t) (own : t.onConn c = true) :
    w.linkTurn c tid = w.pollTask tid := by
  simp [linkTurn, found, own]

theorem linkTurn_of_other {t : Task} (found : w.task? tid = some t) (other : t.onConn c = false) :
    w.linkTurn c tid = w := by
  simp [linkTurn, found, other]

theorem ite_not_flag {α : Type} (flag : Bool) (xs : List α) :
    (if (!flag) = true then xs else []) = if flag = true then [] else xs := by
  cases flag <;> rfl

/-- A turn of one of the connection's own tasks does what its kind says; any other task does not
run. -/
theorem turn_traffic (present : c < w.conns.size) (tid : Nat) :
    Traffic c (w.sends c (.turn tid)) (w.writes c (.turn tid)) w (w.linkStep c (.turn tid)) := by
  cases found : w.task? tid with
  | none =>
    simp only [linkStep, linkTurn, sends, writes, found]
    exact .of_conns rfl rfl
  | some t =>
    -- a task of another connection, or of no connection, does not run
    have idle : t.onConn c = false → w.sends c (.turn tid) = [] → w.writes c (.turn tid) = [] →
        Traffic c (w.sends c (.turn tid)) (w.writes c (.turn tid)) w (w.linkStep c (.turn tid)) :=
      fun other sends writes => by
        rw [sends, writes]
        simp only [linkStep, linkTurn_of_other found other]
        exact .of_conns rfl rfl
    cases t with
    | reader c' started ended =>
      by_cases same : c' = c
      · subst same
        simp only [linkStep, linkTurn_of_own (c := c') found (by simp [Task.onConn]), pollTask, found,
          writes]
        cases ended with
        | none =>
          simp only [sends, found, decide_true, Bool.true_and, ite_not_flag]
          exact .of_pushes (Pushes.pollReader_reading present tid started)
        | some r =>
          simp only [sends, found]
          exact .of_pushes (Pushes.pollReader_ended w tid started r)
      · exact idle (by simp [Task.onConn, same]) (by cases ended <;> simp [sends, found, same])
          (by simp [writes, found])
    | writer c' =>
      by_cases same : c' = c
      · subst same
        simp only [linkStep, linkTurn_of_own (c := c') found (by simp [Task.onConn]), pollTask, found,
          sends, writes]
        have taken := Traffic.pollWriter w tid c'
        cases stop : (w.conn c').shutdown <;> simp only [stop] at taken <;> simpa using taken
      · exact idle (by simp [Task.onConn, same]) (by simp [sends, found])
          (by simp [writes, found, same])
    | handler c' i method work =>
      by_cases same : c' = c
      · subst same
        simp only [linkStep, linkTurn_of_own (c := c') found (by simp [Task.onConn]), pollTask, found,
          sends, writes, decide_true, Bool.true_and, ite_not_flag]
        exact .of_pushes (Pushes.pollHandler present tid i method work)
      · exact idle (by simp [Task.onConn, same]) (by simp [sends, found, same])
          (by simp [writes, found])
    | timed c' action timer =>
      by_cases same : c' = c
      · subst same
        simp only [linkStep, linkTurn_of_own (c := c') found (by simp [Task.onConn]), pollTask, found,
          sends, writes]
        exact .of_pushes (Pushes.pollTimed w tid c' action timer)
      · exact idle (by simp [Task.onConn, same]) (by simp [sends, found])
          (by simp [writes, found])
    | call handle target call typed =>
      exact idle rfl (by simp [sends, found]) (by simp [writes, found])
    | calls handle c' each =>
      exact idle rfl (by simp [sends, found]) (by simp [writes, found])
    | lifecycle handle op stage =>
      exact idle rfl (by simp [sends, found]) (by simp [writes, found])
    | monitor c' gen watch =>
      exact idle rfl (by simp [sends, found]) (by simp [writes, found])
    | restartDelay gen delay timer =>
      exact idle rfl (by simp [sends, found]) (by simp [writes, found])

/-- Every move on a connection puts on its queue what `sends` says and takes from it what `writes`
says, handing that to the server. -/
theorem linkStep_traffic (present : c < w.conns.size) (op : LinkOp) :
    Traffic c (w.sends c op) (w.writes c op) w (w.linkStep c op) := by
  cases op with
  | peer op =>
    cases op with
    | startCall method params => exact .of_pushes (Pushes.issue present method params)
    | respond i r => exact .of_pushes (Pushes.deliver w c i r)
    | cancel i => exact .of_pushes (Pushes.cancel present i)
    | expire i method => exact .of_pushes (Pushes.expire w c i method)
    | drop i => exact .of_pushes (Pushes.forget w c i)
    | close => exact .of_pushes (Pushes.closePeer w c)
    | collect i => exact .of_pushes (Pushes.takeFilled w c i)
  | notify method params => exact .of_pushes (Pushes.notify present method params)
  | turn tid => exact turn_traffic present tid
  | arrive bytes =>
    cases written : w.serverWrite c bytes with
    | ok w' =>
      simp only [linkStep, written]
      exact .of_pushes (Pushes.serverWrite written)
    | error e =>
      simp only [linkStep, written]
      exact .of_conns rfl rfl
  | closeOutput => exact .of_pushes (Pushes.serverCloseOutput w c)
  | failRead detail => exact .of_pushes (Pushes.readFails w c detail)
  | tick ms => exact .of_conns rfl rfl
  | route router => exact .of_conns rfl rfl

end Step

/-! ### Only `start_call` sends requests, and it registers them first -/

/-- The reader answers at once only with errors. -/
theorem inlineAnswer_eq_some {router : Router} {payload : List UInt8} {m : Message}
    (answer : inlineAnswer router payload = some m) : ∃ i e, m = .response i (.error e) := by
  unfold inlineAnswer at answer
  split at answer
  · split at answer
    · cases answer
    · cases answer
      exact ⟨_, _, rfl⟩
  · cases answer

/-- A request on the queue was put there by `start_call`, which had registered it under its id
and method by then. -/
theorem linkStep_registers {w : World} {c : Nat} (present : c < w.conns.size) (op : LinkOp)
    {i : RequestId} {method : String} {params : Value}
    (mem : Message.request i method params ∈ w.sends c op) :
    (i, method) ∈ ((w.linkStep c op).conn c).pending.calls := by
  cases op with
  | peer op =>
    cases op with
    | startCall m p =>
      cases closed : (w.conn c).pending.closed <;> cases writing : (w.conn c).writerDone <;>
        simp [sends, closed, writing] at mem
      obtain ⟨rfl, rfl, rfl⟩ := mem
      obtain ⟨w', issued, issuedConn, -⟩ := issue_of_open present method params closed writing
      simp [linkStep, peerStep, issued, issuedConn, conn_registered present]
    | cancel i' =>
      simp only [sends] at mem
      split at mem <;> simp at mem
    | respond | expire | drop | close | collect => simp [sends] at mem
  | notify m p =>
    simp only [sends] at mem
    split at mem <;> simp at mem
  | turn tid =>
    -- the reader and the handlers send only responses
    simp only [sends] at mem
    split at mem
    · split at mem
      · obtain ⟨payload, -, answer⟩ := List.mem_filterMap.mp mem
        obtain ⟨_, _, wrong⟩ := inlineAnswer_eq_some answer
        cases wrong
      · simp at mem
    · split at mem
      · simp at mem
      · simp at mem
    · simp at mem
  | arrive | closeOutput | failRead | tick | route => simp [sends] at mem

/-! ### Runs -/

/-- Everything the moves of a run put on the queue of `c`, in order. -/
def queuedBy (c : Nat) (moves : List (World × LinkOp)) : List Message :=
  moves.flatMap fun m => m.1.sends c m.2

/-- Everything the writer of `c` took from its queue during the moves of a run, in order. -/
def writtenBy (c : Nat) (moves : List (World × LinkOp)) : List Message :=
  moves.flatMap fun m => m.1.writes c m.2

@[simp]
theorem queuedBy_nil (c : Nat) : queuedBy c [] = [] := rfl

@[simp]
theorem queuedBy_concat (c : Nat) (moves : List (World × LinkOp)) (w : World) (op : LinkOp) :
    queuedBy c (moves ++ [(w, op)]) = queuedBy c moves ++ w.sends c op := by
  simp [queuedBy]

@[simp]
theorem writtenBy_nil (c : Nat) : writtenBy c [] = [] := rfl

@[simp]
theorem writtenBy_concat (c : Nat) (moves : List (World × LinkOp)) (w : World) (op : LinkOp) :
    writtenBy c (moves ++ [(w, op)]) = writtenBy c moves ++ w.writes c op := by
  simp [writtenBy]

end World

/-- What holds after every run on a connection `c` from `w₀` to `w`.

`fifo`: what the writer took, followed by what is still queued, is what was queued at the start
followed by everything the moves queued, in order: the writer takes only from the front, and
messages still queued when it stops are the only ones left out. `delivered`: the server received, in
order, a prefix of what the writer took, each message as it decodes it from its encoding; all of it
while it still reads. `registered`: a request was in the call table, under its id and method, as
soon as it was queued. -/
structure QueueInOrder (c : Nat) (w₀ w : World) (moves : List (World × LinkOp)) : Prop where
  fifo : World.writtenBy c moves ++ (w.conn c).outbound =
    (w₀.conn c).outbound ++ World.queuedBy c moves
  delivered : ∃ taken, taken <+: World.writtenBy c moves ∧
    w.sent = w₀.sent ++ taken.filterMap (received c) ∧
    ((w.conn c).reads = true → taken = World.writtenBy c moves)
  registered : ∀ v op, (v, op) ∈ moves → ∀ i method params,
    Message.request i method params ∈ v.sends c op →
      (i, method) ∈ ((v.linkStep c op).conn c).pending.calls

namespace LinkRun

variable {c : Nat} {w₀ w : World} {moves : List (World × LinkOp)}

theorem size (run : LinkRun c w₀ w moves) (present : c < w₀.conns.size) : c < w.conns.size := by
  induction run with
  | start => exact present
  | step _ op ih => rw [(World.linkStep_traffic ih op).size]; exact ih

/-- What the writer took, followed by what is still queued, is what was queued at the start
followed by what the moves queued. -/
theorem fifo (run : LinkRun c w₀ w moves) (present : c < w₀.conns.size) :
    World.writtenBy c moves ++ (w.conn c).outbound =
      (w₀.conn c).outbound ++ World.queuedBy c moves := by
  induction run with
  | start => simp
  | @step w moves run op ih =>
    have traffic := World.linkStep_traffic (run.size present) op
    rw [World.writtenBy_concat, World.queuedBy_concat, List.append_assoc, traffic.queue,
      ← List.append_assoc, ih, List.append_assoc]

end LinkRun

/-- One queue, one writer: over every interleaving of `start_call`, calls, notifications,
cancellations, handler replies and everything else that happens on a connection, the writer
takes messages from the front of the queue in the order they entered it and the server receives
them in that order, and every request was registered before it was queued. -/
theorem queue_in_order {c : Nat} {w₀ w : World} {moves : List (World × LinkOp)}
    (present : c < w₀.conns.size) (run : LinkRun c w₀ w moves) : QueueInOrder c w₀ w moves := by
  induction run with
  | start =>
    exact ⟨by simp, ⟨[], ⟨[], rfl⟩, by simp, fun _ => rfl⟩, by simp⟩
  | @step w moves run op ih =>
    have traffic := World.linkStep_traffic (run.size present) op
    obtain ⟨taken, front, sent, whole⟩ := ih.delivered
    refine ⟨?_, ?_, ?_⟩
    · exact (run.step op).fifo present
    · by_cases reading : (w.conn c).reads = true
      · -- while the server reads it receives everything the writer took
        refine ⟨World.writtenBy c moves ++ w.writes c op, by simp, ?_, fun _ => by simp⟩
        rw [traffic.sent, sent, whole reading, if_pos reading, List.filterMap_append,
          List.append_assoc]
      · refine ⟨taken, front.trans (by simp), ?_, fun reads => absurd (traffic.reads reads) reading⟩
        rw [traffic.sent, sent, if_neg reading, List.append_nil]
    · intro v op' mem
      rcases List.mem_append.mp mem with earlier | last
      · exact ih.registered v op' earlier
      · obtain ⟨rfl, rfl⟩ := List.mem_singleton.mp last
        exact fun i method params queued =>
          World.linkStep_registers (run.size present) _ queued

/-- A notification queued and then written to a server that reads. -/
theorem queue_in_order_notify_then_write :
    0 < ({ conns := #[{}], tasks := [(0, .writer 0)], nextTask := 1 } : World).conns.size ∧
    LinkRun 0 { conns := #[{}], tasks := [(0, .writer 0)], nextTask := 1 }
      ((({ conns := #[{}], tasks := [(0, .writer 0)], nextTask := 1 } : World).linkStep 0
        (.notify "initialized" (Value.obj []))).linkStep 0 (.turn 0))
      ([] ++ [(({ conns := #[{}], tasks := [(0, .writer 0)], nextTask := 1 } : World),
          LinkOp.notify "initialized" (Value.obj []))] ++
        [((({ conns := #[{}], tasks := [(0, .writer 0)], nextTask := 1 } : World).linkStep 0
          (.notify "initialized" (Value.obj []))), .turn 0)]) ∧
    QueueInOrder 0 { conns := #[{}], tasks := [(0, .writer 0)], nextTask := 1 }
      ((({ conns := #[{}], tasks := [(0, .writer 0)], nextTask := 1 } : World).linkStep 0
        (.notify "initialized" (Value.obj []))).linkStep 0 (.turn 0))
      ([] ++ [(({ conns := #[{}], tasks := [(0, .writer 0)], nextTask := 1 } : World),
          LinkOp.notify "initialized" (Value.obj []))] ++
        [((({ conns := #[{}], tasks := [(0, .writer 0)], nextTask := 1 } : World).linkStep 0
          (.notify "initialized" (Value.obj []))), .turn 0)]) :=
  ⟨by decide, (LinkRun.start.step _).step _, queue_in_order (by decide) ((LinkRun.start.step _).step _)⟩

end Engine

end LspBridge
