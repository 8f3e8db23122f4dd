import LspBridge.Proofs.OutboundQueue
import LspBridge.Proofs.OperationStages
/-!
# What a step may queue, and where

A step of the client puts messages at the back of connections' queues; only a connection's
writer takes any off, from the front. `World.Sends S` says what a step may queue, given the
connections `S` it may send anything on: on every other connection only answers to the server's
requests and the `initialized` notification that ends a handshake. It also says that a new
connection begins with the `initialize` request under id 0, that no task is left holding a call
not yet sent to a connection of its own, that a session runs after the step only if it ran
before or has its capabilities noted as `H` allows, with `initialized` queued after them, that
every handshake under way is tied to the session of its generation and waits for the answer to
its `initialize`, and that a connection some operation waits on for a `shutdown` answer was one
already, or is in `S`.

A handshake's turn looks at its call (`LooksAt`): a result it ends with is the answer that had
come under id 0 on its connection (`World.Heard`), so the capabilities it notes are those of that
answer.

Every function a turn is made of is shown to send so, in the order of the definitions; a turn of
a task (`Sends.pollTask`) may send anything only on the connection of a call it makes itself, on
the session a stop takes the lock over, or on one whose `shutdown` answer it waits for.
-/

namespace LspBridge

namespace Rpc

/-- Whether a message answers a request of the other side. -/
def Message.isResponse : Message → Bool
  | .response .. => true
  | _ => false

end Rpc

namespace Server

/-- Capabilities read from an `initialize` result are the result's `capabilities` object, as
sent. -/
theorem Negotiated.capabilities_of_ofResult {result : Json.Value} {caps : Negotiated}
    (read : Negotiated.ofResult result = .ok caps) :
    result.get? "capabilities" = some (.object caps.raw) := by
  unfold Negotiated.ofResult Negotiated.ofResultWith at read
  split at read
  · rename_i raw found
    cases read
    exact found
  · cases read

end Server

namespace Engine

open Json Rpc Client Server

/-- The notification that ends the handshake of a session. -/
def initializedNote : Message := .notification "initialized" (Value.obj [])

/-- Whether a call is yet to be sent. -/
def Call.isFresh : Call → Bool
  | .fresh .. => true
  | _ => false

/-- The connection a task would send a call of its own on at its next turn, whichever session
runs then: a caller held to a connection, calls made together, or an operation waiting on a
call, each with a call not yet sent. -/
def Task.binds : Task → Option Nat
  | .call _ (.conn c) made _ => if made.isFresh then some c else none
  | .calls _ c each => if each.any Call.isFresh then some c else none
  | .lifecycle _ _ (.handshake _ c made _) | .lifecycle _ _ (.shutdown _ c made) =>
    if made.isFresh then some c else none
  | _ => none

/-- Whether a task is an operation waiting for a handshake or for a `shutdown` answer. -/
def Task.staged : Task → Bool
  | .lifecycle _ _ (.handshake ..) | .lifecycle _ _ (.shutdown ..) => true
  | _ => false

/-- The call of a handshake on connection `c` once sent: it waits under id 0 on `c`. -/
def Call.Initializes (c : Nat) : Call → Prop
  | .waiting c' id _ _ => c' = c ∧ id = .number 0
  | _ => False

namespace World

/-- The server's answer to the `initialize` call, sent under id 0 on connection `c`, has arrived
as a result holding the capabilities `caps`: it is the outcome waiting there under id 0. -/
def Heard (w : World) (c : Nat) (caps : Negotiated) : Prop :=
  ∃ result, (w.conn c).filled.lookup (.number 0) = some (.response (.ok result)) ∧
    Negotiated.ofResult result = .ok caps

/-- The supervisor runs session `r`. -/
def Runs (w : World) (r : SessionRecord) : Prop :=
  w.supervision.state = .running ∧ w.supervision.session = some r

/-- Session `r` has announced itself: its capabilities are noted as `H` allows them on its
connection once `q` is queued there, and `initialized` is queued after `q`. -/
def Announced (w : World) (H : Nat → Negotiated → List Message → Prop) (r : SessionRecord) :
    Prop :=
  ∃ caps q post, r.capabilities = some caps ∧ H r.conn caps q ∧
    (w.conn r.conn).outbound = q ++ post ∧ initializedNote ∈ post

/-- What a change put at the back of connection `c`'s queue. -/
def added (w w' : World) (c : Nat) : List Message :=
  (w'.conn c).outbound.drop (w.conn c).outbound.length

/-- Some operation waits for a `shutdown` answer on connection `c`. -/
def StopsOn (w : World) (c : Nat) : Prop :=
  ∃ j handle op gen call, (j, Task.lifecycle handle op (.shutdown gen c call)) ∈ w.tasks

/-- A handshake of generation `gen` on connection `c` belongs to the supervisor: the connection is
there, no later generation has begun, and a session of that generation is on `c`. -/
def Holds (w : World) (gen c : Nat) : Prop :=
  c < w.conns.size ∧ ∀ s, w.sup = some s →
    gen ≤ s.generation ∧ ∀ r, s.session = some r → r.generation = gen → r.conn = c

/-- Every handshake under way belongs to the supervisor, and waits for the answer to its
`initialize` call. -/
def Tied (w : World) : Prop :=
  ∀ j handle op gen c call t, (j, Task.lifecycle handle op (.handshake gen c call t)) ∈ w.tasks →
    w.Holds gen c ∧ call.Initializes c

/-- What a step may queue on connection `d` when it may send anything on the connections `S`: an
answer to the server, the notification ending a handshake, or anything on `S`. -/
def Allows (S : Nat → Prop) (d : Nat) (m : Message) : Prop :=
  m.isResponse = true ∨ m = initializedNote ∨ S d

/-- A change that sends as `S` allows and notes capabilities only as `H` allows: see the module's
introduction. -/
structure Sends (S : Nat → Prop) (H : Nat → Negotiated → List Message → Prop) (w w' : World) :
    Prop where
  front : ∀ d, (w.conn d).outbound <+: (w'.conn d).outbound
  allowed : ∀ d, d < w.conns.size → ∀ m ∈ w.added w' d, Allows S d m
  opened : ∀ d, w.conns.size ≤ d → d < w'.conns.size → ∃ params rest,
    (w'.conn d).outbound = .request (.number 0) "initialize" params :: rest ∧
      ∀ m ∈ rest, Allows S d m
  grows : w.conns.size ≤ w'.conns.size
  unbound : ∀ e ∈ w'.tasks, e.2.binds = none ∨ e ∈ w.tasks
  runs : ∀ r, w'.Runs r → w.Runs r ∨ w'.Announced H r
  tied : w.Tied → w'.Tied
  stops : ∀ c, w'.StopsOn c → w.StopsOn c ∨ S c
  sessions : ∀ r', w'.supervision.session = some r' →
    (∃ r, w.supervision.session = some r ∧ r.generation = r'.generation ∧ r.conn = r'.conn) ∨
      w.conns.size ≤ r'.conn ∧ r'.conn < w'.conns.size

theorem append_added {w w' : World} {c : Nat} (front : (w.conn c).outbound <+: (w'.conn c).outbound) :
    (w'.conn c).outbound = (w.conn c).outbound ++ w.added w' c := by
  obtain ⟨rest, split⟩ := front
  rw [added, ← split, List.drop_left]

theorem added_trans {w₁ w₂ w₃ : World} {c : Nat}
    (first : (w₁.conn c).outbound <+: (w₂.conn c).outbound)
    (second : (w₂.conn c).outbound <+: (w₃.conn c).outbound) :
    w₁.added w₃ c = w₁.added w₂ c ++ w₂.added w₃ c := by
  have whole := append_added (first.trans second)
  rw [append_added second, append_added first, List.append_assoc] at whole
  exact (List.append_cancel_left whole).symm

theorem added_of_eq {w w' : World} {c : Nat} (same : (w'.conn c).outbound = (w.conn c).outbound) :
    w.added w' c = [] := by
  rw [added, same, List.drop_length]

/-- What a change queues after a queue that extends the one it started from is among what it
added. -/
theorem mem_added_of_prefix {w w' : World} {c : Nat} {q post : List Message} {m : Message}
    (front : (w.conn c).outbound <+: (w'.conn c).outbound) (longer : (w.conn c).outbound <+: q)
    (queued : (w'.conn c).outbound = q ++ post) (mem : m ∈ post) : m ∈ w.added w' c := by
  obtain ⟨more, rfl⟩ := longer
  have split := append_added front
  rw [queued, List.append_assoc] at split
  rw [← List.append_cancel_left split]
  exact List.mem_append_right more mem

/-- An answer has come only on a connection that is open. -/
theorem Heard.present {w : World} {d : Nat} {caps : Negotiated} (heard : w.Heard d caps) :
    d < w.conns.size := by
  obtain ⟨result, found, -⟩ := heard
  by_contra outside
  rw [conn_of_size_le (Nat.le_of_not_lt outside)] at found
  cases found

theorem Runs.of_sup {w w' : World} (sup : w'.sup = w.sup) {r : SessionRecord} :
    w'.Runs r ↔ w.Runs r := by
  simp [Runs, supervision, sup]

theorem Announced.of_front {w w' : World} {H : Nat → Negotiated → List Message → Prop}
    {r : SessionRecord}
    (front : (w.conn r.conn).outbound <+: (w'.conn r.conn).outbound) (announced : w.Announced H r) :
    w'.Announced H r := by
  obtain ⟨caps, q, post, noted, allowed, queued, note⟩ := announced
  obtain ⟨more, grown⟩ := front
  exact ⟨caps, q, post ++ more, noted, allowed, by rw [← grown, queued, List.append_assoc],
    List.mem_append_left more note⟩

/-- A change that keeps the supervisor and every task waiting at a handshake, and closes no
connection, keeps them tied. -/
theorem Tied.of_sup {w w' : World} (sup : w'.sup = w.sup) (size : w.conns.size ≤ w'.conns.size)
    (staged : ∀ j handle op gen c call t,
      (j, Task.lifecycle handle op (.handshake gen c call t)) ∈ w'.tasks →
        (j, Task.lifecycle handle op (.handshake gen c call t)) ∈ w.tasks)
    (tied : w.Tied) : w'.Tied := by
  intro j handle op gen c call t mem
  obtain ⟨⟨present, holds⟩, first⟩ := tied j handle op gen c call t (staged j handle op gen c call t mem)
  refine ⟨⟨Nat.lt_of_lt_of_le present size, fun s held => ?_⟩, first⟩
  rw [sup] at held
  exact holds s held

/-- A notification that goes out is at the back of its connection's queue. -/
theorem outbound_of_notify {w w' : World} {c : Nat} {method : String} {params : Value}
    (sent : w.notify c method params = .ok w') (present : c < w.conns.size) :
    (w'.conn c).outbound = (w.conn c).outbound ++ [.notification method params] := by
  obtain rfl := World.eq_of_enqueue (World.enqueue_of_notify sent)
  simp [conn_modifyConn_self _ _ _ present]

/-! ### Launching a session -/

@[simp]
theorem tasks_wakeIf (w : World) (p : Task → Bool) : (w.wakeIf p).tasks = w.tasks := by
  obtain ⟨queue, woken⟩ := w.wakeIf_eq p
  rw [woken]

theorem tasks_processEnds (w : World) (d : Nat) (code : Option Int) :
    (w.processEnds d code).tasks = w.tasks := by
  unfold World.processEnds World.wakeMonitorOnProcess World.wakeReader
  split
  · rfl
  · simp only [tasks_wakeIf]
    rfl

/-- `w'` has just opened connection `c` after those of `w`: its queue is empty, its table open, its
next id 0, no answer has come on it and its writer is there, and every earlier queue is as it
was. -/
structure Opens (w w' : World) (c : Nat) : Prop where
  after : c = w.conns.size
  size : w'.conns.size = c + 1
  kept : ∀ d < c, (w'.conn d).outbound = (w.conn d).outbound
  empty : (w'.conn c).outbound = []
  accepting : (w'.conn c).pending.closed = false
  first : (w'.conn c).nextId = 0
  unfilled : (w'.conn c).filled = []
  writing : (w'.conn c).writerDone = false

theorem Opens.push (w : World) {k : Conn} (empty : k.outbound = [])
    (accepting : k.pending.closed = false) (first : k.nextId = 0) (unfilled : k.filled = [])
    (writing : k.writerDone = false) :
    w.Opens { w with conns := w.conns.push k } w.conns.size where
  after := rfl
  size := by simp
  kept d below := by simp [conn, Array.getElem?_push, Nat.ne_of_lt below]
  empty := by simp [conn, empty]
  accepting := by simp [conn, accepting]
  first := by simp [conn, first]
  unfilled := by simp [conn, unfilled]
  writing := by simp [conn, writing]

/-- A server's process ending changes nothing the client sends with. -/
theorem Opens.processEnds {w w' : World} {c : Nat} (opens : w.Opens w' c) (d : Nat)
    (code : Option Int) : w.Opens (w'.processEnds d code) c := by
  unfold World.processEnds World.wakeMonitorOnProcess World.wakeReader
  split
  · exact opens
  · exact {
      after := opens.after
      size := by simpa using opens.size
      kept := fun e below => by
        simp only [conn_wakeIf]
        exact (view_modifyConn Conn.outbound fun _ => by rfl).trans (opens.kept e below)
      empty := by
        simp only [conn_wakeIf]
        exact (view_modifyConn Conn.outbound fun _ => by rfl).trans opens.empty
      accepting := by
        simp only [conn_wakeIf]
        exact (view_modifyConn (fun k : Conn => k.pending.closed) fun _ => by rfl).trans
          opens.accepting
      first := by
        simp only [conn_wakeIf]
        exact (view_modifyConn Conn.nextId fun _ => by rfl).trans opens.first
      unfilled := by
        simp only [conn_wakeIf]
        exact (view_modifyConn Conn.filled fun _ => by rfl).trans opens.unfilled
      writing := by
        simp only [conn_wakeIf]
        exact (view_modifyConn Conn.writerDone fun _ => by rfl).trans opens.writing }

/-- A launch that succeeds opens the next connection and keeps the tasks and the supervisor. -/
theorem launch_eq_ok {w w' : World} {c : Nat} (launched : w.launch = (.ok c, w')) :
    w.Opens w' c ∧ w'.tasks = w.tasks ∧ w'.sup = w.sup := by
  unfold World.launch at launched
  dsimp only at launched
  split at launched
  · cases launched
  · split at launched
    · cases launched
      exact ⟨Opens.push w rfl rfl rfl rfl rfl, rfl, rfl⟩
    · split at launched
      · cases launched
      · split at launched
        · cases launched
          exact ⟨(Opens.push w rfl rfl rfl rfl rfl).processEnds _ _, tasks_processEnds _ _ _,
            (KeepsSupervisor.processEnds _ _ _).sup⟩
        · cases launched
          exact ⟨Opens.push w rfl rfl rfl rfl rfl, rfl, rfl⟩

theorem Opens.of_conns {w w' v v' : World} {c : Nat} (opens : w.Opens w' c)
    (before : v.conns = w.conns) (after : v'.conns = w'.conns) : v.Opens v' c where
  after := by rw [opens.after, before]
  size := by rw [after, opens.size]
  kept d below := by
    simp only [conn, before, after]
    exact opens.kept d below
  empty := by
    simp only [conn, after]
    exact opens.empty
  accepting := by
    simp only [conn, after]
    exact opens.accepting
  first := by
    simp only [conn, after]
    exact opens.first
  unfilled := by
    simp only [conn, after]
    exact opens.unfilled
  writing := by
    simp only [conn, after]
    exact opens.writing

theorem sup_of_stepCall {w w' : World} {c : Nat} {call call' : Call}
    (stepped : w.stepCall c call = (w', call')) : w'.sup = w.sup ∧ w'.operations = w.operations := by
  have keeps := KeepsSupervisor.stepCall w c call
  rw [stepped] at keeps
  exact ⟨keeps.sup, keeps.operations⟩

theorem StopsOn.of_operations {w w' : World} {c : Nat} (same : w'.operations = w.operations)
    (stops : w'.StopsOn c) : w.StopsOn c := by
  obtain ⟨j, handle, op, gen, call, mem⟩ := stops
  exact ⟨j, handle, op, gen, call, (mem_of_operations_eq same).mp mem⟩

theorem beginSession_eq_some {w w' : World} {gen : Nat} (begun : w.beginSession = (some gen, w')) :
    gen = w.supervision.generation + 1 ∧ w'.conns = w.conns ∧ w'.tasks = w.tasks ∧
      w'.sup = w.sup.map fun s => { s with generation := gen, state := .starting } := by
  unfold World.beginSession at begun
  dsimp only at begun
  split at begun
  · cases begun
    exact ⟨rfl, rfl, rfl, rfl⟩
  · cases begun

/-! ### A call that has taken a step has been sent -/

theorem isFresh_expire (w : World) (d : Nat) (i : RequestId) (method : String) :
    (w.expire d i method).2.isFresh = false := by
  unfold World.expire
  split <;> rfl

theorem isFresh_checkWait (w : World) (d : Nat) (i : RequestId) (method : String)
    (deadline : Option Timer) : (w.checkWait d i method deadline).2.isFresh = false := by
  unfold World.checkWait
  split
  · rfl
  · split
    · split
      · exact isFresh_expire _ d i method
      · rfl
    · rfl

theorem isFresh_beginWait (w : World) (d : Nat) (i : RequestId) (method : String)
    (limit : Option Nat) : (w.beginWait d i method limit).2.isFresh = false := by
  unfold World.beginWait
  split
  · rfl
  · split
    · rfl
    · split
      split
      · exact isFresh_expire _ d i method
      · rfl

theorem isFresh_stepCall (w : World) (c : Nat) (call : Call) :
    (w.stepCall c call).2.isFresh = false := by
  unfold World.stepCall
  split
  · dsimp only
    split
    · rfl
    · exact isFresh_beginWait _ c _ _ _
  · exact isFresh_beginWait _ _ _ _ _
  · exact isFresh_checkWait _ _ _ _ _
  · rfl

theorem isFresh_of_stepCall {w w' : World} {c : Nat} {call call' : Call}
    (stepped : w.stepCall c call = (w', call')) : call'.isFresh = false := by
  have sent := isFresh_stepCall w c call
  rw [stepped] at sent
  exact sent

/-! ### What a look at a waiting call finds -/

/-- What a look at a call waiting under id `i` on connection `c` can make of it in `w`: it waits
there still, ends with an error, or ends with the outcome waiting under `i`. -/
def LooksAt (w : World) (c : Nat) (i : RequestId) (method : String) (call : Call) : Prop :=
  (∃ d, call = .waiting c i method d) ∨ (∃ e, call = .finished (.error e)) ∨
    ∃ o, (w.conn c).filled.lookup i = some o ∧ call = .finished (o.result method)

theorem looksAt_expire (w v : World) (c : Nat) (i : RequestId) (method : String) :
    v.LooksAt c i method (w.expire c i method).2 := by
  unfold World.expire
  split
  · exact .inr (.inl ⟨_, rfl⟩)
  · exact .inr (.inl ⟨_, rfl⟩)

theorem looksAt_of_taken {w : World} {c : Nat} {i : RequestId} {method : String} {o : Outcome} {w' : World}
    (taken : w.takeFilled c i = (some o, w')) :
    w.LooksAt c i method (.finished (o.result method)) := by
  have found := takeFilled_result (w := w) (c := c) i
  rw [taken] at found
  exact .inr (.inr ⟨o, found.symm, rfl⟩)

theorem looksAt_checkWait (w : World) (c : Nat) (i : RequestId) (method : String)
    (deadline : Option Timer) : w.LooksAt c i method (w.checkWait c i method deadline).2 := by
  unfold World.checkWait
  split
  · exact looksAt_of_taken ‹_›
  · -- nothing has come: the call waits on, unless its deadline has passed
    split
    · split
      · exact looksAt_expire ..
      · exact .inl ⟨_, rfl⟩
    · exact .inl ⟨_, rfl⟩

theorem looksAt_beginWait (w : World) (c : Nat) (i : RequestId) (method : String)
    (limit : Option Nat) : w.LooksAt c i method (w.beginWait c i method limit).2 := by
  unfold World.beginWait
  split
  · exact looksAt_of_taken ‹_›
  · split
    · exact .inl ⟨_, rfl⟩
    · split
      split
      · exact looksAt_expire ..
      · exact .inl ⟨_, rfl⟩

/-- A look that ends a call with a result has taken it as the answer waiting under the call's id. -/
theorem LooksAt.ok {w : World} {c : Nat} {i : RequestId} {method : String} {v : Value}
    (looked : w.LooksAt c i method (.finished (.ok v))) :
    (w.conn c).filled.lookup i = some (.response (.ok v)) := by
  rcases looked with ⟨d, same⟩ | ⟨e, same⟩ | ⟨o, found, same⟩
  · cases same
  · cases same
  · cases o with
    | response r =>
      cases r <;> simp only [Outcome.result, Call.finished.injEq, reduceCtorEq,
        Except.ok.injEq] at same
      rw [found, same]
    | cancelled | unavailable => simp [Outcome.result] at same

/-- The `initialize` call of a handshake, looked at: it waits on under id 0 on its connection, or
has ended, with a result only if the server's answer was waiting there. -/
theorem LooksAt.initializes {w : World} {c : Nat} {method : String} {call : Call}
    (looked : w.LooksAt c (.number 0) method call) :
    call.Initializes c ∨ ∃ r, call = .finished r := by
  rcases looked with ⟨d, rfl⟩ | ⟨e, rfl⟩ | ⟨o, -, rfl⟩
  · exact .inl ⟨rfl, rfl⟩
  · exact .inr ⟨_, rfl⟩
  · exact .inr ⟨_, rfl⟩

/-- The connections a stop of `w` sends `shutdown` on: that of the session held, if it may move
to Stopping. -/
def Stoppable (w : World) (d : Nat) : Prop :=
  ∃ r, w.supervision.session = some r ∧ r.conn = d ∧ w.supervision.state.canStep .stopping = true

/-- The connections a turn of operation `tid` at a stage may send anything on: at the lock, the
session a stop would take, if the lock is free or already its own; at a handshake, the connection
of a call not yet sent; waiting for a `shutdown` answer, the connection it waits on. -/
def stagePermits (w : World) (tid : Nat) : Stage → Nat → Prop
  | .locking, d =>
    (w.supervision.lockHolder = some tid ∨ w.supervision.lockHolder = none) ∧ w.Stoppable d
  | .handshake _ c call _, d => call.isFresh = true ∧ d = c
  | .shutdown _ c _, d => d = c
  | _, _ => False

/-- The connections a turn of task `tid` may send anything on, when the task is `t`: a host call's
target or the connection of calls made together, while a call is not yet sent, and what its stage
permits an operation, or a restart that takes the lock. -/
def turnPermits (w : World) (tid : Nat) : Task → Nat → Prop
  | .call _ target call _, d =>
    call.isFresh = true ∧ (target = .conn d ∨ target = .running ∧ w.runningPeer = some d)
  | .calls _ c each, d => each.any Call.isFresh = true ∧ d = c
  | .lifecycle _ _ stage, d => w.stagePermits tid stage d
  | .restartDelay .., d => w.stagePermits tid .locking d
  | _, _ => False

theorem Stoppable.of_same {w w' : World} {d : Nat} (stoppable : w'.Stoppable d)
    (state : w'.supervision.state = w.supervision.state)
    (session : w'.supervision.session = w.supervision.session) : w.Stoppable d := by
  obtain ⟨r, held, on, allowed⟩ := stoppable
  rw [session] at held
  rw [state] at allowed
  exact ⟨r, held, on, allowed⟩

theorem session_modifySup (w : World) {f : Supervision → Supervision}
    (keeps : ∀ s, (f s).session = s.session) :
    (w.modifySup f).supervision.session = w.supervision.session := by
  cases found : w.sup <;> simp [World.modifySup, supervision, found, keeps]

theorem Holds.mono {w w' : World} {gen c : Nat} (holds : w.Holds gen c) (sup : w'.sup = w.sup)
    (size : w.conns.size ≤ w'.conns.size) : w'.Holds gen c :=
  ⟨Nat.lt_of_lt_of_le holds.1 size, fun s found => holds.2 s (sup ▸ found)⟩

/-- The session of a handshake the supervisor holds, when it is of the handshake's generation, is
on the handshake's connection. -/
theorem Holds.tie {w : World} {gen c : Nat} (holds : w.Holds gen c)
    (current : ∀ r, w.supervision.session = some r → r.generation = gen) :
    ∀ r, w.supervision.session = some r → r.generation = gen ∧ r.conn = c := by
  intro r held
  cases found : w.sup with
  | none => simp [supervision, found] at held
  | some s =>
    have same := current r held
    rw [supervision_eq found] at held
    exact ⟨same, (holds.2 s found).2 r held same⟩

namespace Sends

variable {S T : Nat → Prop} {H : Nat → Negotiated → List Message → Prop} {w w' w₁ w₂ w₃ : World}

theorem refl (w : World) : Sends S H w w where
  front _ := List.prefix_refl _
  allowed d _ m mem := by simp [added] at mem
  opened d below above := absurd above (Nat.not_lt_of_le below)
  grows := Nat.le_refl _
  unbound e mem := .inr mem
  runs _ now := .inl now
  tied := id
  stops _ now := .inl now
  sessions r' held := .inl ⟨r', held, rfl, rfl⟩

theorem trans (first : Sends S H w₁ w₂) (second : Sends S H w₂ w₃) : Sends S H w₁ w₃ where
  front d := (first.front d).trans (second.front d)
  allowed d below m mem := by
    rw [added_trans (first.front d) (second.front d)] at mem
    rcases List.mem_append.mp mem with early | late
    · exact first.allowed d below m early
    · exact second.allowed d (Nat.lt_of_lt_of_le below first.grows) m late
  opened d below above := by
    by_cases earlier : d < w₂.conns.size
    · -- opened by the first change, and only added to by the second
      obtain ⟨params, rest, opening, fits⟩ := first.opened d below earlier
      refine ⟨params, rest ++ w₂.added w₃ d, ?_, ?_⟩
      · rw [append_added (second.front d), opening, List.cons_append]
      · intro m mem
        rcases List.mem_append.mp mem with early | late
        · exact fits m early
        · exact second.allowed d earlier m late
    · exact second.opened d (Nat.le_of_not_lt earlier) above
  grows := Nat.le_trans first.grows second.grows
  unbound e mem := (second.unbound e mem).elim .inl (first.unbound e)
  runs r now := by
    rcases second.runs r now with before | announced
    · rcases first.runs r before with earlier | announced
      · exact .inl earlier
      · exact .inr (announced.of_front (second.front r.conn))
    · exact .inr announced
  tied := second.tied ∘ first.tied
  stops c now := (second.stops c now).elim (first.stops c) .inr
  sessions r' held := by
    rcases second.sessions r' held with ⟨r, between, generation, conn⟩ | ⟨above, below⟩
    · rcases first.sessions r between with ⟨r₀, before, generation₀, conn₀⟩ | ⟨above, below⟩
      · exact .inl ⟨r₀, before, generation₀.trans generation, conn₀.trans conn⟩
      · exact .inr ⟨conn ▸ above, conn ▸ Nat.lt_of_lt_of_le below second.grows⟩
    · exact .inr ⟨Nat.le_trans first.grows above, below⟩

instance : IsPreorder World (Sends S H) where
  refl := Sends.refl
  trans _ _ _ := Sends.trans

theorem mono (sends : Sends S H w w') (wider : ∀ d, S d → T d) : Sends T H w w' where
  front := sends.front
  allowed d below m mem := (sends.allowed d below m mem).imp_right (·.imp_right (wider d))
  opened d below above := by
    obtain ⟨params, rest, opening, fits⟩ := sends.opened d below above
    exact ⟨params, rest, opening, fun m mem => (fits m mem).imp_right (·.imp_right (wider d))⟩
  grows := sends.grows
  unbound := sends.unbound
  runs := sends.runs
  tied := sends.tied
  stops c now := (sends.stops c now).imp_right (wider c)
  sessions := sends.sessions

/-- A change that keeps every queue, the number of connections and the supervisor, and whose new
tasks hold no fresh call and wait at no handshake or `shutdown` call, sends nothing. -/
theorem of_queues (queues : ∀ d, (w'.conn d).outbound = (w.conn d).outbound)
    (size : w'.conns.size = w.conns.size)
    (plain : ∀ e ∈ w'.tasks, e ∈ w.tasks ∨ e.2.binds = none ∧ e.2.staged = false)
    (sup : w'.sup = w.sup) : Sends S H w w' where
  front d := by rw [queues d]
  allowed d _ m mem := by simp [added_of_eq (queues d)] at mem
  opened d below above := absurd (size ▸ above) (Nat.not_lt_of_le below)
  grows := Nat.le_of_eq size.symm
  unbound e mem := (plain e mem).elim .inr fun fresh => .inl fresh.1
  runs _ now := .inl ((Runs.of_sup sup).mp now)
  tied := Tied.of_sup sup (Nat.le_of_eq size.symm) fun j handle op gen c call t mem =>
    (plain _ mem).resolve_right fun fresh => by simp [Task.staged] at fresh
  stops c now := by
    obtain ⟨j, handle, op, gen, call, mem⟩ := now
    refine .inl ⟨j, handle, op, gen, call, (plain _ mem).resolve_right fun fresh => ?_⟩
    simp [Task.staged] at fresh
  sessions r' held := .inl ⟨r', by simpa [supervision, sup] using held, rfl, rfl⟩

theorem of_conns (conns : w'.conns = w.conns) (tasks : w'.tasks = w.tasks) (sup : w'.sup = w.sup) :
    Sends S H w w' :=
  of_queues (fun d => by simp [conn, conns]) (by rw [conns]) (fun e mem => .inl (tasks ▸ mem)) sup

/-- A change of a connection that keeps its queue. -/
theorem modifyConn (w : World) (d : Nat) {f : Conn → Conn}
    (outbound : ∀ k, (f k).outbound = k.outbound) : Sends S H w (w.modifyConn d f) :=
  of_queues (fun _ => view_modifyConn Conn.outbound outbound) (size_conns_modifyConn w d f)
    (fun _ mem => .inl mem) rfl

theorem wake (w : World) (tid : Nat) : Sends S H w (w.wake tid) := by
  obtain ⟨queue, woken⟩ := w.wake_eq tid
  rw [woken]
  exact of_conns rfl rfl rfl

theorem wakeIf (w : World) (p : Task → Bool) : Sends S H w (w.wakeIf p) := by
  obtain ⟨queue, woken⟩ := w.wakeIf_eq p
  rw [woken]
  exact of_conns rfl rfl rfl

theorem timer (w : World) (ms : Nat) : Sends S H w (w.timer ms).1 :=
  of_conns rfl rfl rfl

theorem note (w : World) (rs : List Value) : Sends S H w (w.note rs) :=
  of_conns rfl rfl rfl

theorem report (w : World) (handle : Nat) (r : Report) : Sends S H w (w.report handle r) :=
  of_conns rfl rfl rfl

theorem emit (w : World) (e : SessionEvent) : Sends S H w (w.emit e) :=
  of_conns rfl rfl rfl

theorem setTask (w : World) (tid : Nat) {t : Task} (free : t.binds = none)
    (plain : t.staged = false) : Sends S H w (w.setTask tid t) :=
  of_queues (fun _ => rfl) rfl (by
    rintro ⟨j, u⟩ mem
    rcases mem_setTask.mp mem with ⟨-, rfl, -⟩ | ⟨-, old⟩
    · exact .inr ⟨free, plain⟩
    · exact .inl old) rfl

theorem dropTask (w : World) (tid : Nat) : Sends S H w (w.dropTask tid) :=
  of_queues (fun _ => rfl) rfl (by
    rintro ⟨j, u⟩ mem
    exact .inl (mem_dropTask.mp mem).2) rfl

theorem spawn (w : World) {t : Task} (free : t.binds = none) (plain : t.staged = false) :
    Sends S H w (w.spawn t).1 :=
  of_queues (fun _ => rfl) rfl (by
    intro e mem
    rcases List.mem_append.mp mem with old | new
    · exact .inl old
    · rw [List.mem_singleton.mp new]
      exact .inr ⟨free, plain⟩) rfl

theorem wakeIdleWriters (w : World) : Sends S H w w.wakeIdleWriters := by
  obtain ⟨queue, woken⟩ := w.wakeIdleWriters_eq
  rw [woken]
  exact of_conns rfl rfl rfl

/-! ### The supervisor's record -/

theorem state_modifySup (w : World) {f : Supervision → Supervision}
    (keeps : ∀ s, (f s).state = s.state) :
    (w.modifySup f).supervision.state = w.supervision.state := by
  cases found : w.sup <;> simp [World.modifySup, supervision, found, keeps]

/-- A change of the supervisor's record that never lowers its generation, keeps the generation
and connection of the session it holds, and runs only a session that ran or has announced
itself. -/
theorem modifySup (w : World) (f : Supervision → Supervision)
    (runs : ∀ r, (f w.supervision).state = .running → (f w.supervision).session = some r →
      w.Runs r ∨ w.Announced H r)
    (generation : w.supervision.generation ≤ (f w.supervision).generation)
    (session : ∀ r', (f w.supervision).session = some r' →
      ∃ r, w.supervision.session = some r ∧ r.generation = r'.generation ∧ r.conn = r'.conn) :
    Sends S H w (w.modifySup f) := by
  cases found : w.sup with
  | none => exact of_conns rfl rfl (by simp [World.modifySup, found])
  | some s =>
    have current : w.supervision = s := supervision_eq found
    have record : (w.modifySup f).supervision = f w.supervision :=
      supervision_modifySup (by simp [found]) f
    exact { refl (S := S) (H := H) w with
      runs := fun r now => by
        rw [Runs, record] at now
        exact runs r now.1 now.2
      tied := fun tied j handle op gen c call t mem => by
        obtain ⟨⟨present, holds⟩, first⟩ := tied j handle op gen c call t mem
        refine ⟨⟨present, fun s' held => ?_⟩, first⟩
        simp only [World.modifySup, found, Option.map_some, Option.some.injEq] at held
        subst held
        obtain ⟨below, tie⟩ := holds s found
        rw [← current] at below tie ⊢
        refine ⟨Nat.le_trans below generation, fun r' kept same => ?_⟩
        obtain ⟨r, old, sameGen, sameConn⟩ := session r' kept
        rw [← sameConn]
        exact tie r old (sameGen.trans same)
      sessions := fun r' held => by
        rw [record] at held
        exact .inl (session r' held) }

/-- A change of the supervisor's record that keeps its state, generation and session. -/
theorem update (w : World) (f : Supervision → Supervision) (state : ∀ s, (f s).state = s.state)
    (generation : ∀ s, (f s).generation = s.generation) (session : ∀ s, (f s).session = s.session) :
    Sends S H w (w.modifySup f) := by
  refine modifySup w f (fun r running held => .inl ⟨?_, ?_⟩) (generation _).ge
    (fun r' held => ⟨r', (session _).symm.trans held, rfl, rfl⟩)
  · rwa [state] at running
  · rwa [session] at held

theorem transition (w : World) (gen : Option Nat) (next : SessionState)
    (runs : next = .running → ∀ r, w.supervision.session = some r → w.Runs r ∨ w.Announced H r) :
    Sends S H w (w.transition gen next).2 := by
  rcases moved : w.transition gen next with ⟨_ | _, w'⟩
  · rw [(transition_eq_false moved).1]
    exact refl w
  · obtain ⟨-, -, rfl⟩ := transition_eq_true moved
    refine (modifySup w _ ?_ ?_ ?_).trans (emit _ _)
    · exact fun r running held => runs running r held
    · exact Nat.le_refl _
    · exact fun r' held => ⟨r', held, rfl, rfl⟩

theorem beginSession (w : World) : Sends S H w w.beginSession.2 := by
  unfold World.beginSession
  dsimp only
  split
  · refine (modifySup w _ ?_ ?_ ?_).trans (emit _ _)
    · exact fun _ starting _ => nomatch starting
    · exact Nat.le_succ _
    · exact fun r' held => ⟨r', held, rfl, rfl⟩
  · exact refl w

theorem crashed (w : World) (gen : Nat) (reason : CrashReason) :
    Sends S H w (w.crashed gen reason) := by
  unfold World.crashed
  have moved := transition (S := S) (H := H) w (some gen) .crashed nofun
  split
  · rename_i w₁ stayed
    rw [stayed] at moved
    exact moved
  · rename_i w₁ went
    rw [went] at moved
    dsimp only
    refine (moved.trans (emit w₁ (.crashed gen reason))).trans ?_
    split
    · exact refl _
    · -- the count of restarts goes up and the delay before the next one is armed
      refine ((update _ _ ?_ ?_ ?_).trans (emit _ _)).trans (spawn _ rfl rfl) <;> intro s <;> rfl

theorem releaseLock (w : World) : Sends S H w w.releaseLock := by
  unfold World.releaseLock
  split
  · refine update _ _ ?_ ?_ ?_ <;> intro s <;> rfl
  · refine (update _ _ ?_ ?_ ?_).trans (wake _ _) <;> intro s <;> rfl

theorem finishOp (w : World) (tid : Nat) (handle : Option Nat) (r : Except Server.Error Unit) :
    Sends S H w (w.finishOp tid handle r) := by
  unfold World.finishOp
  have dropped := (releaseLock (S := S) (H := H) w).trans (dropTask w.releaseLock tid)
  split
  · exact dropped.trans (report _ _ _)
  · exact dropped

/-! ### The connection layer -/

theorem fill (w : World) (d : Nat) (i : RequestId) (o : Outcome) : Sends S H w (w.fill d i o) :=
  (modifyConn w d fun _ => by rfl).trans (wakeIf _ _)

theorem takeFilled (w : World) (d : Nat) (i : RequestId) : Sends S H w (w.takeFilled d i).2 := by
  unfold World.takeFilled
  split
  · exact modifyConn w d fun _ => by rfl
  · exact refl w

theorem forget (w : World) (d : Nat) (i : RequestId) : Sends S H w (w.forget d i).2 := by
  unfold World.forget
  split
  · exact modifyConn w d fun _ => by rfl
  · exact refl w

theorem closePeer (w : World) (d : Nat) : Sends S H w (w.closePeer d).2 :=
  (modifyConn w d fun _ => by rfl).trans (World.fillAll_of fill d _ _ _)

theorem deliver (w : World) (d : Nat) (i : RequestId) (r : Except ResponseError Value) :
    Sends S H w (w.deliver d i r) := by
  unfold World.deliver
  split
  · exact (modifyConn w d fun _ => by rfl).trans (fill _ d i _)
  · exact refl w

/-- Putting at the back of a connection's queue a message the change may send there. -/
theorem append (w : World) (c : Nat) {m : Message} (allowed : Allows S c m) :
    Sends S H w (w.modifyConn c fun k => { k with outbound := k.outbound ++ [m] }) where
  front d := by
    rcases conn_modifyConn_eq_or w d c (fun k => { k with outbound := k.outbound ++ [m] }) with
      same | changed
    · rw [same]
    · rw [changed]
      exact List.prefix_append _ _
  allowed d below m' mem := by
    by_cases here : d = c
    · subst here
      simp only [added, conn_modifyConn_self w d _ below, List.drop_left, List.mem_singleton] at mem
      rw [mem]
      exact allowed
    · rw [added_of_eq (by rw [conn_modifyConn_of_ne w _ here])] at mem
      cases mem
  opened d below above := absurd (by simpa using above) (Nat.not_lt_of_le below)
  grows := Nat.le_of_eq (size_conns_modifyConn w c _).symm
  unbound e mem := .inr mem
  runs _ now := .inl now
  tied := Tied.of_sup rfl (Nat.le_of_eq (size_conns_modifyConn w c _).symm)
    fun _ _ _ _ _ _ _ mem => mem
  stops _ now := .inl now
  sessions r' held := .inl ⟨r', held, rfl, rfl⟩

theorem of_enqueue {c : Nat} {m : Message} (queued : w.enqueue c m = some w')
    (allowed : Allows S c m) : Sends S H w w' := by
  obtain rfl := World.eq_of_enqueue queued
  exact (append w c allowed).trans (wakeIf _ _)

theorem of_notify {c : Nat} {method : String} {params : Value}
    (sent : w.notify c method params = .ok w') (allowed : Allows S c (.notification method params)) :
    Sends S H w w' := by
  exact of_enqueue (World.enqueue_of_notify sent) allowed

/-- An answer to the server may go anywhere. -/
theorem reply (w : World) (c : Nat) (i : RequestId) (r : Except ResponseError Value) :
    Sends S H w (w.reply c i r) := by
  unfold World.reply
  cases queued : w.enqueue c (.response i r) with
  | none => exact refl w
  | some w' => exact of_enqueue queued (.inl rfl)

theorem issue (w : World) (c : Nat) (method : String) (params : Value) (own : S c) :
    Sends S H w (w.issue c method params).2 := by
  unfold World.issue
  dsimp only
  split
  · exact modifyConn w c fun _ => by rfl
  · split
    · rename_i queued
      exact ((modifyConn w c fun _ => by rfl).trans (modifyConn _ c fun _ => by rfl)).trans
        (of_enqueue queued (.inr (.inr own)))
    · exact ((modifyConn w c fun _ => by rfl).trans (modifyConn _ c fun _ => by rfl)).trans
        (forget _ c _)

theorem cancel (w : World) (c : Nat) (i : RequestId) (own : S c) : Sends S H w (w.cancel c i).2 :=
  World.cancel_of forget fill w c i fun _ _ sent => of_notify sent (.inr (.inr own))

theorem serverWrite {d : Nat} {bytes : List UInt8} (written : w.serverWrite d bytes = .ok w') :
    Sends S H w w' := by
  obtain rfl := World.eq_of_serverWrite written
  exact (modifyConn w d fun _ => by rfl).trans (wakeIf _ _)

theorem serverCloseOutput (w : World) (d : Nat) : Sends S H w (w.serverCloseOutput d) := by
  unfold World.serverCloseOutput World.wakeReader
  exact (modifyConn w d fun _ => by rfl).trans (wakeIf _ _)

/-! ### Calls -/

/-- A step of a call sends on the given connection only a call not yet sent. -/
theorem stepCall (w : World) (c : Nat) (call : Call) (own : call.isFresh = true → S c) :
    Sends S H w (w.stepCall c call).1 :=
  World.stepCall_of takeFilled forget timer w c call fun method params limit fresh =>
    issue w c method params (own (by rw [fresh]; rfl))

theorem abandon (w : World) (call : Call) : Sends S H w (w.abandon call) :=
  World.abandon_of forget w call

/-! ### The server programs -/

theorem programWrite (w : World) (d : Nat) (v : Value) : Sends S H w (w.programWrite d v) := by
  unfold World.programWrite
  split
  · exact refl w
  · exact (modifyConn w d fun _ => by rfl).trans (wakeIf _ _)

theorem processEnds (w : World) (d : Nat) (code : Option Int) :
    Sends S H w (w.processEnds d code) := by
  unfold World.processEnds
  split
  · exact refl w
  · exact ((modifyConn w d fun _ => by rfl).trans (wakeIf _ _)).trans (wakeIf _ _)

theorem modifyProgram (w : World) (d : Nat) (f : Machine.ServerProcess → Machine.ServerProcess) :
    Sends S H w (w.modifyProgram d f) :=
  modifyConn w d fun _ => by rfl

theorem programFrame : ProgramFrame (Sends S H) where
  modifyProgram := Sends.modifyProgram
  programWrite := Sends.programWrite
  processEnds := Sends.processEnds
  timer := Sends.timer
  spawnTimed w _ _ _ := spawn w rfl rfl
  closeOutput w d := (modifyConn w d fun _ => by rfl).trans (wakeIf _ _)
  interrupt _ := of_conns rfl rfl rfl

theorem programArrive (w : World) (d : Nat) (m : Option Message) :
    Sends S H w (w.programArrive d m) :=
  programFrame.programArrive w d m

theorem programAct (w : World) (d : Nat) (action : Machine.Timed) :
    Sends S H w (w.programAct d action) :=
  programFrame.programAct w d action

theorem pollTimed (w : World) (tid d : Nat) (action : Machine.Timed) (t : Timer) :
    Sends S H w (w.pollTimed tid d action t) := by
  unfold World.pollTimed
  split
  · exact (programAct w d action).trans (dropTask _ tid)
  · exact refl w

/-! ### The reader and the handlers -/

theorem dispatch (w : World) (c : Nat) (payload : List UInt8) : Sends S H w (w.dispatch c payload) := by
  unfold World.dispatch
  split
  · exact refl w
  · exact deliver w c _ _
  · split
    · exact note w _
    · exact refl w
  · split
    · exact spawn w rfl rfl
    · exact reply w c _ _

theorem dropAll (ids : List Nat) (acc : World) : Sends S H acc (ids.foldl World.dropTask acc) := by
  induction ids generalizing acc with
  | nil => exact refl acc
  | cons j rest ih => exact (dropTask acc j).trans (ih _)

theorem dropHandlers (w : World) (c : Nat) : Sends S H w (w.dropHandlers c) :=
  dropAll _ w

theorem finishReader (w : World) (tid c : Nat) (r : Except Rpc.Error Unit) :
    Sends S H w (w.finishReader tid c r) := by
  unfold World.finishReader World.wakeMonitorOnReader
  exact ((modifyConn w c fun _ => by rfl).trans (dropTask _ tid)).trans (wakeIf _ _)

theorem endReading (w : World) (tid c : Nat) (r : Except Rpc.Error Unit) :
    Sends S H w (w.endReading tid c r) := by
  unfold World.endReading
  dsimp only
  have stopped : Sends S H w
      ((((w.closePeer c).2.dropHandlers c).modifyConn c fun k =>
        { k with shutdown := true }).wakeWriter c) :=
    ((closePeer w c).trans (dropHandlers _ c)).trans
      ((modifyConn _ c fun _ => by rfl).trans (wakeIf _ _))
  split
  · exact stopped.trans (finishReader _ tid c r)
  · exact stopped.trans (setTask _ tid rfl rfl)

theorem readFrames (tid c : Nat) (fuel : Nat) (w : World) :
    Sends S H w (World.readFrames tid c fuel w) := by
  induction fuel generalizing w with
  | zero => exact refl w
  | succ fuel ih =>
    unfold World.readFrames
    dsimp only
    split
    · exact ((modifyConn w c fun _ => by rfl).trans (dispatch _ c _)).trans (ih _)
    · exact refl w
    · exact endReading w tid c _
    · exact endReading w tid c _
    · exact endReading w tid c _

theorem pollReader (w : World) (tid c : Nat) (started : Bool)
    (ended : Option (Except Rpc.Error Unit)) : Sends S H w (w.pollReader tid c started ended) := by
  unfold World.pollReader
  have begun : Sends S H w
      (if started then w else ((w.setTask tid (.reader c true none)).spawn (.writer c)).1) := by
    split
    · exact refl w
    · exact (setTask w tid rfl rfl).trans (spawn _ rfl rfl)
  dsimp only
  generalize (if started then w else ((w.setTask tid (.reader c true none)).spawn (.writer c)).1) =
    w₁ at begun ⊢
  split
  · exact begun.trans (readFrames tid c _ _)
  · split
    · exact begun.trans (finishReader _ tid c _)
    · exact begun

theorem pollHandler (w : World) (tid c : Nat) (i : RequestId) (method : String) (work : Work) :
    Sends S H w (w.pollHandler tid c i method work) := by
  unfold World.pollHandler
  split
  · rename_i h params
    dsimp only
    have noted : Sends S H w { w.note (h.react method params w.model w.listeners).records with
        listeners := (h.react method params w.model w.listeners).listeners } :=
      of_conns rfl rfl rfl
    generalize { w.note (h.react method params w.model w.listeners).records with
        listeners := (h.react method params w.model w.listeners).listeners } = w₁ at noted ⊢
    -- each answer is queued, and the task ends or sleeps until its timer
    split
    · exact (noted.trans (reply w₁ c i _)).trans (dropTask _ tid)
    · exact (noted.trans (reply w₁ c i _)).trans (dropTask _ tid)
    · rename_i ms v _
      split
      · exact ((noted.trans (timer w₁ ms)).trans (reply _ c i _)).trans (dropTask _ tid)
      · exact (noted.trans (timer w₁ ms)).trans (setTask _ tid rfl rfl)
  · split
    · exact (reply w c i _).trans (dropTask _ tid)
    · exact refl w

/-! ### Calls of the host -/

theorem finishCall (w : World) (tid handle : Nat) (typed : Option Shape) (r : Except Rpc.Error Value) :
    Sends S H w (w.finishCall tid handle typed r) := by
  unfold World.finishCall
  dsimp only
  exact (report w handle _).trans (dropTask _ tid)

/-- A turn of a host call sends anything only on the connection its call goes to, and only while
that call is not yet sent. -/
theorem pollCall (w : World) (tid handle : Nat) (target : Target) (call : Call)
    (typed : Option Shape)
    (own : ∀ c, call.isFresh = true →
      (target = .conn c ∨ target = .running ∧ w.runningPeer = some c) → S c) :
    Sends S H w (w.pollCall tid handle target call typed) := by
  unfold World.pollCall
  dsimp only
  split
  · exact finishCall w tid handle typed _
  · rename_i c resolved
    have goes : target = .conn c ∨ target = .running ∧ w.runningPeer = some c := by
      cases target with
      | conn c' =>
        injection resolved with same
        exact .inl (congrArg Target.conn same)
      | running => exact .inr ⟨rfl, resolved⟩
    have stepped := stepCall (H := H) w c call fun fresh => own c fresh goes
    have sent := isFresh_stepCall w c call
    split
    · rename_i w' r result
      rw [result] at stepped
      exact stepped.trans (finishCall w' tid handle typed r)
    · rename_i w' call' _ result
      rw [result] at stepped sent
      exact stepped.trans (setTask _ tid (by simp [Task.binds, sent]) rfl)

theorem stepCalls (c : Nat) (each : List Call) (acc : World × List Call)
    (own : each.any Call.isFresh = true → S c) :
    Sends S H acc.1 (each.foldl (fun (acc : World × List Call) call =>
      let (w, done) := acc
      let (w, call) := w.stepCall c call
      (w, done ++ [call])) acc).1 ∧
    ∀ call ∈ (each.foldl (fun (acc : World × List Call) call =>
      let (w, done) := acc
      let (w, call) := w.stepCall c call
      (w, done ++ [call])) acc).2, call ∈ acc.2 ∨ call.isFresh = false := by
  induction each generalizing acc with
  | nil => exact ⟨refl acc.1, fun call mem => .inl mem⟩
  | cons call rest ih =>
    obtain ⟨w, done⟩ := acc
    have stepped := stepCall (H := H) w c call fun fresh => own (by simp [fresh])
    have sent := isFresh_stepCall w c call
    rcases result : w.stepCall c call with ⟨w', call'⟩
    rw [result] at stepped sent
    simp only [List.foldl_cons, result]
    obtain ⟨later, kept⟩ := ih (w', done ++ [call']) fun fresh => own (by simp [fresh])
    refine ⟨stepped.trans later, fun other mem => ?_⟩
    rcases kept other mem with earlier | unsent
    · rcases List.mem_append.mp earlier with old | new
      · exact .inl old
      · rw [List.mem_singleton.mp new]
        exact .inr sent
    · exact .inr unsent

/-- Calls made together send anything only on their connection, and only while one of them is
not yet sent. -/
theorem pollCalls (w : World) (tid handle c : Nat) (each : List Call)
    (own : each.any Call.isFresh = true → S c) : Sends S H w (w.pollCalls tid handle c each) := by
  unfold World.pollCalls
  obtain ⟨stepped, sent⟩ := stepCalls c each (w, []) own
  split
  rename_i w' calls result
  rw [result] at stepped sent
  dsimp only
  split
  · exact (stepped.trans (report w' handle _)).trans (dropTask _ tid)
  · have unsent : calls.any Call.isFresh = false := List.any_eq_false.mpr fun call mem => by
      simpa using (sent call mem).resolve_left List.not_mem_nil
    exact stepped.trans (setTask _ tid (by simp [Task.binds, unsent]) rfl)

/-! ### Monitors -/

theorem requestKill (w : World) (c : Nat) : Sends S H w (w.requestKill c) := by
  unfold World.requestKill World.wakeMonitorOnProcess
  exact (modifyConn w c fun _ => by rfl).trans (wakeIf _ _)

theorem terminate (w : World) (c : Nat) : Sends S H w (w.terminate c) := by
  unfold World.terminate
  split
  · exact processEnds w c none
  · exact modifyConn w c fun _ => by rfl

theorem abortReader (w : World) (c : Nat) : Sends S H w (w.abortReader c) := by
  unfold World.abortReader
  dsimp only
  exact ((dropAll _ w).trans (dropHandlers _ c)).trans (modifyConn _ c fun _ => by rfl)

theorem finishMonitor (w : World) (tid c gen : Nat) (reason : Option CrashReason) :
    Sends S H w (w.finishMonitor tid c gen reason) := by
  unfold World.finishMonitor World.wakeOnMonitor
  dsimp only
  have closed := closePeer (S := S) (H := H) w c
  generalize (w.closePeer c).2 = w₁ at closed ⊢
  -- a crash, if one is recorded, comes before the monitor's own end
  have finish : ∀ w₂, Sends S H w₁ w₂ → ∀ p : Task → Bool, Sends S H w
      (((w₂.modifyConn c fun k => { k with monitorDone := true }).dropTask tid).wakeIf p) :=
    fun w₂ crash p => (((closed.trans crash).trans (modifyConn _ c fun _ => by rfl)).trans
      (dropTask _ tid)).trans (wakeIf _ p)
  split
  · exact finish w₁ (refl w₁) _
  · split
    · exact finish _ (crashed w₁ gen _) _
    · exact finish w₁ (refl w₁) _

theorem conclude (w : World) (tid c gen : Nat) (exited : Option (Except String (Option Int)))
    (failure : Option String) : Sends S H w (w.conclude tid c gen exited failure) := by
  unfold World.conclude
  split
  · exact (terminate w c).trans (finishMonitor _ tid c gen _)
  · exact finishMonitor w tid c gen _
  · exact (terminate w c).trans (finishMonitor _ tid c gen _)

theorem awaitExit (w : World) (tid c gen : Nat) (failure : Option String) (t : Timer) :
    Sends S H w (w.awaitExit tid c gen failure t) := by
  dsimp only [World.awaitExit]
  split
  · exact conclude w tid c gen _ _
  · exact conclude w tid c gen _ _
  · exact setTask w tid rfl rfl

theorem pollMonitor (w : World) (tid c gen : Nat) (watch : Watch) :
    Sends S H w (w.pollMonitor tid c gen watch) := by
  cases watch with
  | watching =>
    dsimp only [World.pollMonitor]
    split
    · exact (timer w _).trans (awaitExit _ tid c gen _ _)
    · exact (timer w _).trans (setTask _ tid rfl rfl)
    · exact ((terminate w c).trans (abortReader _ c)).trans (finishMonitor _ tid c gen _)
    · exact refl w
  | draining status t =>
    dsimp only [World.pollMonitor]
    split
    · exact finishMonitor w tid c gen _
    · split
      · exact (abortReader w c).trans (finishMonitor _ tid c gen _)
      · exact refl w
  | lingering failure t =>
    dsimp only [World.pollMonitor]
    split
    · exact awaitExit w tid c gen _ _
    · exact refl w

/-! ### The stages of an operation -/

/-- An operation waits at a handshake the supervisor holds, its `initialize` call sent and waiting
under id 0. -/
theorem setHandshake (w : World) (tid : Nat) {handle : Option Nat} {op : LifecycleOp}
    {gen c : Nat} {call : Call} {t : Timer} (sent : call.isFresh = false) (holds : w.Holds gen c)
    (waits : call.Initializes c) :
    Sends S H w (w.setTask tid (.lifecycle handle op (.handshake gen c call t))) :=
  { refl (S := S) (H := H) w with
    unbound := by
      rintro ⟨j, u⟩ mem
      rcases mem_setTask.mp mem with ⟨-, rfl, -⟩ | ⟨-, old⟩
      · exact .inl (by simp [Task.binds, sent])
      · exact .inr old
    tied := fun tied j handle' op' gen' c' call' t' mem => by
      rcases mem_setTask.mp mem with ⟨-, same, -⟩ | ⟨-, old⟩
      · cases same
        exact ⟨holds, waits⟩
      · exact tied j handle' op' gen' c' call' t' old
    stops := fun d now => by
      obtain ⟨j, handle', op', gen', call', mem⟩ := now
      rcases mem_setTask.mp mem with ⟨-, same, -⟩ | ⟨-, old⟩
      · cases same
      · exact .inl ⟨j, handle', op', gen', call', old⟩ }

/-- An operation waits for a `shutdown` answer on a connection the change may send anything on,
its call sent. -/
theorem setShutdown (w : World) (tid : Nat) {handle : Option Nat} {op : LifecycleOp}
    {gen c : Nat} {call : Call} (sent : call.isFresh = false) (own : S c) :
    Sends S H w (w.setTask tid (.lifecycle handle op (.shutdown gen c call))) :=
  { refl (S := S) (H := H) w with
    unbound := by
      rintro ⟨j, u⟩ mem
      rcases mem_setTask.mp mem with ⟨-, rfl, -⟩ | ⟨-, old⟩
      · exact .inl (by simp [Task.binds, sent])
      · exact .inr old
    tied := fun tied j handle' op' gen' c' call' t' mem => by
      rcases mem_setTask.mp mem with ⟨-, same, -⟩ | ⟨-, old⟩
      · cases same
      · exact tied j handle' op' gen' c' call' t' old
    stops := fun d now => by
      obtain ⟨j, handle', op', gen', call', mem⟩ := now
      rcases mem_setTask.mp mem with ⟨-, same, -⟩ | ⟨-, old⟩
      · cases same
        exact .inr own
      · exact .inl ⟨j, handle', op', gen', call', old⟩ }

/-! ### The handshake -/

theorem failHandshake (w : World) (tid : Nat) (handle : Option Nat) (gen c : Nat)
    (failure : String) : Sends S H w (w.failHandshake tid handle gen c failure) := by
  unfold World.failHandshake
  dsimp only
  refine (crashed w gen (.handshake failure)).trans ?_
  generalize w.crashed gen (.handshake failure) = w₁
  split
  · split
    · exact ((modifyConn w₁ c fun _ => by rfl).trans (requestKill _ c)).trans
        (finishOp _ tid handle _)
    · exact finishOp _ tid handle _
  · exact finishOp _ tid handle _

/-- The `initialize` call of a handshake the supervisor holds has ended, with a result only if its
capabilities are as `H` allows on `c`: the session runs after this only if `initialized` is queued
on its connection and these capabilities are noted. -/
theorem handshakeDone (w : World) (tid : Nat) (handle : Option Nat) (gen c : Nat)
    (r : Except Rpc.Error Value) (present : c < w.conns.size)
    (tie : ∀ r', w.supervision.session = some r' → r'.generation = gen ∧ r'.conn = c)
    (heard : ∀ v caps, r = .ok v → Negotiated.ofResult v = .ok caps →
      H c caps (w.conn c).outbound) :
    Sends S H w (w.handshakeDone tid handle gen c r) := by
  unfold World.handshakeDone
  split
  · exact failHandshake w tid handle gen c _
  split
  · exact failHandshake w tid handle gen c _
  split
  · exact failHandshake w tid handle gen c _
  rename_i v _ caps read _ w₁ sent
  have known : H c caps (w.conn c).outbound := heard v caps rfl read
  have queued : (w₁.conn c).outbound = (w.conn c).outbound ++ [initializedNote] :=
    outbound_of_notify sent present
  have kept : w₁.supervision = w.supervision := by
    simp only [supervision, (KeepsSupervisor.notify sent).sup]
  -- the capabilities go to the session of this generation, which is on `c`
  have announced : ∀ s r', s = w₁.supervision → (s.session.map fun r =>
      if r.generation == gen then { r with capabilities := some caps } else r) = some r' →
      w₁.Announced H r' := by
    rintro s r' rfl noted
    obtain ⟨r, held, rfl⟩ := Option.map_eq_some_iff.mp noted
    obtain ⟨same, on⟩ := tie r (kept ▸ held)
    simp only [same, beq_self_eq_true, if_true]
    exact ⟨caps, (w.conn c).outbound, [initializedNote], rfl, on ▸ known, on ▸ queued,
      List.mem_singleton_self _⟩
  have noted : Sends S H w₁ (w₁.modifySup fun s => { s with session := s.session.map fun r =>
      if r.generation == gen then { r with capabilities := some caps } else r }) := by
    refine modifySup w₁ _ (fun r' _ held => .inr (announced _ r' rfl held)) (Nat.le_refl _) ?_
    intro r' held
    obtain ⟨r, old, rfl⟩ := Option.map_eq_some_iff.mp held
    exact ⟨r, old, by split <;> rfl, by split <;> rfl⟩
  have ready : ∀ r', (w₁.modifySup fun s => { s with session := s.session.map fun r =>
      if r.generation == gen then { r with capabilities := some caps } else r }).supervision.session =
        some r' → (w₁.modifySup fun s => { s with session := s.session.map fun r =>
      if r.generation == gen then { r with capabilities := some caps } else r }).Announced H r' := by
    intro r' held
    cases found : w₁.sup with
    | none => simp [World.modifySup, supervision, found] at held
    | some s =>
      rw [supervision_modifySup (by simp [found])] at held
      exact announced _ r' rfl held
  dsimp only
  refine (of_notify sent (.inr (.inl rfl))).trans (noted.trans ?_)
  split
  · rename_i w₃ moved
    have step := transition (S := S) (H := H) (w₁.modifySup fun s => { s with session := s.session.map fun r =>
      if r.generation == gen then { r with capabilities := some caps } else r }) (some gen) .running
      fun _ r' held => .inr (ready r' held)
    rw [moved] at step
    exact step.trans (finishOp _ tid handle _)
  · rename_i w₃ stayed
    obtain ⟨rfl, -⟩ := transition_eq_false stayed
    exact failHandshake _ tid handle gen c _

theorem handshakeTimeout (w : World) (tid : Nat) (handle : Option Nat) (gen c : Nat) (call : Call) :
    Sends S H w (w.handshakeTimeout tid handle gen c call) := by
  unfold World.handshakeTimeout
  exact (abandon w call).trans (failHandshake _ tid handle gen c _)

/-- The wait for an `initialize` already sent, on a handshake the supervisor holds, after a look
at the call: it has ended, with a result only if its capabilities are as `H` allows on `c`, or
waits on under id 0 on `c`. -/
theorem awaitInitialize (w : World) (tid : Nat) (handle : Option Nat) (op : LifecycleOp)
    (gen c : Nat) (call : Call) (t : Timer) (sent : call.isFresh = false) (holds : w.Holds gen c)
    (tie : ∀ r', w.supervision.session = some r' → r'.generation = gen ∧ r'.conn = c)
    (first : call.Initializes c ∨ ∃ r, call = .finished r)
    (heard : ∀ v caps, call = .finished (.ok v) → Negotiated.ofResult v = .ok caps →
      H c caps (w.conn c).outbound) :
    Sends S H w (w.awaitInitialize tid handle op gen c call t) := by
  unfold World.awaitInitialize
  split
  · exact handshakeDone w tid handle gen c _ holds.1 tie fun v caps same => heard v caps (by rw [same])
  · rename_i unfinished
    have waits : call.Initializes c :=
      first.resolve_right fun ended => ended.elim unfinished
    split
    · exact handshakeTimeout w tid handle gen c _
    · exact setHandshake w tid sent holds waits

/-! ### Opening a session -/

theorem of_launch_error {reason : String} (failed : w.launch = (.error reason, w')) :
    Sends S H w w' := by
  unfold World.launch at failed
  dsimp only at failed
  split at failed
  · cases failed
    refine update w _ ?_ ?_ ?_ <;> intro s <;> rfl
  · split at failed
    · cases failed
    · split at failed
      · cases failed
        exact refl w
      · split at failed <;> cases failed

/-- The `initialize` request on a connection just opened goes under id 0, first in its queue. -/
theorem firstCall {w₀ w₂ w₃ : World} {c : Nat} {params : Value} {limit : Limit} {call : Call}
    (opens : w₀.Opens w₂ c) (stepped : w₂.stepCall c (.fresh "initialize" params limit) = (w₃, call)) :
    ∃ rest, (w₃.conn c).outbound = .request (.number 0) "initialize" params :: rest ∧
      ∀ m ∈ rest, Allows S c m := by
  have present : c < w₂.conns.size := by
    rw [opens.size]
    exact Nat.lt_succ_self c
  obtain ⟨w', issued, conn', size'⟩ :=
    issue_of_open present "initialize" params opens.accepting opens.writing
  obtain ⟨L, waits⟩ : ∃ L, w₃ = (w'.beginWait c (.number (w₂.conn c).nextId.toInt) "initialize" L).1 :=
    ⟨_, by
      simp only [World.stepCall, issued] at stepped
      exact (congrArg Prod.fst stepped).symm⟩
  have waited : Sends (fun _ => False) (fun _ _ _ => False) w'
      (w'.beginWait c (.number (w₂.conn c).nextId.toInt) "initialize" L).1 :=
    World.beginWait_of takeFilled forget timer _ _ _ _ _
  rw [← waits] at waited
  have sent : (w'.conn c).outbound = [.request (.number 0) "initialize" params] := by
    simp [conn', conn_registered present, opens.empty, opens.first]
  refine ⟨w'.added w₃ c, ?_, ?_⟩
  · rw [append_added (waited.front c), sent]
    rfl
  · intro m mem
    exact (waited.allowed c (size' ▸ present) m mem).imp_right (·.imp_right False.elim)

/-- The `initialize` call on a connection just opened waits under id 0 there, unless it ends at once
with an error: no answer has come on the connection yet. -/
theorem initializes_of_opens {w₀ w₂ w₃ : World} {c : Nat} {params : Value} {limit : Limit}
    {call : Call} (opens : w₀.Opens w₂ c)
    (stepped : w₂.stepCall c (.fresh "initialize" params limit) = (w₃, call)) :
    call.Initializes c ∨ ∃ e, call = .finished (.error e) := by
  have present : c < w₂.conns.size := by
    rw [opens.size]
    exact Nat.lt_succ_self c
  obtain ⟨w', issued, conn', -⟩ :=
    issue_of_open present "initialize" params opens.accepting opens.writing
  obtain ⟨L, waits⟩ : ∃ L, call = (w'.beginWait c (.number (w₂.conn c).nextId.toInt) "initialize" L).2 :=
    ⟨_, by
      simp only [World.stepCall, issued] at stepped
      exact (congrArg Prod.snd stepped).symm⟩
  have looked := looksAt_beginWait w' c (.number (w₂.conn c).nextId.toInt) "initialize" L
  rw [← waits, opens.first] at looked
  rcases looked with ⟨d, rfl⟩ | ⟨e, rfl⟩ | ⟨o, found, -⟩
  · exact .inl ⟨rfl, by simp⟩
  · exact .inr ⟨e, rfl⟩
  · simp [conn', conn_registered present, opens.unfilled] at found

/-- A turn at a handshake looks at its `initialize` call, waiting under id 0 on `c`. -/
theorem looksAt_of_initializes {w w' : World} {c d : Nat} {call call' : Call}
    (waits : call.Initializes c) (stepped : w.stepCall d call = (w', call')) :
    ∃ method, w.LooksAt c (.number 0) method call' := by
  cases call with
  | waiting c' i method deadline =>
    obtain ⟨rfl, rfl⟩ := waits
    refine ⟨method, ?_⟩
    have looked := looksAt_checkWait w c' (.number 0) method deadline
    simp only [World.stepCall] at stepped
    rw [stepped] at looked
    exact looked
  | fresh | issued | finished => nomatch waits

theorem of_stepCall {c : Nat} {call call' : Call} (stepped : w.stepCall c call = (w', call'))
    (own : call.isFresh = true → S c) : Sends S H w w' := by
  have sent := stepCall (H := H) w c call own
  rw [stepped] at sent
  exact sent

/-- Opening connection `c` and sending its `initialize` request first: a change that goes on to
send as `S` allows sends as `S` throughout. -/
theorem opening {w₀ w₂ w₃ : World} {c : Nat} (opens : w₀.Opens w₂ c)
    (call : Sends (· = c) H w₂ w₃)
    (first : ∃ params rest, (w₃.conn c).outbound =
      .request (.number 0) "initialize" params :: rest ∧ ∀ m ∈ rest, Allows S c m)
    (plain : ∀ e ∈ w₂.tasks, e ∈ w₀.tasks ∨ e.2.binds = none ∧ e.2.staged = false)
    (idle : ∀ r, ¬ w₃.Runs r) (tied : w₀.Tied → w₂.Tied)
    (stops : ∀ d, w₃.StopsOn d → w₂.StopsOn d)
    (held : ∀ r, w₃.supervision.session = some r → r.conn = c) : Sends S H w₀ w₃ where
  front d := by
    by_cases old : d < c
    · rw [← opens.kept d old]
      exact call.front d
    · rw [conn_of_size_le (by rw [← opens.after]; exact Nat.le_of_not_lt old)]
      exact List.nil_prefix
  allowed d below m mem := by
    have old : d < c := opens.after ▸ below
    rw [added, ← opens.kept d old] at mem
    exact (call.allowed d (by rw [opens.size]; omega) m mem).imp_right
      (·.imp_right fun same => absurd same (Nat.ne_of_lt old))
  opened d below above := by
    by_cases here : d = c
    · subst here
      exact first
    · have later : w₂.conns.size ≤ d := by
        rw [opens.size]
        have := opens.after
        omega
      obtain ⟨params, rest, opening, fits⟩ := call.opened d later above
      exact ⟨params, rest, opening, fun m mem => (fits m mem).imp_right
        (·.imp_right fun same => absurd same here)⟩
  grows := by
    have := call.grows
    have := opens.size
    have := opens.after
    omega
  unbound e mem := (call.unbound e mem).elim .inl fun old => (plain e old).elim .inr (.inl ·.1)
  runs r now := absurd now (idle r)
  tied := call.tied ∘ tied
  stops d now := by
    obtain ⟨j, handle, op, gen, made, mem⟩ := stops d now
    refine .inl ⟨j, handle, op, gen, made, (plain _ mem).resolve_right fun fresh => ?_⟩
    simp [Task.staged] at fresh
  sessions r held' := by
    rw [held r held', opens.after]
    refine .inr ⟨Nat.le_refl _, Nat.lt_of_lt_of_le ?_ call.grows⟩
    rw [opens.size, ← opens.after]
    exact Nat.lt_succ_self c

/-- Starting a new generation sends its `initialize` request first on a connection of its own,
and after it only what `Allows S` lets through. -/
theorem startFresh (w : World) (tid : Nat) (handle : Option Nat) (op : LifecycleOp) :
    Sends S H w (w.startFresh tid handle op) := by
  unfold World.startFresh
  have begun := beginSession (S := S) (H := H) w
  split
  · rename_i w₁ refused
    rw [refused] at begun
    exact begun.trans (finishOp _ tid handle _)
  · rename_i gen w₁ started
    obtain ⟨generation, conns₁, tasks₁, sup₁⟩ := beginSession_eq_some started
    dsimp only
    split
    · rename_i reason w₂ failed
      rw [started] at begun
      exact ((begun.trans (of_launch_error failed)).trans (crashed _ gen _)).trans
        (finishOp _ tid handle _)
    · rename_i c w₂ succeeded
      obtain ⟨opens, tasks₂, sup₂⟩ := launch_eq_ok succeeded
      have opens₄ : w.Opens (((w₂.spawn (.reader c false none)).1.spawn (.monitor c gen .watching)).1.modifySup
          fun s => { s with session := some { generation := gen, conn := c } }) c :=
        opens.of_conns conns₁.symm rfl
      -- the reader and the monitor start, and the new generation's session is recorded on `c`
      generalize hw₄ : ((w₂.spawn (.reader c false none)).1.spawn (.monitor c gen .watching)).1.modifySup
          (fun s => { s with session := some { generation := gen, conn := c } }) = w₄ at opens₄
      have plain : ∀ e ∈ w₄.tasks, e ∈ w.tasks ∨ e.2.binds = none ∧ e.2.staged = false := by
        intro e mem
        rw [← hw₄] at mem
        simp only [World.modifySup, World.spawn, tasks₂, tasks₁, List.mem_append,
          List.mem_singleton] at mem
        rcases mem with (old | rfl) | rfl
        · exact .inl old
        · exact .inr ⟨rfl, rfl⟩
        · exact .inr ⟨rfl, rfl⟩
      have record : ∀ s₄, w₄.sup = some s₄ → s₄.generation = gen ∧ s₄.state = .starting ∧
          s₄.session = some { generation := gen, conn := c } ∧
          ∃ s, w.sup = some s ∧ s.generation < gen := by
        intro s₄ found
        rw [← hw₄] at found
        simp only [World.modifySup, World.spawn, sup₂, sup₁, Option.map_map,
          Option.map_eq_some_iff, Function.comp] at found
        obtain ⟨s, held, rfl⟩ := found
        refine ⟨rfl, rfl, rfl, s, held, ?_⟩
        rw [generation, supervision_eq held]
        exact Nat.lt_succ_self _
      have held : ∀ r', w₄.supervision.session = some r' → r'.generation = gen ∧ r'.conn = c := by
        intro r' now
        cases found : w₄.sup with
        | none => simp [supervision, found] at now
        | some s₄ =>
          obtain ⟨-, -, session, -⟩ := record s₄ found
          rw [supervision_eq found, session] at now
          cases now
          exact ⟨rfl, rfl⟩
      have tied : w.Tied → w₄.Tied := by
        intro tied j handle' op' g c' made t mem
        rcases plain _ mem with old | ⟨-, fresh⟩
        · obtain ⟨⟨present, holds⟩, first⟩ := tied j handle' op' g c' made t old
          refine ⟨⟨by rw [opens₄.size]; have := opens₄.after; omega, fun s₄ found => ?_⟩, first⟩
          obtain ⟨generation₄, -, session, s, before, newer⟩ := record s₄ found
          obtain ⟨below, -⟩ := holds s before
          refine ⟨by omega, fun r now same => ?_⟩
          rw [session] at now
          cases now
          exact absurd same (by simp only; omega)
        · simp [Task.staged] at fresh
      -- the `initialize` call goes out under the startup deadline
      generalize stepped : w₄.stepCall c _ = p
      obtain ⟨w₅, call⟩ := p
      obtain ⟨sup₅, operations₅⟩ := sup_of_stepCall stepped
      have idle : ∀ r, ¬ w₅.Runs r := by
        intro r now
        rw [Runs.of_sup sup₅] at now
        obtain ⟨running, -⟩ := now
        cases found : w₄.sup with
        | none => simp [supervision, found] at running
        | some s₄ =>
          obtain ⟨-, starting, -⟩ := record s₄ found
          rw [supervision_eq found, starting] at running
          cases running
      have call₅ : Sends (· = c) H w₄ w₅ := of_stepCall stepped fun _ => rfl
      have sends : Sends S H w w₅ :=
        opening opens₄ call₅ ⟨_, firstCall opens₄ stepped⟩ plain idle tied
          (fun d now => StopsOn.of_operations operations₅ now) fun r' now => by
            have record₅ : w₅.supervision = w₄.supervision := by simp only [supervision, sup₅]
            exact (held r' (record₅ ▸ now)).2
      have timed := sends.trans (timer w₅ w₁.supervision.config.startupTimeout)
      have present : c < w₅.conns.size :=
        Nat.lt_of_lt_of_le (by rw [opens₄.size]; exact Nat.lt_succ_self c) call₅.grows
      have record₅ : (w₅.timer w₁.supervision.config.startupTimeout).1.supervision = w₄.supervision := by
        simp only [supervision, World.timer, sup₅]
      have holds : (w₅.timer w₁.supervision.config.startupTimeout).1.Holds gen c := by
        refine ⟨present, fun s₄ found => ?_⟩
        simp only [World.timer, sup₅] at found
        obtain ⟨generation₄, -, session, -⟩ := record s₄ found
        refine ⟨generation₄.ge, fun r now _ => ?_⟩
        rw [session] at now
        cases now
        rfl
      have opened := initializes_of_opens opens₄ stepped
      dsimp only
      refine timed.trans (awaitInitialize _ tid handle op gen c call _ (isFresh_of_stepCall stepped)
        holds (fun r' now => held r' (record₅ ▸ now))
        (opened.imp_right fun failed => failed.elim fun _ same => ⟨_, same⟩) fun v caps finished _ => ?_)
      -- the call cannot have ended with a result: nothing had come on `c`
      rcases opened with waits | ⟨e, failed⟩
      · rw [finished] at waits
        exact False.elim waits
      · rw [finished] at failed
        cases failed

/-! ### Operations under the lock -/

theorem takeSession (w : World) (r : SessionRecord) : Sends S H w (w.takeSession r) :=
  (modifySup w (fun s => { s with session := none }) (fun _ _ held => nomatch held) (Nat.le_refl _)
    (fun _ held => nomatch held)).trans (modifyConn _ r.conn fun _ => rfl)

theorem afterClear (w : World) (tid : Nat) (handle : Option Nat) (op : LifecycleOp) (c : Nat) :
    Sends S H w (w.afterClear tid handle op c) := by
  unfold World.afterClear
  exact ((closePeer w c).trans (transition _ none .stopped nofun)).trans (startFresh _ tid handle op)

theorem startLocked (w : World) (tid : Nat) (handle : Option Nat) (op : LifecycleOp) :
    Sends S H w (w.startLocked tid handle op) := by
  unfold World.startLocked
  split
  · exact finishOp w tid handle _
  · exact finishOp w tid handle _
  · split
    · rename_i r held
      dsimp only
      -- the crashed session is taken, its process told to die, and its monitor waited for
      refine ((takeSession w r).trans (requestKill _ r.conn)).trans ?_
      split
      · exact afterClear _ tid handle op r.conn
      · exact setTask _ tid rfl rfl
    · exact (transition w none .stopped nofun).trans (startFresh _ tid handle op)
  · exact startFresh w tid handle op

theorem afterStop (w : World) (tid : Nat) (handle : Option Nat) (op : LifecycleOp) :
    Sends S H w (w.afterStop tid handle op) := by
  unfold World.afterStop
  split
  · exact startLocked w tid handle _
  · exact finishOp w tid handle _

theorem finishStop (w : World) (tid : Nat) (handle : Option Nat) (op : LifecycleOp) (c : Nat) :
    Sends S H w (w.finishStop tid handle op c) := by
  unfold World.finishStop
  exact ((closePeer w c).trans (transition _ none .stopped nofun)).trans (afterStop _ tid handle op)

theorem killAndWait (w : World) (tid : Nat) (handle : Option Nat) (op : LifecycleOp) (gen c : Nat) :
    Sends S H w (w.killAndWait tid handle op gen c) := by
  unfold World.killAndWait
  dsimp only
  refine (requestKill w c).trans ?_
  split
  · exact finishStop _ tid handle op c
  · exact setTask _ tid rfl rfl

theorem waitForMonitor (w : World) (tid : Nat) (handle : Option Nat) (op : LifecycleOp)
    (gen c : Nat) : Sends S H w (w.waitForMonitor tid handle op gen c) := by
  unfold World.waitForMonitor
  split
  · exact finishStop w tid handle op c
  · split
    rename_i w₁ t armed
    have timed := timer (S := S) (H := H) w w.supervision.config.shutdownGrace
    rw [armed] at timed
    split
    · exact timed.trans (killAndWait _ tid handle op gen c)
    · exact timed.trans (setTask _ tid rfl rfl)

/-- After the `shutdown` answer, `exit` goes out on the connection the stop waits on. -/
theorem afterShutdown (w : World) (tid : Nat) (handle : Option Nat) (op : LifecycleOp)
    (gen c : Nat) (own : S c) : Sends S H w (w.afterShutdown tid handle op gen c) := by
  cases sent : w.notify c "exit" .null with
  | ok w' =>
    rw [World.afterShutdown_of_sent sent]
    exact (of_notify sent (.inr (.inr own))).trans (waitForMonitor w' tid handle op gen c)
  | error e =>
    rw [World.afterShutdown_of_refused sent]
    exact waitForMonitor w tid handle op gen c

/-- A stop's move on the session it has taken: `shutdown`, and after it `exit`, go out on the
session's connection, and only if the session may move to Stopping. -/
theorem stopSession (w : World) (tid : Nat) (handle : Option Nat) (op : LifecycleOp)
    (r : SessionRecord) (own : w.supervision.state.canStep .stopping = true → S r.conn) :
    Sends S H w (w.stopSession tid handle op r) := by
  unfold World.stopSession
  have moved := transition (S := S) (H := H) w (some r.generation) .stopping nofun
  split
  · rename_i w₂ went
    obtain ⟨-, allowed, -⟩ := transition_eq_true went
    rw [went] at moved
    refine moved.trans ?_
    -- `shutdown` goes out, bounded by the grace period
    generalize stepped : w₂.stepCall r.conn _ = p
    obtain ⟨w₃, call⟩ := p
    dsimp only
    refine (of_stepCall stepped fun _ => own allowed).trans ?_
    split
    · exact afterShutdown w₃ tid handle op _ _ (own allowed)
    · exact setShutdown w₃ tid (isFresh_of_stepCall stepped) (own allowed)
  · rename_i w₂ stayed
    rw [stayed] at moved
    exact moved.trans (killAndWait _ tid handle op _ _)

/-- A stop sends `shutdown`, and then `exit`, only on the connection of the session it takes, and
only when that session may move to Stopping. -/
theorem stopLocked (w : World) (tid : Nat) (handle : Option Nat) (op : LifecycleOp) :
    Sends w.Stoppable H w (w.stopLocked tid handle op) := by
  cases held : w.supervision.session with
  | none =>
    rw [stopLocked_of_none held]
    exact (transition w none .stopped nofun).trans (afterStop _ tid handle op)
  | some r =>
    rw [stopLocked_of_some held]
    -- taking the session keeps the state
    have state₁ : (w.takeSession r).supervision.state = w.supervision.state :=
      state_modifySup w fun _ => rfl
    refine (takeSession w r).trans (stopSession _ tid handle op r fun allowed => ?_)
    rw [state₁] at allowed
    exact ⟨r, held, rfl, allowed⟩

theorem afterLock (w : World) (tid : Nat) (handle : Option Nat) (op : LifecycleOp) :
    Sends w.Stoppable H w (w.afterLock tid handle op) := by
  unfold World.afterLock
  split
  · refine (update w _ ?_ ?_ ?_).trans (startLocked _ tid handle _) <;> intro s <;> rfl
  · exact stopLocked w tid handle _
  · -- a restart's reset of the count keeps the session a stop takes
    have reset : Sends w.Stoppable H w (w.modifySup fun s => { s with restarts := 0 }) := by
      refine update w _ ?_ ?_ ?_ <;> intro s <;> rfl
    exact reset.trans ((stopLocked _ tid handle _).mono fun d stoppable =>
      Stoppable.of_same stoppable (state_modifySup w fun _ => rfl) (session_modifySup w fun _ => rfl))
  · dsimp only
    split
    · exact finishOp w tid handle _
    · exact startLocked w tid handle _

/-- A turn of an operation sends anything only where its stage permits; at a handshake, the
supervisor must hold it and its call wait for the answer to `initialize`, which ends it only with
capabilities `H` allows. -/
theorem pollLifecycle (w : World) (tid : Nat) (handle : Option Nat) (op : LifecycleOp)
    (stage : Stage)
    (handshake : ∀ gen c call t, stage = .handshake gen c call t →
      w.Holds gen c ∧ (∀ r, w.supervision.session = some r → r.generation = gen) ∧
        call.Initializes c ∧ ∀ caps q, w.Heard c caps → (w.conn c).outbound <+: q → H c caps q) :
    Sends (w.stagePermits tid stage) H w (w.pollLifecycle tid handle op stage) := by
  cases stage with
  | locking =>
    dsimp only [World.pollLifecycle]
    split
    · rename_i mine
      exact (afterLock w tid handle op).mono fun d stoppable =>
        ⟨.inl (by simpa using mine), stoppable⟩
    · split
      · rename_i _ free
        have taken : Sends (w.stagePermits tid .locking) H w
            (w.modifySup fun s => { s with lockHolder := some tid }) := by
          refine update w _ ?_ ?_ ?_ <;> intro s <;> rfl
        exact taken.trans ((afterLock _ tid handle op).mono fun d stoppable =>
          ⟨.inr (by simpa using free), Stoppable.of_same stoppable
            (state_modifySup w fun _ => rfl) (session_modifySup w fun _ => rfl)⟩)
      · split
        · exact refl w
        · refine update w _ ?_ ?_ ?_ <;> intro s <;> rfl
  | clearing c =>
    dsimp only [World.pollLifecycle]
    split
    · exact afterClear w tid handle op c
    · exact refl w
  | handshake gen c call t =>
    obtain ⟨holds, current, waits, heard⟩ := handshake gen c call t rfl
    dsimp only [World.pollLifecycle]
    generalize stepped : w.stepCall c call = p
    obtain ⟨w₁, call'⟩ := p
    obtain ⟨sup₁, -⟩ := sup_of_stepCall stepped
    have sent : Sends (w.stagePermits tid (.handshake gen c call t)) H w w₁ :=
      of_stepCall stepped fun fresh => ⟨fresh, rfl⟩
    have holds₁ := holds.mono sup₁ sent.grows
    have same : w₁.supervision = w.supervision := by simp only [supervision, sup₁]
    -- a result the look ends the call with is the answer that had come under id 0
    obtain ⟨method, looked⟩ := looksAt_of_initializes waits stepped
    dsimp only
    exact sent.trans (awaitInitialize _ tid handle op gen c call' t (isFresh_of_stepCall stepped)
      holds₁ (same ▸ holds.tie current) looked.initializes fun v caps finished read =>
        heard caps _ ⟨v, by subst finished; exact looked.ok, read⟩ (sent.front c))
  | shutdown gen c call =>
    dsimp only [World.pollLifecycle]
    generalize stepped : w.stepCall c call = p
    obtain ⟨w₁, call'⟩ := p
    have sent : Sends (w.stagePermits tid (.shutdown gen c call)) H w w₁ :=
      of_stepCall stepped fun _ => rfl
    dsimp only
    split
    · exact sent.trans (afterShutdown _ tid handle op gen c rfl)
    · exact sent.trans (setShutdown _ tid (isFresh_of_stepCall stepped) rfl)
  | grace gen c t =>
    dsimp only [World.pollLifecycle]
    split
    · exact finishStop w tid handle op c
    · split
      · exact killAndWait w tid handle op gen c
      · exact refl w
  | killed gen c =>
    dsimp only [World.pollLifecycle]
    split
    · exact finishStop w tid handle op c
    · exact refl w

/-- An automatic restart whose delay is over takes its turn at the lock at once. -/
theorem pollRestartDelay (w : World) (tid gen delay : Nat) (timer : Option Timer) :
    Sends (w.stagePermits tid .locking) H w (w.pollRestartDelay tid gen delay timer) := by
  have restart : ∀ w₁, Sends (w.stagePermits tid .locking) H w w₁ → w₁.sup = w.sup →
      Sends (w.stagePermits tid .locking) H w ((w₁.setTask tid
        (.lifecycle none (.autoRestart gen) .locking)).pollLifecycle tid none (.autoRestart gen)
          .locking) := by
    intro w₁ waited sup₁
    have turn := pollLifecycle (H := H) (w₁.setTask tid (.lifecycle none (.autoRestart gen) .locking)) tid
      none (.autoRestart gen) .locking nofun
    have same : (w₁.setTask tid (.lifecycle none (.autoRestart gen) .locking)).stagePermits tid
        .locking = w.stagePermits tid .locking := by
      funext d
      simp only [stagePermits, Stoppable, supervision, sup_setTask, sup₁]
    rw [same] at turn
    exact (waited.trans (setTask _ tid rfl rfl)).trans turn
  cases timer with
  | none =>
    dsimp only [World.pollRestartDelay]
    split
    · exact restart _ (timer w delay) rfl
    · exact (timer w delay).trans (setTask _ tid rfl rfl)
  | some t =>
    dsimp only [World.pollRestartDelay]
    split
    · exact restart w (refl w) rfl
    · exact refl w

/-- A turn of any task but a writer sends as its kind permits. -/
theorem pollTask (w : World) (tid : Nat) {t : Task} (found : w.task? tid = some t)
    (reading : ∀ c, t ≠ .writer c)
    (handshake : ∀ handle op gen c call timer, t = .lifecycle handle op (.handshake gen c call timer) →
      w.Holds gen c ∧ (∀ r, w.supervision.session = some r → r.generation = gen) ∧
        call.Initializes c ∧ ∀ caps q, w.Heard c caps → (w.conn c).outbound <+: q → H c caps q) :
    Sends (w.turnPermits tid t) H w (w.pollTask tid) := by
  unfold World.pollTask
  rw [found]
  cases t with
  | reader c started ended => exact pollReader w tid c started ended
  | writer c => exact absurd rfl (reading c)
  | handler c i method work => exact pollHandler w tid c i method work
  | call handle target call typed =>
    exact pollCall w tid handle target call typed fun c fresh goes => ⟨fresh, goes⟩
  | calls handle c each => exact pollCalls w tid handle c each fun fresh => ⟨fresh, rfl⟩
  | lifecycle handle op stage =>
    exact pollLifecycle w tid handle op stage fun gen c call timer same =>
      handshake handle op gen c call timer (by rw [same])
  | monitor c gen watch => exact pollMonitor w tid c gen watch
  | restartDelay gen delay timer => exact pollRestartDelay w tid gen delay timer
  | timed c action t => exact pollTimed w tid c action t

end Sends

end World

end Engine

end LspBridge
