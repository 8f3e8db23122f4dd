import LspBridge.Engine.Connection
import LspBridge.Proofs.CallLedger
import LspBridge.Proofs.StreamReading
/-!
# A connection's reader follows the frame reader

A turn of a connection's reader reads the bytes that have arrived as `Frame.readArrived` does,
dispatches the frames it reads one at a time in order, each after moving past it, and, once the
input has ended, a read has failed or a header block is refused, ends its run with how the input
ended, or with the failed read (`readFrames_eq`). `ReadingRuns` carries this along every run.

Handling a frame never touches the bytes a reader reads from: a response goes to its call, a
notification to its handler, a request to a task or a reply, none of which changes what has
arrived, whether more can, or the limit on a payload (`input_dispatch`).

When the reading ends, the reader closes its connection first: every call still in flight ends as
unavailable and the table refuses new calls (`conn_endReading`).
-/

namespace LspBridge

open Client

namespace Frame

@[simp]
theorem End.atFailure_failed (error : Option String) (e : HeaderError) :
    (End.failed e).atFailure error = .failed e := by
  cases error <;> rfl

@[simp]
theorem End.atFailure_none (e : End) : e.atFailure none = e := by
  cases e <;> rfl

end Frame

namespace Engine

/-- The bytes a connection's reader reads from: what has arrived, whether more can, the limit on a
payload, and the error a read past them fails with. -/
def Conn.input (k : Conn) : List UInt8 × Bool × Nat × Option String :=
  (k.inbound, k.inboundClosed, k.maxFrame, k.readError)

/-- The calls of a connection and the outcomes waiting for their callers. -/
def Conn.ledger (k : Conn) : PendingTable × List (Rpc.RequestId × Outcome) := (k.pending, k.filled)

namespace World

/-- The frames a reader has read, handled in order, each after the reader has moved past it. -/
def dispatchReads (w : World) (c : Nat) (reads : List (List UInt8 × List UInt8)) : World :=
  reads.foldl (fun w read => (w.modifyConn c fun k => { k with inbound := read.2 }).dispatch c read.1)
    w

/-- What a reader with the given fuel makes of the bytes that have arrived on a connection. -/
def readProgress (w : World) (c fuel : Nat) : Frame.Progress :=
  Frame.readArrived (w.conn c).maxFrame (w.conn c).inboundClosed fuel (w.conn c).inbound

/-- A reader's turn ends as its reading went: it waits while the input may still grow, and ends
its run with how the input ended once it has, or with the read that failed where it ended. -/
def endRead (w : World) (tid c : Nat) : Option Frame.End → World
  | none => w
  | some e => w.endReading tid c (e.atFailure (w.conn c).readError).result

variable {w : World} {c d : Nat}

theorem conn_of_size_le (outside : w.conns.size ≤ c) : w.conn c = {} := by
  simp [conn, outside]

/-! ### What handling a frame leaves alone -/

/-- A change of one connection that keeps what a view of it sees keeps that view of every
connection. -/
theorem view_modifyConn {β : Type} (view : Conn → β) {f : Conn → Conn}
    (keeps : ∀ k, view (f k) = view k) : view ((w.modifyConn c f).conn d) = view (w.conn d) := by
  by_cases same : d = c
  · subst same
    by_cases present : d < w.conns.size
    · rw [conn_modifyConn_self _ _ _ present, keeps]
    · simp [modifyConn, conn, Nat.le_of_not_lt present]
  · rw [conn_modifyConn_of_ne _ _ same]

theorem input_fill (id : Rpc.RequestId) (o : Outcome) :
    ((w.fill c id o).conn d).input = (w.conn d).input := by
  simp only [fill, conn_wakeSlot]
  exact view_modifyConn Conn.input fun _ => rfl

theorem input_deliver (id : Rpc.RequestId) (r : Except Rpc.ResponseError Json.Value) :
    ((w.deliver c id r).conn d).input = (w.conn d).input := by
  unfold deliver
  split
  · rw [input_fill]
    exact view_modifyConn Conn.input fun _ => rfl
  · rfl

theorem input_reply (id : Rpc.RequestId) (r : Except Rpc.ResponseError Json.Value) :
    ((w.reply c id r).conn d).input = (w.conn d).input := by
  unfold reply enqueue
  split
  · rfl
  · simp only [Option.getD_some, conn_wakeWriter]
    exact view_modifyConn Conn.input fun _ => rfl

/-- Handling a frame leaves the bytes every reader reads from as they were. -/
theorem input_dispatch (payload : List UInt8) :
    ((w.dispatch c payload).conn d).input = (w.conn d).input := by
  unfold dispatch
  split
  · rfl
  · exact input_deliver _ _
  · split <;> rfl
  · split
    · rfl
    · exact input_reply _ _

/-! ### A turn of the reader -/

/-- The reader takes the frames that have arrived one by one, handling each before it reads the
next; when it needs more bytes it stops, and when the input has ended it ends its run. -/
theorem readFrames_eq (tid c fuel : Nat) (w : World) :
    readFrames tid c fuel w =
      (w.dispatchReads c (w.readProgress c fuel).reads).endRead tid c
        (w.readProgress c fuel).ended := by
  induction fuel generalizing w with
  | zero => rfl
  | succ fuel ih =>
    cases read : Frame.next (w.conn c).maxFrame (w.conn c).inboundClosed (w.conn c).inbound with
    | frame payload rest =>
      -- a frame comes from bytes that have arrived, so the connection exists
      have present : c < w.conns.size := by
        by_contra outside
        have shorter := Frame.length_lt_of_next read
        rw [conn_of_size_le (Nat.le_of_not_lt outside)] at shorter
        simp at shorter
      have handled : (((w.modifyConn c fun k => { k with inbound := rest }).dispatch c
          payload).conn c).input =
            (rest, (w.conn c).inboundClosed, (w.conn c).maxFrame, (w.conn c).readError) := by
        rw [input_dispatch]
        simp [conn_modifyConn_self _ _ _ present, Conn.input]
      have later : ((w.modifyConn c fun k => { k with inbound := rest }).dispatch c
          payload).readProgress c fuel =
          Frame.readArrived (w.conn c).maxFrame (w.conn c).inboundClosed fuel rest := by
        simp only [Conn.input, Prod.mk.injEq] at handled
        simp [readProgress, handled]
      rw [readFrames, read]
      dsimp only
      rw [ih, later, readProgress, Frame.readArrived_of_frame read fuel]
      rfl
    | needMore => simp [readFrames, read, readProgress, Frame.readArrived, endRead, dispatchReads]
    | finished => simp [readFrames, read, readProgress, Frame.readArrived, endRead, dispatchReads,
        Frame.End.result]
    | truncated => simp [readFrames, read, readProgress, Frame.readArrived, endRead, dispatchReads,
        Frame.End.result]
    | failed e => simp [readFrames, read, readProgress, Frame.readArrived, endRead, dispatchReads,
        Frame.End.result]

theorem size_foldl_fill (ids : List Rpc.RequestId) (o : Outcome) (w : World) :
    (ids.foldl (fun acc id => acc.fill c id o) w).conns.size = w.conns.size := by
  induction ids generalizing w with
  | nil => rfl
  | cons id rest ih => simp [ih]

@[simp]
theorem size_closePeer (w : World) (c : Nat) : (w.closePeer c).2.conns.size = w.conns.size := by
  simp [closePeer, size_foldl_fill]

/-! ### The end of the reading -/

@[simp]
theorem conn_setTask (tid : Nat) (t : Task) : (w.setTask tid t).conn d = w.conn d :=
  rfl

@[simp]
theorem conn_dropTask (tid : Nat) : (w.dropTask tid).conn d = w.conn d :=
  rfl

theorem conns_foldl_dropTask (tids : List Nat) (w : World) :
    (tids.foldl dropTask w).conns = w.conns := by
  induction tids generalizing w with
  | nil => rfl
  | cons tid rest ih => exact ih (w.dropTask tid)

@[simp]
theorem conn_dropHandlers : (w.dropHandlers c).conn d = w.conn d := by
  simp only [dropHandlers, conn, conns_foldl_dropTask]

/-- After closing the connection, the end of the reading touches neither its calls nor their
outcomes. -/
theorem ledger_endReading (tid : Nat) (r : Except Rpc.Error Unit) :
    ((w.endReading tid c r).conn c).ledger = ((w.closePeer c).2.conn c).ledger := by
  unfold endReading finishReader wakeMonitorOnReader wakeWriter
  dsimp only
  split
  · simp only [conn_wakeIf, conn_dropTask]
    rw [view_modifyConn Conn.ledger, conn_wakeIf, view_modifyConn Conn.ledger, conn_dropHandlers]
    all_goals exact fun _ => rfl
  · simp only [conn_setTask, conn_wakeIf]
    rw [view_modifyConn Conn.ledger, conn_dropHandlers]
    exact fun _ => rfl

/-- When the reading ends, the connection is closed: every call in flight has ended as unavailable,
in order, and the table is empty and refuses new calls. -/
theorem endReading_closes (present : c < w.conns.size) (tid : Nat) (r : Except Rpc.Error Unit) :
    ((w.endReading tid c r).conn c).pending.closed = true ∧
    ((w.endReading tid c r).conn c).pending.calls = [] ∧
    ((w.endReading tid c r).conn c).filled = (w.conn c).filled ++
      (w.conn c).pending.calls.map fun entry => (entry.1, Outcome.unavailable) := by
  have kept : ((w.endReading tid c r).conn c).ledger = ((w.closePeer c).2.conn c).ledger :=
    ledger_endReading tid r
  rw [conn_closePeer present] at kept
  simp only [Conn.ledger, Prod.mk.injEq] at kept
  simp [kept.1, kept.2]

end World

end Engine

end LspBridge
