import LspBridge.Engine.Calls
import LspBridge.Proofs.WorldFrame
import Mathlib
/-!
# Every outbound call ends exactly once

The calls of one connection are kept in its call table until one of five removers ends them: the
response, a local cancellation, the caller's own deadline, the caller dropping the call, or the
connection closing. This file reads the connection as a *ledger* that gives each request id one
slot:

* `unissued`: the id has not been handed out;
* `inFlight method`: the call is in the table;
* `ended outcome`: a remover took it out of the table and left an outcome for its caller;
* `finished`: the call is gone and nothing of it is left.

`PeerOp.onSlot` is the ledger machine: what each operation of the peer does to one slot. The main
results are that each operation of the peer moves the ledger exactly as that machine says
(`peerStep_spec`), that the machine only moves a slot forward (`SlotAdvances`), and that the
well-formedness of the ledger holds along every run, from any well-formed start. From these,
a call leaves the table once, its outcome is the one its remover chose, and a later response, a
second cancellation or a second timeout finds nothing to act on.
-/

namespace LspBridge

namespace Client

open Rpc

theorem lookup_cons_of_ne {β : Type} (rest : List (RequestId × β)) {key k : RequestId}
    (value : β) (other : k ≠ key) : ((key, value) :: rest).lookup k = rest.lookup k := by
  simp [List.lookup_cons, beq_eq_false_iff_ne.mpr other]

/-- Removing every entry of one key hides that key and no other. -/
theorem lookup_filter_key {β : Type} (l : List (RequestId × β)) (i k : RequestId) :
    (l.filter (·.1 != i)).lookup k = if k = i then none else l.lookup k := by
  induction l with
  | nil => simp
  | cons entry rest ih =>
      obtain ⟨key, value⟩ := entry
      by_cases same : key = i
      · subst same
        have dropped : ((key, value) :: rest).filter (·.1 != key) =
            rest.filter (·.1 != key) := by
          simp
        rw [dropped, ih]
        by_cases asked : k = key
        · simp [asked]
        · simp [asked, lookup_cons_of_ne rest value asked]
      · have kept : ((key, value) :: rest).filter (·.1 != i) =
            (key, value) :: rest.filter (·.1 != i) := by
          simp [same]
        rw [kept]
        by_cases asked : k = key
        · subst asked
          simp [same]
        · rw [lookup_cons_of_ne _ value asked, lookup_cons_of_ne rest value asked, ih]

/-- A key still found once another is removed was there before. -/
theorem isSome_lookup_of_filter_key {β : Type} {l : List (RequestId × β)} {i k : RequestId}
    (found : ((l.filter (·.1 != i)).lookup k).isSome) : k ≠ i ∧ (l.lookup k).isSome := by
  rw [lookup_filter_key] at found
  by_cases same : k = i
  · simp [same] at found
  · simp only [same, if_false] at found
    exact ⟨same, found⟩

theorem lookup_singleton_of_ne {β : Type} {key k : RequestId} (value : β) (other : k ≠ key) :
    [(key, value)].lookup k = none := by
  rw [lookup_cons_of_ne [] value other]
  rfl

theorem lookup_append_of_none {β : Type} (l extra : List (RequestId × β)) {k : RequestId}
    (absent : l.lookup k = none) : (l ++ extra).lookup k = extra.lookup k := by
  simp [List.lookup_append, absent]

theorem lookup_map_closed (calls : List (RequestId × String)) (k : RequestId) :
    (calls.map fun entry => (entry.1, Outcome.unavailable)).lookup k =
      (calls.lookup k).map fun _ => Outcome.unavailable := by
  induction calls with
  | nil => rfl
  | cons entry rest ih =>
      obtain ⟨key, method⟩ := entry
      by_cases asked : k = key
      · subst asked
        simp
      · simp only [List.map_cons]
        rw [lookup_cons_of_ne _ _ asked, lookup_cons_of_ne _ _ asked, ih]

namespace PendingTable

/-- Retiring an id changes the window and nothing else. -/
theorem retire_window_only (t : PendingTable) (id : RequestId) :
    ∃ retired retiredSet, t.retire id = { t with retired, retiredSet } := by
  unfold retire
  split
  · exact ⟨t.retired, t.retiredSet, rfl⟩
  · dsimp only
    generalize t.retired ++ [id] = grown
    cases grown <;> split
    all_goals exact ⟨_, _, rfl⟩

@[simp]
theorem calls_retire (t : PendingTable) (id : RequestId) : (t.retire id).calls = t.calls := by
  obtain ⟨retired, retiredSet, only⟩ := retire_window_only t id
  rw [only]

@[simp]
theorem closed_retire (t : PendingTable) (id : RequestId) : (t.retire id).closed = t.closed := by
  obtain ⟨retired, retiredSet, only⟩ := retire_window_only t id
  rw [only]

theorem take_eq_some_iff (t t' : PendingTable) (id : RequestId) (method : String) :
    t.take id = some (method, t') ↔
      t.calls.lookup id = some method ∧
        t' = ({ t with calls := t.calls.filter (·.1 != id) }).retire id := by
  cases found : t.calls.lookup id with
  | none => simp [take, found]
  | some found =>
      simp only [take, found, Option.some.injEq, Prod.mk.injEq]
      constructor
      · rintro ⟨rfl, rfl⟩
        exact ⟨rfl, rfl⟩
      · rintro ⟨rfl, rfl⟩
        exact ⟨rfl, rfl⟩

theorem take_eq_none_iff (t : PendingTable) (id : RequestId) :
    t.take id = none ↔ t.calls.lookup id = none := by
  cases found : t.calls.lookup id <;> simp [take, found]

end PendingTable

/-- Where one request id stands in the ledger of a connection.

`unissued`: not handed out yet. `inFlight`: in the call table, under its method. `ended`: out of the
table, with an outcome its caller has not taken. `finished`: out of the table, with nothing left for
anyone. -/
inductive CallSlot where
  | unissued
  | inFlight (method : String)
  | ended (outcome : Outcome)
  | finished

/-- The order in which a slot moves: forward only, and an ended slot keeps its outcome. -/
inductive SlotAdvances : CallSlot → CallSlot → Prop where
  | refl (s : CallSlot) : SlotAdvances s s
  | issue (s : CallSlot) : SlotAdvances .unissued s
  | endCall (method : String) (outcome : Outcome) :
      SlotAdvances (.inFlight method) (.ended outcome)
  | dropCall (method : String) : SlotAdvances (.inFlight method) .finished
  | take (outcome : Outcome) : SlotAdvances (.ended outcome) .finished

namespace SlotAdvances

theorem trans {s t u : CallSlot} (first : SlotAdvances s t) (second : SlotAdvances t u) :
    SlotAdvances s u := by
  cases first with
  | refl => exact second
  | issue => exact .issue _
  | endCall method outcome =>
      cases second with
      | refl => exact .endCall method outcome
      | take => exact .dropCall method
  | dropCall method =>
      cases second with
      | refl => exact .dropCall method
  | take outcome =>
      cases second with
      | refl => exact .take outcome

theorem ne_unissued {s t : CallSlot} (moved : SlotAdvances s t) (handed : s ≠ .unissued) :
    t ≠ .unissued := by
  cases moved with
  | refl => exact handed
  | issue => exact absurd rfl handed
  | endCall => simp
  | dropCall => simp
  | take => simp

end SlotAdvances

end Client

namespace Engine

open Rpc Client

namespace Conn

/-- How many ids the counter has handed out: the value of its 64 bits read unsigned, exact while
fewer than `2 ^ 64` were. -/
def issued (k : Conn) : Nat := k.nextId.toBitVec.toNat

/-- Whether an id has been handed out on this connection. The counter hands out `0`, `1`, … up to
`2 ^ 63 - 1`, then wraps to `-2 ^ 63` and counts up to `-1`: an id was handed out when it is an
`i64` whose place in that order, its value modulo `2 ^ 64`, comes before the counter's. -/
def allocated (k : Conn) : RequestId → Bool
  | .number n => decide (-2 ^ 63 ≤ n ∧ n < 2 ^ 63 ∧ n % 2 ^ 64 < k.issued)
  | .text _ => false

/-- The slot of an id in the ledger of a connection. -/
def slot (k : Conn) (id : RequestId) : CallSlot :=
  match k.pending.calls.lookup id with
  | some method => .inFlight method
  | none =>
    match k.filled.lookup id with
    | some outcome => .ended outcome
    | none => if k.allocated id then .finished else .unissued

/-- A well-formed ledger: an id is never both in the table and ended, and every id in either has
been handed out. -/
structure LedgerWF (k : Conn) : Prop where
  separate : ∀ id, (k.pending.calls.lookup id).isSome → k.filled.lookup id = none
  callsAllocated : ∀ id, (k.pending.calls.lookup id).isSome → k.allocated id
  filledAllocated : ∀ id, (k.filled.lookup id).isSome → k.allocated id

/-- A connection with no call in its table and no outcome left is well formed, wherever its counter
stands. -/
theorem LedgerWF.of_empty {k : Conn} (calls : k.pending.calls = []) (filled : k.filled = []) :
    k.LedgerWF where
  separate := by simp [calls]
  callsAllocated := by simp [calls]
  filledAllocated := by simp [filled]

/-- The id the counter hands out next is an `i64` whose place in the order is the count. -/
theorem nextId_place (k : Conn) :
    -2 ^ 63 ≤ k.nextId.toInt ∧ k.nextId.toInt < 2 ^ 63 ∧ k.nextId.toInt % 2 ^ 64 = k.issued := by
  have bits := k.nextId.toBitVec.isLt
  rw [← Int64.toInt_toBitVec, BitVec.toInt_eq_toNat_cond]
  unfold issued
  split <;> omega

/-- Handing out an id counts one more, while the count stays below `2 ^ 64`. -/
theorem issued_succ {k k' : Conn} (room : k.issued + 1 < 2 ^ 64) (next : k'.nextId = k.nextId + 1) :
    k'.issued = k.issued + 1 := by
  unfold issued at room ⊢
  rw [next, Int64.toBitVec_add, BitVec.toNat_add]
  have one : (1 : Int64).toBitVec.toNat = 1 := rfl
  rw [one]
  exact Nat.mod_eq_of_lt room

theorem next_not_allocated (k : Conn) : k.allocated (.number k.nextId.toInt) = false := by
  obtain ⟨-, -, place⟩ := nextId_place k
  simp only [allocated, decide_eq_false_iff_not, not_and, not_lt]
  omega

theorem lookup_next_calls {k : Conn} (wf : k.LedgerWF) :
    k.pending.calls.lookup (.number k.nextId.toInt) = none := by
  cases found : k.pending.calls.lookup (.number k.nextId.toInt) with
  | none => rfl
  | some method =>
      have handed := wf.callsAllocated _ (by rw [found]; rfl)
      simp [next_not_allocated] at handed

theorem lookup_next_filled {k : Conn} (wf : k.LedgerWF) :
    k.filled.lookup (.number k.nextId.toInt) = none := by
  cases found : k.filled.lookup (.number k.nextId.toInt) with
  | none => rfl
  | some outcome =>
      have handed := wf.filledAllocated _ (by rw [found]; rfl)
      simp [next_not_allocated] at handed

theorem slot_next {k : Conn} (wf : k.LedgerWF) : k.slot (.number k.nextId.toInt) = .unissued := by
  simp [slot, lookup_next_calls wf, lookup_next_filled wf, next_not_allocated]

theorem allocated_congr {k k' : Conn} (next : k'.nextId = k.nextId) :
    k'.allocated = k.allocated := by
  have counted : k'.issued = k.issued := by rw [Conn.issued, Conn.issued, next]
  funext id
  cases id <;> simp [allocated, counted]

theorem allocated_of_succ {k k' : Conn} (room : k.issued + 1 < 2 ^ 64)
    (next : k'.nextId = k.nextId + 1) {id : RequestId} (handed : k.allocated id) : k'.allocated id := by
  cases id with
  | number n =>
      simp only [allocated, issued_succ room next, decide_eq_true_eq] at handed ⊢
      push_cast
      omega
  | text s => simp [allocated] at handed

/-- The ids handed out after one more are those handed out before and the counter's: below
`2 ^ 64` ids, wrapping never hands out an id twice. -/
theorem allocated_succ_iff {k k' : Conn} (room : k.issued + 1 < 2 ^ 64)
    (next : k'.nextId = k.nextId + 1) (id : RequestId) :
    k'.allocated id = (k.allocated id || decide (id = .number k.nextId.toInt)) := by
  cases id with
  | number n =>
      obtain ⟨low, high, place⟩ := nextId_place k
      simp only [allocated, issued_succ room next, RequestId.number.injEq]
      rw [Bool.eq_iff_iff]
      simp only [Bool.or_eq_true, decide_eq_true_eq]
      push_cast
      omega
  | text s => simp [allocated]

/-- A remover takes a call out of the table and leaves an outcome for its caller. -/
theorem slot_endCall {k k' : Conn} {i : RequestId} {method : String} (outcome : Outcome)
    (wf : k.LedgerWF) (found : k.pending.calls.lookup i = some method)
    (calls : k'.pending.calls = k.pending.calls.filter (·.1 != i))
    (filled : k'.filled = k.filled ++ [(i, outcome)]) (next : k'.nextId = k.nextId)
    (id : RequestId) :
    k'.slot id = if id = i then .ended outcome else k.slot id := by
  have noOutcome : k.filled.lookup i = none := wf.separate i (by simp [found])
  by_cases same : id = i
  · subst same
    simp [slot, calls, filled, lookup_filter_key, lookup_append_of_none _ _ noOutcome]
  · simp [slot, calls, filled, lookup_filter_key, same, List.lookup_append,
      lookup_singleton_of_ne outcome same, allocated_congr next]

theorem slot_dropCall {k k' : Conn} {i : RequestId}
    (noOutcome : k.filled.lookup i = none) (handed : k.allocated i)
    (calls : k'.pending.calls = k.pending.calls.filter (·.1 != i))
    (filled : k'.filled = k.filled) (next : k'.nextId = k.nextId) (id : RequestId) :
    k'.slot id = if id = i then .finished else k.slot id := by
  by_cases same : id = i
  · subst same
    simp [slot, calls, filled, lookup_filter_key, noOutcome, allocated_congr next, handed]
  · simp [slot, calls, filled, lookup_filter_key, same, allocated_congr next]

theorem slot_takeOutcome {k k' : Conn} {i : RequestId} (wf : k.LedgerWF) {outcome : Outcome}
    (found : k.filled.lookup i = some outcome)
    (calls : k'.pending.calls = k.pending.calls)
    (filled : k'.filled = k.filled.filter (·.1 != i)) (next : k'.nextId = k.nextId)
    (id : RequestId) :
    k'.slot id = if id = i then .finished else k.slot id := by
  have handed := wf.filledAllocated i (by simp [found])
  have notCalled : k.pending.calls.lookup i = none := by
    cases called : k.pending.calls.lookup i with
    | none => rfl
    | some method =>
        have separated := wf.separate i (by simp [called])
        simp [separated] at found
  by_cases same : id = i
  · subst same
    simp [slot, calls, filled, lookup_filter_key, notCalled, allocated_congr next, handed]
  · simp [slot, calls, filled, lookup_filter_key, same, allocated_congr next]

/-- Closing ends every call in the table as unavailable. -/
theorem slot_close {k k' : Conn} (wf : k.LedgerWF) (calls : k'.pending.calls = [])
    (filled : k'.filled =
      k.filled ++ k.pending.calls.map fun entry => (entry.1, Outcome.unavailable))
    (next : k'.nextId = k.nextId) (id : RequestId) :
    k'.slot id = match k.slot id with
      | .inFlight _ => .ended .unavailable
      | s => s := by
  cases called : k.pending.calls.lookup id with
  | some method =>
      have noOutcome := wf.separate id (by simp [called])
      simp [slot, calls, filled, called, lookup_append_of_none _ _ noOutcome, lookup_map_closed]
  | none =>
      have closedNone : (k.pending.calls.map fun entry => (entry.1, Outcome.unavailable)).lookup id
          = none := by
        rw [lookup_map_closed, called]
        rfl
      cases ended : k.filled.lookup id with
      | some outcome =>
          simp [slot, calls, filled, called, ended, List.lookup_append]
      | none =>
          simp [slot, calls, filled, called, ended, List.lookup_append, closedNone,
            allocated_congr next]
          split <;> rfl

theorem slot_register {k k' : Conn} (wf : k.LedgerWF) (room : k.issued + 1 < 2 ^ 64) (method : String)
    (calls : k'.pending.calls = k.pending.calls ++ [(.number k.nextId.toInt, method)])
    (filled : k'.filled = k.filled) (next : k'.nextId = k.nextId + 1) (id : RequestId) :
    k'.slot id = if id = .number k.nextId.toInt then .inFlight method else k.slot id := by
  by_cases same : id = .number k.nextId.toInt
  · subst same
    simp [slot, calls, lookup_append_of_none _ _ (lookup_next_calls wf)]
  · simp [slot, calls, filled, same, List.lookup_append, lookup_singleton_of_ne method same,
      allocated_succ_iff room next]

theorem slot_allocate {k k' : Conn} (wf : k.LedgerWF) (room : k.issued + 1 < 2 ^ 64)
    (calls : k'.pending.calls = k.pending.calls)
    (filled : k'.filled = k.filled) (next : k'.nextId = k.nextId + 1) (id : RequestId) :
    k'.slot id = if id = .number k.nextId.toInt then .finished else k.slot id := by
  by_cases same : id = .number k.nextId.toInt
  · subst same
    simp [slot, calls, filled, lookup_next_calls wf, lookup_next_filled wf,
      allocated_succ_iff room next]
  · simp [slot, calls, filled, same, allocated_succ_iff room next]

theorem LedgerWF.endCall {k k' : Conn} {i : RequestId} {method : String} (outcome : Outcome)
    (wf : k.LedgerWF) (found : k.pending.calls.lookup i = some method)
    (calls : k'.pending.calls = k.pending.calls.filter (·.1 != i))
    (filled : k'.filled = k.filled ++ [(i, outcome)]) (next : k'.nextId = k.nextId) :
    k'.LedgerWF where
  separate id called := by
    rw [calls] at called
    obtain ⟨other, called⟩ := isSome_lookup_of_filter_key called
    rw [filled, lookup_append_of_none _ _ (wf.separate id called)]
    exact lookup_singleton_of_ne outcome other
  callsAllocated id called := by
    rw [calls] at called
    rw [allocated_congr next]
    exact wf.callsAllocated id (isSome_lookup_of_filter_key called).2
  filledAllocated id ended := by
    rw [allocated_congr next]
    by_cases same : id = i
    · subst same
      exact wf.callsAllocated id (by simp [found])
    · rw [filled, List.lookup_append, lookup_singleton_of_ne outcome same, Option.or_none] at ended
      exact wf.filledAllocated id ended

theorem LedgerWF.dropCall {k k' : Conn} {i : RequestId} (wf : k.LedgerWF)
    (calls : k'.pending.calls = k.pending.calls.filter (·.1 != i))
    (filled : k'.filled = k.filled) (next : k'.nextId = k.nextId) : k'.LedgerWF where
  separate id called := by
    rw [calls] at called
    rw [filled]
    exact wf.separate id (isSome_lookup_of_filter_key called).2
  callsAllocated id called := by
    rw [calls] at called
    rw [allocated_congr next]
    exact wf.callsAllocated id (isSome_lookup_of_filter_key called).2
  filledAllocated id ended := by
    rw [allocated_congr next]
    rw [filled] at ended
    exact wf.filledAllocated id ended

theorem LedgerWF.takeOutcome {k k' : Conn} {i : RequestId} (wf : k.LedgerWF)
    (calls : k'.pending.calls = k.pending.calls)
    (filled : k'.filled = k.filled.filter (·.1 != i)) (next : k'.nextId = k.nextId) :
    k'.LedgerWF where
  separate id called := by
    rw [calls] at called
    rw [filled, lookup_filter_key, wf.separate id called]
    split <;> rfl
  callsAllocated id called := by
    rw [calls] at called
    rw [allocated_congr next]
    exact wf.callsAllocated id called
  filledAllocated id ended := by
    rw [filled] at ended
    rw [allocated_congr next]
    exact wf.filledAllocated id (isSome_lookup_of_filter_key ended).2

theorem LedgerWF.close {k k' : Conn} (wf : k.LedgerWF) (calls : k'.pending.calls = [])
    (filled : k'.filled =
      k.filled ++ k.pending.calls.map fun entry => (entry.1, Outcome.unavailable))
    (next : k'.nextId = k.nextId) : k'.LedgerWF where
  separate id called := by
    simp [calls] at called
  callsAllocated id called := by
    simp [calls] at called
  filledAllocated id ended := by
    rw [allocated_congr next]
    rw [filled, List.lookup_append, lookup_map_closed] at ended
    cases before : k.filled.lookup id with
    | some outcome => exact wf.filledAllocated id (by simp [before])
    | none =>
        rw [before, Option.none_or] at ended
        exact wf.callsAllocated id (by simpa using ended)

theorem LedgerWF.register {k k' : Conn} (wf : k.LedgerWF) (room : k.issued + 1 < 2 ^ 64)
    (method : String)
    (calls : k'.pending.calls = k.pending.calls ++ [(.number k.nextId.toInt, method)])
    (filled : k'.filled = k.filled) (next : k'.nextId = k.nextId + 1) : k'.LedgerWF where
  separate id called := by
    rw [filled]
    by_cases same : id = .number k.nextId.toInt
    · subst same
      exact lookup_next_filled wf
    · rw [calls, List.lookup_append, lookup_singleton_of_ne method same, Option.or_none]
        at called
      exact wf.separate id called
  callsAllocated id called := by
    rw [allocated_succ_iff room next]
    by_cases same : id = .number k.nextId.toInt
    · simp [same]
    · rw [calls, List.lookup_append, lookup_singleton_of_ne method same, Option.or_none]
        at called
      simp [wf.callsAllocated id called]
  filledAllocated id ended := by
    rw [filled] at ended
    rw [allocated_succ_iff room next]
    simp [wf.filledAllocated id ended]

theorem LedgerWF.allocate {k k' : Conn} (wf : k.LedgerWF) (room : k.issued + 1 < 2 ^ 64)
    (calls : k'.pending.calls = k.pending.calls)
    (filled : k'.filled = k.filled) (next : k'.nextId = k.nextId + 1) : k'.LedgerWF where
  separate id called := by
    rw [calls] at called
    rw [filled]
    exact wf.separate id called
  callsAllocated id called := by
    rw [calls] at called
    exact allocated_of_succ room next (wf.callsAllocated id called)
  filledAllocated id ended := by
    rw [filled] at ended
    exact allocated_of_succ room next (wf.filledAllocated id ended)

end Conn

end Engine

end LspBridge

namespace LspBridge

namespace Engine

open Json Rpc Client

/-- What the clones of one peer, its reader and its callers do to the calls of its connection.

`startCall`: `start_call`: send a request under the next id. `respond`: an inbound response, with
any id. `cancel`: `cancel(id)`. `expire`: the deadline of the call waiting under an id passed before
its outcome was there. `drop`: the caller dropped its pending request before it finished. `close`:
`close()`. `collect`: the caller waiting under an id looks for its outcome. -/
inductive PeerOp where
  | startCall (method : String) (params : Value)
  | respond (id : RequestId) (result : Except ResponseError Value)
  | cancel (id : RequestId)
  | expire (id : RequestId) (method : String)
  | drop (id : RequestId)
  | close
  | collect (id : RequestId)

namespace World

/-- One operation of the peer on connection `c`, by the functions the client runs for it. -/
def peerStep (w : World) (c : Nat) : PeerOp → World
  | .startCall method params => (w.issue c method params).2
  | .respond id result => w.deliver c id result
  | .cancel id => (w.cancel c id).2
  | .expire id method => (w.expire c id method).1
  | .drop id => (w.forget c id).2
  | .close => (w.closePeer c).2
  | .collect id => (w.takeFilled c id).2

/-- The world after the peer on connection `c` performed `ops` in order: any interleaving of its
operations. -/
def peerRun (w : World) (c : Nat) (ops : List PeerOp) : World :=
  ops.foldl (fun w op => w.peerStep c op) w

theorem peerRun_cons (w : World) (c : Nat) (op : PeerOp) (ops : List PeerOp) :
    w.peerRun c (op :: ops) = (w.peerStep c op).peerRun c ops := rfl

end World

/-- The ids an operation hands out: one for `start_call`, none otherwise. -/
def PeerOp.ids : PeerOp → Nat
  | .startCall .. => 1
  | _ => 0

/-- The ledger machine: what one operation does to the slot of one id, given the connection it
acts on. Only `start_call` touches an unissued id, and only the next one. -/
def PeerOp.onSlot (k : Conn) : PeerOp → RequestId → CallSlot → CallSlot
  | .startCall method _, id, s =>
    if id = .number k.nextId.toInt then
      if k.pending.closed || k.writerDone then .finished else .inFlight method
    else s
  | .respond i result, id, .inFlight method =>
    if id = i then .ended (.response result) else .inFlight method
  | .cancel i, id, .inFlight method => if id = i then .ended .cancelled else .inFlight method
  | .expire i _, id, .inFlight method => if id = i then .finished else .inFlight method
  | .drop i, id, .inFlight method => if id = i then .finished else .inFlight method
  | .close, _, .inFlight _ => .ended .unavailable
  | .collect i, id, .ended outcome => if id = i then .finished else .ended outcome
  | _, _, s => s

namespace PeerOp

variable {k : Conn} {i id : RequestId} {s : CallSlot}

theorem onSlot_respond_of_ne (result : Except ResponseError Value) (other : id ≠ i) :
    (respond i result).onSlot k id s = s := by
  cases s <;> simp [onSlot, other]

theorem onSlot_cancel_of_ne (other : id ≠ i) : (cancel i).onSlot k id s = s := by
  cases s <;> simp [onSlot, other]

theorem onSlot_drop_of_ne (other : id ≠ i) : (drop i).onSlot k id s = s := by
  cases s <;> simp [onSlot, other]

theorem onSlot_collect_of_ne (other : id ≠ i) : (collect i).onSlot k id s = s := by
  cases s <;> simp [onSlot, other]

end PeerOp

namespace Conn

variable {k : Conn} {id : RequestId}

theorem slot_of_called {method : String} (found : k.pending.calls.lookup id = some method) :
    k.slot id = .inFlight method := by
  simp [slot, found]

theorem slot_of_filled (wf : k.LedgerWF) {outcome : Outcome}
    (found : k.filled.lookup id = some outcome) : k.slot id = .ended outcome := by
  cases called : k.pending.calls.lookup id with
  | none => simp [slot, called, found]
  | some method =>
      have separated := wf.separate id (by simp [called])
      simp [separated] at found

theorem slot_ne_inFlight (missing : k.pending.calls.lookup id = none) (method : String) :
    k.slot id ≠ .inFlight method := by
  simp only [slot, missing]
  split
  · simp
  · split <;> simp

theorem slot_ne_ended (missing : k.filled.lookup id = none) (outcome : Outcome) :
    k.slot id ≠ .ended outcome := by
  simp only [slot, missing]
  split
  · simp
  · split <;> simp

theorem slot_eq_inFlight_iff {method : String} :
    k.slot id = .inFlight method ↔ k.pending.calls.lookup id = some method := by
  constructor
  · intro inFlight
    cases called : k.pending.calls.lookup id with
    | none => exact absurd inFlight (slot_ne_inFlight called method)
    | some method' =>
        rw [slot_of_called called] at inFlight
        cases inFlight
        rfl
  · exact slot_of_called

theorem slot_eq_ended_iff (wf : k.LedgerWF) {outcome : Outcome} :
    k.slot id = .ended outcome ↔ k.filled.lookup id = some outcome := by
  constructor
  · intro ended
    cases found : k.filled.lookup id with
    | none => exact absurd ended (slot_ne_ended found outcome)
    | some outcome' =>
        rw [slot_of_filled wf found] at ended
        cases ended
        rfl
  · exact slot_of_filled wf

end Conn

namespace World

variable {w : World} {c : Nat}

@[simp]
theorem size_fill (i : RequestId) (outcome : Outcome) :
    (w.fill c i outcome).conns.size = w.conns.size := by
  simp [fill]

theorem conn_fill (i : RequestId) (outcome : Outcome) (present : c < w.conns.size) :
    (w.fill c i outcome).conn c =
      { w.conn c with filled := (w.conn c).filled ++ [(i, outcome)] } := by
  simp [fill, conn_modifyConn_self _ _ _ present]

/-- The table after a call is taken out of it. -/
def tableWithout (w : World) (c : Nat) (i : RequestId) : PendingTable :=
  ({ (w.conn c).pending with calls := (w.conn c).pending.calls.filter (·.1 != i) }).retire i

theorem forget_of_called {i : RequestId} {method : String}
    (found : (w.conn c).pending.calls.lookup i = some method) :
    w.forget c i =
      (some method, w.modifyConn c fun k => { k with pending := w.tableWithout c i }) := by
  have taken := (PendingTable.take_eq_some_iff _ _ _ _).2 ⟨found, rfl⟩
  simp only [forget, taken, tableWithout]

theorem forget_of_missing {i : RequestId} (missing : (w.conn c).pending.calls.lookup i = none) :
    w.forget c i = (none, w) := by
  have notTaken := (PendingTable.take_eq_none_iff _ _).2 missing
  simp only [forget, notTaken]

theorem deliver_of_missing {i : RequestId} (result : Except ResponseError Value)
    (missing : (w.conn c).pending.calls.lookup i = none) : w.deliver c i result = w := by
  have notTaken := (PendingTable.take_eq_none_iff _ _).2 missing
  unfold deliver PendingTable.complete
  rw [notTaken]
  cases (w.conn c).pending.retiredSet.contains i <;> rfl

@[simp]
theorem calls_tableWithout (i : RequestId) :
    (w.tableWithout c i).calls = (w.conn c).pending.calls.filter (·.1 != i) := by
  simp [tableWithout]

theorem enqueue_eq_some {m : Message} {w' : World} (queued : w.enqueue c m = some w')
    (present : c < w.conns.size) :
    w'.conn c = { w.conn c with outbound := (w.conn c).outbound ++ [m] } ∧
      w'.conns.size = w.conns.size := by
  obtain rfl := World.eq_of_enqueue queued
  simp [conn_modifyConn_self _ _ _ present]

theorem notify_eq_ok {method : String} {params : Value} {w' : World}
    (sent : w.notify c method params = .ok w') (present : c < w.conns.size) :
    w'.conn c = { w.conn c with outbound := (w.conn c).outbound ++ [.notification method params] } ∧
      w'.conns.size = w.conns.size := by
  exact enqueue_eq_some (World.enqueue_of_notify sent) present

theorem conn_fill_withPending (present : c < w.conns.size) (p : PendingTable) (i : RequestId)
    (outcome : Outcome) :
    ((w.modifyConn c fun k => { k with pending := p }).fill c i outcome).conn c =
      { w.conn c with pending := p, filled := (w.conn c).filled ++ [(i, outcome)] } := by
  rw [conn_fill _ _ (by simpa using present), conn_modifyConn_self _ _ _ present]

theorem conn_foldl_fill (ids : List RequestId) (w : World) (present : c < w.conns.size) :
    (ids.foldl (fun acc id => acc.fill c id .unavailable) w).conn c =
      { w.conn c with filled := (w.conn c).filled ++ ids.map fun id => (id, .unavailable) } ∧
    (ids.foldl (fun acc id => acc.fill c id .unavailable) w).conns.size = w.conns.size := by
  induction ids generalizing w with
  | nil => simp
  | cons id rest ih =>
      obtain ⟨restConn, restSize⟩ := ih (w.fill c id .unavailable) (by simpa using present)
      simp only [List.foldl_cons, restConn, restSize, conn_fill _ _ present, size_fill]
      simp

/-- Closing a connection closes its table and ends every call in flight as unavailable, in order. -/
theorem conn_closePeer (present : c < w.conns.size) :
    (w.closePeer c).2.conn c =
      { w.conn c with
        pending := { (w.conn c).pending with calls := [], closed := true }
        filled := (w.conn c).filled ++
          (w.conn c).pending.calls.map fun entry => (entry.1, Outcome.unavailable) } := by
  obtain ⟨filledConn, -⟩ := conn_foldl_fill ((w.conn c).pending.calls.map Prod.fst)
    (w.modifyConn c fun k =>
      { k with pending := { (w.conn c).pending with calls := [], closed := true } })
    (by simpa using present)
  rw [conn_modifyConn_self _ _ _ present] at filledConn
  simp only [closePeer, PendingTable.close, filledConn, List.map_map]
  rfl

/-! ### Each operation of the peer, on the ledger -/

section Steps

variable (present : c < w.conns.size) (wf : (w.conn c).LedgerWF)
include present wf

/-- A response ends its call if the call is in flight, and changes nothing otherwise. -/
theorem slot_deliver (i : RequestId) (result : Except ResponseError Value) :
    (∀ id, ((w.deliver c i result).conn c).slot id =
      (PeerOp.respond i result).onSlot (w.conn c) id ((w.conn c).slot id)) ∧
    ((w.deliver c i result).conn c).LedgerWF ∧
      (w.deliver c i result).conns.size = w.conns.size ∧
      ((w.deliver c i result).conn c).nextId = (w.conn c).nextId := by
  cases found : (w.conn c).pending.calls.lookup i with
  | none =>
      rw [deliver_of_missing result found]
      refine ⟨fun id => ?_, wf, rfl, rfl⟩
      by_cases same : id = i
      · subst same
        cases h : (w.conn c).slot id with
        | inFlight method => exact absurd h (Conn.slot_ne_inFlight found method)
        | _ => rfl
      · exact (PeerOp.onSlot_respond_of_ne result same).symm
  | some method =>
      have taken := (PendingTable.take_eq_some_iff _ _ _ _).2 ⟨found, rfl⟩
      have delivered : w.deliver c i result =
          (w.modifyConn c fun k => { k with pending := w.tableWithout c i }).fill c i
            (.response result) := by
        simp only [deliver, PendingTable.complete, taken, tableWithout]
      have after : (w.deliver c i result).conn c =
          { w.conn c with
            pending := w.tableWithout c i
            filled := (w.conn c).filled ++ [(i, .response result)] } := by
        rw [delivered, conn_fill_withPending present]
      refine ⟨fun id => ?_, ?_, by simp [delivered], by rw [after]⟩
      · rw [Conn.slot_endCall (.response result) wf found (by rw [after]; simp)
          (by rw [after]) (by rw [after])]
        by_cases same : id = i
        · subst same
          simp [Conn.slot_of_called found, PeerOp.onSlot]
        · simp [same, PeerOp.onSlot_respond_of_ne result same]
      · exact Conn.LedgerWF.endCall (.response result) wf found (by rw [after]; simp)
          (by rw [after]) (by rw [after])

/-- A cancellation ends its call if the call is in flight, and changes nothing otherwise. -/
theorem slot_cancel (i : RequestId) :
    (∀ id, ((w.cancel c i).2.conn c).slot id =
      (PeerOp.cancel i).onSlot (w.conn c) id ((w.conn c).slot id)) ∧
    ((w.cancel c i).2.conn c).LedgerWF ∧ (w.cancel c i).2.conns.size = w.conns.size ∧
      ((w.cancel c i).2.conn c).nextId = (w.conn c).nextId := by
  cases found : (w.conn c).pending.calls.lookup i with
  | none =>
      have unchanged : (w.cancel c i).2 = w := by
        simp only [cancel, forget_of_missing found]
      rw [unchanged]
      refine ⟨fun id => ?_, wf, rfl, rfl⟩
      by_cases same : id = i
      · subst same
        cases h : (w.conn c).slot id with
        | inFlight method => exact absurd h (Conn.slot_ne_inFlight found method)
        | _ => rfl
      · exact (PeerOp.onSlot_cancel_of_ne same).symm
  | some method =>
      -- the call is out of the table and filled; the notification to the server only queues
      have after : ((w.cancel c i).2.conn c).pending = w.tableWithout c i ∧
          ((w.cancel c i).2.conn c).filled = (w.conn c).filled ++ [(i, .cancelled)] ∧
          ((w.cancel c i).2.conn c).nextId = (w.conn c).nextId ∧
          (w.cancel c i).2.conns.size = w.conns.size := by
        simp only [cancel, forget_of_called found]
        split
        · rename_i notified sent
          obtain ⟨sentConn, sentSize⟩ := notify_eq_ok sent (by simpa using present)
          rw [sentConn, conn_fill_withPending present, sentSize]
          simp
        · rw [conn_fill_withPending present]
          simp
      obtain ⟨pending, filled, next, size⟩ := after
      refine ⟨fun id => ?_, ?_, size, next⟩
      · rw [Conn.slot_endCall .cancelled wf found (by rw [pending]; simp) filled next]
        by_cases same : id = i
        · subst same
          simp [Conn.slot_of_called found, PeerOp.onSlot]
        · simp [same, PeerOp.onSlot_cancel_of_ne same]
      · exact Conn.LedgerWF.endCall .cancelled wf found (by rw [pending]; simp) filled next

/-- Dropping a call in flight removes it with no outcome; anything else is left alone. -/
theorem slot_forget (i : RequestId) :
    (∀ id, ((w.forget c i).2.conn c).slot id =
      (PeerOp.drop i).onSlot (w.conn c) id ((w.conn c).slot id)) ∧
    ((w.forget c i).2.conn c).LedgerWF ∧ (w.forget c i).2.conns.size = w.conns.size ∧
      ((w.forget c i).2.conn c).nextId = (w.conn c).nextId := by
  cases found : (w.conn c).pending.calls.lookup i with
  | none =>
      rw [forget_of_missing found]
      refine ⟨fun id => ?_, wf, rfl, rfl⟩
      by_cases same : id = i
      · subst same
        cases h : (w.conn c).slot id with
        | inFlight method => exact absurd h (Conn.slot_ne_inFlight found method)
        | _ => rfl
      · exact (PeerOp.onSlot_drop_of_ne same).symm
  | some method =>
      have called : ((w.conn c).pending.calls.lookup i).isSome := by simp [found]
      have after : (w.forget c i).2.conn c = { w.conn c with pending := w.tableWithout c i } := by
        rw [forget_of_called found, conn_modifyConn_self _ _ _ present]
      refine ⟨fun id => ?_, ?_, by simp [forget_of_called found], by rw [after]⟩
      · rw [Conn.slot_dropCall (i := i) (wf.separate i called) (wf.callsAllocated i called)
          (by rw [after]; simp) (by rw [after]) (by rw [after])]
        by_cases same : id = i
        · subst same
          simp [Conn.slot_of_called found, PeerOp.onSlot]
        · simp [same, PeerOp.onSlot_drop_of_ne same]
      · exact Conn.LedgerWF.dropCall (i := i) wf (by rw [after]; simp) (by rw [after])
          (by rw [after])

/-- A deadline that passes while the call is in flight removes it; it finds nothing to remove
once another remover was first. -/
theorem slot_expire (i : RequestId) (method : String) :
    (∀ id, ((w.expire c i method).1.conn c).slot id =
      (PeerOp.expire i method).onSlot (w.conn c) id ((w.conn c).slot id)) ∧
    ((w.expire c i method).1.conn c).LedgerWF ∧
    (w.expire c i method).1.conns.size = w.conns.size ∧
    ((w.expire c i method).1.conn c).nextId = (w.conn c).nextId := by
  have same : (w.expire c i method).1 = (w.forget c i).2 := by
    unfold expire
    split <;> rename_i forgotten <;> rw [forgotten]
  have dropped := slot_forget present wf i
  rw [same]
  refine ⟨fun id => ?_, dropped.2⟩
  rw [dropped.1]
  cases (w.conn c).slot id <;> simp [PeerOp.onSlot]

/-- The caller takes the outcome of its ended call, once. -/
theorem slot_takeFilled (i : RequestId) :
    (∀ id, ((w.takeFilled c i).2.conn c).slot id =
      (PeerOp.collect i).onSlot (w.conn c) id ((w.conn c).slot id)) ∧
    ((w.takeFilled c i).2.conn c).LedgerWF ∧ (w.takeFilled c i).2.conns.size = w.conns.size ∧
      ((w.takeFilled c i).2.conn c).nextId = (w.conn c).nextId := by
  cases found : (w.conn c).filled.lookup i with
  | none =>
      have unchanged : (w.takeFilled c i).2 = w := by simp [takeFilled, found]
      rw [unchanged]
      refine ⟨fun id => ?_, wf, rfl, rfl⟩
      by_cases same : id = i
      · subst same
        cases h : (w.conn c).slot id with
        | ended outcome => exact absurd h (Conn.slot_ne_ended found outcome)
        | _ => rfl
      · exact (PeerOp.onSlot_collect_of_ne same).symm
  | some outcome =>
      have after : (w.takeFilled c i).2.conn c =
          { w.conn c with filled := (w.conn c).filled.filter (·.1 != i) } := by
        simp only [takeFilled, found]
        rw [conn_modifyConn_self _ _ _ present]
      refine ⟨fun id => ?_, ?_, by simp [takeFilled, found], by rw [after]⟩
      · rw [Conn.slot_takeOutcome wf found (by rw [after]) (by rw [after]) (by rw [after])]
        by_cases same : id = i
        · subst same
          simp [Conn.slot_of_filled wf found, PeerOp.onSlot]
        · simp [same, PeerOp.onSlot_collect_of_ne same]
      · exact Conn.LedgerWF.takeOutcome wf (by rw [after]) (by rw [after]) (by rw [after])

/-- Closing ends every call in flight as unavailable. -/
theorem slot_closePeer :
    (∀ id, ((w.closePeer c).2.conn c).slot id =
      PeerOp.close.onSlot (w.conn c) id ((w.conn c).slot id)) ∧
    ((w.closePeer c).2.conn c).LedgerWF ∧ (w.closePeer c).2.conns.size = w.conns.size ∧
      ((w.closePeer c).2.conn c).nextId = (w.conn c).nextId := by
  obtain ⟨-, filledSize⟩ := conn_foldl_fill ((w.conn c).pending.calls.map Prod.fst)
    (w.modifyConn c fun k =>
      { k with pending := { (w.conn c).pending with calls := [], closed := true } })
    (by simpa using present)
  have after := conn_closePeer present
  refine ⟨fun id => ?_, ?_, by simpa [closePeer, PendingTable.close] using filledSize,
    by rw [after]⟩
  · rw [Conn.slot_close wf (by rw [after]) (by rw [after]) (by rw [after])]
    cases (w.conn c).slot id <;> rfl
  · exact Conn.LedgerWF.close wf (by rw [after]) (by rw [after]) (by rw [after])

omit present wf in
theorem register_of_open {method : String} (opened : (w.conn c).pending.closed = false) :
    (w.conn c).pending.register (.number (w.conn c).nextId.toInt) method =
      some { (w.conn c).pending with
        calls := (w.conn c).pending.calls ++ [(.number (w.conn c).nextId.toInt, method)] } := by
  simp [PendingTable.register, opened]

/-- The world a call that `start_call` registered stands in, before it is queued. -/
def registered (w : World) (c : Nat) (method : String) : World :=
  (w.modifyConn c fun k => { k with nextId := k.nextId + 1 }).modifyConn c fun k =>
    { k with
      pending := { (w.conn c).pending with
        calls := (w.conn c).pending.calls ++ [(.number (w.conn c).nextId.toInt, method)] } }

omit wf in
theorem conn_registered (method : String) :
    (w.registered c method).conn c =
      { w.conn c with
        nextId := (w.conn c).nextId + 1
        pending := { (w.conn c).pending with
          calls := (w.conn c).pending.calls ++ [(.number (w.conn c).nextId.toInt, method)] } } := by
  rw [registered, conn_modifyConn_self _ _ _ (by simpa using present),
    conn_modifyConn_self _ _ _ present]

omit present wf in
/-- `start_call` on a closed connection uses up an id and refuses the call. -/
theorem issue_of_closed {method : String} {params : Value}
    (closed : (w.conn c).pending.closed = true) :
    w.issue c method params =
      (.error .serverUnavailable, w.modifyConn c fun k => { k with nextId := k.nextId + 1 }) := by
  simp [issue, PendingTable.register, closed]

omit wf in
/-- `start_call` on an open connection whose writer is there sends the call under the next id. -/
theorem issue_of_open (method : String) (params : Value)
    (opened : (w.conn c).pending.closed = false) (writing : (w.conn c).writerDone = false) :
    ∃ w', w.issue c method params = (.ok (.number (w.conn c).nextId.toInt), w') ∧
      w'.conn c = { (w.registered c method).conn c with
        outbound := ((w.registered c method).conn c).outbound ++
          [.request (.number (w.conn c).nextId.toInt) method params] } ∧
      w'.conns.size = w.conns.size := by
  have stillWriting : ((w.registered c method).conn c).writerDone = false := by
    rw [conn_registered present]
    exact writing
  cases queued :
      (w.registered c method).enqueue c (.request (.number (w.conn c).nextId.toInt) method params) with
  | none =>
      simp [enqueue, stillWriting] at queued
  | some w' =>
      obtain ⟨queuedConn, queuedSize⟩ :=
        enqueue_eq_some queued (by simpa [registered] using present)
      refine ⟨w', ?_, queuedConn, by simpa [registered] using queuedSize⟩
      simp only [registered] at queued
      simp only [issue, register_of_open opened, queued]

omit wf in
/-- `start_call` whose writer is gone takes the call back out and refuses it. -/
theorem issue_of_writerDone {method : String} {params : Value}
    (opened : (w.conn c).pending.closed = false) (stopped : (w.conn c).writerDone = true) :
    w.issue c method params =
      (.error .serverUnavailable,
        ((w.registered c method).forget c (.number (w.conn c).nextId.toInt)).2) := by
  have stillStopped : ((w.registered c method).conn c).writerDone = true := by
    rw [conn_registered present]
    exact stopped
  have refused :
      (w.registered c method).enqueue c (.request (.number (w.conn c).nextId.toInt) method params) =
        none := by
    simp [enqueue, stillStopped]
  simp only [registered] at refused
  simp only [issue, register_of_open opened, refused, registered]

/-- `start_call` takes the next id: a refused call uses it up, a sent one puts it in flight. -/
theorem slot_issue (room : (w.conn c).issued + 1 < 2 ^ 64) (method : String) (params : Value) :
    (∀ id, ((w.issue c method params).2.conn c).slot id =
      (PeerOp.startCall method params).onSlot (w.conn c) id ((w.conn c).slot id)) ∧
    ((w.issue c method params).2.conn c).LedgerWF ∧
    (w.issue c method params).2.conns.size = w.conns.size ∧
    ((w.issue c method params).2.conn c).nextId = (w.conn c).nextId + 1 := by
  cases closed : (w.conn c).pending.closed with
  | true =>
      rw [issue_of_closed closed]
      have after : (w.modifyConn c fun k => { k with nextId := k.nextId + 1 }).conn c =
          { w.conn c with nextId := (w.conn c).nextId + 1 } :=
        conn_modifyConn_self _ _ _ present
      refine ⟨fun id => ?_, ?_, by simp, by rw [after]⟩
      · rw [Conn.slot_allocate wf room (by rw [after]) (by rw [after]) (by rw [after])]
        simp [PeerOp.onSlot, closed]
      · exact Conn.LedgerWF.allocate wf room (by rw [after]) (by rw [after]) (by rw [after])
  | false =>
      cases writing : (w.conn c).writerDone with
      | false =>
          obtain ⟨w', issued, sentConn, sentSize⟩ :=
            issue_of_open present method params closed writing
          rw [issued]
          have registeredConn := conn_registered present method
          refine ⟨fun id => ?_, ?_, sentSize, by rw [sentConn, registeredConn]⟩
          · rw [Conn.slot_register wf room method (by rw [sentConn, registeredConn])
              (by rw [sentConn, registeredConn]) (by rw [sentConn, registeredConn])]
            simp [PeerOp.onSlot, closed, writing]
          · exact Conn.LedgerWF.register wf room method (by rw [sentConn, registeredConn])
              (by rw [sentConn, registeredConn]) (by rw [sentConn, registeredConn])
      | true =>
          rw [issue_of_writerDone present closed writing]
          -- the pair the refused call returns, taken apart, so that the world is matched as written
          dsimp only
          have registeredPresent : c < (w.registered c method).conns.size := by
            simpa [registered] using present
          have called : ((w.registered c method).conn c).pending.calls.lookup
              (.number (w.conn c).nextId.toInt) = some method := by
            rw [conn_registered present]
            simp [lookup_append_of_none _ _ (Conn.lookup_next_calls wf)]
          -- the call goes back out of the table, which is as it was
          have noneLeft : ((w.conn c).pending.calls.filter (·.1 != .number (w.conn c).nextId.toInt)) =
              (w.conn c).pending.calls := by
            apply List.filter_eq_self.2
            intro entry member
            have absent := List.lookup_eq_none_iff.1 (Conn.lookup_next_calls wf) entry member
            simpa [bne_comm] using absent
          have after : ((w.registered c method).forget c (.number (w.conn c).nextId.toInt)).2.conn c =
              { (w.registered c method).conn c with
                pending :=
                  (w.registered c method).tableWithout c (.number (w.conn c).nextId.toInt) } := by
            rw [forget_of_called called, conn_modifyConn_self _ _ _ registeredPresent]
          have calls : (((w.registered c method).forget c (.number (w.conn c).nextId.toInt)).2.conn c
              ).pending.calls = (w.conn c).pending.calls := by
            rw [after]
            simp [calls_tableWithout, conn_registered present, List.filter_append, noneLeft]
          refine ⟨fun id => ?_, ?_, by rw [forget_of_called called]; simp [registered],
            by rw [after, conn_registered present]⟩
          · rw [Conn.slot_allocate wf room calls (by rw [after, conn_registered present])
              (by rw [after, conn_registered present])]
            simp [PeerOp.onSlot, closed, writing]
          · exact Conn.LedgerWF.allocate wf room calls (by rw [after, conn_registered present])
              (by rw [after, conn_registered present])

/-- Every operation of the peer that leaves the count of ids handed out below `2 ^ 64` moves the
ledger of its connection as the ledger machine says, keeps it well formed, keeps the connection,
and counts the ids it hands out. -/
theorem peerStep_spec (op : PeerOp) (room : (w.conn c).issued + op.ids < 2 ^ 64) :
    (∀ id, ((w.peerStep c op).conn c).slot id = op.onSlot (w.conn c) id ((w.conn c).slot id)) ∧
    ((w.peerStep c op).conn c).LedgerWF ∧ (w.peerStep c op).conns.size = w.conns.size ∧
    ((w.peerStep c op).conn c).issued = (w.conn c).issued + op.ids := by
  -- the operations other than `start_call` keep the counter
  have kept : ∀ {w' : World}, (w'.conn c).nextId = (w.conn c).nextId →
      (w'.conn c).issued = (w.conn c).issued + 0 := fun same => by
    simp [Conn.issued, same]
  cases op with
  | startCall method params =>
    obtain ⟨moved, stepWF, size, next⟩ := slot_issue present wf room method params
    exact ⟨moved, stepWF, size, Conn.issued_succ room next⟩
  | respond i result =>
    obtain ⟨moved, stepWF, size, next⟩ := slot_deliver present wf i result
    exact ⟨moved, stepWF, size, kept next⟩
  | cancel i =>
    obtain ⟨moved, stepWF, size, next⟩ := slot_cancel present wf i
    exact ⟨moved, stepWF, size, kept next⟩
  | expire i method =>
    obtain ⟨moved, stepWF, size, next⟩ := slot_expire present wf i method
    exact ⟨moved, stepWF, size, kept next⟩
  | drop i =>
    obtain ⟨moved, stepWF, size, next⟩ := slot_forget present wf i
    exact ⟨moved, stepWF, size, kept next⟩
  | close =>
    obtain ⟨moved, stepWF, size, next⟩ := slot_closePeer present wf
    exact ⟨moved, stepWF, size, kept next⟩
  | collect i =>
    obtain ⟨moved, stepWF, size, next⟩ := slot_takeFilled present wf i
    exact ⟨moved, stepWF, size, kept next⟩

omit wf in
/-- `start_call` returns the next id, or `ServerUnavailable` when the connection is closed or
its writer is gone. -/
theorem issue_result (method : String) (params : Value) :
    (w.issue c method params).1 =
      if (w.conn c).pending.closed || (w.conn c).writerDone then .error .serverUnavailable
      else .ok (.number (w.conn c).nextId.toInt) := by
  cases closed : (w.conn c).pending.closed with
  | true => simp [issue_of_closed closed]
  | false =>
      cases writing : (w.conn c).writerDone with
      | false =>
          obtain ⟨w', issued, -⟩ := issue_of_open present method params closed writing
          simp [issued]
      | true => simp [issue_of_writerDone present closed writing]

omit present wf in
/-- A cancellation reports whether the call was in flight. -/
theorem cancel_result (i : RequestId) :
    (w.cancel c i).1 = ((w.conn c).pending.calls.lookup i).isSome := by
  cases found : (w.conn c).pending.calls.lookup i with
  | none => simp [cancel, forget_of_missing found]
  | some method =>
      simp only [cancel, forget_of_called found, Option.isSome_some]
      split <;> rfl

omit present wf in
/-- The caller's deadline times it out exactly while its call is in flight; otherwise it ends as
unavailable. -/
theorem expire_result (i : RequestId) (method : String) :
    (w.expire c i method).2 =
      if ((w.conn c).pending.calls.lookup i).isSome then .finished (.error (.timeout method))
      else .finished (.error .serverUnavailable) := by
  cases found : (w.conn c).pending.calls.lookup i with
  | none => simp [expire, forget_of_missing found]
  | some method' => simp [expire, forget_of_called found]

omit present wf in
theorem takeFilled_result (i : RequestId) : (w.takeFilled c i).1 = (w.conn c).filled.lookup i := by
  cases found : (w.conn c).filled.lookup i <;> simp [takeFilled, found]

end Steps

end World

end Engine

end LspBridge

namespace LspBridge

namespace Engine

open Json Rpc Client

/-- The ledger machine moves a slot forward only, from any well-formed ledger: the one id it
hands out was unissued, and an ended call keeps its outcome until its caller takes it. -/
theorem PeerOp.onSlot_advances {k : Conn} (wf : k.LedgerWF) (op : PeerOp) (id : RequestId) :
    SlotAdvances (k.slot id) (op.onSlot k id (k.slot id)) := by
  cases op with
  | startCall method params =>
      by_cases next : id = .number k.nextId.toInt
      · subst next
        rw [Conn.slot_next wf]
        exact .issue _
      · simp only [onSlot, next, if_false]
        exact .refl _
  | respond i result =>
      cases k.slot id <;> simp only [onSlot] <;> (try split) <;> constructor
  | cancel i =>
      cases k.slot id <;> simp only [onSlot] <;> (try split) <;> constructor
  | expire i method =>
      cases k.slot id <;> simp only [onSlot] <;> (try split) <;> constructor
  | drop i =>
      cases k.slot id <;> simp only [onSlot] <;> (try split) <;> constructor
  | close =>
      cases k.slot id <;> simp only [onSlot] <;> constructor
  | collect i =>
      cases k.slot id <;> simp only [onSlot] <;> (try split) <;> constructor

namespace World

/-- Along every run of the peer from a well-formed ledger of an open connection that hands out
fewer than `2 ^ 64` ids in all, the connection stays, the ledger stays well formed, every slot only
moves forward, and the counter counts the ids handed out. -/
theorem peerRun_ledger {c : Nat} (ops : List PeerOp) {w₀ : World} (present : c < w₀.conns.size)
    (wf : (w₀.conn c).LedgerWF) (below : (w₀.conn c).issued + (ops.map PeerOp.ids).sum < 2 ^ 64) :
    c < (w₀.peerRun c ops).conns.size ∧ ((w₀.peerRun c ops).conn c).LedgerWF ∧
      (∀ id, SlotAdvances ((w₀.conn c).slot id) (((w₀.peerRun c ops).conn c).slot id)) ∧
      ((w₀.peerRun c ops).conn c).issued = (w₀.conn c).issued + (ops.map PeerOp.ids).sum := by
  induction ops generalizing w₀ with
  | nil => exact ⟨present, wf, fun id => .refl _, rfl⟩
  | cons op rest ih =>
      -- the first operation, then the rest of the run from the ledger it leaves
      have total : (w₀.conn c).issued + op.ids + (rest.map PeerOp.ids).sum < 2 ^ 64 := by
        simpa [Nat.add_assoc] using below
      obtain ⟨moved, stepWF, stepSize, counted⟩ := peerStep_spec present wf op (by omega)
      obtain ⟨restPresent, restWF, restAdvances, restCounted⟩ :=
        ih (stepSize ▸ present) stepWF (by rw [counted]; exact total)
      refine ⟨restPresent, restWF, fun id => ?_, ?_⟩
      · have first := PeerOp.onSlot_advances wf op id
        rw [← moved id] at first
        exact first.trans (restAdvances id)
      · rw [peerRun_cons, restCounted, counted]
        simp [Nat.add_assoc]

end World

end Engine

end LspBridge

namespace LspBridge

namespace Engine

open Json Rpc Client

/-- What holds at every point `w` of a run of the peer on connection `c` that started at `w₀`.
The id `start_call` takes next was never handed out, so registering it finds nothing under it, and
in particular it differs from every id handed out by `w₀`; `start_call` returns that id, or
`ServerUnavailable` when the connection is closed or its writer is gone. Since `w₀` every slot has
only moved forward: a call left the table at most once, and an ended call kept its outcome until its
caller took it. The next operation, while fewer than `2 ^ 64` ids are handed out, moves the ledger
as the ledger machine says: a response, a cancellation or closing ends a call in flight with the
response, `cancelled` or `unavailable`; the caller's deadline or its dropping the call removes it
with nothing left; taking an outcome clears it. A waiting caller finds an outcome exactly when its
call ended with that outcome, and its deadline times it out exactly while its call is in flight; a
response whose id is not in flight changes nothing, and `cancel` reports whether the call was in
flight. -/
structure CallsEndOnce (c : Nat) (w₀ w : World) : Prop where
  nextUnissued : (w.conn c).slot (.number (w.conn c).nextId.toInt) = .unissued
  nextIsNew : ∀ id, (w₀.conn c).slot id ≠ .unissued → id ≠ .number (w.conn c).nextId.toInt
  startCall : ∀ method params, (w.issue c method params).1 =
    if (w.conn c).pending.closed || (w.conn c).writerDone then .error .serverUnavailable
    else .ok (.number (w.conn c).nextId.toInt)
  forward : ∀ id, SlotAdvances ((w₀.conn c).slot id) ((w.conn c).slot id)
  step : ∀ op, (w.conn c).issued + op.ids < 2 ^ 64 → ∀ id,
    ((w.peerStep c op).conn c).slot id = op.onSlot (w.conn c) id ((w.conn c).slot id)
  collect : ∀ id outcome,
    (w.takeFilled c id).1 = some outcome ↔ (w.conn c).slot id = .ended outcome
  timeout : ∀ id method,
    (w.expire c id method).2 = .finished (.error (.timeout method)) ↔
      ∃ m, (w.conn c).slot id = .inFlight m
  stray : ∀ id result, (∀ m, (w.conn c).slot id ≠ .inFlight m) → w.deliver c id result = w
  cancel : ∀ id, (w.cancel c id).1 = true ↔ ∃ m, (w.conn c).slot id = .inFlight m

/-- Exactly one outcome per outbound call: over every interleaving of `start_call`, responses with
any ids, cancellations, deadlines, dropped calls, closing and callers taking their outcomes, from
any well-formed ledger of an open connection, while fewer than `2 ^ 64` ids are handed out in all
(the counter wraps after `2 ^ 63 - 1` and comes back to its first id after `2 ^ 64`), the facts of
`CallsEndOnce` hold at every point. -/
theorem outbound_call_ends_once {c : Nat} {w₀ : World} (present : c < w₀.conns.size)
    (wf : (w₀.conn c).LedgerWF) (ops : List PeerOp)
    (below : (w₀.conn c).issued + (ops.map PeerOp.ids).sum < 2 ^ 64) :
    CallsEndOnce c w₀ (w₀.peerRun c ops) := by
  obtain ⟨nowPresent, nowWF, forward, -⟩ := World.peerRun_ledger ops present wf below
  have isSome_iff : ∀ id, (((w₀.peerRun c ops).conn c).pending.calls.lookup id).isSome = true ↔
      ∃ m, ((w₀.peerRun c ops).conn c).slot id = .inFlight m := by
    intro id
    simp [Conn.slot_eq_inFlight_iff, Option.isSome_iff_exists]
  refine
    { nextUnissued := Conn.slot_next nowWF
      nextIsNew := fun id handed same => by
        have stillHanded := (forward id).ne_unissued handed
        rw [same, Conn.slot_next nowWF] at stillHanded
        exact stillHanded rfl
      startCall := World.issue_result nowPresent
      forward := forward
      step := fun op room => (World.peerStep_spec nowPresent nowWF op room).1
      collect := fun id outcome => ?_
      timeout := fun id method => ?_
      stray := fun id result notInFlight => ?_
      cancel := fun id => ?_ }
  · rw [World.takeFilled_result, Conn.slot_eq_ended_iff nowWF]
  · rw [World.expire_result, ← isSome_iff]
    split <;> simp_all
  · apply World.deliver_of_missing result
    cases called : ((w₀.peerRun c ops).conn c).pending.calls.lookup id with
    | none => rfl
    | some m => exact absurd (Conn.slot_of_called called) (notInFlight m)
  · rw [World.cancel_result, isSome_iff]

/-- A connection whose counter stands at the largest `i64` hands out that id, then wraps to the
smallest: both calls are in flight under ids of their own. -/
theorem outbound_call_ends_once_across_wrap :
    let w₀ : World := { conns := #[{ nextId := 9223372036854775807 }] }
    let ops := [PeerOp.startCall "initialize" .null, .startCall "shutdown" .null]
    0 < w₀.conns.size ∧ (w₀.conn 0).LedgerWF ∧
      (w₀.conn 0).issued + (ops.map PeerOp.ids).sum < 2 ^ 64 ∧ CallsEndOnce 0 w₀ (w₀.peerRun 0 ops) ∧
      ((w₀.peerRun 0 ops).conn 0).pending.calls =
        [(.number 9223372036854775807, "initialize"), (.number (-9223372036854775808), "shutdown")] := by
  intro w₀ ops
  have present : 0 < w₀.conns.size := by decide
  have wf : (w₀.conn 0).LedgerWF := Conn.LedgerWF.of_empty rfl rfl
  have below : (w₀.conn 0).issued + (ops.map PeerOp.ids).sum < 2 ^ 64 := by decide
  exact ⟨present, wf, below, outbound_call_ends_once present wf ops below, by decide⟩

end Engine

end LspBridge
