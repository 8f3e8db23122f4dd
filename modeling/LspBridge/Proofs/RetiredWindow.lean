import LspBridge.Proofs.CallLedger
import Mathlib
/-!
# The window of retired ids

A call table remembers the ids of the last calls it ended twice over: in a queue, oldest first,
and in a set that `complete` looks them up in. Retiring an id the set already holds does nothing;
any other id goes into both, and once the queue holds more than `retiredCapacity` ids its oldest
leaves both again.

Main statement (`retired_window`): along every sequence of operations on a fresh table
(registering, completing, taking, cancelling, closing) the queue has no duplicates, holds exactly
the ids of the set and at most 256 of them, and is the window that `pushWindow` builds from the
ids of the calls the operations took out of the table, in order; closing ends calls without
retiring them. If no id is registered twice, the calls in flight are never in the window, and a
response is delivered, late or unknown as its id is in flight, in the window, or neither.
-/

namespace LspBridge

namespace Client

open Rpc

namespace PendingTable

/-- The window after an ended id is pushed onto it: unchanged when the id is in it already,
otherwise the id appended and, beyond the capacity, the oldest dropped. -/
def pushWindow (window : List RequestId) (id : RequestId) : List RequestId :=
  if id ∈ window then window
  else
    let grown := window ++ [id]
    if retiredCapacity < grown.length then grown.drop 1 else grown

theorem mem_of_mem_pushWindow {window : List RequestId} {id x : RequestId}
    (mem : x ∈ pushWindow window id) : x ∈ window ∨ x = id := by
  unfold pushWindow at mem
  split at mem
  · exact .inl mem
  · dsimp only at mem
    split at mem
    · simpa using List.mem_of_mem_drop mem
    · simpa using mem

/-- The two records of the retired ids agree: the queue has no duplicates, holds exactly the ids
of the set, and no more than the capacity. -/
structure WindowWF (t : PendingTable) : Prop where
  nodup : t.retired.Nodup
  mem_iff : ∀ id, id ∈ t.retired ↔ id ∈ t.retiredSet
  bounded : t.retired.length ≤ retiredCapacity

variable {t : PendingTable}

theorem WindowWF.empty : WindowWF ({} : PendingTable) :=
  ⟨List.nodup_nil, fun id => by simp, by simp⟩

/-- Only the queue and the set matter to the invariant. -/
theorem WindowWF.congr {t' : PendingTable} (wf : WindowWF t) (retired : t'.retired = t.retired)
    (retiredSet : t'.retiredSet = t.retiredSet) : WindowWF t' :=
  ⟨retired ▸ wf.nodup, fun id => by rw [retired, retiredSet]; exact wf.mem_iff id,
    retired ▸ wf.bounded⟩

theorem retire_of_mem {id : RequestId} (held : id ∈ t.retiredSet) : t.retire id = t := by
  rw [retire, if_pos (Std.HashSet.mem_iff_contains.mp held)]

/-- Retiring an id the set lacks appends it to the queue and adds it to the set; past the
capacity the oldest id then leaves both. -/
theorem retire_of_not_mem {id : RequestId} (absent : id ∉ t.retiredSet) :
    ((t.retired ++ [id]).length ≤ retiredCapacity ∧
        t.retire id =
          { t with retired := t.retired ++ [id], retiredSet := t.retiredSet.insert id }) ∨
      ∃ old rest, t.retired ++ [id] = old :: rest ∧
        retiredCapacity < (t.retired ++ [id]).length ∧
        t.retire id = { t with retired := rest, retiredSet := (t.retiredSet.insert id).erase old } := by
  have skip : t.retiredSet.contains id = false :=
    Std.HashSet.contains_eq_false_iff_not_mem.mpr absent
  rw [retire, skip]
  simp only [Bool.false_eq_true, if_false]
  generalize grownEq : t.retired ++ [id] = grown
  cases grown with
  | nil => simp at grownEq
  | cons old rest =>
    by_cases beyond : retiredCapacity < (old :: rest).length
    · exact .inr ⟨old, rest, rfl, beyond, by rw [if_pos beyond]⟩
    · exact .inl ⟨Nat.le_of_not_lt beyond, by rw [if_neg beyond]⟩

/-- The step lemma of the window: retiring keeps the two records in agreement, and the queue
moves as `pushWindow` says. -/
theorem WindowWF.retire (wf : WindowWF t) (id : RequestId) :
    WindowWF (t.retire id) ∧ (t.retire id).retired = pushWindow t.retired id := by
  by_cases held : id ∈ t.retiredSet
  · rw [retire_of_mem held]
    exact ⟨wf, by simp [pushWindow, (wf.mem_iff id).mpr held]⟩
  · have fresh : id ∉ t.retired := fun mem => held ((wf.mem_iff id).mp mem)
    have grownNodup : (t.retired ++ [id]).Nodup :=
      List.nodup_append.mpr ⟨wf.nodup, List.nodup_singleton id,
        fun x mem y same => by simp only [List.mem_singleton] at same; exact same ▸ fun eq => fresh (eq ▸ mem)⟩
    have grownMem : ∀ x, x ∈ t.retired ++ [id] ↔ x = id ∨ x ∈ t.retiredSet := by
      intro x
      rw [List.mem_append, wf.mem_iff, List.mem_singleton, or_comm]
    rcases retire_of_not_mem held with ⟨fits, only⟩ | ⟨old, rest, grownEq, beyond, only⟩
    · rw [only]
      refine ⟨⟨grownNodup, fun x => ?_, fits⟩, ?_⟩
      · rw [grownMem, Std.HashSet.mem_insert, beq_iff_eq, @eq_comm _ id x]
      · rw [pushWindow, if_neg fresh]
        dsimp only
        rw [if_neg (Nat.not_lt.mpr fits)]
    · rw [only]
      rw [grownEq] at grownNodup grownMem beyond
      obtain ⟨oldFresh, restNodup⟩ := List.nodup_cons.mp grownNodup
      refine ⟨⟨restNodup, fun x => ?_, ?_⟩, ?_⟩
      · -- the queue lost its oldest id, and so did the set
        have inRest : x ∈ rest ↔ x ≠ old ∧ x ∈ old :: rest := by
          constructor
          · intro mem
            exact ⟨fun same => oldFresh (same ▸ mem), List.mem_cons_of_mem old mem⟩
          · rintro ⟨other, mem⟩
            exact (List.mem_cons.mp mem).resolve_left other
        rw [inRest, grownMem x, Std.HashSet.mem_erase, Std.HashSet.mem_insert, beq_eq_false_iff_ne,
          beq_iff_eq, ne_comm, eq_comm (a := id)]
      · show rest.length ≤ retiredCapacity
        have lengths := congrArg List.length grownEq
        simp only [List.length_append, List.length_cons, List.length_nil] at lengths
        have := wf.bounded
        omega
      · rw [pushWindow, if_neg fresh]
        dsimp only
        rw [grownEq, if_pos beyond]
        rfl

/-! ### Operations on a table -/

/-- An operation on a call table. Cancelling takes the call out as `take` does; its caller is
then told it was cancelled, which the table does not record. -/
inductive Op where
  | register (id : RequestId) (method : String)
  | complete (id : RequestId)
  | take (id : RequestId)
  | cancel (id : RequestId)
  | close

namespace Op

/-- The table after an operation; one that finds nothing to do leaves it as it is. -/
def apply (t : PendingTable) : Op → PendingTable
  | .register id method => (t.register id method).getD t
  | .complete id => (t.complete id).2
  | .take id | .cancel id => ((t.take id).map Prod.snd).getD t
  | .close => t.close.2

/-- The id whose call an operation takes out of the table, if it takes one. -/
def ends (t : PendingTable) : Op → Option RequestId
  | .complete id | .take id | .cancel id => if (t.calls.lookup id).isSome then some id else none
  | .register .. | .close => none

/-- The id an operation registers. -/
def registers : Op → Option RequestId
  | .register id _ => some id
  | _ => none

/-- Taking out a call in flight leaves the table without it, its id retired; one not in flight
is not touched. -/
theorem take_apply (id : RequestId) :
    ((t.take id).map Prod.snd).getD t =
      if (t.calls.lookup id).isSome then ({ t with calls := t.calls.filter (·.1 != id) }).retire id
      else t := by
  cases found : t.calls.lookup id with
  | none => simp [(take_eq_none_iff t id).mpr found]
  | some method =>
    have taken := (take_eq_some_iff t _ id method).mpr ⟨found, rfl⟩
    simp [taken]

theorem complete_snd (id : RequestId) : (t.complete id).2 = ((t.take id).map Prod.snd).getD t := by
  unfold PendingTable.complete
  cases t.take id with
  | none => rfl
  | some taken => rfl

/-- What one operation does to the window: it retires the id of the call it took out of the
table, or it leaves queue and set alone. -/
theorem apply_cases (op : Op) :
    (∃ id, op.ends t = some id ∧
        op.apply t = ({ t with calls := t.calls.filter (·.1 != id) }).retire id) ∨
      (op.ends t = none ∧ (op.apply t).retired = t.retired ∧
        (op.apply t).retiredSet = t.retiredSet) := by
  cases op with
  | register id method =>
    refine .inr ⟨rfl, ?_⟩
    cases closed : t.closed <;> simp [apply, PendingTable.register, closed]
  | close => exact .inr ⟨rfl, rfl, rfl⟩
  | complete id | take id | cancel id =>
    -- the three take the call out of the table the same way
    simp only [apply, complete_snd, take_apply, ends]
    by_cases found : (t.calls.lookup id).isSome
    · exact .inl ⟨id, by simp [found], by simp [found]⟩
    · exact .inr ⟨by simp [found], by simp [found], by simp [found]⟩

/-- The step lemma of a run: an operation keeps the invariant and pushes the id it ended. -/
theorem windowWF_apply (wf : WindowWF t) (op : Op) :
    WindowWF (op.apply t) ∧ (op.apply t).retired = (op.ends t).toList.foldl pushWindow t.retired := by
  rcases apply_cases (t := t) op with ⟨id, ends, applied⟩ | ⟨ends, retired, retiredSet⟩
  · have withoutCall : WindowWF { t with calls := t.calls.filter (·.1 != id) } :=
      wf.congr rfl rfl
    rw [applied, ends]
    exact withoutCall.retire id
  · rw [ends]
    exact ⟨wf.congr retired retiredSet, retired⟩

end Op

/-! ### Runs -/

/-- The table after a sequence of operations. -/
def runOps (t : PendingTable) (ops : List Op) : PendingTable := ops.foldl Op.apply t

/-- The ids of the calls a sequence of operations takes out of the table, in order. -/
def endedIds : PendingTable → List Op → List RequestId
  | _, [] => []
  | t, op :: ops => (op.ends t).toList ++ endedIds (op.apply t) ops

/-- The run lemma of the window: along every sequence of operations the invariant holds and the
queue is the window of the ids ended, pushed in order. -/
theorem WindowWF.runOps (wf : WindowWF t) (ops : List Op) :
    WindowWF (runOps t ops) ∧
      (runOps t ops).retired = (endedIds t ops).foldl pushWindow t.retired := by
  induction ops generalizing t with
  | nil => exact ⟨wf, rfl⟩
  | cons op ops ih =>
    obtain ⟨stepWF, stepRetired⟩ := Op.windowWF_apply wf op
    obtain ⟨runWF, runRetired⟩ := ih stepWF
    refine ⟨runWF, ?_⟩
    simp only [PendingTable.runOps, List.foldl_cons, endedIds, List.foldl_append] at runRetired ⊢
    rw [runRetired, stepRetired]

/-- A response is delivered when its id is in flight, late when the window has it, and unknown
otherwise. -/
theorem WindowWF.complete_fst (wf : WindowWF t) (id : RequestId) :
    (t.complete id).1 =
      if (t.calls.lookup id).isSome then .delivered
      else if id ∈ t.retired then .late else .unknown := by
  cases found : t.calls.lookup id with
  | none =>
    simp only [PendingTable.complete, (take_eq_none_iff t id).mpr found, wf.mem_iff,
      Std.HashSet.mem_iff_contains, Option.isSome_none]
    rfl
  | some method =>
    have taken := (take_eq_some_iff t _ id method).mpr ⟨found, rfl⟩
    simp [PendingTable.complete, taken]

/-! ### Calls in flight stay out of the window -/

/-- The calls in flight are apart from the window, and every id in either was registered. -/
structure Apart (t : PendingTable) (registered : List RequestId) : Prop where
  seen : ∀ id, id ∈ t.calls.map Prod.fst ∨ id ∈ t.retired → id ∈ registered
  apart : ∀ id ∈ t.calls.map Prod.fst, id ∉ t.retired

theorem Apart.empty : Apart ({} : PendingTable) [] :=
  ⟨fun id mem => by simp at mem, fun id mem => by simp at mem⟩

theorem Apart.mono {registered more : List RequestId} (apart : Apart t registered)
    (grows : ∀ id ∈ registered, id ∈ more) : Apart t more :=
  ⟨fun id mem => grows id (apart.seen id mem), apart.apart⟩

/-- Taking a call in flight out of the table keeps it apart from the window: only the call's own
id can enter the window, and it has left the calls. -/
theorem Apart.retireTaken {registered : List RequestId} {id : RequestId} (wf : WindowWF t)
    (apart : Apart t registered) (inFlight : id ∈ t.calls.map Prod.fst) :
    Apart (({ t with calls := t.calls.filter (·.1 != id) }).retire id) registered := by
  have withoutCall : WindowWF { t with calls := t.calls.filter (·.1 != id) } := wf.congr rfl rfl
  have pushed := (withoutCall.retire id).2
  constructor
  · intro x mem
    simp only [calls_retire, pushed] at mem
    rcases mem with inCalls | inWindow
    · exact apart.seen x (.inl (List.map_subset _ (List.filter_subset_self _) inCalls))
    · rcases mem_of_mem_pushWindow inWindow with old | same
      · exact apart.seen x (.inr old)
      · exact apart.seen x (.inl (same ▸ inFlight))
  · intro x mem inWindow
    simp only [calls_retire, pushed] at mem inWindow
    obtain ⟨⟨key, method⟩, kept, rfl⟩ := List.mem_map.mp mem
    obtain ⟨stillThere, other⟩ := List.mem_filter.mp kept
    rcases mem_of_mem_pushWindow inWindow with old | same
    · exact apart.apart key (List.mem_map_of_mem (f := Prod.fst) stillThere) old
    · rw [same, bne_self_eq_false] at other
      cases other

/-- A removal by id keeps the calls apart from the window, whether or not the call was in
flight. -/
theorem Apart.take {registered : List RequestId} (wf : WindowWF t) (apart : Apart t registered)
    (id : RequestId) : Apart (((t.take id).map Prod.snd).getD t) registered := by
  rw [Op.take_apply]
  split
  · rename_i found
    obtain ⟨entry, mem, same⟩ := List.lookup_isSome_iff.mp found
    exact apart.retireTaken wf (List.mem_map.mpr ⟨entry, mem, (beq_iff_eq.mp same).symm⟩)
  · exact apart

/-- The step lemma: an operation that registers only ids never registered before keeps the calls
in flight apart from the window. -/
theorem Apart.apply {registered : List RequestId} (wf : WindowWF t) (apart : Apart t registered)
    (op : Op) (fresh : ∀ id, op.registers = some id → id ∉ registered) :
    Apart (op.apply t) (registered ++ op.registers.toList) := by
  have wider : ∀ {t'}, Apart t' registered → Apart t' (registered ++ op.registers.toList) :=
    fun apart' => apart'.mono fun id mem => List.mem_append_left _ mem
  cases op with
  | register id method =>
    have notSeen := fresh id rfl
    simp only [Op.apply, PendingTable.register]
    split
    · exact wider apart
    · constructor
      · intro x mem
        simp only [Option.getD_some, List.map_append, List.mem_append] at mem
        rcases mem with (inCalls | added) | inWindow
        · exact wider apart |>.seen x (.inl inCalls)
        · simp at added
          simp [Op.registers, added]
        · exact wider apart |>.seen x (.inr inWindow)
      · intro x mem inWindow
        simp only [Option.getD_some, List.map_append, List.mem_append] at mem inWindow
        rcases mem with inCalls | added
        · exact apart.apart x inCalls inWindow
        · simp at added
          exact notSeen (added ▸ apart.seen x (.inr inWindow))
  | complete id =>
    rw [Op.apply, Op.complete_snd]
    exact wider (apart.take wf id)
  | take id => exact wider (apart.take wf id)
  | cancel id => exact wider (apart.take wf id)
  | close =>
    exact ⟨fun x mem => apart.seen x (.inr (by simpa [Op.apply, PendingTable.close] using mem)) |>
        List.mem_append_left _,
      fun x mem => by simp [Op.apply, PendingTable.close] at mem⟩

/-- The run lemma: if no id is registered twice, the calls in flight stay apart from the window
all along. -/
theorem Apart.runOps {registered : List RequestId} (wf : WindowWF t) (apart : Apart t registered)
    (ops : List Op) (once : (registered ++ ops.filterMap Op.registers).Nodup) :
    Apart (runOps t ops) (registered ++ ops.filterMap Op.registers) := by
  induction ops generalizing t registered with
  | nil => simpa [PendingTable.runOps] using apart
  | cons op ops ih =>
    show Apart (runOps (op.apply t) ops) _
    have stepWF := (Op.windowWF_apply wf op).1
    cases reg : op.registers with
    | none =>
      have step := apart.apply wf op fun id h => by simp [reg] at h
      rw [reg, Option.toList_none, List.append_nil] at step
      simp only [List.filterMap_cons, reg] at once ⊢
      exact ih stepWF step once
    | some id =>
      simp only [List.filterMap_cons, reg] at once ⊢
      have fresh : id ∉ registered := fun mem =>
        (List.nodup_append.mp once).2.2 id mem id List.mem_cons_self rfl
      have step := apart.apply wf op fun id' h => by
        rw [reg] at h
        cases h
        exact fresh
      rw [reg, Option.toList_some] at step
      have rest := ih stepWF step (by simpa using once)
      simpa using rest

/-- The window of retired ids along every sequence of operations on a fresh table: the queue has
no duplicates, holds exactly the ids of the set and at most 256 of them, and is the window of the
ids the operations ended, pushed in order; if no id is registered twice, no call in flight is in
the window; and a response is delivered, late or unknown as its id is in flight, in the window, or
neither. -/
theorem retired_window (ops : List Op) :
    (runOps {} ops).retired.Nodup ∧
      (∀ id, id ∈ (runOps {} ops).retired ↔ id ∈ (runOps {} ops).retiredSet) ∧
      (runOps {} ops).retired.length ≤ 256 ∧
      (runOps {} ops).retired = (endedIds {} ops).foldl pushWindow [] ∧
      ((ops.filterMap Op.registers).Nodup →
        ∀ id ∈ (runOps {} ops).calls.map Prod.fst, id ∉ (runOps {} ops).retired) ∧
      ∀ id, ((runOps {} ops).complete id).1 =
        if ((runOps {} ops).calls.lookup id).isSome then .delivered
        else if id ∈ (runOps {} ops).retired then .late else .unknown := by
  obtain ⟨wf, window⟩ := WindowWF.empty.runOps ops
  refine ⟨wf.nodup, wf.mem_iff, wf.bounded, window, fun once => ?_, wf.complete_fst⟩
  exact (Apart.empty.runOps WindowWF.empty ops (by simpa using once)).apart

/-- A call registered after another call was taken out, its id retired, is not in the window. -/
theorem retired_window_register_after_take :
    ([Op.register (.number 1) "a", .take (.number 1), .register (.number 2) "b"].filterMap
        Op.registers).Nodup ∧
      ∀ id ∈ (runOps {} [.register (.number 1) "a", .take (.number 1),
          .register (.number 2) "b"]).calls.map Prod.fst,
        id ∉ (runOps {} [.register (.number 1) "a", .take (.number 1),
          .register (.number 2) "b"]).retired :=
  ⟨by decide, (retired_window _).2.2.2.2.1 (by decide)⟩

end PendingTable

end Client

end LspBridge
