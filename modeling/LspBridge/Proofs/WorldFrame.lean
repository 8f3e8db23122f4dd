import LspBridge.Engine.Calls
import Mathlib
/-!
# What the primitive updates of a world leave alone

The tasks of the client change a world only through a few primitive updates: a connection is
changed in place, a task is woken, spawned, replaced or dropped, and notes are appended. This file
states, once for each primitive, which parts of the world it keeps, so that later proofs about the
call table or the supervisor never unfold them again.

Waking a task only ever touches the ready queue, and changing one connection leaves every other
connection, and the number of connections, as they were. A message that is queued, a notification
that goes out and bytes a server writes are each one change of a connection followed by a waking
(`eq_of_enqueue`, `enqueue_of_notify`, `eq_of_serverWrite`).

A step of a call is made of a few steps of the pending table: taking an ended call's outcome,
forgetting a call that timed out, arming a timer, and issuing a fresh call first. So a relation
between worlds that is a preorder and holds across each of those holds across every step of a call
(`expire_of`, `checkWait_of`, `beginWait_of`, `stepCall_of`, `abandon_of`), and the same holds of
ending calls (`fillAll_of`, `cancel_of`); each frame of a later file gives its own relation an
`IsPreorder` instance and cites these.

The moves of a server program are made in the same way of a few primitive ones: a change of the
program's state, a message it writes, the end of its process, a timed action it arms, the close of
its output and an interrupt. `ProgramFrame R` says that `R` holds across those, and then it holds
across every move of a program (`ProgramFrame.programAct`, `ProgramFrame.programArrive`).
-/

namespace LspBridge

namespace Engine

namespace World

/-- Waking a task changes the ready queue and nothing else. -/
theorem wake_eq (w : World) (tid : Nat) : ∃ queue, w.wake tid = { w with queue } := by
  unfold wake
  split
  · exact ⟨_, rfl⟩
  · exact ⟨w.queue, rfl⟩

/-- A fold whose every step changes only the ready queue changes only the ready queue. -/
theorem foldl_eq_of_queue {α : Type} (f : World → α → World)
    (step : ∀ acc a, ∃ queue, f acc a = { acc with queue }) (entries : List α) (acc : World) :
    ∃ queue, entries.foldl f acc = { acc with queue } := by
  induction entries generalizing acc with
  | nil => exact ⟨acc.queue, rfl⟩
  | cons a rest ih =>
      obtain ⟨_, stepped⟩ := step acc a
      obtain ⟨queue, folded⟩ := ih (f acc a)
      refine ⟨queue, ?_⟩
      rw [List.foldl_cons, folded, stepped]

/-- Waking every selected task changes the ready queue and nothing else. -/
theorem wakeIf_eq (w : World) (p : Task → Bool) : ∃ queue, w.wakeIf p = { w with queue } := by
  unfold wakeIf
  -- each entry of the task table is woken or passed over
  refine foldl_eq_of_queue _ ?_ w.tasks w
  rintro acc ⟨tid, t⟩
  by_cases selected : p t
  · simpa [selected] using acc.wake_eq tid
  · exact ⟨acc.queue, by simp [selected]⟩

/-- Waking the writers that have nothing to write changes the ready queue and nothing else. -/
theorem wakeIdleWriters_eq (w : World) : ∃ queue, w.wakeIdleWriters = { w with queue } := by
  unfold wakeIdleWriters
  refine foldl_eq_of_queue _ ?_ w.tasks w
  rintro acc ⟨tid, t⟩
  cases t with
  | writer c =>
    dsimp only
    split
    · exact acc.wake_eq tid
    · exact ⟨acc.queue, rfl⟩
  | _ => exact ⟨acc.queue, rfl⟩

@[simp]
theorem conns_wakeIf (w : World) (p : Task → Bool) : (w.wakeIf p).conns = w.conns := by
  obtain ⟨queue, woken⟩ := w.wakeIf_eq p
  rw [woken]

@[simp]
theorem conn_wakeIf (w : World) (p : Task → Bool) (c : Nat) : (w.wakeIf p).conn c = w.conn c := by
  simp [conn]

@[simp]
theorem conns_wakeSlot (w : World) (c : Nat) (id : Rpc.RequestId) :
    (w.wakeSlot c id).conns = w.conns :=
  conns_wakeIf w _

@[simp]
theorem conn_wakeSlot (w : World) (c d : Nat) (id : Rpc.RequestId) :
    (w.wakeSlot c id).conn d = w.conn d :=
  conn_wakeIf w _ d

@[simp]
theorem conns_wakeWriter (w : World) (c : Nat) : (w.wakeWriter c).conns = w.conns :=
  conns_wakeIf w _

@[simp]
theorem conn_wakeWriter (w : World) (c d : Nat) : (w.wakeWriter c).conn d = w.conn d :=
  conn_wakeIf w _ d

@[simp]
theorem size_conns_modifyConn (w : World) (c : Nat) (f : Conn → Conn) :
    (w.modifyConn c f).conns.size = w.conns.size := by
  simp [modifyConn]

/-- Changing an existing connection applies the change to it. -/
theorem conn_modifyConn_self (w : World) (c : Nat) (f : Conn → Conn)
    (present : c < w.conns.size) :
    (w.modifyConn c f).conn c = f (w.conn c) := by
  simp [modifyConn, conn, present, Array.getElem_modify_self]

/-- Changing a connection leaves every other one as it was. -/
theorem conn_modifyConn_of_ne (w : World) {c d : Nat} (f : Conn → Conn) (other : d ≠ c) :
    (w.modifyConn c f).conn d = w.conn d := by
  simp [modifyConn, conn, Array.getElem?_modify, Ne.symm other]

section Queuing

open Json Rpc

variable {w w' : World} {c : Nat}

theorem eq_of_enqueue {m : Message} (queued : w.enqueue c m = some w') :
    w' = (w.modifyConn c fun k => { k with outbound := k.outbound ++ [m] }).wakeWriter c := by
  unfold enqueue at queued
  split at queued
  · cases queued
  · exact (Option.some.inj queued).symm

theorem enqueue_of_notify {method : String} {params : Value}
    (sent : w.notify c method params = .ok w') :
    w.enqueue c (.notification method params) = some w' := by
  unfold notify at sent
  split at sent
  · cases sent
  · split at sent
    · rename_i queued
      cases sent
      exact queued
    · cases sent

theorem eq_of_serverWrite {bytes : List UInt8} (written : w.serverWrite c bytes = .ok w') :
    w' = (w.modifyConn c fun k => { k with inbound := k.inbound ++ bytes }).wakeReader c := by
  unfold serverWrite at written
  dsimp only at written
  split at written
  · cases written
  · split at written
    · cases written
    · cases written
      rfl

end Queuing

section Calls

open Json Rpc

variable {R : World → World → Prop}
  (takeFilled : ∀ w c id, R w (w.takeFilled c id).2) (forget : ∀ w c id, R w (w.forget c id).2)
  (timer : ∀ w ms, R w (w.timer ms).1) (fill : ∀ w c id o, R w (w.fill c id o))

include forget in
theorem expire_of (w : World) (c : Nat) (id : RequestId) (method : String) :
    R w (w.expire c id method).1 := by
  unfold expire
  have forgot := forget w c id
  split <;>
  · rename_i w' taken
    rw [taken] at forgot
    exact forgot

variable [IsPreorder World R]

include fill in
theorem fillAll_of (c : Nat) (o : Client.Outcome) (ids : List RequestId) (acc : World) :
    R acc (ids.foldl (fun acc id => acc.fill c id o) acc) := by
  induction ids generalizing acc with
  | nil => exact refl_of R acc
  | cons id rest ih => exact trans_of R (fill acc c id o) (ih _)

include forget fill in
/-- A cancellation, given that its notice to the server holds across when it goes out. -/
theorem cancel_of (w : World) (c : Nat) (id : RequestId)
    (notify : ∀ w₁ w₂, w₁.notify c cancelMethod (Value.obj [("id", id.toValue)]) = .ok w₂ →
      R w₁ w₂) :
    R w (w.cancel c id).2 := by
  unfold cancel
  have forgot := forget w c id
  split
  · rename_i w' taken
    rw [taken] at forgot
    have filled := trans_of R forgot (fill w' c id .cancelled)
    dsimp only
    split
    · rename_i sent
      exact trans_of R filled (notify _ _ sent)
    · exact filled
  · rename_i w' taken
    rw [taken] at forgot
    exact forgot

include takeFilled forget in
theorem checkWait_of (w : World) (c : Nat) (id : RequestId) (method : String)
    (deadline : Option Timer) : R w (w.checkWait c id method deadline).1 := by
  unfold checkWait
  have taken := takeFilled w c id
  split
  · rename_i w' found
    rw [found] at taken
    exact taken
  · rename_i w' found
    rw [found] at taken
    split
    · split
      · exact trans_of R taken (expire_of forget _ c id method)
      · exact taken
    · exact taken

include takeFilled forget timer in
theorem beginWait_of (w : World) (c : Nat) (id : RequestId) (method : String)
    (limit : Option Nat) : R w (w.beginWait c id method limit).1 := by
  unfold beginWait
  have taken := takeFilled w c id
  split
  · rename_i w' found
    rw [found] at taken
    exact taken
  · rename_i w' found
    rw [found] at taken
    split
    · exact taken
    · rename_i ms
      have timed := timer w' ms
      split
      rename_i w'' t armed
      rw [armed] at timed
      split
      · exact trans_of R (trans_of R taken timed) (expire_of forget w'' c id method)
      · exact trans_of R taken timed

include takeFilled forget timer in
/-- A step of a call, given that issuing it, when it is fresh, holds across. -/
theorem stepCall_of (w : World) (c : Nat) (call : Call)
    (issue : ∀ method params limit, call = .fresh method params limit →
      R w (w.issue c method params).2) :
    R w (w.stepCall c call).1 := by
  unfold stepCall
  split
  · rename_i method params limit
    dsimp only
    have issued := issue method params limit rfl
    split
    · rename_i w' sent
      rw [sent] at issued
      exact issued
    · rename_i id w' sent
      rw [sent] at issued
      exact trans_of R issued (beginWait_of takeFilled forget timer w' c id method _)
  · exact beginWait_of takeFilled forget timer w _ _ _ _
  · exact checkWait_of takeFilled forget w _ _ _ _
  · exact refl_of R w

include forget in
theorem abandon_of (w : World) (call : Call) : R w (w.abandon call) := by
  unfold abandon
  split
  · exact forget w _ _
  · exact forget w _ _
  · exact refl_of R w

end Calls

/-! ### The moves of a server program -/

open Rpc in
/-- The primitive moves of a server program that a relation between worlds holds across. -/
structure ProgramFrame (R : World → World → Prop) : Prop where
  modifyProgram : ∀ w c f, R w (w.modifyProgram c f)
  programWrite : ∀ w c v, R w (w.programWrite c v)
  processEnds : ∀ w c code, R w (w.processEnds c code)
  timer : ∀ w ms, R w (w.timer ms).1
  spawnTimed : ∀ w c action t, R w (w.spawn (.timed c action t)).1
  closeOutput : ∀ w c,
    R w ((w.modifyConn c fun k => { k with inboundClosed := true }).wakeReader c)
  interrupt : ∀ w : World, R w { w with interrupts := w.interrupts + 1 }

namespace ProgramFrame

open Json Rpc

variable {R : World → World → Prop} [IsPreorder World R] (frame : ProgramFrame R)

include frame

theorem programReply (w : World) (c : Nat) (id : RequestId) (r : Machine.Reply) :
    R w (w.programReply c id r) := by
  unfold World.programReply
  split
  · exact refl_of R w
  · exact frame.programWrite w c _
  · exact frame.programWrite w c _

theorem pumpRequests (c : Nat) (fuel : Nat) (w : World) : R w (World.pumpRequests c fuel w) := by
  induction fuel generalizing w with
  | zero => exact refl_of R w
  | succ fuel ih =>
    unfold World.pumpRequests
    split
    · split
      · exact refl_of R w
      · split
        · exact refl_of R w
        · exact trans_of R (trans_of R (frame.modifyProgram w c _) (frame.programWrite _ c _))
            (ih _)
    · exact refl_of R w

/-- Arming a server program's timed actions adds a task of its own for each. -/
theorem armTimed (c : Nat) (timed : List (Nat × Machine.Timed)) (acc : World) :
    R acc (timed.foldl (fun w (ms, action) =>
      let (w, t) := w.timer ms
      (w.spawn (.timed c action t)).1) acc) := by
  induction timed generalizing acc with
  | nil => exact refl_of R acc
  | cons entry rest ih =>
    obtain ⟨ms, action⟩ := entry
    exact trans_of R (trans_of R (frame.timer acc ms) (frame.spawnTimed _ c action _)) (ih _)

theorem programInitialized (w : World) (c : Nat) (b : Machine.Behaviour) :
    R w (w.programInitialized c b) := by
  unfold World.programInitialized
  dsimp only
  -- the program's state, its first requests and its timed actions, then perhaps its output
  split
  · exact trans_of R (trans_of R (trans_of R (frame.modifyProgram w c _) (frame.pumpRequests c _ _))
      (frame.armTimed c b.timed _)) (frame.closeOutput _ c)
  · exact trans_of R (trans_of R (frame.modifyProgram w c _) (frame.pumpRequests c _ _))
      (frame.armTimed c b.timed _)

theorem programHandle (w : World) (c : Nat) (m : Message) : R w (w.programHandle c m) := by
  unfold World.programHandle
  split
  · exact refl_of R w
  · split
    · exact refl_of R w
    · split
      · split
        · exact trans_of R (frame.modifyProgram w c _) (frame.pumpRequests c _ _)
        · exact refl_of R w
      · split
        · exact frame.programReply w c _ _
        · exact frame.programReply w c _ _
        · exact frame.programReply w c _ _
        · exact frame.programInitialized w c _
        · exact frame.processEnds w c _
        · exact refl_of R w

theorem programArrive (w : World) (c : Nat) (m : Option Message) : R w (w.programArrive c m) := by
  unfold World.programArrive
  dsimp only
  split
  · exact refl_of R w
  · exact trans_of R (trans_of R (frame.modifyProgram w c _) (frame.timer _ _))
      (frame.spawnTimed _ c _ _)

theorem programRead (w : World) (c : Nat) : R w (w.programRead c) := by
  unfold World.programRead
  split
  · split
    · exact refl_of R w
    · dsimp only
      split
      · exact trans_of R (frame.modifyProgram w c _) (frame.programHandle _ c _)
      · split
        · split
          · exact frame.modifyProgram w c _
          · exact trans_of R (frame.modifyProgram w c _) (frame.processEnds _ c _)
        · exact frame.modifyProgram w c _
  · exact refl_of R w

theorem programAct (w : World) (c : Nat) (action : Machine.Timed) : R w (w.programAct c action) := by
  unfold World.programAct
  split
  · exact refl_of R w
  · split
    · exact frame.programRead w c
    · exact frame.processEnds w c _
    · exact frame.interrupt w

end ProgramFrame

end World

end Engine

end LspBridge
