import LspBridge.Proofs.SessionInvariant
/-!
# Lifecycle operations keep the invariant

A lifecycle operation runs in turns: each turn takes it from one stage to the next, or to its end.
For each step of an operation this file shows, of a world where the operation holds the lock, that
the turn comes to `World.Advances`: the invariant again, with events only added, and a settled
state once the operation is over.

What an operation needs of the state at each of its steps is written into the lemma for that
step, from the stage it waits at (`Supervision.AtStage`) or from the step before it:

* a handshake needs the current generation Starting (or already Crashed) with its session held;
* a start needs a settled state, and a fresh launch a Stopped one;
* the end of a stop needs the session taken and the state Stopping or Crashed.
-/

namespace LspBridge

namespace Server

theorem SessionState.eq_starting_of_canStep_running {s : SessionState}
    (allowed : s.canStep .running = true) : s = .starting := by
  cases s <;> simp_all [canStep]

end Server

namespace Engine

open Json Rpc Client Server

namespace Supervision

section Fits

variable {s : Supervision}

theorem SessionFits.session_of_stopped (fits : s.SessionFits) (stopped : s.state = .stopped) :
    s.session = none := by
  unfold SessionFits at fits
  rw [stopped] at fits
  cases held : s.session
  · rfl
  · simp [held] at fits

theorem SessionFits.running_current (fits : s.SessionFits) (running : s.state = .running) :
    ∃ r, s.session = some r ∧ r.generation = s.generation := by
  unfold SessionFits at fits
  rw [running] at fits
  cases held : s.session with
  | none => simp [held] at fits
  | some r => exact ⟨r, rfl, by simpa [held] using fits⟩

theorem SessionFits.crashed_current (fits : s.SessionFits) (crashed : s.state = .crashed) :
    ∀ r, s.session = some r → r.generation = s.generation := by
  intro r held
  unfold SessionFits at fits
  rw [crashed, held] at fits
  exact fits

/-- A session held is of the current generation, whatever the state. -/
theorem SessionFits.held_current (fits : s.SessionFits) {r : SessionRecord}
    (held : s.session = some r) : r.generation = s.generation := by
  unfold SessionFits at fits
  rw [held] at fits
  cases state : s.state <;> rw [state] at fits
  case starting | running | crashed => exact fits
  case stopped | stopping => exact False.elim fits

/-- With no session held, every state but the two that hold one fits. -/
theorem SessionFits.of_empty (empty : s.session = none)
    (idle : s.state ≠ .starting ∧ s.state ≠ .running) : s.SessionFits := by
  unfold SessionFits
  rw [empty]
  cases state : s.state <;> simp_all

/-- A settled state with no session held is Stopped or may step there. -/
theorem SessionFits.stoppable (fits : s.SessionFits) (settled : s.Settled)
    (empty : s.session = none) : s.state.canStep .stopped = true ∨ s.state = .stopped := by
  unfold SessionFits at fits
  rw [empty] at fits
  obtain ⟨notStarting, notStopping⟩ := settled
  cases state : s.state <;> simp_all [SessionState.canStep]

end Fits

theorem Handshaking.note {s : Supervision} {gen : Nat} (shaking : s.Handshaking gen)
    (f : SessionRecord → SessionRecord) :
    { s with session := s.session.map f }.Handshaking gen :=
  ⟨shaking.1, shaking.2.1, by simpa using shaking.2.2⟩

end Supervision

namespace World

/-- A change the lifecycle allows, asked of the current generation or of none, moves the state
and records where it came from. -/
theorem transition_eq_moved {w : World} {gen : Option Nat} {next : SessionState}
    (current : ∀ g, gen = some g → g = w.supervision.generation)
    (allowed : w.supervision.state.canStep next = true) :
    w.transition gen next = (true, (w.modifySup fun s => { s with state := next }).emit
      (.stateChanged (gen.getD w.supervision.generation) w.supervision.state next)) := by
  rcases moved : w.transition gen next with ⟨_ | _, w'⟩
  · have result := transition_of_canStep current allowed
    rw [moved] at result
    cases result
  · obtain ⟨-, -, rfl⟩ := transition_eq_true moved
    rfl

/-! ### Crashes -/

/-- A crash moves the current generation's session to Crashed where the lifecycle allows it, and
otherwise changes nothing; after the change it notes the crash and perhaps arms a restart. -/
theorem crashed_cases {w : World} (supervised : w.sup.isSome) (gen : Nat) (reason : CrashReason) :
    (w.crashed gen reason = w ∧
      (gen ≠ w.supervision.generation ∨ w.supervision.state.canStep .crashed = false)) ∨
    (gen = w.supervision.generation ∧ w.supervision.state.canStep .crashed = true ∧
      Bookkeeping ((w.modifySup fun s => { s with state := .crashed }).emit
        (.stateChanged gen w.supervision.state .crashed)) (w.crashed gen reason)) := by
  unfold crashed
  split
  · rename_i w' stayed
    obtain ⟨rfl, stale | blocked⟩ := transition_eq_false stayed
    · obtain ⟨g, same, other⟩ := stale
      cases same
      exact .inl ⟨rfl, .inl other⟩
    · exact .inl ⟨rfl, .inr blocked⟩
  · rename_i w' moved
    obtain ⟨current, allowed, rfl⟩ := transition_eq_true moved
    refine .inr ⟨current gen rfl, allowed, ?_⟩
    dsimp only
    have noted := Bookkeeping.note ((w.modifySup fun s => { s with state := .crashed }).emit
      (.stateChanged gen w.supervision.state .crashed)) (.crashed gen reason) rfl fun _ => rfl
    split
    · exact noted
    · exact noted.trans (((Bookkeeping.update (by simpa using supervised) _ rfl).trans
        (Bookkeeping.note _ _ rfl fun _ => rfl)).trans (Bookkeeping.spawn _ rfl))

section Crash

variable {w : World} {tid gen : Nat} (reason : CrashReason)

theorem crashed_grows (supervised : w.sup.isSome) : w.events <+: (w.crashed gen reason).events := by
  rcases crashed_cases supervised gen reason with ⟨same, -⟩ | ⟨-, -, rest⟩
  · simp [same]
  · exact (List.prefix_append _ _).trans rest.grows

/-- A crash of the current generation while it is live leaves it Crashed, whether this crash
moved it there or it was there already. -/
theorem crashed_core (supervised : w.sup.isSome) (current : gen = w.supervision.generation)
    (live : w.supervision.state.canStep .crashed = true ∨ w.supervision.state = .crashed) :
    (w.crashed gen reason).supervision.core = { w.supervision with state := .crashed }.core := by
  rcases crashed_cases supervised gen reason with ⟨same, stale | blocked⟩ | ⟨-, -, rest⟩
  · exact absurd current stale
  · rw [same]
    rcases live with allowed | crashed
    · rw [allowed] at blocked
      cases blocked
    · simp [Supervision.core, crashed]
  · rw [rest.core]
    simp [supervision_modifySup supervised]

theorem Holding.crashed (holding : w.Holding tid) : (w.crashed gen reason).Holding tid := by
  rcases crashed_cases holding.supervised gen reason with ⟨same, -⟩ | ⟨-, allowed, rest⟩
  · rw [same]
    exact holding
  · exact (holding.moveState allowed (by decide) gen).bookkeeping rest

/-- A crash keeps the invariant: Crashed may hold any session of the current generation, and the
operation holding the lock, whatever its stage, finds what it expects there. -/
theorem Lawful.crashed (lawful : w.Lawful) : (w.crashed gen reason).Lawful := by
  rcases crashed_cases lawful.supervised gen reason with ⟨same, -⟩ | ⟨-, allowed, rest⟩
  · rw [same]
    exact lawful
  · have record := supervision_modifySup lawful.supervised fun s => { s with state := .crashed }
    have moved : ((w.modifySup fun s => { s with state := .crashed }).emit
        (.stateChanged gen w.supervision.state .crashed)).Lawful := {
      toTracked := lawful.toTracked.moveState allowed (by decide) gen
      fits := by
        rw [supervision_emit, record]
        exact lawful.fits.crash
      lock := by
        have lock := lawful.lock
        unfold LockFits at lock ⊢
        simp only [supervision_emit, record]
        split
        · rename_i free
          rw [free] at lock
          exact Supervision.AtStage.crash (show w.supervision.AtStage .locking from lock) allowed
        · rename_i h held
          rw [held] at lock
          obtain ⟨handle, op, stage, mem, at_⟩ := lock
          exact ⟨handle, op, stage, mem, at_.crash allowed⟩ }
    exact moved.bookkeeping rest

end Crash

/-! ### Beginning a session and launching it -/

theorem beginSession_of_stopped {w : World} (stopped : w.supervision.state = .stopped) :
    w.beginSession = (some (w.supervision.generation + 1),
      (w.modifySup fun s =>
        { s with generation := w.supervision.generation + 1, state := .starting }).emit
        (.stateChanged (w.supervision.generation + 1) .stopped .starting)) := by
  unfold beginSession
  simp [stopped, SessionState.canStep]

/-- Beginning a session from Stopped counts one more launch attempt, numbered by the new
generation, and moves to Starting. -/
theorem Holding.begin {w : World} {tid : Nat} (holding : w.Holding tid)
    (stopped : w.supervision.state = .stopped) :
    ∃ w', w.beginSession = (some (w.supervision.generation + 1), w') ∧ w'.Holding tid ∧
      w'.supervision.core =
        { w.supervision with generation := w.supervision.generation + 1, state := .starting }.core ∧
      w.events <+: w'.events := by
  have record := supervision_modifySup holding.supervised fun s =>
    { s with generation := w.supervision.generation + 1, state := .starting }
  have history := holding.history
  rw [stopped] at history
  refine ⟨_, beginSession_of_stopped stopped, ⟨?_, ?_, holding.own⟩, ?_, ?_⟩
  · refine holding.toTracked.of_record (.of_tasks rfl rfl) (by simpa using holding.supervised)
      ?_ ?_ (by simp [record]) (by simp [record])
    · simp only [events_emit, events_modifySup, supervision_emit, record]
      exact replay_moved history rfl
    · simp only [events_emit, events_modifySup, supervision_emit, record,
        SessionEvent.launches_append, holding.launches]
      rw [List.range'_concat]
      simp [SessionEvent.launches, launch?_stateChanged, Nat.add_comm]
  · simp only [supervision_emit, record]
    exact holding.holder
  · simp [record]
  · simp

theorem launch_bookkeeping {w : World} (supervised : w.sup.isSome) : Bookkeeping w w.launch.2 := by
  unfold launch
  dsimp only
  split
  · exact Bookkeeping.update supervised _ rfl
  · split
    · exact .of_keeps (KeepsSupervisor.of_tasks rfl rfl rfl rfl)
    · split
      · exact .refl w
      · split
        · refine .of_keeps (KeepsSupervisor.trans ?_ (KeepsSupervisor.processEnds _ _ _))
          exact .of_tasks rfl rfl rfl rfl
        · exact .of_keeps (KeepsSupervisor.of_tasks rfl rfl rfl rfl)

/-! ### The handshake -/

section Handshake

variable {w : World} {tid gen : Nat} {handle : Option Nat}

/-- A failed handshake is a crash of its generation; the process is told to die, and the
operation ends with the session Crashed. -/
theorem Holding.failHandshake (holding : w.Holding tid) (fits : w.supervision.SessionFits)
    (shaking : w.supervision.Handshaking gen) (c : Nat) (failure : String) :
    Advances w (w.failHandshake tid handle gen c failure) tid := by
  have live : w.supervision.state.canStep .crashed = true ∨ w.supervision.state = .crashed := by
    rcases shaking.2.1 with starting | crashed
    · exact .inl (by rw [starting]; rfl)
    · exact .inr crashed
  have core := crashed_core (.handshake failure) holding.supervised shaking.1 live
  have settled : (w.crashed gen (.handshake failure)).supervision.Settled :=
    Supervision.Settled.of_core core (by simp [Supervision.Settled])
  have fits' := fits.crash.of_core core
  have grows : w.events <+: (w.crashed gen (.handshake failure)).events :=
    crashed_grows _ holding.supervised
  have crashedHolding : (w.crashed gen (.handshake failure)).Holding tid := holding.crashed _
  unfold World.failHandshake
  dsimp only
  generalize w.crashed gen (.handshake failure) = w₁ at settled fits' grows crashedHolding ⊢
  have ended := Advances.after grows (crashedHolding.finishOp settled fits' handle
    (.error (.handshake failure)))
  -- the process is killed only if the session is still this generation's
  split
  · split
    · have killed :=
        (KeepsSupervisor.modifyConn w₁ c fun k => { k with expectedExit := true }).trans
          (KeepsSupervisor.requestKill _ c)
      rw [← killed.supervision] at settled fits'
      exact .after grows
        (.of_keeps killed ((crashedHolding.keeps killed).finishOp settled fits' handle _))
    · exact ended
  · exact ended

theorem Holding.handshakeDone (holding : w.Holding tid) (fits : w.supervision.SessionFits)
    (shaking : w.supervision.Handshaking gen) (c : Nat) (r : Except Rpc.Error Value) :
    Advances w (w.handshakeDone tid handle gen c r) tid := by
  unfold World.handshakeDone
  -- an error answer, capabilities that do not read, and `initialized` refused each fail it
  split
  · exact holding.failHandshake fits shaking c _
  split
  · exact holding.failHandshake fits shaking c _
  split
  · exact holding.failHandshake fits shaking c _
  rename_i caps _ _ w₁ sent
  have keeps := KeepsSupervisor.notify sent
  have holding₁ := holding.keeps keeps
  dsimp only
  -- the capabilities go to the session of this generation
  set note : Supervision → Supervision := fun s => { s with session := s.session.map fun r =>
    if r.generation == gen then { r with capabilities := some caps } else r } with noteDef
  have record := supervision_modifySup holding₁.supervised note
  have holding₂ : (w₁.modifySup note).Holding tid := holding₁.update note rfl rfl rfl rfl
  have fits₂ : (w₁.modifySup note).supervision.SessionFits := by
    rw [record, keeps.supervision]
    exact fits.note _ fun r => by split <;> rfl
  have shaking₂ : (w₁.modifySup note).supervision.Handshaking gen := by
    rw [record, keeps.supervision]
    exact shaking.note _
  have grows : w.events <+: (w₁.modifySup note).events := by simp [keeps.events]
  split
  · rename_i w₃ moved
    obtain ⟨-, allowed, rfl⟩ := transition_eq_true moved
    have starting := SessionState.eq_starting_of_canStep_running allowed
    have running := supervision_modifySup holding₂.supervised fun s => { s with state := .running }
    refine .after (grows.trans (List.prefix_append _ _))
      ((holding₂.moveState allowed (by decide) _).finishOp ?_ ?_ handle _)
    · simp [running, Supervision.Settled]
    · rw [supervision_emit, running]
      exact fits₂.run starting
  · rename_i w₃ stayed
    obtain ⟨rfl, -⟩ := transition_eq_false stayed
    exact .after grows (holding₂.failHandshake fits₂ shaking₂ c _)

theorem Holding.handshakeTimeout (holding : w.Holding tid) (fits : w.supervision.SessionFits)
    (shaking : w.supervision.Handshaking gen) (c : Nat) (call : Call) :
    Advances w (w.handshakeTimeout tid handle gen c call) tid := by
  have abandoned := KeepsSupervisor.abandon w call
  rw [← abandoned.supervision] at fits shaking
  unfold World.handshakeTimeout
  exact .of_keeps abandoned ((holding.keeps abandoned).failHandshake fits shaking c _)

/-- While the `initialize` call is out, the operation finishes the handshake, gives up on it, or
waits at the handshake stage. -/
theorem Holding.awaitInitialize (holding : w.Holding tid) (fits : w.supervision.SessionFits)
    (shaking : w.supervision.Handshaking gen) (op : LifecycleOp) (c : Nat) (call : Call)
    (t : Timer) : Advances w (w.awaitInitialize tid handle op gen c call t) tid := by
  unfold World.awaitInitialize
  -- the call has ended, the startup deadline has passed, or the handshake waits
  split
  · exact holding.handshakeDone fits shaking c _
  · split
    · exact holding.handshakeTimeout fits shaking c call
    · exact holding.setStage fits
        (show w.supervision.AtStage (.handshake gen c call t) from shaking) handle op

end Handshake

/-! ### Starting -/

section Start

variable {w : World} {tid : Nat} {handle : Option Nat} {op : LifecycleOp}

/-- A fresh start from Stopped begins a new generation and launches it: a launch that fails is a
crash that ends the operation, one that succeeds makes the `initialize` call. -/
theorem Holding.startFresh (holding : w.Holding tid) (fits : w.supervision.SessionFits)
    (stopped : w.supervision.state = .stopped) : Advances w (w.startFresh tid handle op) tid := by
  have empty := fits.session_of_stopped stopped
  obtain ⟨w₁, begun, holding₁, core₁, grows₁⟩ := holding.begin stopped
  unfold World.startFresh
  rw [begun]
  dsimp only
  have launched := launch_bookkeeping holding₁.supervised
  split
  · rename_i reason w₂ failed
    rw [failed] at launched
    have holding₂ := holding₁.bookkeeping launched
    obtain ⟨starting₂, generation₂, session₂, -, -⟩ :=
      Supervision.core_eq_iff.mp (launched.core.trans core₁)
    dsimp only at starting₂ generation₂ session₂
    -- a failed launch is a crash of the new generation
    have crash :=
      crashed_core (.spawn (Server.Error.spawn w₁.supervision.config.command reason).text)
        holding₂.supervised generation₂.symm (.inl (by rw [starting₂]; rfl))
    refine .after ((grows₁.trans launched.grows).trans (crashed_grows _ holding₂.supervised))
      ((holding₂.crashed _).finishOp ?_ ?_ handle _)
    · exact Supervision.Settled.of_core crash (by simp [Supervision.Settled])
    · exact (Supervision.SessionFits.of_empty (by rw [session₂, empty]) (by simp)).of_core crash
  · rename_i c w₂ succeeded
    rw [succeeded] at launched
    have holding₂ := holding₁.bookkeeping launched
    -- the reader and the monitor start
    have spawned : Bookkeeping w₂ ((w₂.spawn (.reader c false none)).1.spawn
        (.monitor c (w.supervision.generation + 1) .watching)).1 :=
      (Bookkeeping.spawn _ rfl).trans (Bookkeeping.spawn _ rfl)
    generalize ((w₂.spawn (.reader c false none)).1.spawn
      (.monitor c (w.supervision.generation + 1) .watching)).1 = w₃ at spawned ⊢
    have holding₃ := holding₂.bookkeeping spawned
    obtain ⟨starting₃, generation₃, -, -, -⟩ :=
      Supervision.core_eq_iff.mp ((spawned.core.trans launched.core).trans core₁)
    dsimp only at starting₃ generation₃
    -- the session is recorded
    generalize sessionDef : ({ generation := w.supervision.generation + 1, conn := c } :
      SessionRecord) = r
    have record := supervision_modifySup holding₃.supervised fun s => { s with session := some r }
    have holding₄ := holding₃.update (fun s => { s with session := some r }) rfl rfl rfl rfl
    have fits₄ : (w₃.modifySup fun s => { s with session := some r }).supervision.SessionFits := by
      rw [record, ← sessionDef]
      simp [Supervision.SessionFits, starting₃, generation₃]
    have shaking₄ : (w₃.modifySup fun s => { s with session := some r }).supervision.Handshaking
        (w.supervision.generation + 1) := by
      simp [record, Supervision.Handshaking, starting₃, generation₃]
    have grows₄ : w.events <+: (w₃.modifySup fun s => { s with session := some r }).events :=
      (grows₁.trans launched.grows).trans spawned.grows
    generalize (w₃.modifySup fun s => { s with session := some r }) = w₄
      at holding₄ fits₄ shaking₄ grows₄ ⊢
    -- the `initialize` call goes out under the startup deadline
    have keeps : ∀ call, KeepsSupervisor w₄
        ((w₄.stepCall c call).1.timer w₁.supervision.config.startupTimeout).1 :=
      fun call => (KeepsSupervisor.stepCall w₄ c call).trans (KeepsSupervisor.timer _ _)
    refine .after grows₄
      (.of_keeps (keeps _) ((holding₄.keeps (keeps _)).awaitInitialize ?_ ?_ op c _ _))
    · rw [(keeps _).supervision]
      exact fits₄
    · rw [(keeps _).supervision]
      exact shaking₄

/-- Moving to Stopped with no session held: from Crashed or Stopping it is a step, and a
Stopped state stays. -/
theorem Holding.toStopped (holding : w.Holding tid) (empty : w.supervision.session = none)
    (ready : w.supervision.state.canStep .stopped = true ∨ w.supervision.state = .stopped) :
    (w.transition none .stopped).2.Holding tid ∧
      (w.transition none .stopped).2.supervision.state = .stopped ∧
      (w.transition none .stopped).2.supervision.session = none ∧
      w.events <+: (w.transition none .stopped).2.events := by
  rcases ready with allowed | stopped
  · have record := supervision_modifySup holding.supervised fun s => { s with state := .stopped }
    rw [transition_eq_moved (by simp) allowed]
    exact ⟨holding.moveState allowed (by decide) _, by simp [record], by simp [record, empty],
      List.prefix_append _ _⟩
  · have stays : w.transition none .stopped = (false, w) := by
      simp [transition, stopped, SessionState.canStep]
    rw [stays]
    exact ⟨holding, stopped, empty, List.prefix_refl _⟩

/-- After a stop, with no session held and the state Stopped, a start begins afresh. -/
theorem Holding.startStopped (holding : w.Holding tid) (empty : w.supervision.session = none)
    (ready : w.supervision.state.canStep .stopped = true ∨ w.supervision.state = .stopped) :
    Advances w ((w.transition none .stopped).2.startFresh tid handle op) tid := by
  obtain ⟨holding', stopped, empty', grows⟩ := holding.toStopped empty ready
  exact .after grows (holding'.startFresh (.of_empty empty' (by rw [stopped]; decide)) stopped)

/-- The crashed session's monitor is done: the connection closes and a fresh start follows. -/
theorem Holding.afterClear (holding : w.Holding tid)
    (clearing : w.supervision.state = .crashed ∧ w.supervision.session = none) (c : Nat) :
    Advances w (w.afterClear tid handle op c) tid := by
  have closed := KeepsSupervisor.closePeer w c
  unfold World.afterClear
  dsimp only
  refine .of_keeps closed ((holding.keeps closed).startStopped ?_ ?_)
  · rw [closed.supervision]
    exact clearing.2
  · rw [closed.supervision, clearing.1]
    exact .inl rfl

/-- A start with the lock held, from a settled state: a live session is left alone, a crashed one
is cleared first, and otherwise a new generation begins. -/
theorem Holding.startLocked (holding : w.Holding tid) (fits : w.supervision.SessionFits)
    (settled : w.supervision.Settled) : Advances w (w.startLocked tid handle op) tid := by
  unfold World.startLocked
  -- Running and Starting are left alone; Crashed is cleared first
  split
  · exact holding.finishOp settled fits handle _
  · exact holding.finishOp settled fits handle _
  · rename_i crashed
    split
    · rename_i r held
      -- the session is taken; its process is told to die and its monitor waited for
      have cleared : (w.takeSession r).supervision.state = .crashed ∧
          (w.takeSession r).supervision.session = none := by
        simp [supervision_takeSession holding.supervised, crashed]
      dsimp only
      have killed := KeepsSupervisor.requestKill (w.takeSession r) r.conn
      rw [← killed.supervision] at cleared
      have grows : w.events <+: (w.takeSession r).events := List.prefix_refl _
      refine .after grows (.of_keeps killed ?_)
      split
      · exact ((holding.takeSession r).keeps killed).afterClear cleared r.conn
      · exact ((holding.takeSession r).keeps killed).setStage
          (.of_empty cleared.2 (by rw [cleared.1]; decide))
          (show Supervision.AtStage _ (.clearing r.conn) from cleared) handle op
    · rename_i empty
      exact holding.startStopped empty (.inl (by rw [crashed]; rfl))
  · rename_i notRunning notStarting notCrashed
    -- Stopping is not settled, so the state is Stopped
    have stopped : w.supervision.state = .stopped := by
      cases state : w.supervision.state <;> simp_all [Supervision.Settled]
    exact holding.startFresh fits stopped

end Start

/-! ### Stopping -/

section Stop

variable {w : World} {tid : Nat} {handle : Option Nat} {op : LifecycleOp}

theorem Holding.afterStop (holding : w.Holding tid) (fits : w.supervision.SessionFits)
    (stopped : w.supervision.state = .stopped) : Advances w (w.afterStop tid handle op) tid := by
  have settled : w.supervision.Settled := by simp [Supervision.Settled, stopped]
  unfold World.afterStop
  split
  · exact holding.startLocked fits settled
  · exact holding.finishOp settled fits handle _

/-- The stopped session's monitor is done: the connection closes and the state moves to
Stopped. -/
theorem Holding.finishStop (holding : w.Holding tid)
    (ending : (w.supervision.state = .stopping ∨ w.supervision.state = .crashed) ∧
      w.supervision.session = none) (c : Nat) :
    Advances w (w.finishStop tid handle op c) tid := by
  have closed := KeepsSupervisor.closePeer w c
  have ready : (w.closePeer c).2.supervision.state.canStep .stopped = true := by
    rw [closed.supervision]
    rcases ending.1 with stopping | crashed
    · rw [stopping]
      rfl
    · rw [crashed]
      rfl
  obtain ⟨holding', stopped, empty, grows⟩ :=
    (holding.keeps closed).toStopped (by rw [closed.supervision]; exact ending.2) (.inl ready)
  unfold World.finishStop
  dsimp only
  exact .of_keeps closed (.after grows
    (holding'.afterStop (.of_empty empty (by rw [stopped]; decide)) stopped))

theorem Holding.killAndWait (holding : w.Holding tid) (fits : w.supervision.SessionFits)
    (ending : (w.supervision.state = .stopping ∨ w.supervision.state = .crashed) ∧
      w.supervision.session = none) (gen c : Nat) :
    Advances w (w.killAndWait tid handle op gen c) tid := by
  have killed := KeepsSupervisor.requestKill w c
  rw [← killed.supervision] at fits ending
  unfold World.killAndWait
  dsimp only
  refine .of_keeps killed ?_
  split
  · exact (holding.keeps killed).finishStop ending c
  · exact (holding.keeps killed).setStage fits
      (show Supervision.AtStage _ (.killed gen c) from ending) handle op

/-- After `exit`: the monitor may be done already; otherwise the grace period starts, and the
process is killed if it is already over. -/
theorem Holding.waitForMonitor (holding : w.Holding tid) (fits : w.supervision.SessionFits)
    (ending : w.supervision.state = .stopping ∧ w.supervision.session = none) (gen c : Nat) :
    Advances w (w.waitForMonitor tid handle op gen c) tid := by
  unfold World.waitForMonitor
  split
  · exact holding.finishStop ⟨.inl ending.1, ending.2⟩ c
  · have timed := KeepsSupervisor.timer w w.supervision.config.shutdownGrace
    split
    rename_i w₁ t result
    rw [result] at timed
    rw [← timed.supervision] at fits ending
    refine .of_keeps timed ?_
    split
    · exact (holding.keeps timed).killAndWait fits ⟨.inl ending.1, ending.2⟩ gen c
    · exact (holding.keeps timed).setStage fits
        (show Supervision.AtStage _ (.grace gen c t) from ending) handle op

/-- The `shutdown` call has ended: `exit` is sent, and the process has the grace period. -/
theorem Holding.afterShutdown (holding : w.Holding tid) (fits : w.supervision.SessionFits)
    (ending : w.supervision.state = .stopping ∧ w.supervision.session = none) (gen c : Nat) :
    Advances w (w.afterShutdown tid handle op gen c) tid := by
  cases sent : w.notify c "exit" .null with
  | ok w' =>
    rw [afterShutdown_of_sent sent]
    have exited := KeepsSupervisor.notify sent
    rw [← exited.supervision] at fits ending
    exact .of_keeps exited ((holding.keeps exited).waitForMonitor fits ending gen c)
  | error e =>
    rw [afterShutdown_of_refused sent]
    exact holding.waitForMonitor fits ending gen c

/-- A settled record whose session was taken refuses its move to Stopping only when crashed: a
running session is the current generation's, and Running may step to Stopping. -/
theorem crashed_of_stopping_refused {s : Supervision} (fits : s.SessionFits)
    (settled : s.Settled) {r : SessionRecord} (held : s.session = some r)
    (taken : w.supervision = { s with session := none }) {w' : World}
    (stayed : w.transition (some r.generation) .stopping = (false, w')) : s.state = .crashed := by
  obtain ⟨-, refused⟩ := transition_eq_false stayed
  rw [taken] at refused
  dsimp only at refused
  unfold Supervision.SessionFits at fits
  rw [held] at fits
  obtain ⟨notStarting, notStopping⟩ := settled
  -- Stopped holds no session and Starting and Stopping are not settled, which leaves Running
  cases state : s.state <;> simp only [state] at fits notStarting notStopping
  case starting => exact absurd rfl notStarting
  case running =>
    rcases refused with ⟨g, same, stale⟩ | blocked
    · cases same
      exact absurd fits stale
    · rw [state] at blocked
      cases blocked
  case crashed => rfl

/-- Moving a taken session to Stopping: the lock stays held, and the state is Stopping with no
session. -/
theorem Holding.toStopping (holding : w.Holding tid) (empty : w.supervision.session = none)
    {g : Nat} {w' : World} (moved : w.transition (some g) .stopping = (true, w')) :
    w'.Holding tid ∧ (w'.supervision.state = .stopping ∧ w'.supervision.session = none) ∧
      w.events <+: w'.events := by
  obtain ⟨-, allowed, rfl⟩ := transition_eq_true moved
  have record := supervision_modifySup holding.supervised fun s => { s with state := .stopping }
  exact ⟨holding.moveState allowed (by decide) _, ⟨by simp [record], by simp [record, empty]⟩,
    List.prefix_append _ _⟩

/-- A stop's move on the session it has taken from a settled record: a session that may move to
Stopping does and is asked to shut down; one that may not is a crashed one, and its process is
killed. -/
theorem Holding.stopSession (holding : w.Holding tid) {s : Supervision} (fits : s.SessionFits)
    (settled : s.Settled) {r : SessionRecord} (held : s.session = some r)
    (taken : w.supervision = { s with session := none }) :
    Advances w (w.stopSession tid handle op r) tid := by
  unfold World.stopSession
  split
  · rename_i w₂ moved
    -- a session still starting or running is asked to shut down
    obtain ⟨holding₂, ending, grows₂⟩ := holding.toStopping (by simp [taken]) moved
    have fits₂ : w₂.supervision.SessionFits := .of_empty ending.2 (by rw [ending.1]; decide)
    have called := KeepsSupervisor.stepCall w₂ r.conn
      (.fresh "shutdown" .null (.given (some w₂.supervision.config.shutdownGrace)))
    refine .after grows₂ (.of_keeps called ?_)
    rw [← called.supervision] at fits₂ ending
    dsimp only
    split
    · exact (holding₂.keeps called).afterShutdown fits₂ ending _ _
    · exact (holding₂.keeps called).setStage fits₂
        (show Supervision.AtStage _ (.shutdown r.generation r.conn _) from ending) handle op
  · rename_i w₂ stayed
    -- otherwise the session is a crashed one, and its process is killed
    have crashed := crashed_of_stopping_refused fits settled held taken stayed
    obtain ⟨rfl, -⟩ := transition_eq_false stayed
    have ending : w₂.supervision.state = .crashed ∧ w₂.supervision.session = none := by
      simp [taken, crashed]
    exact holding.killAndWait (.of_empty ending.2 (by rw [ending.1]; decide)) ⟨.inr ending.1, ending.2⟩
      _ _

/-- A stop with the lock held, from a settled state: with no session the state moves to Stopped;
otherwise the session is taken and, if it was running, asked to shut down, and if not, killed. -/
theorem Holding.stopLocked (holding : w.Holding tid) (fits : w.supervision.SessionFits)
    (settled : w.supervision.Settled) : Advances w (w.stopLocked tid handle op) tid := by
  cases held : w.supervision.session with
  | none =>
    rw [stopLocked_of_none held]
    obtain ⟨holding', stopped, empty', grows⟩ :=
      holding.toStopped held (fits.stoppable settled held)
    exact .after grows (holding'.afterStop (.of_empty empty' (by rw [stopped]; decide)) stopped)
  | some r =>
    rw [stopLocked_of_some held]
    -- the session is taken and its end marked as expected, with no event
    have grows₁ : w.events <+: (w.takeSession r).events := List.prefix_refl _
    exact .after grows₁ ((holding.takeSession r).stopSession fits settled held
      (supervision_takeSession holding.supervised r))

end Stop

/-! ### A turn of an operation -/

section Turn

variable {w : World} {tid : Nat} {handle : Option Nat} {op : LifecycleOp} {stage : Stage}

/-- What an operation does once it holds the lock, from the settled state it finds there. -/
theorem Holding.afterLock (holding : w.Holding tid) (fits : w.supervision.SessionFits)
    (settled : w.supervision.Settled) : Advances w (w.afterLock tid handle op) tid := by
  -- a host's start or restart first resets the count of automatic restarts
  have reset := Bookkeeping.update holding.supervised (fun s => { s with restarts := 0 }) rfl
  have holding' := holding.bookkeeping reset
  have fits' := fits.of_core reset.core
  have settled' := settled.of_core reset.core
  unfold World.afterLock
  -- a start, a stop, a restart, and an automatic restart that finds its generation crashed
  split
  · exact .after reset.grows (holding'.startLocked fits' settled')
  · exact holding.stopLocked fits settled
  · exact .after reset.grows (holding'.stopLocked fits' settled')
  · dsimp only
    split
    · exact holding.finishOp settled fits handle _
    · exact holding.startLocked fits settled

/-- The holder of the lock finds the state its stage expects. -/
theorem Lawful.atStage (lawful : w.Lawful) (mem : (tid, Task.lifecycle handle op stage) ∈ w.tasks)
    (held : w.supervision.lockHolder = some tid) : w.supervision.AtStage stage := by
  have lock := lawful.lock
  unfold LockFits at lock
  rw [held] at lock
  obtain ⟨handle', op', stage', mem', at_⟩ := lock
  -- the task table holds one entry per task
  have same := lawful.numbered.eq_of_mem mem mem'
  cases same
  exact at_

/-- With the lock free the state is settled. -/
theorem Lawful.settled_of_free (lawful : w.Lawful) (free : w.supervision.lockHolder = none) :
    w.supervision.Settled := by
  have lock := lawful.lock
  unfold LockFits at lock
  rw [free] at lock
  exact lock

/-- Only an operation ever holds the lock. -/
theorem Lawful.holder_operation (lawful : w.Lawful) {h : Nat}
    (held : w.supervision.lockHolder = some h) :
    ∃ handle op stage, (h, Task.lifecycle handle op stage) ∈ w.tasks := by
  have lock := lawful.lock
  unfold LockFits at lock
  rw [held] at lock
  obtain ⟨handle, op, stage, mem, -⟩ := lock
  exact ⟨handle, op, stage, mem⟩

theorem Lawful.holding (lawful : w.Lawful) (mem : (tid, Task.lifecycle handle op stage) ∈ w.tasks)
    (held : w.supervision.lockHolder = some tid) : w.Holding tid :=
  ⟨lawful.toTracked, held, handle, op, stage, mem⟩

/-- An operation that finds the lock free takes it; none has gone past the lock, so nothing else
changes. -/
theorem Lawful.acquire (lawful : w.Lawful)
    (mem : (tid, Task.lifecycle handle op .locking) ∈ w.tasks)
    (free : w.supervision.lockHolder = none) :
    (w.modifySup fun s => { s with lockHolder := some tid }).Holding tid := by
  have record := supervision_modifySup lawful.supervised fun s => { s with lockHolder := some tid }
  have empty := lawful.idle free
  exact {
    numbered := lawful.numbered.congr rfl rfl
    supervised := by simpa using lawful.supervised
    history := by simpa [record] using lawful.history
    launches := by simpa [record] using lawful.launches
    waiting := by simp [record, empty]
    queued := by simp [record, empty]
    idle := by simp [record]
    apart := by simp [record, empty]
    alone := fun j handle' op' stage' mem' moving => by
      have held := lawful.alone j handle' op' stage' mem' moving
      rw [free] at held
      cases held
    holder := by simp [record]
    own := ⟨handle, op, .locking, mem⟩ }

/-- An operation that finds the lock taken joins the end of the queue. -/
theorem Lawful.enqueue (lawful : w.Lawful)
    (mem : (tid, Task.lifecycle handle op .locking) ∈ w.tasks) {h : Nat}
    (held : w.supervision.lockHolder = some h) (other : h ≠ tid)
    (fresh : tid ∉ w.supervision.lockWaiters) :
    (w.modifySup fun s => { s with lockWaiters := s.lockWaiters ++ [tid] }).Lawful := by
  have record := supervision_modifySup lawful.supervised
    fun s => { s with lockWaiters := s.lockWaiters ++ [tid] }
  have lock := lawful.lock
  unfold LockFits at lock
  rw [held] at lock
  exact {
    numbered := lawful.numbered.congr rfl rfl
    supervised := by simpa using lawful.supervised
    history := by simpa [record] using lawful.history
    launches := by simpa [record] using lawful.launches
    waiting := by
      simp only [record, List.mem_append, List.mem_singleton]
      rintro j (waiter | rfl)
      · exact lawful.waiting j waiter
      · exact ⟨handle, op, mem⟩
    queued := by
      simp only [record]
      exact List.Nodup.append lawful.queued (List.nodup_singleton _)
        (List.disjoint_singleton.mpr fresh)
    idle := by simp [record, held]
    apart := by
      simp only [record, held, Option.some.injEq, List.mem_append, List.mem_singleton, not_or]
      rintro h rfl
      exact ⟨lawful.apart h held, other⟩
    alone := by
      simp only [record]
      exact lawful.alone
    fits := by
      rw [record]
      exact lawful.fits
    lock := by
      simp only [LockFits, record, held]
      exact lock }

/-- A turn of a lifecycle operation keeps the invariant; an operation that ends leaves a settled
state. -/
theorem Lawful.pollLifecycle (lawful : w.Lawful)
    (mem : (tid, Task.lifecycle handle op stage) ∈ w.tasks) :
    Advances w (w.pollLifecycle tid handle op stage) tid := by
  have present := task?_ne_none mem
  have stay := Advances.stay lawful (.refl w) present
  -- past the lock, the operation holds it
  have moving : stage ≠ .locking → w.Holding tid ∧ w.supervision.AtStage stage := fun moving =>
    have held := lawful.alone tid handle op stage mem moving
    ⟨lawful.holding mem held, lawful.atStage mem held⟩
  cases stage with
  | locking =>
    unfold World.pollLifecycle
    dsimp only
    -- the lock is its own already, it is free, the operation waits for it already, or it joins
    -- the queue
    split
    · rename_i holds
      have held : w.supervision.lockHolder = some tid := by simpa using holds
      exact (lawful.holding mem held).afterLock lawful.fits (lawful.atStage mem held)
    split
    · rename_i free
      have free : w.supervision.lockHolder = none := by simpa using free
      have record :=
        supervision_modifySup lawful.supervised fun s => { s with lockHolder := some tid }
      refine .after (by simp) ((lawful.acquire mem free).afterLock ?_ ?_)
      · rw [record]
        exact lawful.fits
      · have settled := lawful.lock
        simp only [LockFits, free] at settled
        rw [record]
        exact settled
    split
    · exact stay
    rename_i holds free queued
    obtain ⟨h, held⟩ := Option.ne_none_iff_exists'.mp (by simpa using free)
    have other : h ≠ tid := fun same => holds (by simp [held, same])
    exact ⟨lawful.enqueue mem held other (by simpa using queued), by simp,
      fun gone => absurd gone present⟩
  | clearing c =>
    obtain ⟨holding, clearing⟩ := moving (by simp)
    unfold World.pollLifecycle
    dsimp only
    -- the crashed session's monitor is done, or the operation waits for it
    split
    · exact holding.afterClear clearing c
    · exact stay
  | handshake gen c call t =>
    obtain ⟨holding, shaking⟩ := moving (by simp)
    have called := KeepsSupervisor.stepCall w c call
    have fits := lawful.fits
    rw [← called.supervision] at fits shaking
    unfold World.pollLifecycle
    dsimp only
    exact .of_keeps called ((holding.keeps called).awaitInitialize fits shaking op c _ t)
  | shutdown gen c call =>
    obtain ⟨holding, ending⟩ := moving (by simp)
    have called := KeepsSupervisor.stepCall w c call
    have fits := lawful.fits
    rw [← called.supervision] at fits ending
    unfold World.pollLifecycle
    dsimp only
    refine .of_keeps called ?_
    -- the `shutdown` call has ended and `exit` follows, or the operation waits on it
    split
    · exact (holding.keeps called).afterShutdown fits ending gen c
    · exact (holding.keeps called).setStage fits
        (show Supervision.AtStage _ (.shutdown gen c (w.stepCall c call).2) from ending) handle op
  | grace gen c t =>
    obtain ⟨holding, ending⟩ := moving (by simp)
    unfold World.pollLifecycle
    dsimp only
    -- the monitor is done, the grace period is over and the process is killed, or it waits
    split
    · exact holding.finishStop ⟨.inl ending.1, ending.2⟩ c
    split
    · exact holding.killAndWait lawful.fits ⟨.inl ending.1, ending.2⟩ gen c
    · exact stay
  | killed gen c =>
    obtain ⟨holding, ending⟩ := moving (by simp)
    unfold World.pollLifecycle
    dsimp only
    -- the killed process's monitor is done, or the operation waits for it
    split
    · exact holding.finishStop ending c
    · exact stay

end Turn

end World

end Engine

end LspBridge
