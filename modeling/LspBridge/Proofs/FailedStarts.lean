import LspBridge.Proofs.SupervisorSteps
import Mathlib
/-!
# A generation that fails to start never runs

Every change of the supervisor's state is recorded with the generation it is of: `beginSession`
records a new generation's move to Starting, and `transition` each later change of the current
one. From Starting a generation moves on once, to Running, Crashed or Stopping, and it never
starts again, since a start begins a new generation. So a generation whose crash from Starting is
on record, because its handshake failed or timed out or its server went away first, has no change
to Running on record, then or ever after.

`World.StartsRecorded` says what the record holds of the generations. Each of the supervisor's
changes keeps it (`StartsRecorded.supStep`), so every run of the host does (`StartsRecorded.run`);
and a handshake that fails while its generation is Starting records the crash from Starting
(`changes_failHandshake`, `changes_handshakeTimeout`).
-/

namespace LspBridge

namespace Server

/-- Events that replay every state to itself record no change of state. -/
theorem SessionState.unchanged_of_replay {notes : List SessionEvent}
    (still : ∀ s : SessionState, s.replay notes = some s) (g : Nat) (before next : SessionState) :
    .stateChanged g before next ∉ notes := by
  induction notes with
  | nil => simp
  | cons e rest ih =>
    cases e with
    | stateChanged g' before' next' =>
      -- replayed from a state other than `before'`, the change breaks the rule
      obtain ⟨s, other⟩ : ∃ s : SessionState, before' ≠ s :=
        ⟨if before' = .stopped then .running else .stopped, by split <;> simp_all⟩
      have stuck := still s
      simp [SessionState.replay, other] at stuck
    | crashed g' reason =>
      have quiet := ih fun s => still s
      simpa using quiet
    | restartScheduled g' attempt delay =>
      have quiet := ih fun s => still s
      simpa using quiet

end Server

namespace Engine

open Server

namespace World

variable {w w' : World}

/-- A change of the supervisor that notes `e` adds `e` to the events and nothing else. -/
theorem mem_events_noted (f : Supervision → Supervision) (e e' : SessionEvent) :
    e' ∈ ((w.modifySup f).emit e).events ↔ e' ∈ w.events ∨ e' = e := by
  rw [events_emit, events_modifySup, List.mem_append, List.mem_singleton]

/-- What the record of changes of state says of the generations: every change on record is of a
generation begun; while the current generation is Starting no change of it to Running is on
record, and while it is Starting or Running no crash of it from Starting; while it runs, its change
to Running is on record; and no generation that crashed while Starting has a change to Running on
record. -/
structure StartsRecorded (w : World) : Prop where
  begun : ∀ g before next, .stateChanged g before next ∈ w.events → g ≤ w.supervision.generation
  starting : w.supervision.state = .starting →
    ∀ before, .stateChanged w.supervision.generation before .running ∉ w.events
  live : w.supervision.state = .starting ∨ w.supervision.state = .running →
    .stateChanged w.supervision.generation .starting .crashed ∉ w.events
  running : w.supervision.state = .running →
    .stateChanged w.supervision.generation .starting .running ∈ w.events
  failed : ∀ g, .stateChanged g .starting .crashed ∈ w.events →
    ∀ before, .stateChanged g before .running ∉ w.events

namespace StartsRecorded

/-- A change that keeps the state and the generation and records no change of state keeps the
record. -/
theorem of_notes (recorded : w.StartsRecorded)
    (state : w'.supervision.state = w.supervision.state)
    (generation : w'.supervision.generation = w.supervision.generation)
    (notes : ∃ notes, w'.events = w.events ++ notes ∧
      ∀ g before next, .stateChanged g before next ∉ notes) : w'.StartsRecorded := by
  obtain ⟨notes, events, quiet⟩ := notes
  -- the changes of state on record are the same before and after
  have same : ∀ g before next, .stateChanged g before next ∈ w'.events ↔
      .stateChanged g before next ∈ w.events := by
    intro g before next
    rw [events, List.mem_append]
    exact or_iff_left (quiet g before next)
  refine ⟨fun g before next mem => ?_, fun starting before => ?_, fun live => ?_,
    fun running => ?_, fun g crashed before => ?_⟩
  · rw [generation]
    exact recorded.begun g before next ((same ..).mp mem)
  · rw [generation, same]
    exact recorded.starting (state ▸ starting) before
  · rw [generation, same]
    exact recorded.live (state ▸ live)
  · rw [generation, same]
    exact recorded.running (state ▸ running)
  · rw [same]
    exact recorded.failed g ((same ..).mp crashed) before

/-- A change the record does not see: it keeps the state and the generation, and the events it
notes record no change of state. -/
theorem of_bookkeeping (recorded : w.StartsRecorded) (step : Bookkeeping w w') :
    w'.StartsRecorded := by
  obtain ⟨state, generation, -⟩ := Supervision.core_eq_iff.mp step.core
  obtain ⟨notes, events, -, still⟩ := step.notes
  exact recorded.of_notes state generation
    ⟨notes, events, SessionState.unchanged_of_replay still⟩

/-- A change of the current generation's state the lifecycle allows, to anything but Starting,
keeps the record: a change to Running comes from Starting, where no crash from Starting is on
record, and a crash from Starting finds no change to Running on record. -/
theorem moved (recorded : w.StartsRecorded) (supervised : w.sup.isSome) {next : SessionState}
    (allowed : w.supervision.state.canStep next = true) (notStart : next ≠ .starting) :
    ((w.modifySup fun s => { s with state := next }).emit
      (.stateChanged w.supervision.generation w.supervision.state next)).StartsRecorded := by
  have record := supervision_modifySup supervised fun s => { s with state := next }
  have fromStarting : next = .running → w.supervision.state = .starting := fun running =>
    SessionState.eq_starting_of_canStep_running (running ▸ allowed)
  constructor
  · intro g before next' mem
    simp only [mem_events_noted, SessionEvent.stateChanged.injEq] at mem
    simp only [supervision_emit, record]
    rcases mem with old | ⟨rfl, -, -⟩
    · exact recorded.begun g before next' old
    · exact Nat.le_refl _
  · intro starting
    simp only [supervision_emit, record] at starting
    exact absurd starting notStart
  · intro live
    simp only [supervision_emit, record] at live ⊢
    rcases live with starting | rfl
    · exact absurd starting notStart
    · simp only [mem_events_noted, SessionEvent.stateChanged.injEq, reduceCtorEq, and_false,
        or_false]
      exact recorded.live (.inl (fromStarting rfl))
  · intro running
    simp only [supervision_emit, record] at running ⊢
    subst running
    simp [fromStarting rfl]
  · intro g crashed before
    simp only [mem_events_noted, SessionEvent.stateChanged.injEq] at crashed ⊢
    rcases crashed with old | ⟨rfl, starting, rfl⟩
    · -- a crash on record from before: a change to Running now would be of a generation that
      -- was Starting, so its crash from Starting could not be on record
      rintro (earlier | ⟨rfl, -, rfl⟩)
      · exact recorded.failed g old before earlier
      · exact recorded.live (.inl (fromStarting rfl)) old
    · rintro (earlier | ⟨-, -, running⟩)
      · exact recorded.starting starting.symm before earlier
      · cases running

/-- The step lemma: each change of the supervisor keeps the record. -/
theorem supStep (supervised : w.sup.isSome) (recorded : w.StartsRecorded) (step : SupStep w w') :
    w'.StartsRecorded := by
  cases step with
  | quiet lasts course events _ =>
    simp only [Supervision.course, Prod.mk.injEq] at course
    exact recorded.of_notes course.1 course.2.1 ⟨[], by rw [events, List.append_nil], by simp⟩
  | transition gen next notStart =>
    rcases moved : w.transition gen next with ⟨_ | _, w₁⟩
    · rw [(transition_eq_false moved).1]
      exact recorded
    · obtain ⟨current, allowed, rfl⟩ := transition_eq_true moved
      -- the change is recorded for the current generation, whichever `gen` names it
      have named : gen.getD w.supervision.generation = w.supervision.generation := by
        cases gen with
        | none => rfl
        | some g => exact current g rfl
      rw [named]
      exact recorded.moved supervised allowed notStart
  | begin =>
    unfold beginSession
    dsimp only
    split
    · have record := supervision_modifySup supervised fun s =>
        { s with generation := w.supervision.generation + 1, state := .starting }
      -- the new generation is above every generation on record
      have above : ∀ before next, .stateChanged (w.supervision.generation + 1) before next ∉
          w.events := fun before next mem => by
        have := recorded.begun _ before next mem
        omega
      constructor
      · intro g before next mem
        simp only [mem_events_noted, SessionEvent.stateChanged.injEq] at mem
        simp only [supervision_emit, record]
        rcases mem with old | ⟨rfl, -, -⟩
        · exact Nat.le_succ_of_le (recorded.begun g before next old)
        · exact Nat.le_refl _
      · intro _ before
        simp [record, above]
      · intro _
        simp [record, above]
      · intro running
        simp [record] at running
      · intro g crashed before
        simp only [mem_events_noted, SessionEvent.stateChanged.injEq, reduceCtorEq, and_false,
          or_false] at crashed ⊢
        exact recorded.failed g crashed before
    · exact recorded
  | crash gen reason =>
    rcases crashed_cases supervised gen reason with ⟨same, -⟩ | ⟨rfl, allowed, rest⟩
    · rw [same]
      exact recorded
    · exact (recorded.moved supervised allowed (by simp)).of_bookkeeping rest
  | reset =>
    exact recorded.of_bookkeeping (Bookkeeping.update supervised _ rfl)

theorem of_fresh (fresh : w.Fresh) : w.StartsRecorded := by
  obtain ⟨s, found, stopped, -⟩ := fresh.record
  have record := supervision_eq found
  refine ⟨?_, ?_, ?_, ?_, ?_⟩ <;> simp [fresh.events, record, stopped]

/-- The run lemma: along every run of the host from a fresh supervisor the record keeps what it
says of the generations. -/
theorem run {w₀ : World} (fresh : w₀.Fresh) (moves : Relation.ReflTransGen Move w₀ w) :
    w.StartsRecorded :=
  Move.preserve (fun supervised recorded step => recorded.supStep supervised step) fresh.lawful
    moves (.of_fresh fresh)

end StartsRecorded

/-! ### A failed handshake -/

section Failure

variable {gen : Nat}

theorem events_finishOp (w : World) (tid : Nat) (handle : Option Nat) (r : Except Error Unit) :
    (w.finishOp tid handle r).events = w.events := by
  unfold World.finishOp World.releaseLock
  cases handle <;> split <;> simp [World.report, events_wake]

/-- After its crash, a failed handshake changes no event on record. -/
theorem events_failHandshake (tid : Nat) (handle : Option Nat) (c : Nat) (failure : String) :
    (w.failHandshake tid handle gen c failure).events =
      (w.crashed gen (.handshake failure)).events := by
  unfold World.failHandshake
  dsimp only
  generalize w.crashed gen (.handshake failure) = w₁
  -- whether the process is told to die or not, no event is noted
  have killed := ((KeepsSupervisor.modifyConn w₁ c fun k => { k with expectedExit := true }).trans
    (KeepsSupervisor.requestKill _ c)).events
  rw [events_finishOp, apply_ite World.events, killed, ite_self]

/-- A handshake that fails while its generation is Starting records the generation's crash from
Starting. -/
theorem changes_failHandshake (supervised : w.sup.isSome) (current : w.supervision.generation = gen)
    (starting : w.supervision.state = .starting) (tid : Nat) (handle : Option Nat) (c : Nat)
    (failure : String) :
    .stateChanged gen .starting .crashed ∈ (w.failHandshake tid handle gen c failure).events := by
  rw [events_failHandshake]
  rcases crashed_cases supervised gen (.handshake failure) with ⟨-, stale | blocked⟩ |
    ⟨-, -, rest⟩
  · exact absurd current.symm stale
  · rw [starting] at blocked
    cases blocked
  · obtain ⟨notes, events, -⟩ := rest.notes
    rw [events, starting]
    simp

/-- A handshake that runs out of time while its generation is Starting records the generation's
crash from Starting. -/
theorem changes_handshakeTimeout (supervised : w.sup.isSome)
    (current : w.supervision.generation = gen) (starting : w.supervision.state = .starting)
    (tid : Nat) (handle : Option Nat) (c : Nat) (call : Call) :
    .stateChanged gen .starting .crashed ∈ (w.handshakeTimeout tid handle gen c call).events := by
  have kept := KeepsSupervisor.abandon w call
  unfold World.handshakeTimeout
  exact changes_failHandshake (by rw [kept.sup]; exact supervised)
    (by rw [kept.supervision]; exact current) (by rw [kept.supervision]; exact starting) tid
    handle c _
end Failure

end World

end Engine

end LspBridge
