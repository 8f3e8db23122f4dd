import LspBridge.Proofs.SessionTeardown
import Mathlib
/-!
# Why a monitor reports a crash

A session's monitor waits for the first of three things: the reader ends, waiting for the process
gives a status (its exit, or the error the wait failed with), a kill is asked for. Of those ready
together the scheduler takes any one (`Conn.pick`). What it took decides the rest of the watch and
the reason reported:

* a kill: the process is killed and the reader stopped, and nothing is reported;
* the status: the reader gets `exitDrain` ms to drain and is stopped after that; the status is the
  reason, an exit as it is and a failed wait as a transport failure (`exitReason`);
* the end of the reader: the monitor then waits for the first of the status, the end of the grace
  period and a kill. A failure of the reader is the reason whatever comes first, and the process is
  killed. After a clean end the status is the reason if it came first; otherwise the process is
  killed and the reason is that the server closed its output.

Each turn of a monitor either goes on watching, recording nothing (`GoesOn`), or ends the watch
for one of these reasons (`EndReason`) with the process ended, or killed when the case kills it,
and the reader done (`Stopped`). The end is then reported (`Reports`): the connection is closed
first, and only then, unless the end was expected or there is no reason, the crash is recorded, by
one call of `crashed`. `monitor_crash_reasons` puts the cases together; it holds for every order
the scheduler takes ready branches in.
-/

namespace LspBridge

namespace Engine

open Json Rpc Client Server

/-! ### What the scheduler can take -/

namespace Conn

variable {k : Conn} {ready : List Branch} {b : Branch}

theorem mem_of_pick (picked : k.pick ready = some b) : b ∈ ready := by
  unfold pick at picked
  simpa using List.find?_some picked

/-- A `select!` waits exactly while none of its branches is ready. -/
theorem pick_eq_none : k.pick ready = none ↔ ready = [] := by
  unfold pick
  rw [List.find?_eq_none]
  constructor
  · intro none
    cases ready with
    | nil => rfl
    | cons first rest => exact absurd (none first (by simp)) (by simp)
  · rintro rfl
    simp

theorem waitStatus_isSome_of_exit (exited : k.exit.isSome) : k.waitStatus.isSome := by
  unfold waitStatus
  split <;> simp_all

@[simp]
theorem channel_mem_watchReady : Branch.channel ∈ k.watchReady ↔ k.ended.isSome := by
  unfold watchReady
  split_ifs <;> simp_all

@[simp]
theorem exit_mem_watchReady : Branch.exit ∈ k.watchReady ↔ k.waitStatus.isSome := by
  unfold watchReady
  split_ifs <;> simp_all

@[simp]
theorem timeout_not_mem_watchReady : Branch.timeout ∉ k.watchReady := by
  unfold watchReady
  split_ifs <;> simp

theorem watchReady_eq_nil :
    k.watchReady = [] ↔ k.ended = none ∧ k.waitStatus = none ∧ k.kill = false := by
  unfold watchReady
  split_ifs <;> simp_all [Option.isSome_iff_ne_none]

@[simp]
theorem exit_mem_graceReady {late : Bool} : Branch.exit ∈ k.graceReady late ↔ k.waitStatus.isSome := by
  unfold graceReady
  split_ifs <;> simp_all

@[simp]
theorem channel_not_mem_graceReady {late : Bool} : Branch.channel ∉ k.graceReady late := by
  unfold graceReady
  split_ifs <;> simp

theorem graceReady_eq_nil {late : Bool} :
    k.graceReady late = [] ↔ k.waitStatus = none ∧ late = false ∧ k.kill = false := by
  unfold graceReady
  split_ifs <;> simp_all [Option.isSome_iff_ne_none]

end Conn

/-- What a monitor's stage records is true of its connection `k`: a draining monitor saw waiting
for the process give the status it keeps, and a lingering one saw the reader end with the failure
it keeps. -/
def Watch.Records (k : Conn) : Watch → Prop
  | .watching => True
  | .draining status _ => k.waitStatus = some status
  | .lingering failure _ => ∃ r, k.ended = some r ∧ World.failureOf r = failure

namespace World

variable {w v : World} {tid c gen : Nat}

/-! ### One turn, branch by branch -/

@[simp]
theorem conn_timer (ms c : Nat) : (w.timer ms).1.conn c = w.conn c := rfl

@[simp]
theorem now_timer (ms : Nat) : (w.timer ms).1.now = w.now := rfl

@[simp]
theorem deadline_timer (ms : Nat) : (w.timer ms).2.deadline = w.now + ms := rfl

@[simp]
theorem size_timer (ms : Nat) : (w.timer ms).1.conns.size = w.conns.size := rfl

theorem pollMonitor_idle (picked : (w.conn c).pick (w.conn c).watchReady = none) :
    w.pollMonitor tid c gen .watching = w := by
  simp only [pollMonitor, picked]

theorem pollMonitor_channel {r : Except Rpc.Error Unit}
    (picked : (w.conn c).pick (w.conn c).watchReady = some .channel) (ended : (w.conn c).ended = some r) :
    w.pollMonitor tid c gen .watching =
      (w.timer w.supervision.config.shutdownGrace).1.awaitExit tid c gen (failureOf r)
        (w.timer w.supervision.config.shutdownGrace).2 := by
  simp only [pollMonitor, picked, ended]

theorem pollMonitor_exit {status : Except String (Option Int)}
    (picked : (w.conn c).pick (w.conn c).watchReady = some .exit) (seen : (w.conn c).waitStatus = some status) :
    w.pollMonitor tid c gen .watching =
      (w.timer exitDrain).1.setTask tid (.monitor c gen (.draining status (w.timer exitDrain).2)) := by
  simp only [pollMonitor, picked, seen]

theorem pollMonitor_kill (picked : (w.conn c).pick (w.conn c).watchReady = some .kill) :
    w.pollMonitor tid c gen .watching = ((w.terminate c).abortReader c).finishMonitor tid c gen none := by
  simp only [pollMonitor, picked]

section Grace

variable {failure : Option String} {t : Timer}

theorem awaitExit_waits (picked : (v.conn c).pick ((v.conn c).graceReady (decide (t.deadline ≤ v.now))) = none) :
    v.awaitExit tid c gen failure t = v.setTask tid (.monitor c gen (.lingering failure t)) := by
  simp only [awaitExit, picked]

theorem awaitExit_status
    (picked : (v.conn c).pick ((v.conn c).graceReady (decide (t.deadline ≤ v.now))) = some .exit) :
    v.awaitExit tid c gen failure t = v.conclude tid c gen (v.conn c).waitStatus failure := by
  simp only [awaitExit, picked]

theorem awaitExit_gaveUp {b : Branch}
    (picked : (v.conn c).pick ((v.conn c).graceReady (decide (t.deadline ≤ v.now))) = some b)
    (other : b ≠ .exit) : v.awaitExit tid c gen failure t = v.conclude tid c gen none failure := by
  cases b <;> simp_all [awaitExit]

end Grace

/-! ### What a monitor saw first -/

/-- The reader ended first, with `failure`, and `deadline` ends the grace period the process has to
exit: the monitor takes that end now, or took it at an earlier turn and waits. -/
inductive ReaderFirst (k : Conn) (now grace : Nat) : Watch → Option String → Nat → Prop
  | seen {r : Except Rpc.Error Unit} (picked : k.pick k.watchReady = some .channel)
    (ended : k.ended = some r) :
    ReaderFirst k now grace .watching (failureOf r) (now + grace)
  | waiting (failure : Option String) (t : Timer) :
    ReaderFirst k now grace (.lingering failure t) failure t.deadline

/-- The reason a watch ends with, from what the monitor took first and the connection `k` at the
turn that ends it, and whether the monitor kills the process; `grace` is the time the process has to
exit after the reader ended. After the reader, the second `select!` takes the first of
`k.graceReady` by the scheduler's order.

`killed`: a kill was taken first: there is no reason. `exitedFirst`: the status was taken first: it
is the reason, once the reader has drained or the drain time is over. `failedFirst`: the reader
ended first with a failure: the failure is the reason, whatever came next. `exitedInTime`: the
reader ended first, cleanly, and then the status was taken: it is the reason. `disconnected`: the
reader ended first, cleanly, and then the end of the grace period or a kill was taken: the reason is
that the server closed its output. -/
inductive EndReason (k : Conn) (now grace : Nat) : Watch → Option CrashReason → Bool → Prop
  | killed (picked : k.pick k.watchReady = some .kill) : EndReason k now grace .watching none true
  | exitedFirst {status : Except String (Option Int)} {t : Timer}
    (drained : k.ended.isSome ∨ t.deadline ≤ now) :
    EndReason k now grace (.draining status t) (some (exitReason status)) false
  | failedFirst {watch : Watch} {failure : String} {deadline : Nat}
    (first : ReaderFirst k now grace watch (some failure) deadline)
    (late : (k.pick (k.graceReady (decide (deadline ≤ now)))).isSome) :
    EndReason k now grace watch (some (.transport failure)) true
  | exitedInTime {watch : Watch} {deadline : Nat} {status : Except String (Option Int)}
    (first : ReaderFirst k now grace watch none deadline)
    (picked : k.pick (k.graceReady (decide (deadline ≤ now))) = some .exit)
    (seen : k.waitStatus = some status) :
    EndReason k now grace watch (some (exitReason status)) false
  | disconnected {watch : Watch} {deadline : Nat} {b : Branch}
    (first : ReaderFirst k now grace watch none deadline)
    (picked : k.pick (k.graceReady (decide (deadline ≤ now))) = some b) (gaveUp : b ≠ .exit) :
    EndReason k now grace watch (some .disconnected) true

/-- A turn after which the monitor still watches: it waits, or moves to the stage that says what it
took first, with that stage's timer. -/
inductive GoesOn (w : World) (tid c gen : Nat) : Watch → World → Prop
  | idle (reading : (w.conn c).ended = none) (running : (w.conn c).waitStatus = none)
    (calm : (w.conn c).kill = false) :
    GoesOn w tid c gen .watching w
  | drain {status : Except String (Option Int)}
    (picked : (w.conn c).pick (w.conn c).watchReady = some .exit)
    (seen : (w.conn c).waitStatus = some status) :
    GoesOn w tid c gen .watching
      ((w.timer exitDrain).1.setTask tid (.monitor c gen (.draining status (w.timer exitDrain).2)))
  | grace {r : Except Rpc.Error Unit} (picked : (w.conn c).pick (w.conn c).watchReady = some .channel)
    (ended : (w.conn c).ended = some r) (running : (w.conn c).waitStatus = none)
    (calm : (w.conn c).kill = false) (early : w.now < w.now + w.supervision.config.shutdownGrace) :
    GoesOn w tid c gen .watching
      ((w.timer w.supervision.config.shutdownGrace).1.setTask tid
        (.monitor c gen (.lingering (failureOf r) (w.timer w.supervision.config.shutdownGrace).2)))
  | draining {status : Except String (Option Int)} {t : Timer} (reading : (w.conn c).ended = none)
    (early : w.now < t.deadline) :
    GoesOn w tid c gen (.draining status t) w
  | lingering {failure : Option String} {t : Timer} (running : (w.conn c).waitStatus = none)
    (calm : (w.conn c).kill = false) (early : w.now < t.deadline) :
    GoesOn w tid c gen (.lingering failure t) w

/-- What the monitor leaves of `w` when its watch ends, in `w₁`: waiting for the process has given
a status, the process has been killed and reaped when the monitor kills it, and the reader has
ended or was stopped; the supervisor, the events and whether the end is expected are as they
were. -/
structure Stopped (w w₁ : World) (c : Nat) (kills : Bool) : Prop where
  sup : w₁.sup = w.sup
  events : w₁.events = w.events
  expected : (w₁.conn c).expectedExit = (w.conn c).expectedExit
  present : c < w₁.conns.size
  seen : (w₁.conn c).waitStatus.isSome
  reaped : kills = true → (w₁.conn c).exit.isSome
  readerDone : (w₁.conn c).ended.isSome ∨ (w₁.conn c).readerGone = true

/-- How a monitor reports the end of its watch over `w₁`, in `w'`: it is gone, its connection is
closed and marked finished; when the end was not expected and there is a reason, the crash is
recorded as one call of `crashed` records it on the closed connection; otherwise nothing is
recorded. -/
structure Reports (w₁ w' : World) (tid c gen : Nat) (reason : Option CrashReason) : Prop where
  gone : w'.task? tid = none
  closed : (w'.conn c).pending.closed = true ∧ (w'.conn c).monitorDone = true
  crash : (w₁.conn c).expectedExit = false → ∀ r, reason = some r →
    w'.events = ((w₁.closePeer c).2.crashed gen r).events ∧
      w'.sup = ((w₁.closePeer c).2.crashed gen r).sup
  quiet : (w₁.conn c).expectedExit = true ∨ reason = none → w'.events = w₁.events ∧ w'.sup = w₁.sup

/-! ### Ending the process and stopping the reader -/

section Ending

theorem size_terminate (w : World) (c : Nat) : (w.terminate c).conns.size = w.conns.size := by
  unfold World.terminate World.processEnds
  split
  · split
    · rfl
    · simp [World.wakeMonitorOnProcess, World.wakeReader, conns_wakeIf]
  · simp

/-- Ending a process leaves its exit recorded, and the rest of the connection's record as it was. -/
theorem terminate_ends (present : c < w.conns.size) :
    ((w.terminate c).conn c).exit.isSome = true ∧
      ((w.terminate c).conn c).expectedExit = (w.conn c).expectedExit ∧
      ((w.terminate c).conn c).ended = (w.conn c).ended ∧
      ((w.terminate c).conn c).readerGone = (w.conn c).readerGone := by
  unfold World.terminate
  split
  · unfold World.processEnds
    split
    · rename_i exited
      exact ⟨exited, rfl, rfl, rfl⟩
    · simp [World.wakeMonitorOnProcess, World.wakeReader, conn_modifyConn_self _ _ _ present]
  · simp [conn_modifyConn_self _ _ _ present]

theorem size_abortReader (w : World) (c : Nat) : (w.abortReader c).conns.size = w.conns.size := by
  simp [World.abortReader, World.dropHandlers, conns_foldl_dropTask]

theorem conns_dropReaders (ids : List Nat) (w : World) (c : Nat) :
    ((ids.foldl dropTask w).dropHandlers c).conns = w.conns := by
  simp [World.dropHandlers, conns_foldl_dropTask]

/-- Stopping a reader marks it gone, and leaves the rest of the connection's record as it was. -/
theorem conn_abortReader (present : c < w.conns.size) :
    (w.abortReader c).conn c = { w.conn c with readerGone := true } := by
  unfold World.abortReader
  dsimp only
  rw [conn_modifyConn_self _ _ _ (by rw [conns_dropReaders]; exact present)]
  simp [World.conn, conns_dropReaders]

theorem abortReader_keeps (w : World) (c : Nat) :
    (w.abortReader c).sup = w.sup ∧ (w.abortReader c).events = w.events := by
  unfold World.abortReader World.dropHandlers
  dsimp only
  simp [World.modifyConn, sup_foldl_dropTask]

/-! ### What the monitor leaves behind -/

variable {kills : Bool}

theorem Stopped.congr {w₁ : World} (stopped : Stopped v w₁ c kills) (sup : v.sup = w.sup)
    (events : v.events = w.events) (same : v.conn c = w.conn c) : Stopped w w₁ c kills :=
  ⟨stopped.sup.trans sup, stopped.events.trans events, stopped.expected.trans (by rw [same]),
    stopped.present, stopped.seen, stopped.reaped, stopped.readerDone⟩

/-- Waiting for the process gave a status and the reader ended: nothing is left to stop. -/
theorem Stopped.of_ended (present : c < w.conns.size) (seen : (w.conn c).waitStatus.isSome)
    (done : (w.conn c).ended.isSome) : Stopped w w c false :=
  ⟨rfl, rfl, rfl, present, seen, nofun, .inl done⟩

/-- The reader ended: the process is killed. -/
theorem Stopped.terminate (present : c < w.conns.size) (done : (w.conn c).ended.isSome) :
    Stopped w (w.terminate c) c true := by
  obtain ⟨exited, expected, ended, -⟩ := terminate_ends present
  have keeps := KeepsSupervisor.terminate w c
  exact ⟨keeps.sup, keeps.events, expected, by rw [size_terminate]; exact present,
    Conn.waitStatus_isSome_of_exit exited, fun _ => exited, .inl (by rw [ended]; exact done)⟩

/-- Waiting for the process gave a status: the reader is stopped. -/
theorem Stopped.abortReader (present : c < w.conns.size) (seen : (w.conn c).waitStatus.isSome)
    (reaped : kills = true → (w.conn c).exit.isSome) : Stopped w (w.abortReader c) c kills := by
  obtain ⟨sup, events⟩ := abortReader_keeps w c
  have stopped := conn_abortReader present
  exact ⟨sup, events, by rw [stopped], by rw [size_abortReader]; exact present,
    by rw [stopped]; exact seen, by rw [stopped]; exact reaped, .inr (by rw [stopped])⟩

/-- A kill: the process is killed and the reader stopped. -/
theorem Stopped.kill (present : c < w.conns.size) :
    Stopped w ((w.terminate c).abortReader c) c true := by
  obtain ⟨exited, expected, -, -⟩ := terminate_ends present
  have keeps := KeepsSupervisor.terminate w c
  have stopped : Stopped (w.terminate c) ((w.terminate c).abortReader c) c true :=
    Stopped.abortReader (by rw [size_terminate]; exact present) (Conn.waitStatus_isSome_of_exit exited)
      fun _ => exited
  exact ⟨stopped.sup.trans keeps.sup, stopped.events.trans keeps.events,
    stopped.expected.trans expected, stopped.present, stopped.seen, stopped.reaped,
    stopped.readerDone⟩

/-! ### One turn of a monitor -/

/-- Once the second `select!` takes a branch, the watch ends: for a failure of the reader with
that failure, and after a clean end with the status when it was taken, and otherwise with the
server's closed output. -/
theorem awaitExit_ends {watch : Watch} {failure : Option String} {t : Timer} {b : Branch}
    (present : c < v.conns.size) (done : (v.conn c).ended.isSome) {grace : Nat}
    (first : ReaderFirst (v.conn c) v.now grace watch failure t.deadline)
    (picked : (v.conn c).pick ((v.conn c).graceReady (decide (t.deadline ≤ v.now))) = some b) :
    ∃ reason w₁ kills, EndReason (v.conn c) v.now grace watch reason kills ∧ Stopped v w₁ c kills ∧
      v.awaitExit tid c gen failure t = w₁.finishMonitor tid c gen reason := by
  have late : ((v.conn c).pick ((v.conn c).graceReady (decide (t.deadline ≤ v.now)))).isSome := by
    simp [picked]
  by_cases other : b = .exit
  · -- the status came first: a failure of the reader still wins over it
    subst other
    obtain ⟨status, seen⟩ := Option.isSome_iff_exists.mp
      (Conn.exit_mem_graceReady.mp (Conn.mem_of_pick picked))
    rw [awaitExit_status picked, seen]
    cases failure with
    | some f => exact ⟨_, _, _, .failedFirst first late, Stopped.terminate present done, rfl⟩
    | none =>
      exact ⟨_, _, _, .exitedInTime first picked seen, Stopped.of_ended present (by simp [seen]) done,
        rfl⟩
  · rw [awaitExit_gaveUp picked other]
    cases failure with
    | some f => exact ⟨_, _, _, .failedFirst first late, Stopped.terminate present done, rfl⟩
    | none => exact ⟨_, _, _, .disconnected first picked other, Stopped.terminate present done, rfl⟩

theorem monitor_turn (present : c < w.conns.size) (tid gen : Nat) {watch : Watch}
    (records : watch.Records (w.conn c)) :
    GoesOn w tid c gen watch (w.pollMonitor tid c gen watch) ∨
    ∃ reason w₁ kills, EndReason (w.conn c) w.now w.supervision.config.shutdownGrace watch reason kills ∧
      Stopped w w₁ c kills ∧ w.pollMonitor tid c gen watch = w₁.finishMonitor tid c gen reason := by
  cases watch with
  | watching =>
    cases picked : (w.conn c).pick (w.conn c).watchReady with
    | none =>
      obtain ⟨reading, running, calm⟩ := Conn.watchReady_eq_nil.mp (Conn.pick_eq_none.mp picked)
      rw [pollMonitor_idle picked]
      exact .inl (.idle reading running calm)
    | some b =>
      have ready := Conn.mem_of_pick picked
      cases b with
      | channel =>
        -- the reader ended: the grace period starts now, and the second `select!` runs at once
        obtain ⟨r, ended⟩ := Option.isSome_iff_exists.mp (Conn.channel_mem_watchReady.mp ready)
        set g := w.supervision.config.shutdownGrace
        have done : ((w.timer g).1.conn c).ended.isSome := by simp [ended]
        have first : ReaderFirst ((w.timer g).1.conn c) (w.timer g).1.now g .watching (failureOf r)
            (w.timer g).2.deadline := .seen picked ended
        rw [pollMonitor_channel picked ended]
        cases waits : ((w.timer g).1.conn c).pick (((w.timer g).1.conn c).graceReady
            (decide ((w.timer g).2.deadline ≤ (w.timer g).1.now))) with
        | none =>
          obtain ⟨running, early, calm⟩ := Conn.graceReady_eq_nil.mp (Conn.pick_eq_none.mp waits)
          rw [awaitExit_waits waits]
          simp only [conn_timer, now_timer, deadline_timer] at running early calm
          exact .inl (.grace picked ended running calm (by simp at early; omega))
        | some b =>
          obtain ⟨reason, w₁, kills, why, stopped, ends⟩ :=
            awaitExit_ends (by simpa using present) done first waits
          rw [conn_timer, now_timer] at why
          exact .inr ⟨reason, w₁, kills, why, stopped.congr rfl rfl rfl, ends⟩
      | exit =>
        obtain ⟨status, seen⟩ := Option.isSome_iff_exists.mp (Conn.exit_mem_watchReady.mp ready)
        rw [pollMonitor_exit picked seen]
        exact .inl (.drain picked seen)
      | kill =>
        rw [pollMonitor_kill picked]
        exact .inr ⟨none, _, true, .killed picked, Stopped.kill present, rfl⟩
      | timeout => exact absurd ready Conn.timeout_not_mem_watchReady
  | draining status t =>
    have seen : (w.conn c).waitStatus.isSome := by simp [show (w.conn c).waitStatus = _ from records]
    dsimp only [World.pollMonitor]
    split
    · rename_i drained
      exact .inr ⟨_, w, false, .exitedFirst (.inl drained), Stopped.of_ended present seen drained, rfl⟩
    · rename_i reading
      split
      · rename_i late
        exact .inr ⟨_, _, false, .exitedFirst (.inr late), Stopped.abortReader present seen nofun, rfl⟩
      · rename_i early
        exact .inl (.draining (by simpa using reading) (by omega))
  | lingering failure t =>
    obtain ⟨r, ended, recorded⟩ := records
    have done : (w.conn c).ended.isSome := by simp [ended]
    dsimp only [World.pollMonitor]
    cases waits : (w.conn c).pick ((w.conn c).graceReady (decide (t.deadline ≤ w.now))) with
    | none =>
      obtain ⟨running, early, calm⟩ := Conn.graceReady_eq_nil.mp (Conn.pick_eq_none.mp waits)
      rw [if_neg (by simp)]
      exact .inl (.lingering running calm (by simpa using early))
    | some b =>
      rw [if_pos (by simp)]
      exact .inr (awaitExit_ends present done (.waiting failure t) waits)

end Ending

/-! ### Reporting the end -/

section Reporting

/-- The last moves of a monitor, after the end is recorded in `v`: marking the connection finished,
dropping the monitor's task and waking who waits on it keep the supervisor and the events, and
leave no task of the monitor's id. -/
theorem retire_keeps (v : World) (tid c : Nat) (f : Conn → Conn) :
    (((v.modifyConn c f).dropTask tid).wakeOnMonitor c).sup = v.sup ∧
      (((v.modifyConn c f).dropTask tid).wakeOnMonitor c).events = v.events ∧
      (((v.modifyConn c f).dropTask tid).wakeOnMonitor c).task? tid = none := by
  unfold World.wakeOnMonitor
  obtain ⟨queue, woken⟩ := ((v.modifyConn c f).dropTask tid).wakeIf_eq _
  rw [woken]
  exact ⟨rfl, rfl, task?_dropTask_self⟩

theorem finishMonitor_reports (present : c < w.conns.size) (tid gen : Nat)
    (reason : Option CrashReason) : Reports w (w.finishMonitor tid c gen reason) tid c gen reason := by
  have expected : ((w.closePeer c).2.conn c).expectedExit = (w.conn c).expectedExit := by
    rw [conn_closePeer present]
  have closed := KeepsSupervisor.closePeer w c
  have finished := conn_finishMonitor present tid gen reason
  refine ⟨?_, by simp [finished], ?_, ?_⟩
  · exact (retire_keeps _ _ _ _).2.2
  · intro unexpected r given
    unfold World.finishMonitor
    dsimp only
    rw [if_neg (by rw [expected, unexpected]; decide), given]
    exact ⟨(retire_keeps _ _ _ _).2.1, (retire_keeps _ _ _ _).1⟩
  · intro quiet
    -- with nothing recorded, the world is the one the peer was closed in
    have unrecorded (f : Conn → Conn) :
        ((((w.closePeer c).2.modifyConn c f).dropTask tid).wakeOnMonitor c).events = w.events ∧
          ((((w.closePeer c).2.modifyConn c f).dropTask tid).wakeOnMonitor c).sup = w.sup :=
      ⟨(retire_keeps _ _ _ f).2.1.trans closed.events, (retire_keeps _ _ _ f).1.trans closed.sup⟩
    unfold World.finishMonitor
    dsimp only
    split
    · exact unrecorded _
    · rename_i unexpected
      rcases quiet with expectedEnd | noReason
      · rw [expected, expectedEnd] at unexpected
        contradiction
      · subst noReason
        exact unrecorded _

/-- Each turn of a monitor whose stage records what it saw goes on watching, or ends the watch:
the process has ended and the reader is done, the reason is the one `EndReason` gives for what the
monitor saw first, and the end is reported, the connection closed and then, unless the end was
expected or came from a kill, the crash recorded by one call of `crashed`. -/
theorem monitor_crash_reasons (present : c < w.conns.size) (tid gen : Nat) {watch : Watch}
    (records : watch.Records (w.conn c)) :
    GoesOn w tid c gen watch (w.pollMonitor tid c gen watch) ∨
    ∃ reason w₁ kills, EndReason (w.conn c) w.now w.supervision.config.shutdownGrace watch reason kills ∧
      Stopped w w₁ c kills ∧ Reports w₁ (w.pollMonitor tid c gen watch) tid c gen reason := by
  rcases monitor_turn present tid gen records with goesOn | ⟨reason, w₁, kills, why, stopped, ends⟩
  · exact .inl goesOn
  · rw [ends]
    exact .inr ⟨reason, w₁, kills, why, stopped, finishMonitor_reports stopped.present tid gen reason⟩

theorem monitor_crash_reasons_failed_wait :
    let w : World := { conns := #[{ ended := some (.ok ()), waitError := some "interrupted" }] }
    let watch : Watch := .lingering none ⟨5, 0⟩
    0 < w.conns.size ∧ watch.Records (w.conn 0) ∧
      (GoesOn w 0 0 1 watch (w.pollMonitor 0 0 1 watch) ∨
        ∃ reason w₁ kills, EndReason (w.conn 0) w.now w.supervision.config.shutdownGrace watch reason kills ∧
          Stopped w w₁ 0 kills ∧ Reports w₁ (w.pollMonitor 0 0 1 watch) 0 0 1 reason) := by
  intro w watch
  have present : 0 < w.conns.size := by decide
  have records : watch.Records (w.conn 0) := ⟨.ok (), rfl, rfl⟩
  exact ⟨present, records, monitor_crash_reasons present 0 1 records⟩

end Reporting

end World

end Engine

end LspBridge
