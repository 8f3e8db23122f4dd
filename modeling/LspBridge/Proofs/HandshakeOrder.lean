import LspBridge.Proofs.GracefulShutdown
import LspBridge.Proofs.FailedStarts
import Mathlib
/-!
# The handshake comes before any traffic of the host

Each session gets a connection of its own, and the first thing queued on it is the `initialize`
request under id 0. The session runs only once the server's answer to it, a result holding a
`capabilities` object, has come on the connection, and `initialized` is queued after that, with
the capabilities noted those of the answer. The host reaches a session only while it
runs, so everything it sends there comes after `initialized`. A session whose handshake fails
crashes from Starting and never runs, so the host never sends anything on its connection.

`World.Drive` is one move of a client that its host drives. It is one of: a start, stop or restart
asked for; a failed launch asked for; a turn of any task; a change outside the supervisor that
sends only on the running session; or a publication to the running session. The host's calls,
requests, notifications and cancellations are such moves (`Drive.call`, `Drive.issue`,
`Drive.notify`, `Drive.cancel`), and so is the server writing (`Drive.serverWrite`).
`World.Driven` is a run of them that records everything queued on each connection, every session
held, and every answer to `initialize` that came, with what had been queued by then.

A writer's turn only takes from the front of the queues (`World.Drains`). Every other move sends
as `World.Sends` allows, and may send anything only on a connection whose handshake is done
(`World.Cleared`). `World.Handshakes` is the invariant: each move keeps it (`Handshakes.drive`),
so every run does (`Driven.handshakes`), and `handshake_before_host_traffic` reads the order off
it.
-/

namespace LspBridge

namespace Engine

open Json Rpc Client Server

/-- Nothing but answers to the server's requests and the `initialized` notification. -/
def Quiet (ms : List Message) : Prop := ∀ m ∈ ms, m.isResponse = true ∨ m = initializedNote

/-- `initialized` comes before anything but answers to the server's requests. -/
def Shaken (ms : List Message) : Prop :=
  ∃ pre post, ms = pre ++ initializedNote :: post ∧ ∀ m ∈ pre, m.isResponse = true

theorem Quiet.append {ms more : List Message} (quiet : Quiet ms) (rest : Quiet more) :
    Quiet (ms ++ more) := by
  intro m mem
  rcases List.mem_append.mp mem with early | late
  · exact quiet m early
  · exact rest m late

theorem Shaken.append {ms : List Message} (shaken : Shaken ms) (more : List Message) :
    Shaken (ms ++ more) := by
  obtain ⟨pre, post, rfl, answers⟩ := shaken
  exact ⟨pre, post ++ more, by simp, answers⟩

/-- Quiet messages that hold `initialized` hold it before anything but answers. -/
theorem Quiet.shaken {ms : List Message} (quiet : Quiet ms) (note : initializedNote ∈ ms) :
    Shaken ms := by
  induction ms with
  | nil => cases note
  | cons m rest ih =>
    by_cases first : m = initializedNote
    · exact ⟨[], rest, by rw [first]; rfl, by simp⟩
    · have answer : m.isResponse = true := (quiet m List.mem_cons_self).resolve_right first
      have later : initializedNote ∈ rest := (List.mem_cons.mp note).resolve_left (Ne.symm first)
      obtain ⟨pre, post, split, answers⟩ :=
        ih (fun m' mem => quiet m' (List.mem_cons_of_mem m mem)) later
      refine ⟨m :: pre, post, by rw [split]; rfl, fun m' mem => ?_⟩
      rcases List.mem_cons.mp mem with rfl | earlier
      · exact answer
      · exact answers m' earlier

/-- `initialized` is not the `initialize` request, so once sent it comes after it. -/
theorem initializedNote_mem_after {params : Value} {after : List Message}
    (note : initializedNote ∈ .request (.number 0) "initialize" params :: after) :
    initializedNote ∈ after :=
  (List.mem_cons.mp note).resolve_left (by simp [initializedNote])

namespace World

variable {w w' w₁ w₂ w₃ : World}

/-! ### A writer only takes from the front -/

/-- What a writer's turn does to the queues: each ends as the end of what it was. No connection
is opened, and no new task holds a call not yet sent. -/
structure Drains (w w' : World) : Prop where
  queues : ∀ d, (w'.conn d).outbound <:+ (w.conn d).outbound
  size : w'.conns.size = w.conns.size
  unbound : ∀ e ∈ w'.tasks, e.2.binds = none ∨ e ∈ w.tasks

/-- Handing a message to the server leaves every queue as it was. -/
theorem outbound_receive (w : World) (c d : Nat) (m : Message) :
    ((w.receive c m).conn d).outbound = (w.conn d).outbound := by
  unfold World.receive World.programReceive
  dsimp only
  split
  · rfl
  · split
    · rw [(Pushes.programArrive (c := d) _ c _).queue, List.append_nil]
      split
      · exact view_modifyConn Conn.outbound fun _ => rfl
      · rfl
    · rfl

theorem Sends.receive {S : Nat → Prop} {H : Nat → Negotiated → List Message → Prop} (w : World)
    (c : Nat) (m : Message) : Sends S H w (w.receive c m) := by
  unfold World.receive
  dsimp only
  split
  · exact .refl w
  · split
    · rename_i m' _
      have noted : Sends S H w { w with sent := w.sent ++ [(c, m')] } := Sends.of_conns rfl rfl rfl
      refine (noted.trans ?_).trans (Sends.programArrive _ c _)
      split
      · exact Sends.modifyConn _ c fun _ => by rfl
      · exact .refl _
    · exact .refl w

/-- A writer that finishes leaves every queue as it was. -/
theorem outbound_finishWriter (w : World) (tid c d : Nat) :
    ((w.finishWriter tid c).conn d).outbound = (w.conn d).outbound := by
  unfold World.finishWriter World.wakeDrainingReader World.programInputEnds
  rw [(Pushes.programArrive (c := d) _ c none).queue, List.append_nil, conn_wakeIf, conn_dropTask]
  exact view_modifyConn Conn.outbound fun _ => rfl

namespace Drains

theorem refl (w : World) : Drains w w :=
  ⟨fun _ => List.suffix_refl _, rfl, fun _ mem => .inr mem⟩

theorem trans (first : Drains w₁ w₂) (second : Drains w₂ w₃) : Drains w₁ w₃ where
  queues d := (second.queues d).trans (first.queues d)
  size := second.size.trans first.size
  unbound e mem := (second.unbound e mem).elim .inl (first.unbound e)

/-- A change that sends as `Sends` allows and keeps every queue and the number of connections. -/
theorem of_sends {S : Nat → Prop} {H : Nat → Negotiated → List Message → Prop} (sends : Sends S H w w')
    (queues : ∀ d, (w'.conn d).outbound = (w.conn d).outbound)
    (size : w'.conns.size = w.conns.size) : Drains w w' where
  queues d := by rw [queues d]
  size := size
  unbound := sends.unbound

/-- The writer takes the message at the front of its queue. -/
theorem pop {c : Nat} {m : Message} {rest : List Message}
    (queued : (w.conn c).outbound = m :: rest) :
    Drains w (w.modifyConn c fun k => { k with outbound := rest }) where
  queues d := by
    by_cases here : d = c
    · subst here
      rcases conn_modifyConn_eq_or w d d (fun k => { k with outbound := rest }) with same | taken
      · rw [same]
      · rw [taken, queued]
        exact List.suffix_cons m rest
    · rw [conn_modifyConn_of_ne w _ here]
  size := size_conns_modifyConn w c _
  unbound _ mem := .inr mem

theorem receive (w : World) (c : Nat) (m : Message) : Drains w (w.receive c m) :=
  of_sends (Sends.receive (S := fun _ => False) (H := fun _ _ _ => False) w c m)
    (outbound_receive w c · m)
    (receive_spec w c m).1

theorem finishWriter (w : World) (tid c : Nat) : Drains w (w.finishWriter tid c) := by
  refine of_sends (S := fun _ => False) (H := fun _ _ _ => False) ?_ (outbound_finishWriter w tid c)
    (Traffic.finishWriter w tid c).size
  unfold World.finishWriter World.wakeDrainingReader World.programInputEnds
  exact (((Sends.modifyConn w c fun _ => by rfl).trans (Sends.dropTask _ tid)).trans
    (Sends.wakeIf _ _)).trans (Sends.programArrive _ c none)

/-- The writer takes queued messages from the front, as far as its fuel goes. -/
theorem writeQueued (tid c : Nat) (fuel : Nat) (w : World) :
    Drains w (World.writeQueued tid c fuel w) := by
  induction fuel generalizing w with
  | zero => exact refl w
  | succ fuel ih =>
    unfold World.writeQueued
    dsimp only
    by_cases stop : (w.conn c).shutdown = true
    · rw [if_pos stop]
      exact finishWriter w tid c
    · rw [if_neg stop]
      cases queue : (w.conn c).outbound with
      | nil =>
        dsimp only
        split
        · exact refl w
        · exact finishWriter w tid c
      | cons m rest =>
        dsimp only
        exact ((pop queue).trans (receive _ c m)).trans (ih _)

theorem pollWriter (w : World) (tid c : Nat) : Drains w (w.pollWriter tid c) :=
  writeQueued tid c _ w

end Drains

/-! ### The moves a host drives -/

/-- The answer to `initialize` on connection `d` has come to `w` as a result holding the
capabilities `caps`, and `q` extends what `w` has queued on `d`: what a move from `w` may note as
a session's capabilities before it queues `initialized` after `q`. -/
def Answered (w : World) (d : Nat) (caps : Negotiated) (q : List Message) : Prop :=
  w.Heard d caps ∧ (w.conn d).outbound <+: q

/-- One move of a client that its host drives: a start, stop or restart asked for; a failed launch
asked for; a turn of a task; a change outside the supervisor that keeps the supervisor and what is
over and may send anything only on the running session (a call, request, notification or
cancellation of the host, the server writing or going away, the clock moving on); or a
publication to the running session, by calls made together. -/
inductive Drive : World → World → Prop where
  | request (w : World) (handle : Option Nat) (op : LifecycleOp) (host : op.isHost = true) :
    Drive w (w.spawn (.lifecycle handle op .locking)).1
  | failLaunch (w : World) (reason : String) :
    Drive w (w.modifySup fun s => { s with failNext := some reason })
  | turn (w : World) (tid : Nat) : Drive w (w.pollTask tid)
  | outside {w w' : World} {S : Nat → Prop} (sends : Sends S w.Answered w w')
    (running : ∀ d, S d → w.runningPeer = some d) (keeps : KeepsSupervisor w w')
    (lasts : Lasts w w') : Drive w w'
  | publish (w : World) (handle c : Nat) (each : List Call) (running : w.runningPeer = some c) :
    Drive w (w.spawn (.calls handle c each)).1

/-- Every move a host drives is a move of the client. -/
theorem Drive.move (move : Drive w w') : Move w w' := by
  cases move with
  | request handle op host => exact .request w handle op host
  | failLaunch reason => exact .failLaunch w reason
  | turn tid => exact .turn w tid
  | outside _ _ keeps lasts => exact .outside keeps lasts
  | publish handle c each => exact .outside (KeepsSupervisor.spawn rfl) (Lasts.spawn rfl)

/-- A call of the host begun, to the running session or on a request already sent, is a move the
host drives: it holds no call to send on a connection of its own. -/
theorem Drive.call (w : World) (handle : Nat) (target : Target) (call : Call)
    (typed : Option Shape) (free : (Task.call handle target call typed).binds = none) :
    Drive w (w.spawn (.call handle target call typed)).1 :=
  .outside (Sends.spawn (S := fun _ => False) w free rfl) (fun _ no => no.elim)
    (KeepsSupervisor.spawn rfl) (Lasts.spawn rfl)

/-- A request of the host to the running session is a move the host drives. -/
theorem Drive.issue {c : Nat} (running : w.runningPeer = some c) (method : String)
    (params : Value) : Drive w (w.issue c method params).2 :=
  .outside (Sends.issue (S := (· = c)) w c method params rfl) (fun _ same => same ▸ running)
    (KeepsSupervisor.issue w c method params) (Lasts.issue w c method params)

/-- A notification of the host to the running session is a move the host drives. -/
theorem Drive.notify {c : Nat} (running : w.runningPeer = some c) {method : String}
    {params : Value} (sent : w.notify c method params = .ok w') : Drive w w' :=
  .outside (Sends.of_notify (S := (· = c)) sent (.inr (.inr rfl))) (fun _ same => same ▸ running)
    (KeepsSupervisor.notify sent) (Lasts.notify sent)

/-- A cancellation of the host on the running session is a move the host drives. -/
theorem Drive.cancel {c : Nat} (running : w.runningPeer = some c) (i : RequestId) :
    Drive w (w.cancel c i).2 :=
  .outside (Sends.cancel (S := (· = c)) w c i rfl) (fun _ same => same ▸ running)
    (KeepsSupervisor.cancel w c i) (Lasts.cancel w c i)

/-- The server writing to the client is a move the host drives. -/
theorem Drive.serverWrite {d : Nat} (bytes : List UInt8) (written : w.serverWrite d bytes = .ok w') :
    Drive w w' :=
  .outside (Sends.serverWrite (S := fun _ => False) written) (fun _ no => no.elim)
    (KeepsSupervisor.serverWrite written) (Lasts.serverWrite written)

/-- A session of generation `g` on connection `d` is held. -/
def HeldOn (w : World) (g d : Nat) : Prop :=
  ∃ r, w.supervision.session = some r ∧ r.generation = g ∧ r.conn = d

/-- Everything sent on connection `d` once a move from `w` to `w'` has queued its messages. -/
def sentThrough (sent : Nat → List Message) (w w' : World) (d : Nat) : List Message :=
  sent d ++ w.added w' d

/-- The sessions held once `w'` is reached. -/
def heldThrough (held : Nat → Nat → Prop) (w' : World) (g d : Nat) : Prop :=
  held g d ∨ w'.HeldOn g d

/-- The answers to `initialize` heard once a move from `w` has been made, each with what had been
sent on its connection when it was there. -/
def heardThrough (heard : Nat → Negotiated → List Message → Prop) (sent : Nat → List Message)
    (w : World) (d : Nat) (caps : Negotiated) (ms : List Message) : Prop :=
  heard d caps ms ∨ w.Heard d caps ∧ ms = sent d

/-- A run of moves a host drives from `w₀` to `w`. `sent d` is everything queued on connection `d`
along it, in order; `held g d` says a session of generation `g` on connection `d` was held at
some point of it; `heard d caps ms` says that before some move of it, the outcome waiting under
id 0 on connection `d` was a result from which the capabilities `caps` are read, while `ms` was
everything sent on `d` so far. -/
inductive Driven (w₀ : World) :
    World → (Nat → List Message) → (Nat → Nat → Prop) → (Nat → Negotiated → List Message → Prop) →
      Prop where
  | start : Driven w₀ w₀ (fun d => (w₀.conn d).outbound) w₀.HeldOn fun _ _ _ => False
  | step {w w' : World} {sent : Nat → List Message} {held : Nat → Nat → Prop}
    {heard : Nat → Negotiated → List Message → Prop}
    (before : Driven w₀ w sent held heard) (move : Drive w w') :
    Driven w₀ w' (sentThrough sent w w') (heldThrough held w') (heardThrough heard sent w)

theorem Driven.moves {w₀ : World} {sent : Nat → List Message} {held : Nat → Nat → Prop}
    {heard : Nat → Negotiated → List Message → Prop}
    (run : Driven w₀ w sent held heard) : Relation.ReflTransGen Move w₀ w := by
  induction run with
  | start => exact .refl
  | step _ move moves => exact moves.tail move.move

/-! ### The invariant -/

/-- A session on connection `d` has run: it is of a generation held on `d` whose change to Running
is on record. -/
def Ran (w : World) (held : Nat → Nat → Prop) (d : Nat) : Prop :=
  ∃ g, held g d ∧ .stateChanged g .starting .running ∈ w.events

/-- Connection `d` may carry anything: `initialized` has been sent on it, and a session on it has
run. -/
def Cleared (w : World) (sent : Nat → List Message) (held : Nat → Nat → Prop) (d : Nat) : Prop :=
  initializedNote ∈ sent d ∧ w.Ran held d

theorem Ran.mono {held held' : Nat → Nat → Prop} {d : Nat} (ran : w.Ran held d)
    (more : ∀ g d, held g d → held' g d) (grows : w.events <+: w'.events) : w'.Ran held' d := by
  obtain ⟨g, on, recorded⟩ := ran
  exact ⟨g, more g d on, grows.subset recorded⟩

theorem Cleared.mono {sent sent' : Nat → List Message} {held held' : Nat → Nat → Prop} {d : Nat}
    (cleared : w.Cleared sent held d) (longer : ∀ d, sent d <+: sent' d)
    (more : ∀ g d, held g d → held' g d) (grows : w.events <+: w'.events) :
    w'.Cleared sent' held' d :=
  ⟨(longer d).subset cleared.1, cleared.2.mono more grows⟩

/-- What a driven run keeps true of `sent`, `held` and `heard`. Each queue is the end of what was
sent on its connection. What was sent begins with `initialize` and after it holds only answers and
`initialized`, unless a session on the connection has run, and then `initialized` comes first.
Every answer heard came after `initialize` was sent. A running session has capabilities heard on
its connection, and `initialized` sent after them. The connections a stop waits on, or that a
task holds a call for, are cleared. Every handshake under way is tied to its session. Each
connection has held a session of one generation at most, and the session held now is among
them. -/
structure Handshakes (w : World) (sent : Nat → List Message) (held : Nat → Nat → Prop)
    (heard : Nat → Negotiated → List Message → Prop) : Prop where
  pending : ∀ d, (w.conn d).outbound <:+ sent d
  unopened : ∀ d, w.conns.size ≤ d → sent d = []
  opened : ∀ d < w.conns.size, ∃ params after,
    sent d = .request (.number 0) "initialize" params :: after ∧
      (Quiet after ∨ Shaken after ∧ w.Ran held d)
  answered : ∀ d caps ms, heard d caps ms →
    ∃ params rest, ms = .request (.number 0) "initialize" params :: rest
  running : ∀ r, w.Runs r → ∃ caps ms post, r.capabilities = some caps ∧ heard r.conn caps ms ∧
    sent r.conn = ms ++ post ∧ initializedNote ∈ post
  stopping : ∀ d, w.StopsOn d → w.Cleared sent held d
  bound : ∀ e ∈ w.tasks, ∀ d, e.2.binds = some d → w.Cleared sent held d
  tied : w.Tied
  present : ∀ g d, held g d → d < w.conns.size
  single : ∀ g g' d, held g d → held g' d → g = g'
  current : ∀ g d, w.HeldOn g d → held g d

namespace Handshakes

variable {sent : Nat → List Message} {held : Nat → Nat → Prop}
  {heard : Nat → Negotiated → List Message → Prop}

theorem start (fresh : w.Fresh) (empty : w.conns.size = 0) (idle : w.tasks = []) :
    w.Handshakes (fun d => (w.conn d).outbound) w.HeldOn fun _ _ _ => False := by
  obtain ⟨s, found, stopped, -, empty₀, -⟩ := fresh.record
  have record := supervision_eq found
  refine ⟨fun d => List.suffix_refl _, fun d _ => ?_, fun d below => absurd below (by omega),
    fun _ _ _ no => no.elim, fun r now => ?_, fun d now => ?_, fun e mem => by simp [idle] at mem,
    fun j _ _ _ _ _ _ mem => by simp [idle] at mem, fun g d now => ?_, fun g g' d now => ?_,
    fun g d now => now⟩
  · rw [conn_of_size_le (by omega)]
  · rw [Runs, record, stopped] at now
    cases now.1
  · obtain ⟨j, handle, op, gen, call, mem⟩ := now
    simp [idle] at mem
  all_goals
    obtain ⟨r, session, -⟩ := now
    rw [record, empty₀] at session
    cases session

/-- A running session has `initialized` sent on its connection. -/
theorem initialized_of_runs (inv : w.Handshakes sent held heard) {r : SessionRecord}
    (runs : w.Runs r) : initializedNote ∈ sent r.conn := by
  obtain ⟨caps, ms, post, -, -, split, note⟩ := inv.running r runs
  rw [split]
  exact List.mem_append_right ms note

/-- Every answer heard once a move from `w` is made came after `initialize` was sent. -/
theorem answered_through (inv : w.Handshakes sent held heard) :
    ∀ d caps ms, heardThrough heard sent w d caps ms →
      ∃ params rest, ms = .request (.number 0) "initialize" params :: rest := by
  rintro d caps ms (old | ⟨now, rfl⟩)
  · exact inv.answered d caps ms old
  · obtain ⟨params, after, first, -⟩ := inv.opened d now.present
    exact ⟨params, after, first⟩

/-- A session that runs is of the current generation, whose change to Running is on record, so
its connection is cleared. -/
theorem cleared_of_runs (inv : w.Handshakes sent held heard) (lawful : w.Lawful)
    (recorded : w.StartsRecorded) {r : SessionRecord} (runs : w.Runs r) :
    w.Cleared sent held r.conn := by
  obtain ⟨state, session⟩ := runs
  refine ⟨inv.initialized_of_runs ⟨state, session⟩, r.generation,
    inv.current _ _ ⟨r, session, rfl, rfl⟩, ?_⟩
  rw [lawful.fits.held_current session]
  exact recorded.running state

theorem cleared_of_runningPeer (inv : w.Handshakes sent held heard) (lawful : w.Lawful)
    (recorded : w.StartsRecorded) {d : Nat} (running : w.runningPeer = some d) :
    w.Cleared sent held d := by
  obtain ⟨state, ⟨r, session, rfl⟩, -⟩ := runningPeer_eq_some_iff.mp running
  exact inv.cleared_of_runs lawful recorded ⟨state, session⟩

/-- A stop that finds the state settled and a session it may stop finds it running. -/
theorem cleared_of_stoppable (inv : w.Handshakes sent held heard) (lawful : w.Lawful)
    (recorded : w.StartsRecorded) (settled : w.supervision.Settled) {d : Nat}
    (stoppable : w.Stoppable d) : w.Cleared sent held d := by
  obtain ⟨r, session, rfl, allowed⟩ := stoppable
  exact inv.cleared_of_runs lawful recorded ⟨running_of_stopping settled allowed, session⟩

/-- Every connection a turn of a task may send anything on is cleared. -/
theorem cleared_of_permits (inv : w.Handshakes sent held heard) (lawful : w.Lawful)
    (recorded : w.StartsRecorded) {tid : Nat} {t : Task} (found : w.task? tid = some t) (d : Nat)
    (permits : w.turnPermits tid t d) : w.Cleared sent held d := by
  have mem := mem_of_task? found
  cases t with
  | call handle target call typed =>
    obtain ⟨fresh, direct | ⟨-, running⟩⟩ := permits
    · subst direct
      exact inv.bound _ mem _ (by simp [Task.binds, fresh])
    · exact inv.cleared_of_runningPeer lawful recorded running
  | calls handle c each =>
    obtain ⟨fresh, rfl⟩ := permits
    exact inv.bound _ mem _ (by simp [Task.binds, fresh])
  | lifecycle handle op stage =>
    cases stage with
    | locking =>
      obtain ⟨own | vacant, stoppable⟩ := permits
      · exact inv.cleared_of_stoppable lawful recorded (lawful.atStage mem own) stoppable
      · exact inv.cleared_of_stoppable lawful recorded (lawful.settled_of_free vacant)
          stoppable
    | handshake gen c call timer =>
      obtain ⟨fresh, rfl⟩ := permits
      exact inv.bound _ mem _ (by simp [Task.binds, fresh])
    | shutdown gen c call =>
      subst permits
      exact inv.stopping d ⟨tid, handle, op, gen, call, mem⟩
    | clearing c => cases permits
    | grace gen c timer => cases permits
    | killed gen c => cases permits
  | restartDelay gen delay timer =>
    obtain ⟨own | vacant, stoppable⟩ := permits
    · -- the lock is held by an operation, which this restart's delay is not
      obtain ⟨handle, op, stage, mem'⟩ := lawful.holder_operation own
      cases lawful.numbered.eq_of_mem mem mem'
    · exact inv.cleared_of_stoppable lawful recorded (lawful.settled_of_free vacant) stoppable
  | reader c started ended => cases permits
  | writer c => cases permits
  | handler c i method work => cases permits
  | monitor c gen watch => cases permits
  | timed c action timer => cases permits

/-- A handshake under way holds the lock, so it finds the session of its generation. -/
theorem handshake_tied (inv : w.Handshakes sent held heard) (lawful : w.Lawful) {tid : Nat} {t : Task}
    (found : w.task? tid = some t) :
    ∀ handle op gen c call timer, t = .lifecycle handle op (.handshake gen c call timer) →
      w.Holds gen c ∧ (∀ r, w.supervision.session = some r → r.generation = gen) ∧
        call.Initializes c ∧
          ∀ caps q, w.Heard c caps → (w.conn c).outbound <+: q → w.Answered c caps q := by
  rintro handle op gen c call timer rfl
  have mem := mem_of_task? found
  obtain ⟨holds, waits⟩ := inv.tied tid handle op gen c call timer mem
  refine ⟨holds, fun r session => ?_, waits, fun caps q heard longer => ⟨heard, longer⟩⟩
  have own := lawful.alone tid handle op _ mem (by simp)
  obtain ⟨current, -⟩ := lawful.atStage mem own
  exact (lawful.fits.held_current session).trans current.symm

/-- The step lemma for a move that sends as `Sends S` allows, where every connection of `S` is
cleared: what it queues on a connection opened before goes after what was sent there, and may be
anything only where the handshake is done; a connection it opens begins with `initialize` and
has nothing of the host's after it. -/
theorem sends (inv : w.Handshakes sent held heard) {S : Nat → Prop}
    (sends : Sends S w.Answered w w')
    (cleared : ∀ d, S d → w.Cleared sent held d) (grows : w.events <+: w'.events) :
    w'.Handshakes (sentThrough sent w w') (heldThrough held w') (heardThrough heard sent w) := by
  have longer : ∀ d, sent d <+: sentThrough sent w w' d := fun d => List.prefix_append _ _
  have more : ∀ g d, held g d → heldThrough held w' g d := fun _ _ => .inl
  have mono : ∀ d, w.Cleared sent held d →
      w'.Cleared (sentThrough sent w w') (heldThrough held w') d :=
    fun d clear => clear.mono longer more grows
  have pending : ∀ d, (w'.conn d).outbound <:+ sentThrough sent w w' d := by
    intro d
    obtain ⟨t, split⟩ := inv.pending d
    refine ⟨t, ?_⟩
    rw [append_added (sends.front d), sentThrough, ← split, List.append_assoc]
  -- a session held after the move was held before, or is on a connection the move opened
  have fresh : ∀ g d, heldThrough held w' g d →
      held g d ∨ w.conns.size ≤ d ∧ d < w'.conns.size ∧ w'.HeldOn g d := by
    rintro g d (old | ⟨r', now, rfl, rfl⟩)
    · exact .inl old
    · rcases sends.sessions r' now with ⟨r, before, generation, conn⟩ | ⟨above, below⟩
      · exact .inl (generation ▸ conn ▸ inv.current _ _ ⟨r, before, rfl, rfl⟩)
      · exact .inr ⟨above, below, r', now, rfl, rfl⟩
  refine ⟨pending, fun d big => ?_, fun d below => ?_, inv.answered_through, fun r now => ?_,
    fun d now => ?_, fun e mem d binds => ?_, sends.tied inv.tied, fun g d on => ?_,
    fun g g' d on on' => ?_, fun g d now => .inr now⟩
  · -- a connection not yet opened has nothing sent
    have before : w.conns.size ≤ d := Nat.le_trans sends.grows big
    simp [sentThrough, inv.unopened d before, added, conn_of_size_le big]
  · by_cases old : d < w.conns.size
    · obtain ⟨params, after, first, state⟩ := inv.opened d old
      refine ⟨params, after ++ w.added w' d, by rw [sentThrough, first, List.cons_append], ?_⟩
      rcases state with quiet | ⟨shaken, ran⟩
      · by_cases own : S d
        · -- the move may send anything on `d`, so its handshake is done
          obtain ⟨note, ran⟩ := cleared d own
          rw [first] at note
          exact .inr ⟨(quiet.shaken (initializedNote_mem_after note)).append _,
            ran.mono more grows⟩
        · exact .inl (quiet.append fun m mem =>
            (sends.allowed d old m mem).imp_right (·.resolve_right own))
      · exact .inr ⟨shaken.append _, ran.mono more grows⟩
    · -- a connection the move opened: the handshake is not done there, so only answers and
      -- `initialized` follow `initialize`
      have above : w.conns.size ≤ d := Nat.le_of_not_lt old
      obtain ⟨params, rest, opening, allows⟩ := sends.opened d above below
      have unsent : sent d = [] := inv.unopened d above
      have whole : w.added w' d = (w'.conn d).outbound := by
        simp [added, conn_of_size_le above]
      refine ⟨params, rest, by rw [sentThrough, unsent, whole, opening]; rfl, .inl fun m mem => ?_⟩
      rcases allows m mem with answer | note | own
      · exact .inl answer
      · exact .inr note
      · have note := (cleared d own).1
        rw [unsent] at note
        cases note
  · rcases sends.runs r now with old | ⟨caps, q, post, noted, ⟨known, grown⟩, queued, note⟩
    · obtain ⟨caps, ms, post, noted, known, split, note⟩ := inv.running r old
      exact ⟨caps, ms, post ++ w.added w' r.conn, noted, .inl known,
        by rw [sentThrough, split, List.append_assoc], List.mem_append_left _ note⟩
    · -- the move noted capabilities heard in `w`, and queued `initialized` after them
      exact ⟨caps, sent r.conn, w.added w' r.conn, noted, .inr ⟨known, rfl⟩, rfl,
        mem_added_of_prefix (sends.front _) grown queued note⟩
  · rcases sends.stops d now with old | own
    · exact mono d (inv.stopping d old)
    · exact mono d (cleared d own)
  · rcases sends.unbound e mem with unbound | old
    · rw [unbound] at binds
      cases binds
    · exact mono d (inv.bound e old d binds)
  · rcases fresh g d on with old | ⟨-, below, -⟩
    · exact Nat.lt_of_lt_of_le (inv.present g d old) sends.grows
    · exact below
  · rcases fresh g d on with old | ⟨above, -, r, now, rfl, rfl⟩ <;>
      rcases fresh g' _ on' with old' | ⟨above', -, r', now', rfl, conn⟩
    · exact inv.single g g' _ old old'
    · exact absurd (inv.present g _ old) (Nat.not_lt_of_le above')
    · exact absurd (inv.present g' _ old') (Nat.not_lt_of_le above)
    · rw [now] at now'
      cases now'
      rfl

/-- The step lemma for a move that keeps the supervisor and the connections there are, only takes
from the front of queues, and gives new tasks calls only for cleared connections. -/
theorem keeping (inv : w.Handshakes sent held heard) (keeps : KeepsSupervisor w w')
    (size : w'.conns.size = w.conns.size)
    (queues : ∀ d, (w'.conn d).outbound <:+ (w.conn d).outbound)
    (tasks : ∀ e ∈ w'.tasks, ∀ d, e.2.binds = some d → e ∈ w.tasks ∨ w.Cleared sent held d) :
    w'.Handshakes (sentThrough sent w w') (heldThrough held w') (heardThrough heard sent w) := by
  -- nothing is queued, and the sessions held are those held before
  have same : ∀ d, sentThrough sent w w' d = sent d := fun d => by
    rw [sentThrough, added, List.drop_eq_nil_of_le (queues d).length_le, List.append_nil]
  have sessions : ∀ g d, w'.HeldOn g d ↔ w.HeldOn g d := by
    simp [HeldOn, supervision, keeps.sup]
  have heldSame : ∀ g d, heldThrough held w' g d ↔ held g d := fun g d =>
    ⟨fun on => on.elim id fun now => inv.current g d ((sessions g d).mp now), .inl⟩
  have ran : ∀ d, w'.Ran (heldThrough held w') d ↔ w.Ran held d := by
    simp [Ran, heldSame, keeps.events]
  have cleared : ∀ d, w'.Cleared (sentThrough sent w w') (heldThrough held w') d ↔
      w.Cleared sent held d := by
    simp [Cleared, same, ran]
  refine ⟨fun d => ?_, fun d big => ?_, fun d below => ?_, inv.answered_through, fun r now => ?_,
    fun d now => (cleared d).mpr (inv.stopping d (StopsOn.of_operations keeps.operations now)),
    fun e mem d binds => ?_, ?_, fun g d on => ?_,
    fun g g' d on on' => inv.single g g' d ((heldSame g d).mp on) ((heldSame g' d).mp on'),
    fun g d now => .inr now⟩
  · rw [same]
    exact (queues d).trans (inv.pending d)
  · rw [same]
    exact inv.unopened d (size ▸ big)
  · obtain ⟨params, after, first, state⟩ := inv.opened d (size ▸ below)
    exact ⟨params, after, by rw [same, first], state.imp_right fun later =>
      ⟨later.1, (ran d).mpr later.2⟩⟩
  · obtain ⟨caps, ms, post, noted, known, split, note⟩ :=
      inv.running r ((Runs.of_sup keeps.sup).mp now)
    exact ⟨caps, ms, post, noted, .inl known, by rw [same, split], note⟩
  · rcases tasks e mem d binds with old | clear
    · exact (cleared d).mpr (inv.bound e old d binds)
    · exact (cleared d).mpr clear
  · exact Tied.of_sup keeps.sup size.ge
      (fun _ _ _ _ _ _ _ mem => (mem_of_operations_eq keeps.operations).mp mem) inv.tied
  · rw [size]
    exact inv.present g d ((heldSame g d).mp on)

/-- A turn of any task keeps the invariant: a writer's only takes from the front of its queue,
and any other sends as its kind permits, on connections that are cleared. -/
theorem turn (inv : w.Handshakes sent held heard) (lawful : w.Lawful) (recorded : w.StartsRecorded)
    (tid : Nat) :
    (w.pollTask tid).Handshakes (sentThrough sent w (w.pollTask tid))
      (heldThrough held (w.pollTask tid))
      (heardThrough heard sent w) := by
  cases found : w.task? tid with
  | none =>
    have idle : w.pollTask tid = w := by simp only [World.pollTask, found]
    rw [idle]
    exact inv.sends (Sends.refl (S := fun _ => False) w) (fun _ no => no.elim)
      (List.prefix_refl _)
  | some t =>
    by_cases writes : ∃ c, t = .writer c
    · obtain ⟨c, rfl⟩ := writes
      have writing : w.pollTask tid = w.pollWriter tid c := by simp only [World.pollTask, found]
      have own : w.NotOperation tid := fun t' mem' => by
        rw [lawful.numbered.eq_of_mem mem' (mem_of_task? found)]
        rfl
      have drains := Drains.pollWriter w tid c
      rw [writing]
      exact inv.keeping (KeepsSupervisor.pollWriter own c) drains.size drains.queues
        fun e mem d binds => .inl ((drains.unbound e mem).resolve_left fun unbound => by
          rw [unbound] at binds
          cases binds)
    · exact inv.sends (Sends.pollTask w tid found (fun c same => writes ⟨c, same⟩)
        (inv.handshake_tied lawful found)) (inv.cleared_of_permits lawful recorded found)
        (lawful.turn tid).grows

/-- The step lemma: every move a host drives keeps the invariant. -/
theorem drive (inv : w.Handshakes sent held heard) (lawful : w.Lawful) (recorded : w.StartsRecorded)
    (move : Drive w w') :
    w'.Handshakes (sentThrough sent w w') (heldThrough held w') (heardThrough heard sent w) := by
  cases move with
  | request handle op host =>
    exact inv.sends (Sends.spawn (S := fun _ => False) w rfl rfl) (fun _ no => no.elim)
      (by simp [World.spawn])
  | failLaunch reason =>
    exact inv.sends (Sends.update (S := fun _ => False) w _ (fun _ => rfl) (fun _ => rfl)
      (fun _ => rfl)) (fun _ no => no.elim) (by simp)
  | turn tid => exact inv.turn lawful recorded tid
  | outside sends running keeps lasts =>
    exact inv.sends sends (fun d own => inv.cleared_of_runningPeer lawful recorded (running d own))
      (by rw [keeps.events])
  | publish handle c each running =>
    refine inv.keeping (KeepsSupervisor.spawn rfl) rfl (fun d => List.suffix_refl _) ?_
    intro e mem d binds
    rcases List.mem_append.mp mem with old | new
    · exact .inl old
    · -- the calls made together go to the running session
      rw [List.mem_singleton.mp new] at binds
      have same : c = d := by
        simp only [Task.binds] at binds
        split at binds
        · cases binds
          rfl
        · cases binds
      exact .inr (same ▸ inv.cleared_of_runningPeer lawful recorded running)

end Handshakes

/-- The run lemma: along every driven run from a fresh supervisor with no connection and no task,
the invariant holds. -/
theorem Driven.handshakes {w₀ : World} {sent : Nat → List Message} {held : Nat → Nat → Prop}
    {heard : Nat → Negotiated → List Message → Prop} (fresh : w₀.Fresh) (empty : w₀.conns.size = 0)
    (idle : w₀.tasks = []) (run : Driven w₀ w sent held heard) : w.Handshakes sent held heard := by
  induction run with
  | start => exact .start fresh empty idle
  | step before move ih =>
    have moves := before.moves
    exact ih.drive (fresh.lawful.run (Move.run moves)) (.run fresh moves) move

/-! ### The handshake comes first -/

/-- What a run promises of the handshake.

`opened`: every connection opened begins with `initialize` under id 0. After it come only answers to
the server and `initialized`, unless a session on it has run; then `initialized` comes before
anything but answers. `running`: a session runs only once three things have happened on its
connection, in this order: the `initialize` request was sent under id 0; the server's answer to it
came, a result holding the session's capabilities, while `initialize` and `ms` had been sent; and
`initialized` was sent after them, before anything but answers. `failed`: a generation that crashed
while Starting never ran. Only answers and `initialized` were sent on a connection that held a
session of it. -/
structure HandshakeFirst (w : World) (sent : Nat → List Message) (held : Nat → Nat → Prop)
    (heard : Nat → Negotiated → List Message → Prop) : Prop where
  opened : ∀ d < w.conns.size, ∃ params after,
    sent d = .request (.number 0) "initialize" params :: after ∧
      (Quiet after ∨ Shaken after ∧ w.Ran held d)
  running : ∀ r, w.Runs r → ∃ params caps ms post,
    sent r.conn = .request (.number 0) "initialize" params :: (ms ++ post) ∧
      heard r.conn caps (.request (.number 0) "initialize" params :: ms) ∧
      r.capabilities = some caps ∧ initializedNote ∈ post ∧ Shaken (ms ++ post)
  failed : ∀ g, .stateChanged g .starting .crashed ∈ w.events →
    (∀ before, .stateChanged g before .running ∉ w.events) ∧
      ∀ d, held g d → ∃ params after,
        sent d = .request (.number 0) "initialize" params :: after ∧ Quiet after

theorem Handshakes.first {sent : Nat → List Message} {held : Nat → Nat → Prop}
    {heard : Nat → Negotiated → List Message → Prop} (inv : w.Handshakes sent held heard)
    (recorded : w.StartsRecorded) : w.HandshakeFirst sent held heard where
  opened := inv.opened
  running r now := by
    obtain ⟨caps, ms, post, noted, known, split, note⟩ := inv.running r now
    -- the answer came once `initialize` had been sent, which opens what was sent
    obtain ⟨params, rest, rfl⟩ := inv.answered _ _ _ known
    have on := inv.present _ _ (inv.current _ _ ⟨r, now.2, rfl, rfl⟩)
    obtain ⟨params', after, first, state⟩ := inv.opened r.conn on
    rw [split, List.cons_append, List.cons.injEq] at first
    obtain ⟨-, same⟩ := first
    have shaken : Shaken after := by
      rcases state with quiet | ⟨shaken, -⟩
      · exact quiet.shaken (same ▸ List.mem_append_right rest note)
      · exact shaken
    exact ⟨params, caps, rest, post, by rw [split, List.cons_append], known, noted, note,
      same ▸ shaken⟩
  failed g crashed := by
    refine ⟨recorded.failed g crashed, fun d on => ?_⟩
    obtain ⟨params, after, first, quiet | ⟨-, g', on', ran⟩⟩ := inv.opened d (inv.present g d on)
    · exact ⟨params, after, first, quiet⟩
    · -- the session that ran on `d` is of the generation that crashed while Starting
      rw [inv.single g' g d on' on] at ran
      exact absurd ran (recorded.failed g crashed .starting)

/-- The handshake comes before any traffic of the host. Take a run the host drives from a fresh
supervisor with no connection and no task. Everything sent on a connection begins with the
`initialize` request under id 0. After it come only answers to the server's requests and the
`initialized` notification, unless a session on the connection has run; then `initialized` comes
before anything but answers, so every request, notification or cancellation of the host comes
after it. A session runs only once three things have happened on its connection, in this order:
the `initialize` request went out under id 0; the server's answer to it came, a result whose
`capabilities` object the session's capabilities are read from (`heard`); and `initialized` was
sent. A handshake that
fails or runs out of time while its generation is Starting records that generation's crash from
Starting. A generation so crashed never has a change to Running on record, and only answers and
`initialized` are ever sent on a connection that held a session of it. -/
theorem handshake_before_host_traffic {w₀ w : World} {sent : Nat → List Message}
    {held : Nat → Nat → Prop} {heard : Nat → Negotiated → List Message → Prop} (fresh : w₀.Fresh)
    (empty : w₀.conns.size = 0) (idle : w₀.tasks = []) (run : Driven w₀ w sent held heard) :
    w.HandshakeFirst sent held heard ∧
      ∀ (v : World) (tid : Nat) (handle : Option Nat) (g d : Nat), v.sup.isSome →
        v.supervision.generation = g → v.supervision.state = .starting →
        (∀ failure, .stateChanged g .starting .crashed ∈
          (v.failHandshake tid handle g d failure).events) ∧
        ∀ call, .stateChanged g .starting .crashed ∈
          (v.handshakeTimeout tid handle g d call).events := by
  refine ⟨(run.handshakes fresh empty idle).first (.run fresh run.moves), ?_⟩
  intro v tid handle g d supervised current starting
  exact ⟨fun failure => changes_failHandshake supervised current starting tid handle d failure,
    fun call => changes_handshakeTimeout supervised current starting tid handle d call⟩

/-- A start whose launch fails crashes generation 1; a second start launches generation 2 and sends
its `initialize`, the server answers it, the reader takes the answer in and the handshake's turn
ends it, and the session runs. -/
theorem handshake_before_host_traffic_after_failed_launch :
    World.Fresh { sup := some { config := Config.new "java" "/work/demo" } } ∧
      ({ sup := some { config := Config.new "java" "/work/demo" } } : World).conns.size = 0 ∧
      ({ sup := some { config := Config.new "java" "/work/demo" } } : World).tasks = [] ∧
      ∃ w sent held heard,
        Driven { sup := some { config := Config.new "java" "/work/demo" } } w sent held heard ∧
        w.HandshakeFirst sent held heard := by
  have fresh : World.Fresh { sup := some { config := Config.new "java" "/work/demo" } } :=
    ⟨⟨by simp, by simp⟩, rfl, rfl, _, rfl, rfl, rfl, rfl, rfl, rfl⟩
  have launched := ((((Driven.step
    (@Driven.start { sup := some { config := Config.new "java" "/work/demo" } })
      (.failLaunch _ "no java")).step (.request _ (some 0) .start rfl)).step (.turn _ 0)).step
        (.request _ (some 1) .start rfl)).step (.turn _ 1)
  have answered := launched.step (Drive.serverWrite (d := 0) (Frame.encode (Utf8.encode
    "\x7b\"id\":0,\"result\":\x7b\"capabilities\":\x7b\"hoverProvider\":true\x7d\x7d\x7d")) rfl)
  have run := (answered.step (.turn _ 2)).step (.turn _ 1)
  exact ⟨fresh, rfl, rfl, _, _, _, _, run, (handshake_before_host_traffic fresh rfl rfl run).1⟩

end World

end Engine

end LspBridge
