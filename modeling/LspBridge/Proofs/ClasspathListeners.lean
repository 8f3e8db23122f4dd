import LspBridge.Proofs.ListenerFrame
import LspBridge.Proofs.GracefulShutdown
import LspBridge.Proofs.CallLedger
import LspBridge.Proofs.SessionTraffic
import LspBridge.Proofs.SessionInvariant
import Mathlib
/-!
# Classpath listeners

The server registers classpath listeners with `sts/addClasspathListener` and removes them with
`sts/removeClasspathListener`; both carry a callback command id. The client keeps the registry as
the sorted list of those ids, and reports a classpath change (`World.publish`) by one
`workspace/executeCommand` call per registered id, made together, counting the calls that
succeeded.

The params of both requests read as a record with one required string (`callbackCommandId?`). A
request whose params read is answered with an empty object and adds or removes its id; one whose
params do not read is answered with `-32602` and changes nothing. The registry is a map from ids to
params that hold nothing but the id, so it is the set of ids (`HandlerRun.register`).

Main statement (`classpath_listeners_follow_requests`):

* over every run of the client's turns (`Turns`), whatever runs between the handlers, the registry
  is the sorted list of the set that inserting and deleting, in the order the handlers ran, gives;
* the first turn of a publication queues one request per listener of the snapshot it was given, in
  its order, under consecutive ids, with the command and the update as params, while the
  connection is open and its writer there; no later turn queues anything;
* once every call has ended, the task reports the number of calls that ended with a result, and a
  call ends with a result only by taking a success response; an error response, a cancellation, a
  closed connection or a timeout ends it with an error.
-/

namespace LspBridge

namespace Sts

open Json

/-- The callback command of classpath listener params, read as a record with one required string:
the `callbackCommandId` member of an object, or the one item of an array. -/
def callbackCommandId? : Value → Option String
  | .object members => (lookupMember "callbackCommandId" members).bind Value.asString?
  | .array [v] => v.asString?
  | _ => none

/-- The one field of the params, given and checked, is written back exactly when it is a
string. -/
theorem normalizeFields_callbackCommandId (v : Value) :
    Shape.normalizeFields [Shape.req "callbackCommandId" Shape.text] [(some v, true)] =
      v.asString?.map fun id => Value.obj [("callbackCommandId", .string id)] := by
  cases v <;> simp [Shape.normalizeFields, Shape.normalize?, Shape.text, Shape.req, Value.asString?,
    Value.obj, Value.insert, insertMember]

/-- The shape of the params reads exactly the callback ids `callbackCommandId?` reads. -/
theorem classpathListenerParams_normalize? (params : Value) :
    classpathListenerParams.normalize? params =
      (callbackCommandId? params).map fun id => Value.obj [("callbackCommandId", .string id)] := by
  cases params with
  | object members =>
    cases found : lookupMember "callbackCommandId" members with
    | none =>
      simp [classpathListenerParams, Shape.recordOf, Shape.normalize?, objectFields, Shape.req, found,
        callbackCommandId?]
    | some v =>
      simp only [classpathListenerParams, Shape.recordOf, Shape.normalize?, objectFields, Shape.req,
        found, callbackCommandId?]
      exact normalizeFields_callbackCommandId v
  | array items =>
    -- the array form holds the one field and nothing after it
    rcases items with _ | ⟨v, _ | ⟨next, rest⟩⟩
    · simp [classpathListenerParams, Shape.recordOf, Shape.req, Shape.normalize?, arrayFields,
        callbackCommandId?]
    · simpa [classpathListenerParams, Shape.recordOf, Shape.normalize?, arrayFields,
        callbackCommandId?] using normalizeFields_callbackCommandId v
    · simp [classpathListenerParams, Shape.recordOf, Shape.req, Shape.normalize?, arrayFields,
        callbackCommandId?]
  | _ => simp [classpathListenerParams, Shape.recordOf, Shape.normalize?, callbackCommandId?]

end Sts

namespace Client

open Json Rpc Sts

/-! ### The sorted list of ids -/

theorem mem_insertName {s x : String} {l : List String} :
    x ∈ insertName s l ↔ x = s ∨ x ∈ l := by
  induction l with
  | nil => simp [insertName]
  | cons t rest ih =>
    unfold insertName
    split
    · rename_i same
      subst same
      simp
    · split
      · simp
      · simp only [List.mem_cons, ih]
        tauto

/-- A name inserted into a strictly increasing list keeps it strictly increasing. -/
theorem pairwise_insertName {s : String} {l : List String} (sorted : l.Pairwise (· < ·)) :
    (insertName s l).Pairwise (· < ·) := by
  induction l with
  | nil => simp [insertName]
  | cons t rest ih =>
    obtain ⟨below, sortedRest⟩ := List.pairwise_cons.mp sorted
    unfold insertName
    split
    · exact sorted
    · split
      · rename_i _ lower
        -- the name goes before `t`, and so before everything after it
        refine List.pairwise_cons.mpr ⟨fun x mem => ?_, sorted⟩
        rcases List.mem_cons.mp mem with rfl | later
        · exact lower
        · exact lower.trans (below x later)
      · rename_i differ notLower
        have above : t < s := lt_of_le_of_ne (not_lt.mp notLower) (Ne.symm differ)
        refine List.pairwise_cons.mpr ⟨fun x mem => ?_, ih sortedRest⟩
        rcases mem_insertName.mp mem with rfl | later
        · exact above
        · exact below x later

/-! ### What a handler does to the listeners -/

/-- What a handler leaves of the registered listeners: an add inserts its callback id, a remove
deletes it, both only when the params read; every other handler leaves them alone. -/
def RequestHandler.listenersAfter (h : RequestHandler) (params : Value) (ls : List String) :
    List String :=
  match h, callbackCommandId? params with
  | .addClasspathListener, some id => insertName id ls
  | .removeClasspathListener, some id => ls.filter (· != id)
  | _, _ => ls

theorem field_callbackCommandId (id : String) :
    (Value.obj [("callbackCommandId", .string id)]).field "callbackCommandId" = .string id := by
  simp [Value.obj, insertMember, Value.field, Value.get?, lookupMember]

theorem react_listeners (h : RequestHandler) (method : String) (params : Value) (model : JavaModel)
    (ls : List String) :
    (h.react method params model ls).listeners = h.listenersAfter params ls := by
  cases h with
  | addClasspathListener | removeClasspathListener =>
    simp only [RequestHandler.react, classpathListenerParams_normalize?]
    cases read : callbackCommandId? params with
    | none => simp [RequestHandler.listenersAfter, read]
    | some id => simp [RequestHandler.listenersAfter, read, field_callbackCommandId]
  | javaHierarchy sub =>
    simp only [RequestHandler.react]
    split
    · split
      · rfl
      · split <;> rfl
    · rfl
  | javaType | javadocHoverLink | javaLocation | javaSearchTypes | workspaceConfiguration settings =>
    -- the typed handlers answer from the model and leave the listeners as they were
    simp only [RequestHandler.react]
    split <;> rfl
  | constant v | echo | fail e | panic | sleep ms => rfl

/-- Both listener requests answer an empty object when their params read, and `-32602` naming the
method and the reason otherwise. -/
theorem react_listener_reaction {h : RequestHandler}
    (listener : h = .addClasspathListener ∨ h = .removeClasspathListener) (method : String)
    (params : Value) (model : JavaModel) (ls : List String) :
    (h.react method params model ls).reaction =
      (callbackCommandId? params).elim
        (.reply (.error (invalidParams method (classpathListenerParams.refusal params))))
        fun _ => .reply (.ok (Value.obj [])) := by
  rcases listener with rfl | rfl <;>
  · simp only [RequestHandler.react, classpathListenerParams_normalize?]
    cases read : callbackCommandId? params with
    | none => rfl
    | some id => simp [field_callbackCommandId]

end Client

namespace Engine

open Json Rpc Client

/-! ### The registry as a set of ids -/

/-- The registry after a handler run, as the set of callback ids it holds: an add inserts its id
(an id added again replaces its entry, which holds nothing but the id), a remove deletes it, both
only when the params read; every other handler leaves it alone. -/
def HandlerRun.register (run : HandlerRun) (s : Finset String) : Finset String :=
  match run.handler, Sts.callbackCommandId? run.params with
  | .addClasspathListener, some id => insert id s
  | .removeClasspathListener, some id => s.erase id
  | _, _ => s

/-- A list of ids stands for a set of them: it is strictly increasing, with exactly its
members. -/
structure Represents (ls : List String) (s : Finset String) : Prop where
  sorted : ls.Pairwise (· < ·)
  mem_iff : ∀ id, id ∈ ls ↔ id ∈ s

namespace Represents

variable {ls : List String} {s : Finset String}

theorem empty : Represents [] ∅ :=
  ⟨.nil, by simp⟩

theorem insertName (rep : Represents ls s) (id : String) :
    Represents (Client.insertName id ls) (insert id s) :=
  ⟨pairwise_insertName rep.sorted, fun x => by simp [mem_insertName, rep.mem_iff]⟩

theorem filter (rep : Represents ls s) (id : String) :
    Represents (ls.filter (· != id)) (s.erase id) :=
  ⟨rep.sorted.filter _, fun x => by simp [rep.mem_iff, and_comm]⟩

/-- One handler run moves the list as it moves the set. -/
theorem after (rep : Represents ls s) (run : HandlerRun) :
    Represents (run.handler.listenersAfter run.params ls) (run.register s) := by
  obtain ⟨h, method, params⟩ := run
  cases h
  case addClasspathListener =>
    cases read : Sts.callbackCommandId? params with
    | none => simpa [RequestHandler.listenersAfter, HandlerRun.register, read] using rep
    | some id =>
      simp only [RequestHandler.listenersAfter, HandlerRun.register, read]
      exact rep.insertName id
  case removeClasspathListener =>
    cases read : Sts.callbackCommandId? params with
    | none => simpa [RequestHandler.listenersAfter, HandlerRun.register, read] using rep
    | some id =>
      simp only [RequestHandler.listenersAfter, HandlerRun.register, read]
      exact rep.filter id
  all_goals exact rep

/-- A strictly increasing list is the sorted list of the set it stands for. -/
theorem eq_sort (rep : Represents ls s) : ls = s.sort (· ≤ ·) :=
  (List.sortedLT_iff_pairwise.mpr rep.sorted).eq_of_mem_iff (Finset.sortedLT_sort s) fun id => by
    rw [rep.mem_iff, Finset.mem_sort]

end Represents

/-! ### Runs of the client -/

/-- Turns of the client's tasks from `w₀`, with the handler runs they made, in order. Between turns
the world may change from outside (the servers write, the host asks for something, the clock
moves) as long as the listeners are left alone. -/
inductive Turns (w₀ : World) : List HandlerRun → World → Prop where
  | start : Turns w₀ [] w₀
  | turn {runs : List HandlerRun} {w : World} (before : Turns w₀ runs w) (tid : Nat) :
      Turns w₀ (runs ++ (w.handlerRun? tid).toList) (w.pollTask tid)
  | outside {runs : List HandlerRun} {w w' : World} (before : Turns w₀ runs w)
      (keeps : w'.listeners = w.listeners) : Turns w₀ runs w'

/-- The registry a list of handler runs leaves, from a given set. -/
def registryAfter (s : Finset String) (runs : List HandlerRun) : Finset String :=
  runs.foldl (fun s run => run.register s) s

/-- A turn moves the listeners as the handler it runs, if any, moves the set. -/
theorem Represents.turn {w : World} {s : Finset String} (rep : Represents w.listeners s)
    (tid : Nat) :
    Represents (w.pollTask tid).listeners (registryAfter s (w.handlerRun? tid).toList) := by
  rw [World.listeners_pollTask]
  cases w.handlerRun? tid with
  | none => exact rep
  | some run =>
    rw [Option.elim_some, react_listeners]
    exact rep.after run

/-- Over every run, the listeners stand for the set the handler runs leave. -/
theorem Turns.represents {w₀ w : World} {runs : List HandlerRun} (run : Turns w₀ runs w)
    {s₀ : Finset String} (start : Represents w₀.listeners s₀) :
    Represents w.listeners (registryAfter s₀ runs) := by
  induction run with
  | start => exact start
  | turn before tid ih =>
    rw [registryAfter, List.foldl_append]
    exact ih.turn tid
  | outside before keeps ih =>
    rw [keeps]
    exact ih

/-! ### Publishing: what goes out -/

/-- A change that keeps the next id connection `c` hands out and whether its table is closed. -/
structure KeepsCounter (c : Nat) (w w' : World) : Prop where
  nextId : (w'.conn c).nextId = (w.conn c).nextId
  closed : (w'.conn c).pending.closed = (w.conn c).pending.closed

namespace KeepsCounter

variable {c : Nat} {w w₁ w₂ w₃ : World}

theorem refl (w : World) : KeepsCounter c w w :=
  ⟨rfl, rfl⟩

theorem trans (first : KeepsCounter c w₁ w₂) (second : KeepsCounter c w₂ w₃) :
    KeepsCounter c w₁ w₃ :=
  ⟨second.nextId.trans first.nextId, second.closed.trans first.closed⟩

instance : IsPreorder World (KeepsCounter c) where
  refl := KeepsCounter.refl
  trans _ _ _ := KeepsCounter.trans

theorem of_conn {w w' : World} (same : w'.conn c = w.conn c) : KeepsCounter c w w' :=
  ⟨by rw [same], by rw [same]⟩

theorem of_conns {w w' : World} (conns : w'.conns = w.conns) : KeepsCounter c w w' :=
  of_conn (by simp [World.conn, conns])

/-- A change of a connection that keeps its counter. -/
theorem modifyConn (w : World) (d : Nat) {f : Conn → Conn}
    (next : (f (w.conn d)).nextId = (w.conn d).nextId)
    (closed : (f (w.conn d)).pending.closed = (w.conn d).pending.closed) :
    KeepsCounter c w (w.modifyConn d f) := by
  by_cases same : c = d
  · subst same
    rcases World.conn_modifyConn_eq_or w c c f with kept | changed
    · exact of_conn kept
    · exact ⟨by rw [changed, next], by rw [changed, closed]⟩
  · exact of_conn (World.conn_modifyConn_of_ne w f same)

theorem takeFilled (w : World) (d : Nat) (i : RequestId) :
    KeepsCounter c w (w.takeFilled d i).2 := by
  unfold World.takeFilled
  split
  · exact modifyConn w d rfl rfl
  · exact refl w

theorem forget (w : World) (d : Nat) (i : RequestId) : KeepsCounter c w (w.forget d i).2 := by
  unfold World.forget
  split
  · rename_i method p taken
    -- the table a call is taken out of is as closed as it was
    obtain ⟨-, rfl⟩ := (PendingTable.take_eq_some_iff _ _ _ _).mp taken
    exact modifyConn w d rfl (by simp)
  · exact refl w

theorem beginWait (w : World) (d : Nat) (i : RequestId) (method : String) (limit : Option Nat) :
    KeepsCounter c w (w.beginWait d i method limit).1 :=
  World.beginWait_of takeFilled forget (fun _ _ => of_conns rfl) w d i method limit

end KeepsCounter

/-- The requests a publication of `u` to the listeners `ls` queues on a connection that sends,
from id `first`: one `workspace/executeCommand` per listener, in order, under consecutive ids. -/
def publishRequests (first : Int64) (u : Sts.ClasspathUpdate) : List String → List Message
  | [] => []
  | command :: rest =>
    .request (.number first.toInt) "workspace/executeCommand"
        (Value.obj [("command", .string command), ("arguments",
          .array [.string u.projectUri, .string u.name, .bool u.deleted, u.classpath])]) ::
      publishRequests (first + 1) u rest

/-- Whether a call has ended with a result. -/
def Call.succeeded : Call → Bool
  | .finished (.ok _) => true
  | _ => false

@[simp]
theorem Call.succeeded_ok (v : Value) : (Call.finished (.ok v)).succeeded = true :=
  rfl

/-- The connection and id a step of a call takes its outcome from: a fresh call is sent under the
next id of its connection. -/
def World.callSlot (w : World) (c : Nat) : Call → Option (Nat × RequestId)
  | .fresh .. => some (c, .number (w.conn c).nextId.toInt)
  | .issued d i .. | .waiting d i .. => some (d, i)
  | .finished _ => none

/-- An outcome gives a call a result only when it is a success response: an error response, a
cancellation and a closed connection end it with an error. -/
theorem Call.succeeded_result (o : Outcome) (method : String) :
    (Call.finished (o.result method)).succeeded = true ↔ ∃ v, o = .response (.ok v) := by
  cases o with
  | response r => cases r <;> simp [Outcome.result, Call.succeeded]
  | cancelled | unavailable => simp [Outcome.result, Call.succeeded]

/-- Counting the results that are successes counts the calls that ended with a result. -/
theorem length_filter_results {p : Except Error Value → Bool} (okay : ∀ v, p (.ok v) = true)
    (failed : ∀ e, p (.error e) = false) (calls : List Call) :
    ((calls.filterMap Call.result?).filter p).length = (calls.filter Call.succeeded).length := by
  induction calls with
  | nil => rfl
  | cons call rest ih =>
    cases call with
    | finished r =>
      cases r with
      | ok v => simp [Call.result?, List.filter_cons, okay, ih]
      | error e => simp [Call.result?, Call.succeeded, failed, ih]
    -- a call not ended yet has no result and is not counted
    | fresh | issued | waiting => exact ih

namespace World

variable {w : World} {c : Nat}

/-- Sending a call uses up the next id, whatever becomes of the call, and leaves the table as open
or closed as it was. -/
theorem issue_counter (present : c < w.conns.size) (method : String) (params : Value) :
    ((w.issue c method params).2.conn c).nextId = (w.conn c).nextId + 1 ∧
      ((w.issue c method params).2.conn c).pending.closed = (w.conn c).pending.closed := by
  cases closed : (w.conn c).pending.closed with
  | true =>
    rw [issue_of_closed closed, conn_modifyConn_self _ _ _ present]
    exact ⟨rfl, closed⟩
  | false =>
    cases writing : (w.conn c).writerDone with
    | false =>
      obtain ⟨w', issued, sentConn, -⟩ := issue_of_open present method params closed writing
      rw [issued]
      simp [sentConn, conn_registered present, closed]
    | true =>
      -- the call is taken back out of the table, which keeps the counter
      rw [issue_of_writerDone present closed writing]
      have taken := KeepsCounter.forget (c := c) (w.registered c method) c
        (.number (w.conn c).nextId.toInt)
      rw [taken.nextId, taken.closed, conn_registered present]
      exact ⟨rfl, closed⟩

/-- A fresh call uses up the next id of its connection and leaves the table as open or closed as
it was. -/
theorem stepCall_fresh_counter (present : c < w.conns.size) (method : String) (params : Value)
    (limit : Limit) :
    ((w.stepCall c (.fresh method params limit)).1.conn c).nextId = (w.conn c).nextId + 1 ∧
      ((w.stepCall c (.fresh method params limit)).1.conn c).pending.closed =
        (w.conn c).pending.closed := by
  have issued := issue_counter present method params
  unfold stepCall
  dsimp only
  rcases sent : w.issue c method params with ⟨_ | i, w'⟩
  · rw [sent] at issued
    exact issued
  · rw [sent] at issued
    exact ⟨(KeepsCounter.beginWait w' c i method _).nextId.trans issued.1,
      (KeepsCounter.beginWait w' c i method _).closed.trans issued.2⟩

/-- The calls of a turn moved on one after the other, each in the world the one before left. -/
def stepAll (w : World) (c : Nat) : List Call → World × List Call
  | [] => (w, [])
  | call :: rest =>
    let moved := w.stepCall c call
    let after := moved.1.stepAll c rest
    (after.1, moved.2 :: after.2)

/-- A fold that moves each call on and notes it is `stepAll`. -/
theorem foldl_stepCall {f : World × List Call → Call → World × List Call}
    (step : ∀ w done call,
      f (w, done) call = ((w.stepCall c call).1, done ++ [(w.stepCall c call).2]))
    (each : List Call) (w : World) (done : List Call) :
    each.foldl f (w, done) = ((w.stepAll c each).1, done ++ (w.stepAll c each).2) := by
  induction each generalizing w done with
  | nil => simp [stepAll]
  | cons call rest ih => simp [step, ih, stepAll]

/-- A turn of calls made together moves each on in turn; once every call has ended, it reports how
many ended with a result and drops its task, and until then it keeps the calls as they stand. -/
theorem pollCalls_stepAll (tid handle : Nat) (each : List Call) :
    w.pollCalls tid handle c each =
      if (w.stepAll c each).2.all fun call => call.result?.isSome then
        ((w.stepAll c each).1.report handle
          (.count ((w.stepAll c each).2.filter Call.succeeded).length)).dropTask tid
      else (w.stepAll c each).1.setTask tid (.calls handle c (w.stepAll c each).2) := by
  have ended : (((w.stepAll c each).2.filterMap Call.result?).length ==
      (w.stepAll c each).2.length) = (w.stepAll c each).2.all fun call => call.result?.isSome := by
    rw [Bool.eq_iff_iff, beq_iff_eq, List.filterMap_length_eq_length, List.all_eq_true]
  unfold pollCalls
  rw [foldl_stepCall]
  · dsimp only
    rw [List.nil_append, ended, length_filter_results]
    · intro v
      rfl
    · intro e
      rfl
  · intro w done call
    rfl

/-! ### Publishing: what goes out -/

/-- The calls of a publication, all fresh, queue one request per listener, in order, under
consecutive ids, on a connection that sends, and nothing on one that does not. -/
theorem stepAll_publishCalls (u : Sts.ClasspathUpdate) (ls : List String) (w : World)
    (present : c < w.conns.size) :
    Pushes c (if (w.conn c).pending.closed || (w.conn c).writerDone then []
      else publishRequests (w.conn c).nextId u ls) w (w.stepAll c (publishCalls ls u)).1 := by
  induction ls generalizing w with
  | nil => simpa [publishCalls, stepAll, publishRequests] using Pushes.refl (c := c) w
  | cons command rest ih =>
    -- the first call uses up the next id and leaves the connection sending as it was
    have first := Pushes.stepCall_fresh present Sts.executeCommand (u.callbackParams command)
      .byDefault
    have counter := stepCall_fresh_counter present Sts.executeCommand (u.callbackParams command)
      .byDefault
    have later := ih _ (first.size ▸ present)
    rw [first.done, counter.1, counter.2] at later
    have pushed := first.trans later
    have step : (w.stepAll c (publishCalls (command :: rest) u)).1 =
        ((w.stepCall c (.fresh Sts.executeCommand (u.callbackParams command) .byDefault)).1.stepAll
          c (publishCalls rest u)).1 := rfl
    rw [step]
    cases shut : ((w.conn c).pending.closed || (w.conn c).writerDone) <;>
      simpa [shut, publishRequests, Sts.executeCommand, Sts.ClasspathUpdate.callbackParams]
        using pushed

/-- A turn of calls queues what its calls queue: reporting and keeping the task queue nothing. -/
theorem pushes_pollCalls {d : Nat} {xs : List Message} {each : List Call}
    (stepped : Pushes d xs w (w.stepAll c each).1) (tid handle : Nat) :
    Pushes d xs w (w.pollCalls tid handle c each) := by
  rw [pollCalls_stepAll]
  by_cases ended : ((w.stepAll c each).2.all fun call => call.result?.isSome) = true
  · rw [if_pos ended]
    have reported : Pushes d [] (w.stepAll c each).1 ((w.stepAll c each).1.report handle
        (.count ((w.stepAll c each).2.filter Call.succeeded).length)) :=
      Pushes.of_conns rfl rfl rfl
    exact stepped.trans_quiet (reported.trans_quiet (Pushes.dropTask _ tid))
  · rw [if_neg ended]
    exact stepped.trans_quiet (Pushes.setTask _ tid _)

/-- The turn that makes a publication's calls queues their requests and nothing else. -/
theorem pollCalls_publishCalls (present : c < w.conns.size) (tid handle : Nat)
    (u : Sts.ClasspathUpdate) (ls : List String) :
    Pushes c (if (w.conn c).pending.closed || (w.conn c).writerDone then []
      else publishRequests (w.conn c).nextId u ls) w (w.pollCalls tid handle c (publishCalls ls u)) :=
  pushes_pollCalls (stepAll_publishCalls u ls w present) tid handle

/-- Calls already sent, or ended, queue nothing on any connection. -/
theorem stepAll_of_sent (d : Nat) (each : List Call) (sent : ∀ call ∈ each, call.isFresh = false)
    (w : World) : Pushes d [] w (w.stepAll c each).1 := by
  induction each generalizing w with
  | nil => exact Pushes.refl w
  | cons call rest ih =>
    have first : Pushes d [] w (w.stepCall c call).1 := by
      have unsent := sent call List.mem_cons_self
      cases call with
      | fresh => simp [Call.isFresh] at unsent
      | issued d' i method limit => exact Pushes.beginWait w d' i method limit
      | waiting d' i method deadline => exact Pushes.checkWait w d' i method deadline
      | finished r => exact Pushes.refl w
    exact first.trans_quiet (ih (fun call mem => sent call (List.mem_cons_of_mem _ mem)) _)

/-- A turn of calls that are all sent queues nothing on any connection. -/
theorem pollCalls_of_sent (d : Nat) (tid handle : Nat) (each : List Call)
    (sent : ∀ call ∈ each, call.isFresh = false) :
    Pushes d [] w (w.pollCalls tid handle c each) :=
  pushes_pollCalls (stepAll_of_sent d each sent w) tid handle

/-- The calls a turn leaves behind are all sent. -/
theorem isFresh_stepAll (each : List Call) (w : World) :
    ∀ call ∈ (w.stepAll c each).2, call.isFresh = false := by
  induction each generalizing w with
  | nil => simp [stepAll]
  | cons call rest ih =>
    intro moved mem
    rcases List.mem_cons.mp mem with rfl | later
    · exact isFresh_stepCall w c call
    · exact ih _ moved later

/-! ### Publishing: what is counted -/

/-- A change of a connection that keeps every connection's outcomes keeps them all. -/
theorem filled_modifyConn (w : World) (c d : Nat) {f : Conn → Conn}
    (keeps : ∀ k, (f k).filled = k.filled) :
    ((w.modifyConn c f).conn d).filled = (w.conn d).filled := by
  rcases conn_modifyConn_eq_or w d c f with kept | changed
  · rw [kept]
  · rw [changed, keeps]

/-- Sending a call leaves every connection's outcomes as they were. -/
theorem filled_issue (w : World) (c d : Nat) (method : String) (params : Value) :
    ((w.issue c method params).2.conn d).filled = (w.conn d).filled := by
  -- using up the id, registering the call, queueing the request and taking the call back out
  -- each change a connection without touching its outcomes
  unfold issue
  dsimp only
  split
  · rw [filled_modifyConn]
    exact fun _ => rfl
  · split
    · rename_i w' queued
      simp only [enqueue] at queued
      split at queued
      · cases queued
      · cases queued
        rw [conn_wakeWriter, filled_modifyConn, filled_modifyConn, filled_modifyConn] <;>
          exact fun _ => rfl
    · unfold forget
      split
      · rw [filled_modifyConn, filled_modifyConn, filled_modifyConn] <;> exact fun _ => rfl
      · rw [filled_modifyConn, filled_modifyConn] <;> exact fun _ => rfl

/-- A call is sent under the next id of its connection. -/
theorem id_of_issue {method : String} {params : Value} {i : RequestId}
    (issued : (w.issue c method params).1 = .ok i) : i = .number (w.conn c).nextId.toInt := by
  unfold issue at issued
  dsimp only at issued
  split at issued
  · cases issued
  · split at issued
    · injection issued with same
      exact same.symm
    · cases issued

/-- A deadline passing ends a call with a timeout or leaves it waiting, never with a result. -/
theorem expire_not_succeeded (w : World) (d : Nat) (i : RequestId) (method : String) :
    (w.expire d i method).2.succeeded = false := by
  rw [expire_result]
  split <;> rfl

/-- A call ended by an outcome taken for its id has a result only when a success response was
filled in. -/
theorem succeeded_of_taken {d : Nat} {i : RequestId} {method : String} {o : Outcome} {w' : World}
    (taken : w.takeFilled d i = (some o, w'))
    (ok : (Call.finished (o.result method)).succeeded = true) :
    ∃ v, (w.conn d).filled.lookup i = some (.response (.ok v)) := by
  have found := takeFilled_result (w := w) (c := d) i
  rw [taken] at found
  obtain ⟨v, rfl⟩ := (Call.succeeded_result o method).mp ok
  exact ⟨v, found.symm⟩

/-- Waiting on a sent call ends it with a result only by taking a success response filled in for
its id. -/
theorem beginWait_succeeded {d : Nat} {i : RequestId} {method : String} {limit : Option Nat}
    (ok : (w.beginWait d i method limit).2.succeeded = true) :
    ∃ v, (w.conn d).filled.lookup i = some (.response (.ok v)) := by
  unfold beginWait at ok
  split at ok
  · rename_i o w' taken
    exact succeeded_of_taken taken ok
  · -- nothing filled in yet: the call waits, or its deadline ends it with a timeout
    split at ok
    · cases ok
    · dsimp only at ok
      split at ok
      · rw [expire_not_succeeded] at ok
        cases ok
      · cases ok

/-- Checking on a waiting call ends it with a result only by taking a success response filled in
for its id. -/
theorem checkWait_succeeded {d : Nat} {i : RequestId} {method : String} {deadline : Option Timer}
    (ok : (w.checkWait d i method deadline).2.succeeded = true) :
    ∃ v, (w.conn d).filled.lookup i = some (.response (.ok v)) := by
  unfold checkWait at ok
  split at ok
  · rename_i o w' taken
    exact succeeded_of_taken taken ok
  · split at ok
    · split at ok
      · rw [expire_not_succeeded] at ok
        cases ok
      · cases ok
    · cases ok

/-- A step ends a call with a result only when it had one, or by taking a success response filled
in for the id it was sent under. -/
theorem stepCall_succeeded {call : Call} (ok : (w.stepCall c call).2.succeeded = true) :
    call.succeeded = true ∨ ∃ d i v, w.callSlot c call = some (d, i) ∧
      (w.conn d).filled.lookup i = some (.response (.ok v)) := by
  cases call with
  | fresh method params limit =>
    right
    unfold stepCall at ok
    dsimp only at ok
    rcases sent : w.issue c method params with ⟨_ | i, w'⟩
    · rw [sent] at ok
      cases ok
    · rw [sent] at ok
      -- the call went out under the next id, and sending it filled nothing in
      have numbered := id_of_issue (congrArg Prod.fst sent)
      have kept := filled_issue w c c method params
      rw [sent] at kept
      obtain ⟨v, found⟩ := beginWait_succeeded ok
      exact ⟨c, i, v, by rw [numbered]; rfl, kept ▸ found⟩
  | issued d i method limit =>
    obtain ⟨v, found⟩ := beginWait_succeeded ok
    exact .inr ⟨d, i, v, rfl, found⟩
  | waiting d i method deadline =>
    obtain ⟨v, found⟩ := checkWait_succeeded ok
    exact .inr ⟨d, i, v, rfl, found⟩
  | finished r => exact .inl ok

/-! ### The turns of a publication -/

theorem pollTask_calls {tid handle : Nat} {each : List Call}
    (found : w.task? tid = some (.calls handle c each)) :
    w.pollTask tid = w.pollCalls tid handle c each := by
  unfold pollTask
  rw [found]

/-- A turn of calls reports, once every call has ended, how many ended with a result. -/
theorem done_pollCalls (tid handle : Nat) (each : List Call) :
    (w.pollCalls tid handle c each).done = (w.stepAll c each).1.done ++
      if (w.stepAll c each).2.all fun call => call.result?.isSome then
        [(handle, .count ((w.stepAll c each).2.filter Call.succeeded).length)]
      else [] := by
  rw [pollCalls_stepAll]
  by_cases ended : ((w.stepAll c each).2.all fun call => call.result?.isSome) = true
  · simp [ended, report, dropTask]
  · simp [ended, setTask]

/-- A turn of calls ends its task, or keeps it with every call sent. -/
theorem task?_pollCalls (tid handle : Nat) (each : List Call) {t : Task}
    (kept : (w.pollCalls tid handle c each).task? tid = some t) :
    ∃ rest, t = .calls handle c rest ∧ ∀ call ∈ rest, call.isFresh = false := by
  rw [pollCalls_stepAll] at kept
  by_cases ended : ((w.stepAll c each).2.all fun call => call.result?.isSome) = true
  · rw [if_pos ended, task?_dropTask_self] at kept
    cases kept
  · rw [if_neg ended, task?_setTask_self] at kept
    obtain ⟨-, -, stored⟩ := Option.map_eq_some_iff.mp kept
    exact ⟨_, stored.symm, isFresh_stepAll each w⟩

/-- Publishing snapshots the listeners into a new task of calls. -/
theorem task?_publish (handle : Nat) (u : Sts.ClasspathUpdate)
    (unused : w.task? w.nextTask = none) :
    (w.publish handle c u).task? w.nextTask = some (.calls handle c (publishCalls w.listeners u)) := by
  simp only [task?] at unused
  simp [publish, spawn, task?, List.lookup_append, unused]

end World

/-! ### Main statement -/

/-- What the client does with classpath listeners. Both requests are answered with an empty object
when their params read, and `-32602` naming the method and the reason otherwise, which leaves the
listeners alone. Over every run, the listeners are the sorted list of the set the handler runs leave, in the
order they ran, and a publication snapshots them. The turn that makes its calls queues one
`workspace/executeCommand` per listener, in order, under consecutive ids, on a connection that
sends; it leaves its calls all sent, and a turn of sent calls queues nothing anywhere. Once every
call has ended the task reports how many ended with a result, and a call ends with a result only
by taking a success response filled in for the id it was sent under. -/
structure ListenersFollowRequests : Prop where
  answers : ∀ h : RequestHandler, (h = .addClasspathListener ∨ h = .removeClasspathListener) →
    ∀ method params model ls, (h.react method params model ls).reaction =
      (Sts.callbackCommandId? params).elim
        (.reply (.error { code := -32602, message := "invalid " ++ method ++ " params: " ++
          Sts.classpathListenerParams.refusal params }))
        fun _ => .reply (.ok (Value.obj []))
  malformed : ∀ (h : RequestHandler) method params model ls,
    Sts.callbackCommandId? params = none → (h.react method params model ls).listeners = ls
  registry : ∀ w₀ runs w, Turns w₀ runs w → w₀.listeners = [] →
    w.listeners = (registryAfter ∅ runs).sort (· ≤ ·)
  snapshot : ∀ w₀ runs w, Turns w₀ runs w → w₀.listeners = [] → w.task? w.nextTask = none →
    ∀ handle c u, (w.publish handle c u).task? w.nextTask =
      some (.calls handle c (publishCalls ((registryAfter ∅ runs).sort (· ≤ ·)) u))
  sends : ∀ (w : World) tid handle c ls u, c < w.conns.size →
    w.task? tid = some (.calls handle c (publishCalls ls u)) →
    World.Pushes c (if (w.conn c).pending.closed || (w.conn c).writerDone then []
      else publishRequests (w.conn c).nextId u ls) w (w.pollTask tid)
  keeps_sent : ∀ (w : World) tid handle c each, w.task? tid = some (.calls handle c each) →
    ∀ t, (w.pollTask tid).task? tid = some t →
      ∃ rest, t = .calls handle c rest ∧ ∀ call ∈ rest, call.isFresh = false
  quiet : ∀ (w : World) tid handle c each, w.task? tid = some (.calls handle c each) →
    (∀ call ∈ each, call.isFresh = false) → ∀ d, World.Pushes d [] w (w.pollTask tid)
  counts : ∀ (w : World) tid handle c each, w.task? tid = some (.calls handle c each) →
    (w.pollTask tid).done = (w.stepAll c each).1.done ++
      if (w.stepAll c each).2.all (fun call => call.result?.isSome) then
        [(handle, .count ((w.stepAll c each).2.filter Call.succeeded).length)]
      else []
  succeeds : ∀ (w : World) c call, (w.stepCall c call).2.succeeded = true →
    call.succeeded = true ∨ ∃ d i v, w.callSlot c call = some (d, i) ∧
      (w.conn d).filled.lookup i = some (.response (.ok v))
  outcomes : ∀ (o : Outcome) method,
    (Call.finished (o.result method)).succeeded = true ↔ ∃ v, o = .response (.ok v)

/-- Classpath listeners follow the requests that register and remove them, and a publication calls
each once and counts the calls that succeeded. -/
theorem classpath_listeners_follow_requests : ListenersFollowRequests where
  answers _ listener method params model ls := react_listener_reaction listener method params model ls
  malformed h method params model ls unread := by
    rw [react_listeners]
    cases h <;> simp [RequestHandler.listenersAfter, unread]
  registry _ _ _ run start := (run.represents (start ▸ Represents.empty)).eq_sort
  snapshot _ _ w run start unused handle c u := by
    rw [← (run.represents (start ▸ Represents.empty)).eq_sort]
    exact w.task?_publish handle u unused
  sends w _ _ _ ls u present found := by
    rw [World.pollTask_calls found]
    exact World.pollCalls_publishCalls present _ _ u ls
  keeps_sent w _ _ _ each found _ kept := by
    rw [World.pollTask_calls found] at kept
    exact World.task?_pollCalls _ _ each kept
  quiet w _ _ _ each found sent d := by
    rw [World.pollTask_calls found]
    exact World.pollCalls_of_sent d _ _ each sent
  counts w _ _ _ each found := by
    rw [World.pollTask_calls found]
    exact World.done_pollCalls _ _ each
  succeeds _ _ _ ok := World.stepCall_succeeded ok
  outcomes o method := Call.succeeded_result o method

/-- Two listeners registered one after the other by two handler turns of a fresh client. -/
theorem classpath_listeners_follow_requests_two_adds :
    let add := fun id : String => Task.handler 0 (.number 1) "sts/addClasspathListener"
      (.run .addClasspathListener (Value.obj [("callbackCommandId", .string id)]))
    let w₀ : World := { tasks := [(0, add "b"), (1, add "a")] }
    let runs := [] ++ (w₀.handlerRun? 0).toList ++ ((w₀.pollTask 0).handlerRun? 1).toList
    Turns w₀ runs ((w₀.pollTask 0).pollTask 1) ∧ w₀.listeners = [] ∧
      ((w₀.pollTask 0).pollTask 1).listeners = (registryAfter ∅ runs).sort (· ≤ ·) :=
  ⟨(Turns.start.turn 0).turn 1, rfl,
    classpath_listeners_follow_requests.registry _ _ _ ((Turns.start.turn 0).turn 1) rfl⟩

end Engine

end LspBridge
