import LspBridge.Engine.Peer
/-!
# Waiting for calls

An outbound call goes as far as it can at each turn of its caller: it is sent (with the
connection's default timeout unless one is given), then waits. At each look the outcome counts
first: a call whose outcome is there ends with it, even when its deadline has passed too. Only a
call still in flight at its deadline times out; it then leaves the table, so that a late response
is dropped. A call whose deadline is the current instant times out at once. A call that has left
the table with no outcome left for it (another call under the same id took its place) can never be
filled again: at its deadline it ends as unavailable, as a caller whose completion slot was dropped
does.
-/

namespace LspBridge

namespace Engine

open Json Rpc Client

namespace World

/-- A waiting call at its deadline, its outcome not come: it times out if still in flight, and
otherwise nothing can fill it any more and it ends as unavailable. -/
def expire (w : World) (c : Nat) (id : RequestId) (method : String) : World × Call :=
  match w.forget c id with
  | (some _, w') => (w', .finished (.error (.timeout method)))
  | (none, w') => (w', .finished (.error .serverUnavailable))

/-- Looks at a waiting call. -/
def checkWait (w : World) (c : Nat) (id : RequestId) (method : String) (deadline : Option Timer) :
    World × Call :=
  match w.takeFilled c id with
  | (some o, w') => (w', .finished (o.result method))
  | (none, w') =>
    match deadline with
    | some t =>
      if t.deadline ≤ w'.now then w'.expire c id method else (w', .waiting c id method deadline)
    | none => (w', .waiting c id method none)

/-- Begins to wait for a sent call, with a timeout if given. -/
def beginWait (w : World) (c : Nat) (id : RequestId) (method : String) (limit : Option Nat) :
    World × Call :=
  match w.takeFilled c id with
  | (some o, w') => (w', .finished (o.result method))
  | (none, w') =>
    match limit with
    | none => (w', .waiting c id method none)
    | some ms =>
      let (w'', t) := w'.timer ms
      if t.deadline ≤ w''.now then w''.expire c id method
      else (w'', .waiting c id method (some t))

/-- Moves a call on as far as it goes now; a fresh call is sent on the given connection. -/
def stepCall (w : World) (c : Nat) : Call → World × Call
  | .fresh method params limit =>
    let limit := match limit with
      | .byDefault => (w.conn c).defaultTimeout
      | .given ms => ms
    match w.issue c method params with
    | (.error e, w') => (w', .finished (.error e))
    | (.ok id, w') => w'.beginWait c id method limit
  | .issued c' id method limit => w.beginWait c' id method limit
  | .waiting c' id method deadline => w.checkWait c' id method deadline
  | .finished r => (w, .finished r)

/-- Gives up a call: a call in flight leaves the table without an outcome. -/
def abandon (w : World) : Call → World
  | .issued c id _ _ | .waiting c id _ _ => (w.forget c id).2
  | _ => w

end World

end Engine

end LspBridge
