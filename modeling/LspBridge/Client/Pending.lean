import LspBridge.Rpc.Error
import Std.Data.HashSet
/-!
# The in-flight call table

Every outbound request is registered under its id until exactly one of these ends it: its response
arrives, the caller cancels it, its deadline passes, the caller abandons it, or the connection
closes. Each of them removes the entry it ends, so a call completes at most once.

The ids of the last 256 ended calls are remembered, so that a response arriving after its call
ended locally can be told apart from one for an id never issued: in order of ending, to know which
is the oldest, and as a set, to look them up. Once closed, the table refuses new calls.
-/

namespace LspBridge

namespace Client

open Rpc

/-- How many ended ids are remembered. -/
def retiredCapacity : Nat := 256

/-- What a waiting caller receives.

`response`: the server's answer. `cancelled`: the call was cancelled locally. `unavailable`: the
connection closed first. -/
inductive Outcome where
  | response (result : Except ResponseError Json.Value)
  | cancelled
  | unavailable
  deriving Inhabited

/-- The outcome of a call as the caller sees it. -/
def Outcome.result (method : String) : Outcome → Except Error Json.Value
  | .response (.ok v) => .ok v
  | .response (.error e) => .error (.response e)
  | .cancelled => .error (.cancelled method)
  | .unavailable => .error .serverUnavailable

/-- What became of an inbound response.

`delivered`: it ended its call. `late`: its call had already ended locally. `unknown`: no call with
its id is known. -/
inductive Delivery where
  | delivered
  | late
  | unknown
  deriving DecidableEq, Repr

/-- The calls in flight, by id with their methods, oldest first.

`calls`: the calls awaiting an outcome. `retired`: recently ended ids, oldest first. `retiredSet`:
the same ids, for lookup. `closed`: whether new calls are refused. -/
structure PendingTable where
  calls : List (RequestId × String) := []
  retired : List RequestId := []
  retiredSet : Std.HashSet RequestId := ∅
  closed : Bool := false
  deriving Inhabited

namespace PendingTable

/-- Remembers an ended id unless the set has it already, forgetting the oldest beyond the
capacity. -/
def retire (t : PendingTable) (id : RequestId) : PendingTable :=
  if t.retiredSet.contains id then t
  else
    let retired := t.retired ++ [id]
    let retiredSet := t.retiredSet.insert id
    if retired.length > retiredCapacity then
      match retired with
      | old :: rest => { t with retired := rest, retiredSet := retiredSet.erase old }
      | [] => { t with retired, retiredSet }
    else { t with retired, retiredSet }

/-- Registers a call; none once the table is closed. -/
def register (t : PendingTable) (id : RequestId) (method : String) : Option PendingTable :=
  if t.closed then none else some { t with calls := t.calls ++ [(id, method)] }

/-- Removes a call, if it is in flight, with its method. -/
def take (t : PendingTable) (id : RequestId) : Option (String × PendingTable) :=
  match t.calls.lookup id with
  | some method => some (method, ({ t with calls := t.calls.filter (·.1 != id) }).retire id)
  | none => none

/-- Routes a response: it ends its call if that is in flight. -/
def complete (t : PendingTable) (id : RequestId) : Delivery × PendingTable :=
  match t.take id with
  | some (_, t') => (.delivered, t')
  | none => (if t.retiredSet.contains id then .late else .unknown, t)

/-- Closes the table: the ids of the calls it fails, in order, and the closed table. -/
def close (t : PendingTable) : List RequestId × PendingTable :=
  (t.calls.map Prod.fst, { t with calls := [], closed := true })

/-- The number of calls in flight. -/
def size (t : PendingTable) : Nat := t.calls.length

end PendingTable

end Client

end LspBridge
