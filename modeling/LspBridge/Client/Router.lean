import LspBridge.Rpc.Message
import LspBridge.Text.Quoted
/-!
# Routing server-initiated traffic

The client answers requests and takes notifications from the server by method name. A handler is
described by what it does rather than by code, so that the whole client stays a value that can be
run and reasoned about:

* request handlers answer a fixed value, serve one of the Spring Tools queries or the client
  defaults, echo their params, fail with a given error, fail by panicking, or echo after a delay;
* notification handlers take highlights, progress or server log lines, record what they get, or
  panic.

A method has at most one handler of each kind; registering another replaces it. The table is shared
by every connection of a client, including those made after a restart.
-/

namespace LspBridge

namespace Client

open Json Rpc

/-- What a request handler does.

`constant`: answers a fixed value. `addClasspathListener`: registers a classpath listener.
`removeClasspathListener`: removes a classpath listener. `javaType`: the type data of a binding key.
`javadocHoverLink`: the source URL of a binding key. `javaLocation`: the declaration location of a
binding key. `javaSearchTypes`: types whose simple name matches a term. `javaHierarchy`: the
subtypes (`true`) or supertypes (`false`) of a type. `workspaceConfiguration`: sections of the
configured settings. `echo`: answers its params. `fail`: fails with the given error. `panic`: panics
while handling. `sleep`: answers its params after `ms` milliseconds. -/
inductive RequestHandler where
  | constant (v : Value)
  | addClasspathListener
  | removeClasspathListener
  | javaType
  | javadocHoverLink
  | javaLocation
  | javaSearchTypes
  | javaHierarchy (sub : Bool)
  | workspaceConfiguration (settings : Option Value)
  | echo
  | fail (e : ResponseError)
  | panic
  | sleep (ms : Nat)
  deriving Inhabited

/-- What a notification handler does.

`highlight`: takes the highlights of a document. `progress`: takes a progress report. `serverLog`:
takes a log line or message of the server. `record`: records the notification. `panic`: panics while
handling. -/
inductive NotificationHandler where
  | highlight
  | progress
  | serverLog
  | record
  | panic
  deriving Inhabited

/-- The handler table.

`requests`: request handlers by method. `notifications`: notification handlers by method. -/
structure Router where
  requests : List (String × RequestHandler) := []
  notifications : List (String × NotificationHandler) := []
  deriving Inhabited

namespace Router

/-- Registers or replaces a request handler. -/
def onRequest (r : Router) (method : String) (h : RequestHandler) : Router :=
  { r with requests := r.requests.filter (·.1 != method) ++ [(method, h)] }

/-- Registers or replaces a notification handler. -/
def onNotification (r : Router) (method : String) (h : NotificationHandler) : Router :=
  { r with notifications := r.notifications.filter (·.1 != method) ++ [(method, h)] }

/-- The request handler of a method. -/
def requestHandler (r : Router) (method : String) : Option RequestHandler :=
  r.requests.lookup method

/-- The notification handler of a method. -/
def notificationHandler (r : Router) (method : String) : Option NotificationHandler :=
  r.notifications.lookup method

/-- Whether a method has a request handler. -/
def handlesRequest (r : Router) (method : String) : Bool := (r.requestHandler method).isSome

/-- Whether a method has a notification handler. -/
def handlesNotification (r : Router) (method : String) : Bool :=
  (r.notificationHandler method).isSome

/-- Removes a request handler; whether there was one. -/
def removeRequest (r : Router) (method : String) : Bool × Router :=
  (r.handlesRequest method, { r with requests := r.requests.filter (·.1 != method) })

/-- Removes a notification handler; whether there was one. -/
def removeNotification (r : Router) (method : String) : Bool × Router :=
  (r.handlesNotification method,
    { r with notifications := r.notifications.filter (·.1 != method) })

/-- Inserts a name into a sorted list. -/
def insertSorted (s : String) : List String → List String
  | [] => [s]
  | t :: rest => if s < t then s :: t :: rest else t :: insertSorted s rest

/-- Method names in sorted order. -/
def sortedNames (names : List String) : List String := names.foldr insertSorted []

/-- A list of names as diagnostics show it: quoted, between brackets. -/
def namesText (names : List String) : String :=
  "[" ++ ", ".intercalate ((sortedNames names).map Text.quoted) ++ "]"

/-- The diagnostic text of the table: its methods of both kinds, sorted. -/
def debugText (r : Router) : String :=
  "Router \x7b requests: " ++ namesText (r.requests.map Prod.fst) ++ ", notifications: " ++
    namesText (r.notifications.map Prod.fst) ++ " \x7d"

end Router

end Client

end LspBridge
