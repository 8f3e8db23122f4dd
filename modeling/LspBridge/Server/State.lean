/-!
# Session states

The life of a server session: stopped, starting, running, stopping, crashed. The allowed steps are
stopped → starting; starting → running, crashed or stopping; running → crashed or stopping;
stopping → stopped; crashed → stopped. Every other step, staying put included, is refused.
-/

namespace LspBridge

namespace Server

/-- Where a server session stands. -/
inductive SessionState where
  | stopped
  | starting
  | running
  | stopping
  | crashed
  deriving DecidableEq, Repr, Inhabited

namespace SessionState

/-- Whether a session may step from one state to the other. -/
def canStep : SessionState → SessionState → Bool
  | .stopped, .starting => true
  | .starting, .running | .starting, .crashed | .starting, .stopping => true
  | .running, .crashed | .running, .stopping => true
  | .stopping, .stopped => true
  | .crashed, .stopped => true
  | _, _ => false

/-- Whether the session is running. -/
def isRunning : SessionState → Bool
  | .running => true
  | _ => false

/-- The lower-case name of a state. -/
def name : SessionState → String
  | .stopped => "stopped"
  | .starting => "starting"
  | .running => "running"
  | .stopping => "stopping"
  | .crashed => "crashed"

/-- The capitalised name of a state, as a debug view shows it. -/
def debugName : SessionState → String
  | .stopped => "Stopped"
  | .starting => "Starting"
  | .running => "Running"
  | .stopping => "Stopping"
  | .crashed => "Crashed"

/-- A state by its lower-case name. -/
def ofName? : String → Option SessionState
  | "stopped" => some .stopped
  | "starting" => some .starting
  | "running" => some .running
  | "stopping" => some .stopping
  | "crashed" => some .crashed
  | _ => none

end SessionState

end Server

end LspBridge
