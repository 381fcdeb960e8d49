/-!
# States of a driver and of an endpoint

What a driver answers when it is started, joined or stopped, and what an election reports of
the endpoint that it took leadership from.
-/
namespace Tenure

inductive DriverStatus where
  | notStarted
  | running
  | aborted
  | stopped
  deriving DecidableEq

namespace DriverStatus

def all : List DriverStatus := [notStarted, running, aborted, stopped]

def label : DriverStatus → String
  | notStarted => "not_started"
  | running => "running"
  | aborted => "aborted"
  | stopped => "stopped"

def debugName : DriverStatus → String
  | notStarted => "NotStarted"
  | running => "Running"
  | aborted => "Aborted"
  | stopped => "Stopped"

def ofLabel? (s : String) : Option DriverStatus := all.find? fun status => status.label == s

end DriverStatus

inductive EndpointStatus where
  | alive
  | dead
  | starting
  | stopping
  | stopped
  | warning
  deriving DecidableEq

namespace EndpointStatus

def all : List EndpointStatus := [alive, dead, starting, stopping, stopped, warning]

def label : EndpointStatus → String
  | alive => "alive"
  | dead => "dead"
  | starting => "starting"
  | stopping => "stopping"
  | stopped => "stopped"
  | warning => "warning"

def debugName : EndpointStatus → String
  | alive => "Alive"
  | dead => "Dead"
  | starting => "Starting"
  | stopping => "Stopping"
  | stopped => "Stopped"
  | warning => "Warning"

def ofLabel? (s : String) : Option EndpointStatus := all.find? fun status => status.label == s

/-- A status that may be missing, as it is shown for debugging. -/
def debugOption : Option EndpointStatus → String
  | some status => "Some(" ++ status.debugName ++ ")"
  | none => "None"

end EndpointStatus
end Tenure
