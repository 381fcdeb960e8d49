import Tenure.Text.Quoted

/-!
# Events

What replicas and drivers tell each other over the bus.
-/
namespace Tenure

inductive Event where
  /-- The resource manager accepted the driver under this identity. -/
  | driverRegistered (frameworkId : String)
  | schedulerActive
  deriving DecidableEq

namespace Event

def debugText : Event → String
  | driverRegistered id =>
    "DriverRegistered(DriverRegistered \x7b framework_id: " ++ Text.quoted id ++ " \x7d)"
  | schedulerActive => "SchedulerActive"

end Event
end Tenure
