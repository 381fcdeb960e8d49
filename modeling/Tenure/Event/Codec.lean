import Tenure.Event
import Tenure.Json

/-!
# Events in documents

An event is an object that names its type first.
-/
namespace Tenure.Event

def toJson : Event → Json
  | driverRegistered id =>
    .object [("type", .text "driver_registered"), ("framework_id", .text id)]
  | schedulerActive => .object [("type", .text "scheduler_active")]

end Tenure.Event
