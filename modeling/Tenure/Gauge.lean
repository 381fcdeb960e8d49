import Tenure.State

/-!
# Gauges

What a replica shows of itself to a monitor: one gauge for its registration and one for each
state, of which exactly one is set. `Gauge.exposition` writes gauges in the text format that
monitors collect.
-/
namespace Tenure

structure Gauge where
  name : String
  help : String
  value : Int
  deriving DecidableEq

namespace Gauge

/-- Help, type and value of a gauge, each on a line of its own. -/
def lines (g : Gauge) : List String :=
  let name := "warpgrid_" ++ g.name
  ["# HELP " ++ name ++ " " ++ g.help, "# TYPE " ++ name ++ " gauge",
    name ++ " " ++ toString g.value]

def exposition (gauges : List Gauge) : String :=
  String.join ((gauges.flatMap lines).map fun line => line ++ "\n")

end Gauge

/-- State and registration of a replica at one moment. -/
structure Snapshot where
  state : State
  registered : Bool
  deriving DecidableEq

namespace Snapshot

def flag (b : Bool) : Int := if b then 1 else 0

def stateGauge (s : Snapshot) (state : State) : Gauge where
  name := "scheduler_lifecycle_" ++ state.label
  help := "Whether the scheduler lifecycle is in " ++ state.label ++ "."
  value := flag (state = s.state)

def gauges (s : Snapshot) : List Gauge :=
  { name := "framework_registered"
    help := "Whether the resource manager acknowledged registration."
    value := flag s.registered } :: State.all.map s.stateGauge

def exposition (s : Snapshot) : String := Gauge.exposition s.gauges

end Snapshot
end Tenure
