import Tenure.CommandLine
import Tenure.Standalone.Scheduler
import Tenure.Workspace

/-!
# The daemon

Runs a scheduler on its own until the replica is dead. What the command line asks for counts
before what the configuration says. The store is in the data directory, which is made before
the limits are looked at.
-/
namespace Tenure.Standalone

open CommandLine (Options)

namespace Daemon

inductive Failure where
  | configuration (fault : Config.Fault)
  /-- The data directory cannot be made. -/
  | directory
  | lifecycle (e : LifecycleError)
  | blocked

def override (o : Options) (config : Config) : Config :=
  { scheduler :=
      { config.scheduler with dataDir := o.dataDir.getD config.scheduler.dataDir }
    leading :=
      { registration := o.registration.getD config.leading.registration
        leading := o.leading.getD config.leading.leading }
    http := { port := o.port.getD config.http.port } }

/-- The configuration, given the contents of the file that the options name if they name one. -/
def configuration (o : Options) (contents : Option Bytes) : Except Failure Config :=
  match o.config, Config.ofFile contents with
  | none, _ => .ok (override o {})
  | some _, .ok config => .ok (override o config)
  | some _, .error fault => .error (.configuration fault)

/-- The storage at a location. -/
def storageAt (w : Workspace) : Option Workspace.Location → Durable
  | none => { place := .unreachable }
  | some location =>
    match w.entry? location with
    | none => .onDisk .absent
    | some (.file file) => .onDisk file
    | some .directory => { place := .unreachable }

/-- The name under which the replica stands for election. -/
def endpoint (config : Config) : String :=
  config.scheduler.frameworkName ++ "@0.0.0.0:" ++ toString config.http.port.toNat

/-- Leads, or stops if that fails. -/
def begin (config : Config) : Scheduler.Act Unit := do
  if let .error _ := ← Scheduler.lead (endpoint config) then
    Scheduler.stop
  Scheduler.settle

/-- Goes on until the replica is dead. -/
def serve (config : Config) : Scheduler.Act Unit := do
  begin config
  discard <| Scheduler.waitFor Scheduler.stopped

/-- Leaves the store where it is kept, if it has been opened. -/
def leaveStore (d : Durable) (location : Option Workspace.Location) (w : Workspace) : Workspace :=
  match location, d.file with
  | some location, .store contents => w.put location (.file (.store contents))
  | _, _ => w

/-- Runs in a workspace whose data directory is there. -/
def runPrepared (config : Config) (stamp : Stamp) (w : Workspace) :
    Except Failure Unit × Workspace :=
  let location := w.locate? config.storePath
  match Scheduler.assemble config (storageAt w location) stamp with
  | .error e => (.error (.lifecycle e), w)
  | .ok scheduler =>
    match (serve config).run scheduler with
    | .error _ _ => (.error .blocked, w)
    | .ok () scheduler => (.ok (), leaveStore scheduler.storage location w)

def run (o : Options) (stamp : Stamp) (w : Workspace) : Except Failure Unit × Workspace :=
  match configuration o (o.config.bind w.read?) with
  | .error e => (.error e, w)
  | .ok config =>
    match w.createAll config.scheduler.dataDir with
    | (w, none) => (.error .directory, w)
    | (w, some _) => runPrepared config stamp w

end Daemon
end Tenure.Standalone
