import Tenure.Standalone.Daemon

/-!
# The program

Carries out a command line with real files and on a real clock. All decisions are made by
`CommandLine` and `Standalone.Daemon`.
-/
open Tenure

namespace Tenure.Program

def usage : String :=
  "Usage: tenure <COMMAND>\n\nCommands:\n  standalone   Run a scheduler on its own\n" ++
  "  transitions  Print the legal lifecycle transitions\n" ++
  "  help         Print this message\n\nOptions of standalone:\n" ++
  "  --config <FILE>\n  --port <PORT>\n  --data-dir <DIR>\n" ++
  "  --registration-delay-limit <DURATION>\n  --leading-time-limit <DURATION>"

def failureText : Standalone.Daemon.Failure → String
  | .configuration .unreadable => "cannot read the configuration"
  | .configuration .malformed => "malformed configuration"
  | .directory => "cannot make the data directory"
  | .lifecycle e => e.message
  | .blocked => "blocked"

def readIfThere (path : String) : IO (Option Bytes) := do
  try
    return some (← IO.FS.readBinFile path).toList
  catch _ => return none

def makeDirectory (path : String) : IO Bool := do
  if path.isEmpty then return true
  try
    IO.FS.createDirAll path
    return true
  catch _ => return false

/-- Keeps the store in its file, if it has been opened. -/
def keep (path : String) (s : Standalone.Scheduler) : IO Unit := do
  match s.storage.file with
  | .store contents => IO.FS.writeBinFile path (.mk (Store.Image.encode contents).toArray)
  | _ => return ()

/-- A day in milliseconds. -/
def day : Nat := 86400000

def sleep (millis : Nat) : IO Unit := do
  for _ in [0 : millis / day] do
    IO.sleep (.ofNat day)
  IO.sleep (.ofNat (millis % day))

/-- A number that tells this process from others, and the time. -/
def newStamp : IO Standalone.Stamp := do
  let bytes ← IO.getRandomBytes 4
  return ⟨bytes.toList.foldl (fun n b => n * 256 + b.toNat) 0, ← IO.monoMsNow⟩

/-- Lets time pass until the next timers are due, as long as there are any, and runs them. -/
def serve (path : String) : Nat → Standalone.Scheduler → IO Unit
  | 0, _ => return ()
  | rounds + 1, s => do
    keep path s
    match s.agenda.nextDue? with
    | none => return ()
    | some due =>
      if s.stopped then return ()
      let span := due - s.agenda.now
      sleep (span / 1000000)
      match (do Standalone.Scheduler.advance span; Standalone.Scheduler.settle).run s with
      | .ok () s => serve path rounds s
      | .error _ _ => return ()

def standalone (options : CommandLine.Options) :
    IO (Except Standalone.Daemon.Failure Unit) := do
  let contents ← match options.config with
    | some path => readIfThere path
    | none => pure none
  match Standalone.Daemon.configuration options contents with
  | .error e => return .error e
  | .ok config =>
    if !(← makeDirectory config.scheduler.dataDir) then return .error .directory
    let file := (← readIfThere config.storePath).elim .absent .plain
    match Standalone.Scheduler.assemble config (.onDisk file) (← newStamp) with
    | .error e => return .error (.lifecycle e)
    | .ok s =>
      match (Standalone.Daemon.begin config).run s with
      | .error _ _ => return .error .blocked
      | .ok () s =>
        serve config.storePath (s.agenda.entries.length + 1) s
        return .ok ()

end Tenure.Program

def main (args : List String) : IO UInt32 := do
  match CommandLine.parse args with
  | .error .help =>
    IO.println Program.usage
    return 0
  | .error .misuse =>
    IO.eprintln Program.usage
    return 2
  | .ok .transitions =>
    CommandLine.transitionLines.forM fun line => IO.println line
    return 0
  | .ok (.standalone options) =>
    match ← Program.standalone options with
    | .ok () => return 0
    | .error e =>
      IO.eprintln ("Error: " ++ Program.failureText e)
      return 1
