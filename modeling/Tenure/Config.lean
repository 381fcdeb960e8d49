import Tenure.Limits
import Tenure.Toml.Document

/-!
# Configuration of the daemon

Three sections, each of them optional and so is every field in them. A section is a table, or
an array of the values of its fields in their order. Members that the daemon does not know are
passed over.
-/
namespace Tenure

structure Config.Scheduler where
  /-- The directory that holds the store. -/
  dataDir : String := "/var/lib/warpgrid"
  /-- The name that is registered with the resource manager. -/
  frameworkName : String := "warpgrid-scheduler"

/-- The limits as they are written. -/
structure Config.Leading where
  registration : String := "1m"
  leading : String := "1d"

structure Config.Http where
  port : UInt16 := 8443

structure Config where
  scheduler : Config.Scheduler := {}
  leading : Config.Leading := {}
  http : Config.Http := {}

namespace Config

/-! ## Reading -/

/-- Finds a field of a section by its name or its place. A moment is a table of which no field is
known. -/
def field? : Toml.Value → Option (Nat → String → Option Toml.Value)
  | .table members => some fun _ name => members.lookup name
  | .array items => some fun place _ => items[place]?
  | .moment => some fun _ _ => none
  | _ => none

def text? : Toml.Value → Option String
  | .text s => some s
  | _ => none

def port? : Toml.Value → Option UInt16
  | .integer n => if 0 ≤ n ∧ n < UInt16.size then some (.ofNat n.toNat) else none
  | _ => none

/-- What is read from a value, or what stands for it if it is absent. -/
def orDefault {α : Type} (standard : α) (read? : Toml.Value → Option α) :
    Option Toml.Value → Option α
  | some value => read? value
  | none => some standard

def Scheduler.ofValue? (value : Toml.Value) : Option Scheduler := do
  let field ← field? value
  let standard : Scheduler := {}
  return ⟨← orDefault standard.dataDir text? (field 0 "data_dir"),
    ← orDefault standard.frameworkName text? (field 1 "framework_name")⟩

def Leading.ofValue? (value : Toml.Value) : Option Leading := do
  let field ← field? value
  let standard : Leading := {}
  return ⟨← orDefault standard.registration text? (field 0 "registration_delay_limit"),
    ← orDefault standard.leading text? (field 1 "leading_time_limit")⟩

def Http.ofValue? (value : Toml.Value) : Option Http := do
  let field ← field? value
  let standard : Http := {}
  return ⟨← orDefault standard.port port? (field 0 "port")⟩

def ofTable? (members : List (String × Toml.Value)) : Option Config := do
  return ⟨← orDefault {} Scheduler.ofValue? (members.lookup "scheduler"),
    ← orDefault {} Leading.ofValue? (members.lookup "leading"),
    ← orDefault {} Http.ofValue? (members.lookup "http")⟩

def ofToml? (s : String) : Option Config := (Toml.parse? s).bind ofTable?

inductive Fault where
  /-- The file is not there, or is no text. -/
  | unreadable
  /-- The text is no TOML, or no configuration. -/
  | malformed
  deriving DecidableEq

/-- Reads a text, if there is one. -/
def ofText : Option String → Except Fault Config
  | none => .error .unreadable
  | some s =>
    match ofToml? s with
    | some config => .ok config
    | none => .error .malformed

/-- Reads what is in a file, if the file is there. -/
def ofFile (contents : Option (List UInt8)) : Except Fault Config :=
  ofText (contents.bind fun bytes => String.fromUTF8? (.mk bytes.toArray))

/-! ## What follows from it -/

def limits (config : Config) : Except LifecycleError Limits :=
  Limits.parse config.leading.registration config.leading.leading

/-- A path below a directory. -/
def below (directory name : String) : String :=
  if directory.isEmpty || directory.endsWith "/" then directory ++ name
  else directory ++ "/" ++ name

def storePath (config : Config) : String := below config.scheduler.dataDir "scheduler.redb"

end Config
end Tenure
