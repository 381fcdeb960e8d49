/-!
# Log entries

What a replica reports about itself while it runs.
-/
namespace Tenure.Log

inductive Level where
  | debug
  | info
  | warn
  | error
  deriving DecidableEq

def Level.label : Level → String
  | debug => "DEBUG"
  | info => "INFO"
  | warn => "WARN"
  | error => "ERROR"

structure Entry where
  level : Level
  message : String
  /-- Named details, in the order in which they were given. -/
  fields : List (String × String) := []
  deriving DecidableEq

def debug (message : String) (fields : List (String × String)) : Entry := ⟨.debug, message, fields⟩

def info (message : String) (fields : List (String × String)) : Entry := ⟨.info, message, fields⟩

def warn (message : String) (fields : List (String × String)) : Entry := ⟨.warn, message, fields⟩

def error (message : String) (fields : List (String × String)) : Entry := ⟨.error, message, fields⟩

end Tenure.Log
