import Tenure.State.Graph
import Tenure.Text.Padding

/-!
# The command line

`standalone` runs a scheduler and takes options, each of them at most once; `transitions` lists
the legal moves. The first thing wrong with a command line, or the first request for help, is
what counts.
-/
namespace Tenure.CommandLine

/-- What the options ask for in place of the configuration. -/
structure Options where
  config : Option String := none
  port : Option UInt16 := none
  dataDir : Option String := none
  registration : Option String := none
  leading : Option String := none

inductive Command where
  | standalone (options : Options)
  | transitions

/-- Why there is nothing to run. -/
inductive Refusal where
  | help
  | misuse
  deriving DecidableEq

/-! ## Options -/

inductive Setting where
  | config
  | port
  | dataDir
  | registration
  | leading

def Setting.ofName? : String → Option Setting
  | "config" => some config
  | "port" => some port
  | "data-dir" => some dataDir
  | "registration-delay-limit" => some registration
  | "leading-time-limit" => some leading
  | _ => none

/-- Decimal digits behind at most one sign. -/
def integer? (s : String) : Option Int :=
  let (negative, digits) := match s.toList with
    | '-' :: rest => (true, rest)
    | '+' :: rest => (false, rest)
    | digits => (false, digits)
  if digits.isEmpty || !digits.all Char.isDigit then none
  else
    let n := digits.foldl (fun n d => n * 10 + (d.toNat - '0'.toNat)) 0
    some (if negative then -n else n)

def port? (s : String) : Option UInt16 := do
  let n ← integer? s
  if 0 ≤ n ∧ n < UInt16.size then some (.ofNat n.toNat) else none

def path? (s : String) : Option String := if s.isEmpty then none else some s

/-- Gives a value to a setting that has none. -/
def fill {α : Type} (value : Option α) : Option α → Option (Option α)
  | none => value.map some
  | some _ => none

def Options.set (o : Options) (value : String) : Setting → Option Options
  | .config => do return { o with config := ← fill (path? value) o.config }
  | .port => do return { o with port := ← fill (port? value) o.port }
  | .dataDir => do return { o with dataDir := ← fill (path? value) o.dataDir }
  | .registration => do return { o with registration := ← fill (some value) o.registration }
  | .leading => do return { o with leading := ← fill (some value) o.leading }

/-- How a word of the command line reads. -/
inductive Word where
  /-- Nothing but values come after it. -/
  | separator
  | long (name : String) (attached : Option String)
  /-- A cluster of single letters, of which there is at least one. -/
  | short (first : Char)
  | value

def Word.ofString (s : String) : Word :=
  match s.toList with
  | ['-', '-'] => separator
  | '-' :: '-' :: rest =>
    let name := rest.takeWhile (· ≠ '=')
    match rest.dropWhile (· ≠ '=') with
    | _ :: attached => long (.ofList name) (some (.ofList attached))
    | [] => long (.ofList name) none
  | '-' :: first :: _ => short first
  | _ => value

def orMisuse {α : Type} : Option α → Except Refusal α
  | some a => .ok a
  | none => .error .misuse

/-- A word that is neither an option nor its value: help, or a mistake. -/
def refuse : Word → Refusal
  | .long "help" none => .help
  | .short 'h' => .help
  | _ => .misuse

def options (o : Options) : List String → Except Refusal Options
  | [] => .ok o
  | ["--"] => .ok o
  | word :: rest =>
    match Word.ofString word with
    | .long name attached =>
      match Setting.ofName? name, attached, rest with
      | none, attached, _ => .error (refuse (.long name attached))
      | some setting, some value, rest => do options (← orMisuse (o.set value setting)) rest
      | some setting, none, value :: rest =>
        match Word.ofString value with
        | .value => do options (← orMisuse (o.set value setting)) rest
        | _ => .error .misuse
      | some _, none, [] => .error .misuse
    | other => .error (refuse other)

/-! ## Commands -/

/-- The names of the commands, the one for help among them. -/
def commandNames : List String := ["standalone", "transitions", "help"]

def parse : List String → Except Refusal Command
  | "standalone" :: rest => do return .standalone (← options {} rest)
  | ["transitions"] => .ok .transitions
  | ["transitions", "--"] => .ok .transitions
  | "transitions" :: word :: _ => .error (refuse (.ofString word))
  | ["help"] => .error .help
  | ["help", name] => .error (if name ∈ commandNames then .help else .misuse)
  | word :: _ => .error (refuse (.ofString word))
  | [] => .error .misuse

/-! ## The list of moves -/

def edgeLine (e : Edge) : String :=
  Text.padRight 28 e.source.label ++ " -> " ++ Text.padRight 28 e.target.label ++ " " ++
    (e.duty.map Duty.name).getD ""

def transitionLines : List String := Edge.all.map edgeLine

end Tenure.CommandLine
