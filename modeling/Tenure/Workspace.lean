import Tenure.Store.File

/-!
# Workspaces

The directories and files that a daemon finds and leaves behind. A path is followed part by
part, and each part but the last has to be a directory.
-/
namespace Tenure

/-- Where something is: the names on the way from the working directory, or from the root if the
first of them is empty. -/
abbrev Workspace.Location := List String

inductive Workspace.Entry where
  | directory
  | file (contents : Store.File)

structure Workspace where
  entries : List (Workspace.Location × Workspace.Entry) := []

namespace Workspace

/-- The working directory, the root, and the directories above. -/
def isAlwaysThere (location : Location) : Bool :=
  location = [""] || location.all fun name => name = ".."

def entry? (w : Workspace) (location : Location) : Option Entry :=
  if isAlwaysThere location then some .directory else w.entries.lookup location

def isDirectory (w : Workspace) (location : Location) : Bool :=
  match w.entry? location with
  | some .directory => true
  | _ => false

def put (w : Workspace) (location : Location) (entry : Entry) : Workspace :=
  ⟨(location, entry) :: w.entries.filter fun other => other.1 ≠ location⟩

/-- The directory that a directory is in. The root is in itself. -/
def parent (location : Location) : Location :=
  if location = [""] then location
  else if isAlwaysThere location then location ++ [".."]
  else location.dropLast

/-- Names are bounded, and do not hold the null character. -/
def isName (part : String) : Bool := part.utf8ByteSize ≤ 255 && part.all fun c => c ≠ '\x00'

/-- Where a part of a path leads from a directory. -/
def follow? (w : Workspace) (location : Location) (part : String) : Option Location :=
  if !w.isDirectory location || !isName part then none
  else if part = "" ∨ part = "." then some location
  else if part = ".." then some (parent location)
  else some (location ++ [part])

/-- Where a path begins, and the parts that it goes through. -/
def split (path : String) : Location × List String :=
  match path.splitOn "/" with
  | "" :: part :: rest => ([""], part :: rest)
  | parts => ([], parts)

def locate? (w : Workspace) (path : String) : Option Location :=
  let (start, parts) := split path
  parts.foldlM w.follow? start

def find? (w : Workspace) (path : String) : Option Entry := do w.entry? (← w.locate? path)

def exists? (w : Workspace) (path : String) : Bool := (w.find? path).isSome

/-- The bytes of a plain file. -/
def read? (w : Workspace) (path : String) : Option Bytes :=
  match w.find? path with
  | some (.file (.plain bytes)) => some bytes
  | _ => none

/-! ## Making directories -/

/-- Makes the directory that a part of a path leads to, unless it is there. The directory is
`none` once something else stands in the way. -/
def enter (w : Workspace) (location : Location) (part : String) : Workspace × Option Location :=
  match w.follow? location part with
  | none => (w, none)
  | some next =>
    match w.entry? next with
    | some .directory => (w, some next)
    | some (.file _) => (w, none)
    | none => (w.put next .directory, some next)

def enterAll (w : Workspace) (location : Location) : List String → Workspace × Option Location
  | [] => (w, some location)
  | part :: rest =>
    match w.enter location part with
    | (w, some next) => w.enterAll next rest
    | (w, none) => (w, none)

/-- Makes all directories of a path that are not there, as far as nothing else stands in the way,
and gives the last of them. -/
def createAll (w : Workspace) (path : String) : Workspace × Option Location :=
  let (start, parts) := split path
  w.enterAll start parts

/-- Adds a plain file, and the directories that it is in. -/
def addFile (w : Workspace) (name : String) (bytes : Bytes) : Workspace :=
  let (start, parts) := split name
  match w.enterAll start parts.dropLast with
  | (w, some directory) => w.put (directory ++ [parts.getLastD ""]) (.file (.plain bytes))
  | (w, none) => w

def ofFiles (files : List (String × Bytes)) : Workspace :=
  files.foldl (fun w file => w.addFile file.1 file.2) {}

end Workspace
end Tenure
