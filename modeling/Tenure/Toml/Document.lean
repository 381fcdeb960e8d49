import Tenure.Toml.Statement

/-!
# TOML documents

Statements are put together to a table. A key is given once, a table is opened by one header,
and tables that dotted keys have made are only added to by dotted keys of the same table.
-/
namespace Tenure.Toml

/-- A part of a document that is being put together. -/
inductive Node where
  | leaf (value : Value)
  /-- `implied` if no header has opened the table, `dotted` if a dotted key has made it. -/
  | table (implied dotted : Bool) (members : List (String × Node))
  /-- An array of tables, by their members. -/
  | tables (elements : List (List (String × Node)))

namespace Node

abbrev Members := List (String × Node)

def put (key : String) (node : Node) : Members → Members
  | [] => [(key, node)]
  | member :: rest => if member.1 = key then (key, node) :: rest else member :: put key node rest

/-- Changes the table that a path leads to, and makes the tables on the way. In an array of tables
the way leads through the last. `change` also sees whether the table was made by a dotted key. -/
def descend (dotted : Bool) (change : Bool → Members → Option Members) :
    List String → Bool → Members → Option Members
  | [], made, members => change made members
  | part :: path, _, members => do
    let node ← match members.lookup part with
      | none => (descend dotted change path dotted []).map (table true dotted)
      | some (leaf _) => none
      | some (table implied made inner) =>
        if dotted && !implied then none
        else (descend dotted change path made inner).map (table implied made)
      | some (tables elements) =>
        match elements.reverse with
        | [] => none
        | last :: earlier =>
          (descend dotted change path false last).map fun last => tables (last :: earlier).reverse
    return put part node members

/-- Adds a value, unless its key is taken. A key without dots does not add to a table that dotted
keys have made, nor a dotted key to one that they have not. -/
def addPair (path : List String) (key : String) (value : Value) (members : Members) :
    Option Members :=
  descend true
    (fun made members =>
      if made = path.isEmpty then none
      else match members.lookup key with
        | some _ => none
        | none => some (put key (leaf value) members))
    path false members

mutual
def toValue : Node → Value
  | leaf value => value
  | table _ _ members => .table (toMembers members)
  | tables elements => .array (toElements elements)

def toMembers : List (String × Node) → List (String × Value)
  | [] => []
  | (key, node) :: rest => (key, node.toValue) :: toMembers rest

def toElements : List (List (String × Node)) → List Value
  | [] => []
  | members :: rest => .table (toMembers members) :: toElements rest
end

end Node

/-- The document so far, and the table that pairs now go into. -/
structure Assembly where
  root : Node.Members := []
  /-- Where the open table belongs; the root itself if there is no path. -/
  path : List String := []
  isElement : Bool := false
  members : Node.Members := []

namespace Assembly

open Node (descend put)

/-- Puts the open table in its place. -/
def close (a : Assembly) : Option Node.Members :=
  match Statement.splitLast? a.path with
  | none => some a.members
  | some (path, key) =>
    descend false
      (fun _ members =>
        match members.lookup key, a.isElement with
        | none, true => some (put key (.tables [a.members]) members)
        | some (.tables elements), true =>
          some (put key (.tables (elements ++ [a.members])) members)
        | none, false => some (put key (.table false false a.members) members)
        | some (.table true _ _), false => some (put key (.table false false a.members) members)
        | _, _ => none)
      path false a.root

/-- The members that a header finds under its path: those of a table that is only implied. -/
def found? (key : String) (members : Node.Members) : Option Node.Members :=
  match members.lookup key with
  | none => some []
  | some (.table true false inner) => some inner
  | some _ => none

/-- The members of the table that a path leads to, if it leads to one. -/
def lookupPath : List String → Node.Members → Node.Members
  | [], members => members
  | part :: path, members =>
    match members.lookup part with
    | some (.table _ _ inner) => lookupPath path inner
    | some (.tables elements) => lookupPath path (elements.getLast?.getD [])
    | _ => []

def openTable (root : Node.Members) (path : List String) : Option Assembly := do
  let (parents, key) ← Statement.splitLast? path
  let root ← descend false (fun _ members => (found? key members).map fun _ => members) parents
    false root
  let members := (found? key (lookupPath parents root)).getD []
  return { root, path, members }

def openElement (root : Node.Members) (path : List String) : Option Assembly := do
  let (parents, key) ← Statement.splitLast? path
  let root ← descend false
    (fun _ members =>
      match members.lookup key with
      | none => some members
      | some (.tables _) => some members
      | some _ => none)
    parents false root
  return { root, path, isElement := true }

def step (a : Assembly) : Statement → Option Assembly
  | .pair path key value => do
    return { a with members := ← Node.addPair path key value a.members }
  | .table path => do openTable (← a.close) path
  | .element path => do openElement (← a.close) path

end Assembly

/-- The table that a document stands for. -/
def parse? (s : String) : Option (List (String × Value)) := do
  let statements ← Statement.read? s.toList
  let assembly ← statements.foldlM Assembly.step {}
  return Node.toMembers (← assembly.close)

end Tenure.Toml
