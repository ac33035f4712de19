import S7Request.Toml.Basic

/-!
# Assembling tables

The pairs and headers of a document are put together into one table. A table is opened by at most
one header. Dotted names open tables of their own, which no header may open again and which only
dotted names extend; a header implies the tables on its path, and these may still be opened. A
name has one value.
-/
namespace S7Request.Toml

/-- How a table came to be. -/
inductive Mark
  | implied
  | dotted
  | opened
  deriving DecidableEq, Repr

/-- A part of a document under construction. The elements of an array of tables are held last
first. -/
inductive Node
  | value (value : Value)
  | table (mark : Mark) (entries : List (String × Node))
  | elements (elements : List (List (String × Node)))

abbrev Nodes := Entries Node

/-- Puts a value under a dotted name. `extensible` says that the table may be extended by the pair
when the name has only one part left. -/
def putPair (extensible : Bool) (name : String) (value : Value) : List String → Nodes → Option Nodes
  | [], nodes =>
      if extensible ∧ (nodes.get? name).isNone then some (nodes.put name (.value value)) else none
  | step :: path, nodes =>
      match nodes.get? step with
      | none => (putPair true name value path []).map fun sub => nodes.put step (.table .dotted sub)
      | some (.table .opened _) => none
      | some (.table mark sub) =>
          (putPair (mark = .dotted) name value path sub).map fun sub =>
            nodes.put step (.table mark sub)
      | some (.elements (last :: earlier)) =>
          (putPair false name value path last).map fun last =>
            nodes.put step (.elements (last :: earlier))
      | _ => none

/-- Changes the table at the end of a path of headers. Tables that are missing on the path are
implied; of an array of tables the last element is meant. -/
def updateAt (change : Nodes → Option Nodes) : List String → Nodes → Option Nodes
  | [], nodes => change nodes
  | step :: path, nodes =>
      match nodes.get? step with
      | none => (updateAt change path []).map fun sub => nodes.put step (.table .implied sub)
      | some (.table mark sub) =>
          (updateAt change path sub).map fun sub => nodes.put step (.table mark sub)
      | some (.elements (last :: earlier)) =>
          (updateAt change path last).map fun last =>
            nodes.put step (.elements (last :: earlier))
      | _ => none

/-- Opens a table by a header. A table that was implied so far moves behind the entries beside
it. -/
def openTable (name : String) (nodes : Nodes) : Option Nodes :=
  match nodes.get? name with
  | none => some (nodes.put name (.table .opened []))
  | some (.table .implied sub) => some ((nodes.erase name).put name (.table .opened sub))
  | _ => none

/-- Opens one more element of an array of tables. -/
def openElement (name : String) (nodes : Nodes) : Option Nodes :=
  match nodes.get? name with
  | none => some (nodes.put name (.elements [[]]))
  | some (.elements elements) => some (nodes.put name (.elements ([] :: elements)))
  | _ => none

/-- A document under construction and the path of the table that is open. -/
structure Document where
  nodes : Nodes
  current : List String

def Document.add (d : Document) : Statement → Option Document
  | .pair path name value =>
      (updateAt (putPair true name value path) d.current d.nodes).map fun nodes => { d with nodes }
  | .tableHeader path name =>
      (updateAt (openTable name) path d.nodes).map fun nodes => ⟨nodes, path ++ [name]⟩
  | .elementHeader path name =>
      (updateAt (openElement name) path d.nodes).map fun nodes => ⟨nodes, path ++ [name]⟩

mutual

def Node.finish : Node → Value
  | .value v => v
  | .table _ entries => .table (finishEntries entries)
  | .elements es => .array (finishElements es)

def finishEntries : List (String × Node) → List (String × Value)
  | [] => []
  | (name, node) :: rest => (name, node.finish) :: finishEntries rest

/-- The elements of a finished array of tables, first to last. -/
def finishElements : List (List (String × Node)) → List Value
  | [] => []
  | e :: rest => finishElements rest ++ [.table (finishEntries e)]

end

/-- The table of the pairs between braces. -/
def inlineTable? (pairs : List (List String × String × Value)) : Option Table :=
  (pairs.foldlM (fun nodes pair => putPair true pair.2.1 pair.2.2 pair.1 nodes) []).map
    finishEntries

/-- The table of a document. -/
def assemble? (statements : List Statement) : Option Table :=
  (statements.foldlM Document.add ⟨[], []⟩).map fun d => finishEntries d.nodes

end S7Request.Toml
