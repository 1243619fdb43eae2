import Blockflow.Json.Draft

/-!
# The tables of a settings document

The entries and headers of a document build a tree of tables.  Each table may be opened once:
what a header opened no other header opens again, and what the parts of a key opened only keys
extend.

* `Origin`, `Node` — the tree.
* `Node.put` — enters a value under a key.
* **`Node.openTable`** — opens the table of a header, with its entries.
-/

namespace Blockflow.Toml

open Json (Draft)

/-- How a table came to be: by a header of its own, on the way to the table of a header, or as a
part of a key. -/
inductive Origin where
  | header
  | passage
  | dotted
  deriving DecidableEq, Repr

/-- A part of a document: a value, a table, or a list of tables. -/
inductive Node where
  | leaf (value : Draft)
  | table (origin : Origin) (members : List (String × Node))
  | tables (items : List (List (String × Node)))
  deriving Repr

/-- An entry: the tables on the way, the key, and the value. -/
structure Entry where
  path : List String
  key : String
  value : Draft
  deriving Repr

/-- A header: the tables on the way, the name, and whether it adds to a list of tables. -/
structure Header where
  path : List String
  name : String
  isList : Bool
  deriving DecidableEq, Repr

namespace Node

/-- The members of a table. -/
abbrev Members := Table Node

/-- **Enters a value under a key.**  Only the parts of keys may lead to it: not a value, not a
table that a header opened, and at the last part not one on the way to such a table. -/
def put (members : Members) (key : String) (value : Draft) : (path : List String) → Option Members
  | [] => if members.contains key then none else some (members.insert key (.leaf value))
  | p :: ps =>
    match members.get? p with
    | none => (put [] key value ps).map fun inner => members.insert p (.table .dotted inner)
    | some (.table .dotted inner) =>
      (put inner key value ps).map fun inner => members.insert p (.table .dotted inner)
    | some (.table .passage inner) =>
      if ps.isEmpty then none
      else (put inner key value ps).map fun inner => members.insert p (.table .passage inner)
    | some (.tables items) =>
      if ps.isEmpty then none
      else do
        let inner ← put (← items.getLast?) key value ps
        return members.insert p (.tables (items.dropLast ++ [inner]))
    | _ => none

/-- Enters values one after another. -/
def putAll (members : Members) (entries : List Entry) : Option Members :=
  entries.foldlM (fun ms e => put ms e.key e.value e.path) members

/-- Changes the table at the end of a path; of a list of tables the last one counts, and missing
tables are made. -/
def change (f : Members → Option Members) (members : Members) :
    (path : List String) → Option Members
  | [] => f members
  | p :: ps =>
    match members.get? p with
    | none => (change f [] ps).map fun inner => members.insert p (.table .passage inner)
    | some (.table origin inner) =>
      (change f inner ps).map fun inner => members.insert p (.table origin inner)
    | some (.tables items) => do
      let inner ← change f (← items.getLast?) ps
      return members.insert p (.tables (items.dropLast ++ [inner]))
    | some (.leaf _) => none

/-- **Opens the table of a header**, with the entries behind it. -/
def openTable (root : Members) (h : Header) (entries : List Entry) : Option Members :=
  change (fun parent =>
    if h.isList then
      match parent.get? h.name with
      | none => (putAll [] entries).map fun ms => parent.insert h.name (.tables [ms])
      | some (.tables items) =>
        (putAll [] entries).map fun ms => parent.insert h.name (.tables (items ++ [ms]))
      | _ => none
    else
      match parent.get? h.name with
      | none => (putAll [] entries).map fun ms => parent.insert h.name (.table .header ms)
      | some (.table .passage inner) =>
        (putAll inner entries).map fun ms => parent.insert h.name (.table .header ms)
      | _ => none) root h.path

mutual

/-- A part of a document as its readers get it. -/
def draft : Node → Draft
  | .leaf d => d
  | .table _ ms => .object (draftMembers ms)
  | .tables items => .array (draftItems items)

/-- The members of a table as readers get them. -/
def draftMembers : List (String × Node) → List (Draft.Key × Draft)
  | [] => []
  | (k, n) :: ms => (.text k, n.draft) :: draftMembers ms

/-- A list of tables as readers get it. -/
def draftItems : List (List (String × Node)) → List Draft
  | [] => []
  | ms :: items => .object (draftMembers ms) :: draftItems items

end

end Node

end Blockflow.Toml
