import Blockflow.Settings.Environment
import Blockflow.Store.Basic

/-!
# Files and stores

A command works on files and stores below a directory, under an environment.  A path is walked
name by name, and every name but the last has to lead to a directory, even one that is left again
by a step back.

* `PathFault`, `Entry` — why a path leads nowhere, and what it leads to.
* `Workspace` — files and stores by path, and the environment.
* **`Workspace.entry`**, `Workspace.readFile` — what a path leads to, and the text of a file.
* **`Workspace.openStore`**, `Workspace.putStore` — the store of a path, and keeping it.
-/

namespace Blockflow

namespace Command

/-- Why a path cannot be followed or read. -/
inductive PathFault where
  | missing
  | notDirectory
  | isDirectory
  | nameTooLong
  | inTheWay
  | notText
  deriving DecidableEq, Repr, Inhabited

/-- The wording of a fault. -/
def PathFault.message : PathFault → String
  | .missing => "No such file or directory (os error 2)"
  | .notDirectory => "Not a directory (os error 20)"
  | .isDirectory => "Is a directory (os error 21)"
  | .nameTooLong => "File name too long (os error 36)"
  | .inTheWay => "File exists (os error 17)"
  | .notText => "stream did not contain valid UTF-8"

/-- What a path leads to. -/
inductive Entry where
  | directory
  | file (content : String)
  | store
  deriving DecidableEq, Repr, Inhabited

/-- A place in the tree of directories: the names on the way to it. -/
abbrev Place := List (List Char)

/-- Files by path below a directory, stores by path, and the environment. -/
structure Workspace where
  directory : String := ""
  env : Environment := []
  files : Table String := []
  stores : Table Store := []
  deriving Inhabited

namespace Workspace

/-! ## Places -/

/-- The names on a path. -/
def names (path : String) : Place :=
  (path.toList.splitOn '/').filter fun name => !name.isEmpty && name ≠ ['.']

/-- A place with the steps back taken. -/
def settle (place : Place) : Place :=
  place.foldl (fun done name => if name = ['.', '.'] then done.dropLast else done ++ [name]) []

/-- The place of a path that may be relative to the directory, whether or not it can be walked. -/
def locate (ws : Workspace) (path : String) : Place :=
  settle (names (Environment.joinPath ws.directory path))

/-- What is at a place. -/
def at? (ws : Workspace) (place : Place) : Option Entry :=
  match ws.files.find? fun f => ws.locate f.1 = place with
  | some f => some (.file f.2)
  | none =>
    let stores := ws.stores.map fun s => ws.locate s.1
    if stores.contains place then some .store
    else
      let known := ws.locate "" :: stores ++ ws.files.map fun f => ws.locate f.1
      if known.any place.isPrefixOf then some .directory else none

/-- The longest name a directory can hold, in bytes. -/
def longestName : Nat := 255

/-- The longest path that is followed, in bytes. -/
def longestPath : Nat := 4095

/-- Follows names from a place.  Each has to be looked up in a directory. -/
def walk (ws : Workspace) (place : Place) : Place → Except PathFault Place
  | [] => .ok place
  | name :: rest =>
    match ws.at? place with
    | some .directory =>
      if name = ['.'] then ws.walk place rest
      else if name = ['.', '.'] then ws.walk place.dropLast rest
      else if longestName < (String.ofList name).utf8ByteSize then .error .nameTooLong
      else ws.walk (place ++ [name]) rest
    | some _ => .error .notDirectory
    | none => .error .missing

/-- **What a path leads to.**  A slash at the end asks for a directory, just as a dot behind it
would. -/
def entry (ws : Workspace) (path : String) : Except PathFault Entry :=
  if path.isEmpty then .error .missing
  else if longestPath < path.utf8ByteSize then .error .nameTooLong
  else
    match Table.get? ws.files path with
    | some content => .ok (.file content)
    | none =>
      let steps := (path.toList.splitOn '/').map fun name => if name.isEmpty then ['.'] else name
      let start := if path.toList.head? = some '/' then [] else ws.locate ""
      match ws.walk start steps with
      | .error f => .error f
      | .ok place => (ws.at? place).elim (.error .missing) .ok

/-- Whether a path leads anywhere. -/
def contains (ws : Workspace) (path : String) : Bool := (ws.entry path).toBool

/-- The text of a file. -/
def readFile (ws : Workspace) (path : String) : Except PathFault String :=
  match ws.entry path with
  | .ok (.file content) => .ok content
  | .ok .directory => .error .isDirectory
  | .ok .store => .error .notText
  | .error f => .error f

/-! ## Stores -/

/-- Whether the directories on the way to a place exist or can be made.  A file at the end is in
the way. -/
def makeDirectories (ws : Workspace) (place : Place) : Place → Except PathFault Unit
  | [] => .ok ()
  | name :: rest =>
    if longestName < (String.ofList name).utf8ByteSize then .error .nameTooLong
    else
      let place := if name = ['.', '.'] then place.dropLast else place ++ [name]
      match ws.at? place with
      | none | some .directory => ws.makeDirectories place rest
      | some _ => .error (if rest.isEmpty then .inTheWay else .notDirectory)

/-- Whether a store at a path is gone when it is closed. -/
def isPassing (path : String) : Bool := path.isEmpty || path = ":memory:"

/-- **The store of a path**; one that is not there is empty.  The directories on the way are
made. -/
def openStore (ws : Workspace) (path : String) : Except Error Store :=
  if isPassing path then .ok {}
  else
    let start := if path.toList.head? = some '/' then [] else ws.locate ""
    match ws.makeDirectories start (names path).dropLast with
    | .error f => .error (.database ("Failed to create db directory: " ++ f.message))
    | .ok () =>
      match ws.at? (ws.locate path) with
      | some .directory => .error (.database ("unable to open database file: " ++ path))
      | some (.file content) =>
        if content.isEmpty then .ok {} else .error (.database "file is not a database")
      | _ =>
        match ws.stores.find? fun s => ws.locate s.1 = ws.locate path with
        | some s => .ok s.2
        | none => .ok {}

/-- Keeps a store at a path. -/
def putStore (ws : Workspace) (path : String) (store : Store) : Workspace :=
  if isPassing path then ws
  else
    let others := ws.stores.filter fun s => ws.locate s.1 ≠ ws.locate path
    { ws with stores := Table.insert others path store }

end Workspace

end Command

end Blockflow
