import Blockflow.Command.Basic
import Blockflow.Store.Document

/-!
# The command line

Reads the files, the environment and the store that a command line may need, carries it out, and
prints what it reports.
-/

open Blockflow Command

/-- The text of a file that can be read. -/
def textOf? (path : String) : IO (Option String) := do
  try return some (← IO.FS.readFile path)
  catch _ => return none

/-- The variables that are set. -/
def environment : IO Environment := do
  let entries := ((← textOf? "/proc/self/environ").getD "").splitOn "\x00"
  return .ofList <| entries.filterMap fun entry =>
    match entry.splitOn "=" with
    | name :: value => some (name, String.intercalate "=" value)
    | [] => none

/-- The time of day, read off a file made just now. -/
def timeOfDay : IO Timestamp := do
  let (_, path) ← IO.FS.createTempFile
  let time := (← path.metadata).modified
  IO.FS.removeFile path
  return ⟨time.sec, time.nsec.toNat⟩

/-- A number that identifiers start from. -/
def seed : IO Nat := do
  return (← IO.getRandomBytes 5).foldl (fun n b => n * 256 + b.toNat) 0

/-- The files that a command line may need. -/
def workspaceFor (arguments : List String) : IO Workspace := do
  let env ← environment
  let paths := match Invocation.ofArguments arguments with
    | .ok i => i.settingsPath :: (Settings.defaultPath env).toList ++ i.task.path?.toList
    | .error _ => []
  let files ← paths.filterMapM fun path => return (← textOf? path).map ((path, ·))
  return { env, files := .ofList files }

/-- The path of the store that a command line works on. -/
def storePath? (arguments : List String) (ws : Workspace) : Option String :=
  match Invocation.ofArguments arguments with
  | .ok i => ((ws.settings i.settingsPath).2.toOption).map fun s => s.storePath ws.env
  | .error _ => none

/-- Keeps a store at a path. -/
def keep (path : String) (store : Store) : IO Unit := do
  let folder := String.intercalate "/" (path.splitOn "/").dropLast
  if !folder.isEmpty then IO.FS.createDirAll folder
  IO.FS.writeFile path (Store.codec.write store).pretty

/-- Carries out a command line. -/
def main (arguments : List String) : IO UInt32 := do
  let files ← workspaceFor arguments
  let place := storePath? arguments files
  let kept := ((← place.bindM textOf?).getD "")
  let before := (Store.codec.ofText kept).toOption.getD {}
  let ws := place.elim files fun path => files.putStore path before
  let world : World := { epoch := ← timeOfDay, ids := ← seed }
  let (report, after, _) := Command.execute arguments ws world
  for note in report.notes do
    IO.eprintln note
  IO.print report.output
  if let some path := place then
    if let .ok store := after.openStore path then
      if store ≠ before then keep path store
  return report.code.toUInt32
