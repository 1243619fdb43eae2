import Blockflow.Table

/-!
# References to the environment

Settings may refer to variables of the environment.  A reference is replaced by the variable's
value, which is not looked at again; a reference to a variable that is not set stays as it is.

* `Environment` — the variables that are set.
* **`Environment.expand`** — a text with its references replaced.
* `Environment.inHome` — a path below the home directory.
-/

namespace Blockflow

/-- The variables that are set, with their values. -/
abbrev Environment := Table String

namespace Environment

/-- A reference to a variable. -/
def reference (name : List Char) : List Char := '$' :: '\x7b' :: (name ++ ['\x7d'])

/-- What stands for a reference: the variable's value, or the reference itself. -/
def resolve (env : Environment) (name : List Char) : List Char :=
  match Table.get? env (String.ofList name) with
  | some value => value.toList
  | none => reference name

/-- The characters of a text with its references replaced.  A name reaches to the next closing
brace; one that is not closed reaches to the end of the text, and is closed there. -/
def expandChars (env : Environment) : List Char → List Char
  | [] => []
  | '$' :: '\x7b' :: rest =>
    env.resolve (rest.takeWhile (· ≠ '\x7d')) ++
      expandChars env ((rest.dropWhile (· ≠ '\x7d')).drop 1)
  | c :: rest => c :: expandChars env rest
termination_by cs => cs.length
decreasing_by
  · have := (List.dropWhile_sublist (· ≠ '\x7d') (l := rest)).length_le
    simp only [List.length_drop, List.length_cons]
    omega
  · simp

/-- **A text with its references replaced.** -/
def expand (env : Environment) (s : String) : String := String.ofList (expandChars env s.toList)

/-- A path below a directory; an absolute path stands for itself. -/
def joinPath (directory path : String) : String :=
  if path.toList.head? = some '/' || directory.isEmpty then path
  else if directory.toList.getLast? = some '/' then directory ++ path
  else directory ++ "/" ++ path

/-- The home directory. -/
def home? (env : Environment) : Option String := Table.get? env "HOME"

/-- A path in which a leading tilde stands for the home directory. -/
def inHome (env : Environment) (path : String) : String :=
  match path.toList, env.home? with
  | '~' :: '/' :: rest, some home => joinPath home (String.ofList rest)
  | _, _ => path

end Environment

end Blockflow
