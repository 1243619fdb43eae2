import Blockflow.Table

/-!
# Command lines

A command line names a command behind general options, and gives the command its own options and
operands.  Options are given at most once; the value of an option stands behind an equals sign, in
the same word as a short name, or in the next word, which then may not look like an option itself.

* `OptionSpec`, `Grammar` — what may be given.
* `Given`, `Interruption` — what was given, or why nothing is to be done.
* **`Grammar.read`** — reads a command line as far as a grammar goes.
* `Invocation`, **`Invocation.ofArguments`** — the commands.
-/

namespace Blockflow.Command

/-! ## Grammars -/

/-- An option: its names, whether a value belongs to it, and whether that may be empty. -/
structure OptionSpec where
  long : String
  short : Option Char := none
  takesValue : Bool := true
  mayBeEmpty : Bool := true
  deriving DecidableEq, Repr

/-- What may be given: options, operands up to a number, and a request for the version.  A grammar
that leads ends before the first operand. -/
structure Grammar where
  options : List OptionSpec := []
  operands : Nat := 0
  tellsVersion : Bool := false
  leads : Bool := false
  deriving DecidableEq, Repr

/-- The options that were given, by long name, and the operands. -/
structure Given where
  options : Table String := []
  operands : List String := []
  deriving DecidableEq, Repr, Inhabited

/-- Why a command line is not carried out. -/
inductive Interruption where
  | misuse
  | help
  | version
  deriving DecidableEq, Repr

/-- A word of a command line: an operand, the end of all options, or an option with what is joined
to it. -/
inductive Word where
  | operand
  | closing
  | long (name : List Char) (value : Option (List Char))
  | short (name : Char) (joined : List Char)
  deriving DecidableEq, Repr

/-- What a word looks like; a single hyphen is an operand. -/
def Word.ofChars : List Char → Word
  | ['-', '-'] => .closing
  | '-' :: '-' :: rest =>
    match rest.span (· ≠ '=') with
    | (name, _ :: value) => .long name (some value)
    | (name, []) => .long name none
  | '-' :: c :: rest => .short c rest
  | _ => .operand

/-- What a word looks like. -/
def Word.ofText (s : String) : Word := .ofChars s.toList

namespace Given

/-- One more option. -/
def withOption (g : Given) (o : OptionSpec) (value : String) : Except Interruption Given :=
  if Table.contains g.options o.long || (o.takesValue && !o.mayBeEmpty && value.isEmpty) then
    .error .misuse
  else .ok { g with options := Table.insert g.options o.long value }

/-- One more operand, which has to be a name. -/
def withOperand (g : Given) (limit : Nat) (value : String) : Except Interruption Given :=
  if value.isEmpty || limit ≤ g.operands.length then .error .misuse
  else .ok { g with operands := g.operands ++ [value] }

end Given

namespace Grammar

/-- The option of a long name. -/
def long? (s : Grammar) (name : List Char) : Option OptionSpec :=
  s.options.find? fun o => o.long.toList = name

/-- The option of a short name. -/
def short? (s : Grammar) (name : Char) : Option OptionSpec :=
  s.options.find? fun o => o.short = some name

/-- The option of a word, with the value that is joined to it. -/
def option (s : Grammar) : Word → Except Interruption (OptionSpec × Option String)
  | .operand | .closing => .error .misuse
  | .long name value =>
    match s.long? name with
    | some o => .ok (o, value.map String.ofList)
    | none =>
      if value.isNone && name = "help".toList then .error .help
      else if value.isNone && s.tellsVersion && name = "version".toList then .error .version
      else .error .misuse
  | .short name joined =>
    match s.short? name with
    | some o =>
      let value := if joined.head? = some '=' then joined.tail else joined
      .ok (o, if joined.isEmpty then none else some (String.ofList value))
    | none =>
      if name = 'h' then .error .help
      else if s.tellsVersion && name = 'V' then .error .version
      else .error .misuse

/-- **Reads a command line** as far as the grammar goes, and returns the rest.  An option may be
pending whose value is the next word. -/
def read (s : Grammar) (g : Given) (pending : Option OptionSpec) :
    List String → Except Interruption (Given × List String)
  | [] => if pending.isSome then .error .misuse else .ok (g, [])
  | word :: rest =>
    match Word.ofText word, pending with
    | .operand, some o => do s.read (← g.withOption o word) none rest
    | _, some _ => .error .misuse
    | .operand, none =>
      if s.leads then .ok (g, word :: rest)
      else do s.read (← g.withOperand s.operands word) none rest
    | .closing, none => do
      return (← rest.foldlM (fun g word => g.withOperand s.operands word) g, [])
    | w, none => do
      let (o, joined) ← s.option w
      match o.takesValue, joined with
      | true, none => s.read g (some o) rest
      | true, some value => s.read (← g.withOption o value) none rest
      | false, none => s.read (← g.withOption o "") none rest
      | false, some _ => .error .misuse

end Grammar

/-! ## Commands -/

/-- How a workflow is to be run. -/
structure RunArguments where
  input : String := "\x7b\x7d"
  userId : String := "local"
  goal : Option String := none
  usesChecker : Bool := false
  checkerModelId : Option String := none
  deriving DecidableEq, Repr, Inhabited

/-- A command: show the settings, look at a workflow, run one, or put an agent into the store. -/
inductive Task where
  | showSettings
  | validate (path : String)
  | run (path : String) (arguments : RunArguments)
  | importAgent (path : String) (userId : Option String)
  deriving DecidableEq, Repr, Inhabited

/-- A command with the path of the settings. -/
structure Invocation where
  settingsPath : String := "weft.toml"
  task : Task
  deriving DecidableEq, Repr, Inhabited

/-- The file a task reads, if it reads one. -/
def Task.path? : Task → Option String
  | .showSettings => none
  | .validate path | .run path _ | .importAgent path _ => some path

namespace Invocation

/-- What stands before the command. -/
def leading : Grammar :=
  { options := [⟨"config", some 'c', true, false⟩], tellsVersion := true, leads := true }

/-- The commands with their grammars. -/
def grammars : List (String × Grammar) :=
  [("validate", { operands := 1 }),
    ("run",
      { operands := 1
        options :=
          [{ long := "input", short := some 'i' }, { long := "user" }, { long := "goal" },
            { long := "checker", takesValue := false }, { long := "checker-model" }] }),
    ("import", { operands := 1, options := [{ long := "user" }] }),
    ("config", {})]

/-- The task of a command and of what was given to it. -/
def task? (command : String) (g : Given) : Option Task :=
  match command, g.operands with
  | "config", [] => some .showSettings
  | "validate", [path] => some (.validate path)
  | "import", [path] => some (.importAgent path (Table.get? g.options "user"))
  | "run", [path] => some <| .run path
      { input := (Table.get? g.options "input").getD "\x7b\x7d"
        userId := (Table.get? g.options "user").getD "local"
        goal := Table.get? g.options "goal"
        usesChecker := Table.contains g.options "checker"
        checkerModelId := Table.get? g.options "checker-model" }
  | _, _ => none

/-- **The command of a command line.** -/
def ofArguments (arguments : List String) : Except Interruption Invocation := do
  let (general, rest) ← leading.read {} none arguments
  match rest with
  | [] => .error .misuse
  | command :: rest =>
    match grammars.lookup command with
    | none => .error (if command = "help" then .help else .misuse)
    | some grammar =>
      let (own, _) ← grammar.read {} none rest
      match task? command own with
      | none => .error .misuse
      | some task =>
        return { settingsPath := (Table.get? general.options "config").getD "weft.toml", task }

end Invocation

end Blockflow.Command
