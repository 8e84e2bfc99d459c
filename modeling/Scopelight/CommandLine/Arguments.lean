import Scopelight.Text.Word

/-!
# Arguments

What the command line asks for. Options stand before or after the command's name; `--grammars` and
`--config` belong to every command, and the one that stands deeper counts. After `--` nothing is an
option.
-/

namespace Scopelight.CommandLine

open Text

/-- Why there is nothing to do. -/
inductive Refusal where
  /-- The user asks how the program is called. -/
  | help
  /-- The arguments make no sense. -/
  | misuse
deriving DecidableEq, Repr

inductive Opt where
  | grammars | config | lang | scope | json | merge | help
deriving DecidableEq, Repr

namespace Opt

def name : Opt → String
  | grammars => "grammars"
  | config => "config"
  | lang => "lang"
  | scope => "scope"
  | json => "json"
  | merge => "merge"
  | help => "help"

def takesValue : Opt → Bool
  | grammars | config | lang | scope => true
  | json | merge | help => false

/-- Paths must not be empty. -/
def isPath : Opt → Bool
  | grammars | config => true
  | _ => false

/-- The options that every command has. -/
def common : List Opt := [grammars, config, help]

end Opt

/-- The commands. -/
inductive Verb where
  | tokenize | scopes | missing | flag
deriving DecidableEq, Repr

namespace Verb

def name : Verb → String
  | tokenize => "tokenize"
  | scopes => "scopes"
  | missing => "missing"
  | flag => "flag"

def all : List Verb := [tokenize, scopes, missing, flag]

def ofName? (s : String) : Option Verb := all.find? (·.name == s)

def options : Verb → List Opt
  | tokenize => .lang :: .scope :: .json :: .merge :: Opt.common
  | _ => Opt.common

end Verb

/-- An argument by its form. -/
inductive Argument where
  /-- `--` -/
  | divider
  /-- `--name` or `--name=value` -/
  | long (name : List Char) (value : Option (List Char))
  /-- Letters behind one hyphen. -/
  | short (letters : List Char)
  | plain
deriving DecidableEq, Repr

def Argument.ofString (s : String) : Argument :=
  match s.toList with
  | ['-', '-'] => .divider
  | '-' :: '-' :: cs =>
    match cutAt '=' cs with
    | some (name, value) => .long name (some value)
    | none => .long cs none
  | '-' :: c :: cs => .short (c :: cs)
  | _ => .plain

/-- What was given before a command's name or behind it. -/
structure Given where
  options : List (Opt × String)
  /-- An option that is checked when the next one or an operand comes, or at the end. -/
  last : Option (Opt × String)
  operands : List String
deriving DecidableEq, Repr

namespace Given

def nothing : Given := ⟨[], none, []⟩

/-- Check the last option: it must be the first of its kind, and a path must not be empty. -/
def settle (g : Given) : Except Refusal Given :=
  match g.last with
  | none => .ok g
  | some (o, value) =>
    if (g.options.lookup o).isSome || (o.isPath && value.isEmpty) then .error .misuse
    else .ok { g with options := (o, value) :: g.options, last := none }

def addOption (g : Given) (o : Opt) (value : String) : Except Refusal Given :=
  (fun g => { g with last := some (o, value) }) <$> g.settle

def addOperand (g : Given) (s : String) : Except Refusal Given :=
  (fun g => { g with operands := g.operands ++ [s] }) <$> g.settle

def value? (g : Given) (o : Opt) : Option String := g.options.lookup o

def has (g : Given) (o : Opt) : Bool := (g.value? o).isSome

end Given

/-- Help comes at once, if all that stands before it is right. -/
def askHelp {α : Type} (g : Given) : Except Refusal α := do
  let _ ← g.settle
  throw .help

/-- Read arguments. A plain one that begins a command ends the reading; with it comes what follows.
At most `room` plain ones may stand alone. -/
def readArguments (known : List Opt) (command? : String → Bool) (room : Nat) :
    Given → List String → Except Refusal (Given × Option (String × List String))
  | g, [] => .ok (g, none)
  | g, a :: rest =>
    match Argument.ofString a with
    | .plain =>
      if command? a then .ok (g, some (a, rest))
      else if g.operands.length < room then do
        readArguments known command? room (← g.addOperand a) rest
      else .error .misuse
    | .divider =>
      if g.operands.length + rest.length ≤ room then do
        return (← rest.foldlM Given.addOperand g, none)
      else .error .misuse
    | .short letters => if letters.head? = some 'h' then askHelp g else .error .misuse
    | .long name value =>
      match known.find? (·.name.toList == name) with
      | none => .error .misuse
      | some o =>
        if o.takesValue then
          match value, rest with
          | some v, rest => do
            readArguments known command? room (← g.addOption o (String.ofList v)) rest
          | none, v :: rest =>
            if Argument.ofString v = .plain then do
              readArguments known command? room (← g.addOption o v) rest
            else .error .misuse
          | none, [] => .error .misuse
        else if value.isSome then .error .misuse
        else if o = .help then askHelp g
        else do readArguments known command? room (← g.addOption o "") rest

/-- How to tokenize a file. -/
structure TokenizeTask where
  /-- A name, an extension or a path that picks the grammar. -/
  lang : Option String
  scope : Option String
  json : Bool
  merge : Bool
  file : String
deriving DecidableEq, Repr

inductive Task where
  | tokenize (t : TokenizeTask)
  | scopes
  | missing
  /-- Find the scope that a name, an extension or a path stands for. -/
  | flag (text : String)
deriving DecidableEq, Repr

/-- What the command line asks for. -/
structure Invocation where
  /-- A folder of further grammars. -/
  grammars : Option String
  config : Option String
  task : Task
deriving DecidableEq, Repr

/-- The paths that are read. -/
def Invocation.paths (inv : Invocation) : List String :=
  inv.config.toList ++ inv.grammars.toList ++
    match inv.task with
    | .tokenize t => [t.file]
    | _ => []

/-- The task of a command. A file is needed and may not be empty, and its grammar is picked in one
way only. -/
def taskOf (verb : Verb) (g : Given) : Except Refusal Task :=
  match verb, g.operands with
  | .tokenize, [file] =>
    if file.isEmpty || (g.has .lang && g.has .scope) then .error .misuse
    else .ok (.tokenize ⟨g.value? .lang, g.value? .scope, g.has .json, g.has .merge, file⟩)
  | .scopes, [] => .ok .scopes
  | .missing, [] => .ok .missing
  | .flag, [text] => .ok (.flag text)
  | _, _ => .error .misuse

/-- How many plain arguments a command takes. -/
def Verb.room : Verb → Nat
  | tokenize | flag => 1
  | scopes | missing => 0

/-- `help` stands alone or before the name of a command. -/
def helpOn : List String → Refusal
  | [] | ["help"] => .help
  | [name] => if (Verb.ofName? name).isSome then .help else .misuse
  | _ => .misuse

/-- Read a whole command line. -/
def Invocation.ofArguments (args : List String) : Except Refusal Invocation := do
  let isCommand := fun s => s == "help" || (Verb.ofName? s).isSome
  match ← readArguments Opt.common isCommand 0 .nothing args with
  | (_, none) => throw .misuse
  | (outer, some (name, rest)) =>
    match Verb.ofName? name with
    | none => throw (helpOn rest)
    | some verb =>
      let (inner, _) ← readArguments verb.options (fun _ => false) verb.room .nothing rest
      let inner ← inner.settle
      let outer ← outer.settle
      return {
        grammars := (inner.value? .grammars).or (outer.value? .grammars)
        config := (inner.value? .config).or (outer.value? .config)
        task := ← taskOf verb inner }

/-- How the program is called. -/
def usage : String := "\n".intercalate [
  "Tokenize text with TextMate grammars",
  "",
  "Usage: scopelight [OPTIONS] <COMMAND>",
  "",
  "Commands:",
  "  tokenize [--lang <LANG> | --scope <SCOPE>] [--json] [--merge] <FILE>",
  "  scopes",
  "  missing",
  "  flag <TEXT>",
  "  help",
  "",
  "Options:",
  "  --grammars <DIR>  Folder of additional json grammars",
  "  --config <FILE>   Tokenizer configuration (JSON)",
  "  -h, --help        Print help",
  ""]

end Scopelight.CommandLine
