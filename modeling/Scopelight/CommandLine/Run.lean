import Scopelight.CommandLine.Arguments
import Scopelight.CommandLine.Report
import Scopelight.Grammar.Folder
import Scopelight.Highlighter
import Scopelight.Registry.Builtin

/-!
# Commands

What the commands do with the files they are given.
-/

namespace Scopelight.CommandLine

open Text

/-- Why a command failed. -/
inductive CommandError where
  | configNotRead (path : String)
  | configMalformed (path : String)
  | grammarsNotLoaded (folder : String)
  | fileNotRead (path : String)
  | noGrammar (flag : String)
  | languageUnknown (path : String)
  | grammar (cause : GrammarError)
  | stepLimit
deriving DecidableEq, Repr

def CommandError.message : CommandError → String
  | configNotRead path => "Failed to read config " ++ path
  | configMalformed path => "Failed to parse config " ++ path
  | grammarsNotLoaded folder => "Failed to load grammars from " ++ folder
  | fileNotRead path => "Failed to read " ++ path
  | noGrammar flag => "no grammar registered for \x60" ++ flag ++ "\x60"
  | languageUnknown path =>
    "cannot tell the language of " ++ path ++ "; pass --lang or --scope"
  | grammar cause => cause.message
  | stepLimit => "the limit of steps was reached"

def CommandError.ofFailure : Failure → CommandError
  | .grammar cause => grammar cause
  | .stepLimit => stepLimit

/-- Why the grammars of a folder are not at hand. A program that stops does not say so. -/
def CommandError.ofLoading (folder : String) : GrammarError → CommandError
  | .overflow key => grammar (.overflow key)
  | _ => grammarsNotLoaded folder

abbrev Run := Except CommandError

/-- Read the configuration file, if there is one. -/
def loadConfig (d : Disk) : Option String → Run Config
  | none => .ok .default
  | some path => do
    let text ← (d.readText path).mapError fun _ => .configNotRead path
    (Config.ofText text).mapError fun _ => .configMalformed path

/-- The grammars at hand and those of the folder, if there is one. -/
def loadRegistry (d : Disk) (inv : Invocation) : Run Registry := do
  let config ← loadConfig d inv.config
  let r ← ((Registry.withConfig config).register builtinGrammars).mapError .grammar
  match inv.grammars with
  | none => return r
  | some folder =>
    (do r.register (← Descriptor.ofFolder d folder)).mapError (.ofLoading folder)

/-- The scope of a file: what was asked for, or what its name or its first line tells. -/
def pickScope (r : Registry) (t : TokenizeTask) (doc : String) : Run String :=
  match t.scope, t.lang with
  | some scope, _ => .ok scope
  | none, some lang =>
    match r.resolveFlag lang with
    | some scope => .ok scope
    | none => .error (.noGrammar lang)
  | none, none =>
    match ((Path.fileName? t.file).bind r.resolveFlag).or
        (r.scopeForFirstLine (String.ofList (firstLine doc.toList))) with
    | some scope => .ok scope
    | none => .error (.languageUnknown t.file)

/-- Tokenize a file and report its tokens. -/
def tokenizeFile (d : Disk) (r : Registry) (t : TokenizeTask) : Run String := do
  let doc ← (d.readText t.file).mapError fun _ => .fileNotRead t.file
  let scope ← pickScope r t doc
  let h ← (Highlighter.create r scope).mapError .grammar
  let ts ← (h.highlight doc).1.mapError .ofFailure
  let ts := if t.merge then mergeTokens ts else ts
  return if t.json then tokensJson ts else tokenTable doc ts

/-- Texts, each on a line. -/
def linesText (ss : List String) : String := String.join (ss.map (· ++ "\n"))

/-- Do what is asked for; the answer is what is printed. -/
def Invocation.run (inv : Invocation) (d : Disk) : Run String := do
  let r ← loadRegistry d inv
  match inv.task with
  | .tokenize t => tokenizeFile d r t
  | .scopes => return linesText r.scopes
  | .missing => return linesText r.missingDependencies
  | .flag text =>
    match r.resolveFlag text with
    | some scope => return scope ++ "\n"
    | none => throw (.noGrammar text)

/-- How a run of the program ends. -/
inductive Outcome where
  | refused (why : Refusal)
  | failed (why : CommandError)
  /-- A table had no length. -/
  | stopped
  | printed (text : String)
deriving DecidableEq, Repr

/-- Run a command line. -/
def run (args : List String) (d : Disk) : Outcome :=
  match Invocation.ofArguments args with
  | .error why => .refused why
  | .ok inv =>
    match inv.run d with
    | .error (.grammar (.overflow _)) => .stopped
    | .error why => .failed why
    | .ok text => .printed text

namespace Outcome

def exitCode : Outcome → Nat
  | refused .help | printed _ => 0
  | failed _ => 1
  | refused .misuse => 2
  | stopped => 101

def stdout : Outcome → String
  | printed text => text
  | _ => ""

/-- What is printed about a failure. -/
def stderr? : Outcome → Option String
  | failed why => some ("Error: " ++ why.message)
  | _ => none

/-- The first line about a failure. -/
def stderrLine? (o : Outcome) : Option String :=
  o.stderr?.map fun s => String.ofList (firstLine s.toList)

end Outcome

end Scopelight.CommandLine
