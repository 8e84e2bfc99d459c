import Scopelight.Grammar.Descriptor
import Scopelight.Grammar.Error
import Scopelight.Grammar.Rule
import Scopelight.Text.Sorted

/-!
# Compiling grammars

A descriptor becomes a table of rules. A rule is put into the table after everything nested in it, a
repository before its entries. All patterns are read here, so a bad one fails the grammar and not
a later document.
-/

namespace Scopelight

open Text

/-- The tables of a grammar that is being compiled. -/
structure Tables where
  rules : Array Rule
  repositories : Array Repository
  /-- Scopes of included grammars, in order. -/
  dependencies : List String

def Tables.empty : Tables := ⟨#[], #[], []⟩

abbrev Build := StateT Tables (Except GrammarError)

/-- A place below another one. -/
def childPath (path segment : String) : String :=
  if path.isEmpty then segment else path ++ "." ++ segment

def itemPath (path : String) (i : Nat) : String :=
  childPath path ("patterns[" ++ toString i ++ "]")

/-- The number of a capture key: blanks around it and a plus before it are allowed. -/
def captureNumber? (key : String) : Option Nat :=
  match trimBlank key.toList with
  | '+' :: ds => groupNumber? ds
  | ds => groupNumber? ds

/-- Bytes of an entry in a table of captures: two names of 32 and a rule of 16. -/
def captureEntryBytes : Nat := 80

/-- Whether there is a table of so many captures: the number of its bytes has to be a signed word. -/
def fitsCaptures (count : Nat) : Bool := fitsSignedWord (count * captureEntryBytes)

namespace Build

def malformed {α : Type} (scope path : String) (flaw : Flaw) : Build α :=
  throw (.malformed scope (if path.isEmpty then "<root>" else path) flaw)

/-- Put a rule at the end of the table. -/
def addRule (r : Rule) : Build RuleId := do
  let t ← get
  set { t with rules := t.rules.push r }
  return t.rules.size

def addRepository (parent : Option RepositoryId) : Build RepositoryId := do
  let t ← get
  set { t with repositories := t.repositories.push ⟨parent, []⟩ }
  return t.repositories.size

def addEntry (repository : RepositoryId) (name : String) (rule : RuleId) : Build Unit :=
  modify fun t => { t with repositories := t.repositories.modify repository fun r =>
    { r with entries := r.entries ++ [(name, rule)] } }

/-- Note a scope that an include needs. -/
def addDependency (own : String) (target : IncludeTarget) : Build Unit :=
  match target.foreignScope? with
  | some scope =>
    if scope = own then pure ()
    else modify fun t => { t with dependencies := insertSorted scope t.dependencies }
  | none => pure ()

def pattern (scope path source : String) : Build Pattern :=
  match Pattern.compile source with
  | .ok p => pure p
  | .error e => throw (.invalidPattern scope path e)

def template (scope path source : String) : Build EndTemplate :=
  match EndTemplate.compile source with
  | .ok t => pure t
  | .error e => throw (.invalidPattern scope path e)

/-- Put an include into the table and note the scope that it needs. -/
def inclusion (scope : String) (repository : RepositoryId) (reference : String) : Build RuleId := do
  let target := IncludeTarget.ofString reference
  addDependency scope target
  addRule (.inclusion target repository)

/-- Put a single rule into the table, after what its captures need. -/
def single (scope path : String) (name : Option ScopeName) (source : String)
    (captures : Build CaptureRules) : Build RuleId := do
  let p ← pattern scope (childPath path "match") source
  let captures ← captures
  addRule (.single ⟨name, p, captures⟩)

/-- Put a region into the table, after what its captures and the rules inside it need. Either an end
pattern or a while pattern has to tell how long it goes on. -/
def region (scope path : String) (name contentName : Option ScopeName) (source : String)
    (openingCaptures : Build CaptureRules) (nested : Build (List RuleId))
    (endPattern whilePattern : Option String) (closingCaptures conditionCaptures : Build CaptureRules)
    (closingLast : Bool) : Build RuleId := do
  let opening ← pattern scope (childPath path "begin") source
  let openingCaptures ← openingCaptures
  let nested ← nested
  match endPattern, whilePattern with
  | some source, none =>
    let closing ← template scope (childPath path "end") source
    let closingCaptures ← closingCaptures
    addRule (.region ⟨name, contentName, opening, closing, openingCaptures, closingCaptures, nested,
      closingLast⟩)
  | none, some source =>
    let condition ← template scope (childPath path "while") source
    let conditionCaptures ← conditionCaptures
    addRule (.whileRegion ⟨name, contentName, opening, condition, openingCaptures, conditionCaptures,
      nested⟩)
  | some _, some _ => malformed scope path .endAndWhile
  | none, none => malformed scope path .beginAlone

/-- Put rules that stand together into the table, after these rules. -/
def group (nested : Build (List RuleId)) : Build RuleId := do
  addRule (.group (← nested))

/-- The rule for a capture, after the rules by which its text is tokenized again. -/
def capture (scope path key : String) (name contentName : Option ScopeName)
    (patterns : Build (Option RuleId)) (done : CaptureRules) : Build CaptureRules :=
  match captureNumber? key with
  | none => malformed scope path (.captureKey key)
  | some n => do
    let patterns ← patterns
    if fitsCaptures (n + 1) then return done.set n ⟨name, contentName, patterns⟩
    else throw (.overflow key)

mutual

/-- Compile a rule at a place of the descriptor, inside a repository. -/
def rule (scope : String) (repository : RepositoryId) (path : String) : RuleSpec → Build RuleId
  | ⟨reference, name, contentName, matchPattern, captures, beginPattern, beginCaptures, endPattern,
      endCaptures, whilePattern, whileCaptures, patterns, ownRepository, applyEndLast⟩ => do
    let repository ← inner scope repository (childPath path "repository") ownRepository
    let nested := optionalRules scope repository path patterns
    -- captures for one pattern come before those for all patterns of the rule
    let shared (path : String) := captureMap scope repository path (pure []) captures
    match reference, matchPattern, beginPattern with
    | some reference, _, _ => inclusion scope repository reference
    | none, some _, some _ => malformed scope path .matchAndBegin
    | none, some source, none =>
      single scope path (name.map ScopeName.mk) source (shared (childPath path "captures"))
    | none, none, some source =>
      let opening := childPath path "beginCaptures"
      let closing := childPath path "endCaptures"
      let condition := childPath path "whileCaptures"
      region scope path (name.map ScopeName.mk) (contentName.map ScopeName.mk) source
        (captureMap scope repository opening (shared opening) beginCaptures) nested
        endPattern whilePattern
        (captureMap scope repository closing (shared closing) endCaptures)
        (captureMap scope repository condition (shared condition) whileCaptures) applyEndLast
    | none, none, none =>
      if endPattern.isSome || whilePattern.isSome then malformed scope path .endWithoutBegin
      else group nested

/-- The repository that a rule's own entries open, if it has any. -/
def inner (scope : String) (repository : RepositoryId) (path : String) :
    Option (List (String × RuleSpec)) → Build RepositoryId
  | none | some [] => pure repository
  | some (e :: es) => do
    let id ← addRepository (some repository)
    entries scope id path (e :: es)
    return id

/-- Compile a list of rules, the first of which has number `i`. -/
def rules (scope : String) (repository : RepositoryId) (path : String) :
    Nat → List RuleSpec → Build (List RuleId)
  | _, [] => pure []
  | i, spec :: specs => do
    let id ← rule scope repository (itemPath path i) spec
    return id :: (← rules scope repository path (i + 1) specs)

def optionalRules (scope : String) (repository : RepositoryId) (path : String) :
    Option (List RuleSpec) → Build (List RuleId)
  | none => pure []
  | some specs => rules scope repository path 0 specs

/-- Compile the entries of a repository. -/
def entries (scope : String) (repository : RepositoryId) (path : String) :
    List (String × RuleSpec) → Build Unit
  | [] => pure ()
  | (name, spec) :: rest => do
    addEntry repository name (← rule scope repository (childPath path name) spec)
    entries scope repository path rest

/-- Compile a map of captures; without one `otherwise` stands for it. -/
def captureMap (scope : String) (repository : RepositoryId) (path : String)
    (otherwise : Build CaptureRules) : Option (List (String × RuleSpec)) → Build CaptureRules
  | none => otherwise
  | some ms => captureRules scope repository path [] ms

/-- Compile the rules of captures, in the order of their keys. -/
def captureRules (scope : String) (repository : RepositoryId) (path : String) :
    CaptureRules → List (String × RuleSpec) → Build CaptureRules
  | done, [] => pure done
  | done, (key, ⟨_, name, contentName, _, _, _, _, _, _, _, _, patterns, _, _⟩) :: rest => do
    let done ← capture scope path key (name.map ScopeName.mk) (contentName.map ScopeName.mk)
      (capturePatterns scope repository (childPath path key) patterns) done
    captureRules scope repository path done rest

/-- The rules by which the text of a capture is tokenized again; an empty list stands for none. -/
def capturePatterns (scope : String) (repository : RepositoryId) (path : String) :
    Option (List RuleSpec) → Build (Option RuleId)
  | none | some [] => pure none
  | some (spec :: specs) => some <$> group (rules scope repository path 0 (spec :: specs))

end

/-- Compile the rules of a grammar's injections. -/
def injections (scope : String) (repository : RepositoryId) :
    List (String × RuleSpec) → Build (List (Selector × RuleId))
  | [] => pure []
  | (selector, spec) :: rest => do
    let id ← rule scope repository (childPath "injections" selector) spec
    return (Selector.ofString selector, id) :: (← injections scope repository rest)

/-- Compile the pattern that recognises the first line of a document. -/
def firstLine (scope : String) : Option String → Build (Option Pattern)
  | none => pure none
  | some source => some <$> pattern scope "firstLineMatch" source

/-- Compile everything of a grammar but its scope. -/
def grammar (scope : String) (d : Descriptor) : Build Grammar := do
  let rootRepository ← addRepository none
  entries scope rootRepository "repository" d.repository
  let patterns ← rules scope rootRepository "" 0 d.patterns
  let root ← addRule (.group patterns)
  let injections ← injections scope rootRepository d.injections
  let firstLine ← firstLine scope d.firstLineMatch
  let t ← get
  return {
    scope
    names := d.names
    extensions := d.extensions
    dottedExtensions := d.dottedExtensions
    firstLine
    rules := t.rules
    repositories := t.repositories
    root
    rootRepository
    injections
    injectionSelector := d.injectionSelector.map Selector.ofString
    dependencies := (d.dependencies.filter (· != scope)).foldl (fun ss s => insertSorted s ss)
      t.dependencies }

end Build

/-- Compile a grammar. Blanks around its scope do not count. -/
def Grammar.compile (d : Descriptor) : Except GrammarError Grammar :=
  let scope := String.ofList (trimBlank d.scopeName.toList)
  if scope.isEmpty then .error (.malformed "" "scopeName" .missingScopeName)
  else (Build.grammar scope d).run' .empty

end Scopelight
