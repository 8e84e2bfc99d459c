import Scopelight.Grammar.Include
import Scopelight.Pattern.EndTemplate
import Scopelight.Scope.Selector

/-!
# Compiled grammars

The rules of a grammar lie in one table and refer to each other by their places in it. Includes stay
symbolic and are looked up when a rule is expanded, so a grammar may include itself.
-/

namespace Scopelight

/-- The place of a rule in its grammar's table. -/
abbrev RuleId := Nat

/-- The place of a repository in its grammar's table. -/
abbrev RepositoryId := Nat

/-- A rule of some registered grammar. -/
structure RuleRef where
  grammar : Nat
  rule : RuleId
deriving DecidableEq, Repr

/-- What applies to the text of one group. -/
structure CaptureRule where
  name : Option ScopeName
  contentName : Option ScopeName
  /-- Rules by which the text is tokenized again. -/
  patterns : Option RuleId
deriving DecidableEq, Repr

/-- Capture rules by group number, in order. -/
abbrev CaptureRules := List (Nat × CaptureRule)

/-- Put a rule in place; the last one for a group counts. -/
def CaptureRules.set (n : Nat) (c : CaptureRule) : CaptureRules → CaptureRules
  | [] => [(n, c)]
  | (m, d) :: rest =>
    if n < m then (n, c) :: (m, d) :: rest
    else if n = m then (n, c) :: rest
    else (m, d) :: CaptureRules.set n c rest

/-- A rule that takes one match. -/
structure MatchRule where
  name : Option ScopeName
  pattern : Pattern
  captures : CaptureRules
deriving DecidableEq, Repr

/-- A region from an opening match to a closing one. -/
structure RegionRule where
  name : Option ScopeName
  contentName : Option ScopeName
  opening : Pattern
  closing : EndTemplate
  openingCaptures : CaptureRules
  closingCaptures : CaptureRules
  patterns : List RuleId
  closingLast : Bool
deriving DecidableEq, Repr

/-- A region that goes on as long as its condition matches at the start of each line. -/
structure WhileRule where
  name : Option ScopeName
  contentName : Option ScopeName
  opening : Pattern
  condition : EndTemplate
  openingCaptures : CaptureRules
  conditionCaptures : CaptureRules
  patterns : List RuleId
deriving DecidableEq, Repr

inductive Rule where
  /-- An include, looked up from the repository that encloses it. -/
  | inclusion (target : IncludeTarget) (repository : RepositoryId)
  | single (r : MatchRule)
  | region (r : RegionRule)
  | whileRegion (r : WhileRule)
  /-- Rules that stand together and match nothing themselves. -/
  | group (patterns : List RuleId)
deriving DecidableEq, Repr

namespace Rule

/-- The pattern by which a scan finds the rule. -/
def scanPattern? : Rule → Option Pattern
  | single r => some r.pattern
  | region r => some r.opening
  | whileRegion r => some r.opening
  | inclusion _ _ | group _ => none

def name? : Rule → Option ScopeName
  | single r => r.name
  | region r => r.name
  | whileRegion r => r.name
  | inclusion _ _ | group _ => none

def contentName? : Rule → Option ScopeName
  | region r => r.contentName
  | whileRegion r => r.contentName
  | _ => none

/-- The rules tried inside the rule. -/
def nested : Rule → List RuleId
  | region r => r.patterns
  | whileRegion r => r.patterns
  | group patterns => patterns
  | inclusion _ _ | single _ => []

def closingLast : Rule → Bool
  | region r => r.closingLast
  | _ => false

/-- All capture rules. -/
def captures : Rule → CaptureRules
  | single r => r.captures
  | region r => r.openingCaptures ++ r.closingCaptures
  | whileRegion r => r.openingCaptures ++ r.conditionCaptures
  | inclusion _ _ | group _ => []

end Rule

/-- The named rules of one repository object, inside another or outermost. -/
structure Repository where
  parent : Option RepositoryId
  entries : List (String × RuleId)
deriving DecidableEq, Repr

/-- A compiled grammar. -/
structure Grammar where
  scope : String
  names : List String
  extensions : List String
  dottedExtensions : List String
  firstLine : Option Pattern
  rules : Array Rule
  repositories : Array Repository
  root : RuleId
  rootRepository : RepositoryId
  injections : List (Selector × RuleId)
  injectionSelector : Option Selector
  /-- Scopes of other grammars that are included or declared, in order. -/
  dependencies : List String

namespace Grammar

def rule? (g : Grammar) (id : RuleId) : Option Rule := g.rules[id]?

/-- Look a name up in a repository and those around it; the number bounds how many. -/
def lookupFrom (g : Grammar) (name : String) : Nat → Option RepositoryId → Option RuleId
  | 0, _ | _, none => none
  | fuel + 1, some id =>
    match g.repositories[id]? with
    | none => none
    | some r =>
      match r.entries.lookup name with
      | some rule => some rule
      | none => g.lookupFrom name fuel r.parent

/-- The rule of a name in the innermost repository that has it. -/
def lookup (g : Grammar) (repository : RepositoryId) (name : String) : Option RuleId :=
  g.lookupFrom name g.repositories.size (some repository)

/-- An entry of the outermost repository. -/
def entry? (g : Grammar) (name : String) : Option RuleId :=
  match g.repositories[g.rootRepository]? with
  | some r => r.entries.lookup name
  | none => none

/-- Whether a document that begins with this line looks like one of the grammar. -/
def matchesFirstLine (g : Grammar) (line : String) : Bool :=
  match g.firstLine with
  | some p => (p.search line.toList.toArray 0 ⟨true, some 0⟩).isSome
  | none => false

end Grammar

end Scopelight
