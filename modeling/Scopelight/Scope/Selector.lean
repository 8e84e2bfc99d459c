import Scopelight.Text.Word

/-!
# Scope selectors

A selector is a list of alternatives separated by commas. An alternative lists scopes that must occur
in order in a scope path, scopes that must not occur (written with a hyphen), and whether an
injection wins ties.
-/

namespace Scopelight

open Text

/-- Who wins when an injection and a regular rule match at the same place. -/
inductive Precedence where
  /-- The injection. -/
  | left
  /-- The regular rule. -/
  | right
deriving DecidableEq, Repr

structure Alternative where
  precedence : Precedence
  included : List String
  excluded : List String
deriving DecidableEq, Repr

structure Selector where
  alternatives : List Alternative
deriving DecidableEq, Repr

/-- `string.quoted` covers itself and `string.quoted.double`, but not `string.quotedx`. -/
def covers (outer scope : String) : Bool :=
  match dropLeading outer.toList scope.toList with
  | some [] => true
  | some (c :: _) => c == '.'
  | none => false

/-- Whether scopes occur in order in a path, each at the first place it can. -/
def occurInOrder : List String → List String → Bool
  | [], _ => true
  | _ :: _, [] => false
  | wanted :: more, scope :: path =>
    if covers wanted scope then occurInOrder more path
    else occurInOrder (wanted :: more) path

def Alternative.matches (a : Alternative) (path : List String) : Bool :=
  !a.excluded.any (fun e => path.any (covers e)) && occurInOrder a.included path

/-- The precedence of the first alternative that matches a path. -/
def Selector.matches (s : Selector) (path : List String) : Option Precedence :=
  (s.alternatives.find? (·.matches path)).map (·.precedence)

/-- A term of an alternative. -/
inductive SelectorTerm where
  | wanted (scope : String)
  | unwanted (scope : String)
  | nothing
deriving DecidableEq, Repr

/-- Parentheses around a term are dropped, and so is a hyphen that stands alone. -/
def selectorTerm (cs : List Char) : SelectorTerm :=
  match trimBoth (fun c => c == '(' || c == ')') cs with
  | [] => .nothing
  | ['-'] => .nothing
  | '-' :: scope => .unwanted (String.ofList scope)
  | scope => .wanted (String.ofList scope)

def SelectorTerm.included? : SelectorTerm → Option String
  | wanted s => some s
  | _ => none

def SelectorTerm.excluded? : SelectorTerm → Option String
  | unwanted s => some s
  | _ => none

/-- An alternative; one that includes nothing is dropped. -/
def readAlternative (cs : List Char) : Option Alternative :=
  let (precedence, rest) := match trimBlank cs with
    | 'L' :: ':' :: rest => (Precedence.left, rest)
    | 'R' :: ':' :: rest => (.right, rest)
    | rest => (.right, rest)
  let terms := (words rest).map selectorTerm
  let included := terms.filterMap (·.included?)
  if included.isEmpty then none
  else some ⟨precedence, included, terms.filterMap (·.excluded?)⟩

def Selector.ofString (s : String) : Selector :=
  ⟨(splitAt (· == ',') s.toList).filterMap readAlternative⟩

end Scopelight
