import Scopelight.Registry.Basic

/-!
# Expansion of includes

The rules nested in a rule are expanded into the list of those that can match: single rules and
regions, in order of priority. A rule set is spliced in once, and nested includes are followed to a
limited depth.
-/

namespace Scopelight

/-- What an expansion has met. -/
structure Expansion where
  /-- Rule sets spliced in and rules found. -/
  visited : List RuleRef
  /-- Rules that can match, the latest first. -/
  found : List RuleRef
deriving DecidableEq, Repr

def Expansion.start : Expansion := ⟨[], []⟩

namespace Registry

/-- The top-level rules of a grammar. -/
def rootRef? (r : Registry) (id : Nat) : Option RuleRef :=
  (r.grammar? id).map fun g => ⟨id, g.root⟩

/-- What an include of grammar `owner` stands for when documents are in grammar `base`. -/
def target? (r : Registry) (base owner : Nat) (target : IncludeTarget) (repository : RepositoryId) :
    Option RuleRef :=
  match target with
  | .entry name => do
    let g ← r.grammar? owner
    return ⟨owner, ← g.lookup repository name⟩
  | .self => r.rootRef? owner
  | .base => r.rootRef? base
  | .grammar scope => do r.rootRef? (← r.idOf? scope)
  | .grammarEntry scope name => do
    let id ← r.idOf? scope
    let g ← r.grammar? id
    return ⟨id, ← g.entry? name⟩

/-- Expand a rule; the number is how many levels may still be entered. -/
def expand (r : Registry) (base : Nat) : Nat → Expansion → RuleRef → Expansion
  | 0, e, _ => e
  | room + 1, e, ref =>
    match r.rule? ref with
    | none => e
    | some (.inclusion target repository) =>
      match r.target? base ref.grammar target repository with
      | none => e
      | some t =>
        match r.rule? t with
        | some (.inclusion _ _) | some (.group _) =>
          if t ∈ e.visited then e else r.expand base room { e with visited := t :: e.visited } t
        | _ => r.expand base room e t
    | some (.group ids) =>
      ids.foldl (fun e id => r.expand base room e ⟨ref.grammar, id⟩) e
    | some _ =>
      if ref ∈ e.visited then e else ⟨ref :: e.visited, ref :: e.found⟩

/-- The rules that can match inside a rule. -/
def expandNested (r : Registry) (base limit : Nat) (owner : RuleRef) : List RuleRef :=
  match r.rule? owner with
  | none => []
  | some rule =>
    (rule.nested.foldl (fun e id => r.expand base (limit + 1) e ⟨owner.grammar, id⟩)
      .start).found.reverse

/-- The rules that a rule stands for, itself included if it can match. -/
def expandRule (r : Registry) (base limit : Nat) (ref : RuleRef) : List RuleRef :=
  (r.expand base (limit + 1) .start ref).found.reverse

end Registry

end Scopelight
