import Scopelight.Grammar.Error
import Scopelight.Registry.Expansion

/-!
# Scans with and without memory

The rules that can match inside a rule are expanded when they are first asked for and remembered from
then on, also by a scan that fails. The code of scans is the same with a memory and without one.
-/

namespace Scopelight

/-- Why tokens could not be made. -/
inductive Failure where
  | grammar (cause : GrammarError)
  /-- The number of steps that was allowed did not suffice. -/
  | stepLimit
deriving DecidableEq, Repr

/-- Without memory. -/
abbrev Scan := Except Failure

/-- Expansions that were made before, the latest first. -/
abbrev Memo := List (RuleRef × List RuleRef)

/-- With a memory, which a failure does not change back. -/
abbrev Recall := ExceptT Failure (StateM Memo)

/-- Finds the rules that can match inside a rule, where `expand` says which these are. -/
class Recalls (M : Type → Type) where
  nestedRules (expand : RuleRef → List RuleRef) (owner : RuleRef) : M (List RuleRef)

@[default_instance]
instance : Recalls Scan where
  nestedRules expand owner := .ok (expand owner)

instance : Recalls Recall where
  nestedRules expand owner := do
    match (← get).lookup owner with
    | some rules => return rules
    | none =>
      let rules := expand owner
      modify ((owner, rules) :: ·)
      return rules

end Scopelight
