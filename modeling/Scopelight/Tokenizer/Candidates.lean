import Scopelight.Registry.Expansion
import Scopelight.Tokenizer.State

/-!
# Which rule comes next

At every place the rule that matches earliest is applied. Among those that match at the same place
the first one counts: the end pattern of the innermost region has its turn before the nested rules or
after them, and an injection wins or loses ties by the precedence of its selector.
-/

namespace Scopelight

/-- What a tokenizer works with on every line. -/
structure Scanner where
  registry : Registry
  /-- The rules that can match inside a rule. -/
  nested : RuleRef → List RuleRef
  /-- Injected rules by their selectors. -/
  injections : List (Selector × List RuleRef)
  endPriority : EndPriority

/-- What a match is of. -/
inductive Candidate where
  /-- The end pattern of the innermost region. -/
  | ending
  | rule (ref : RuleRef)
deriving DecidableEq, Repr

/-- A candidate and its match. -/
structure Found where
  candidate : Candidate
  hit : Regex.Match
deriving DecidableEq, Repr

namespace Scanner

/-- The rules among these that can match, with their patterns. -/
def scannable (sc : Scanner) (refs : List RuleRef) : List (Candidate × Pattern) :=
  refs.filterMap fun ref =>
    ((sc.registry.rule? ref).bind (·.scanPattern?)).map (Candidate.rule ref, ·)

/-- The end pattern of the innermost region, unless that is a while region. -/
def endCandidate (sc : Scanner) (s : State) : List (Candidate × Pattern) :=
  match sc.registry.rule? s.top.rule with
  | some (.region _) => (s.top.ending.map (Candidate.ending, ·)).toList
  | _ => []

/-- Whether the end pattern of the innermost region is tried last. -/
def endLast (sc : Scanner) (s : State) : Bool :=
  sc.endPriority.endLast (((sc.registry.rule? s.top.rule).map (·.closingLast)).getD false)

/-- The candidates that are not injected, in order of priority. -/
def regular (sc : Scanner) (s : State) : List (Candidate × Pattern) :=
  let rules := sc.scannable (sc.nested s.top.rule)
  if sc.endLast s then rules ++ sc.endCandidate s else sc.endCandidate s ++ rules

/-- The earliest match of the candidates, the first one of those that start at the same place. One
that starts where the search does cannot be beaten. -/
def earliest (line : Array Char) (origin : Nat) (a : Anchors) :
    Option Found → List (Candidate × Pattern) → Option Found
  | best, [] => best
  | best, (candidate, p) :: rest =>
    if best.any (·.hit.start == origin) then best
    else match p.search line origin a with
      | some m =>
        if best.all (m.start < ·.hit.start) then earliest line origin a (some ⟨candidate, m⟩) rest
        else earliest line origin a best rest
      | none => earliest line origin a best rest

/-- The injected candidates whose selectors match, with the precedence of each. -/
def injected (sc : Scanner) (scopes : List String) : List (Precedence × Candidate × Pattern) :=
  sc.injections.flatMap fun (selector, refs) =>
    match selector.matches scopes with
    | some precedence => (sc.scannable refs).map (precedence, ·)
    | none => []

/-- The earliest match of injected candidates, the first one of those that start at the same
place. -/
def earliestInjected (line : Array Char) (origin : Nat) (a : Anchors) :
    Option (Precedence × Found) → List (Precedence × Candidate × Pattern) →
    Option (Precedence × Found)
  | best, [] => best
  | best, (precedence, candidate, p) :: rest =>
    match p.search line origin a with
    | some m =>
      if best.all (m.start < ·.2.hit.start) then
        earliestInjected line origin a (some (precedence, ⟨candidate, m⟩)) rest
      else earliestInjected line origin a best rest
    | none => earliestInjected line origin a best rest

/-- The regular match or the injected one. -/
def choose : Option Found → Option (Precedence × Found) → Option Found
  | best, none => best
  | none, some (_, i) => some i
  | some best, some (precedence, i) =>
    if i.hit.start < best.hit.start ∨ (i.hit.start = best.hit.start ∧ precedence = .left) then
      some i
    else some best

/-- The next match from a place on. -/
def findNext (sc : Scanner) (s : State) (line : Array Char) (origin : Nat) (a : Anchors) :
    Option Found :=
  choose (earliest line origin a none (sc.regular s))
    (earliestInjected line origin a none (sc.injected s.scopes))

end Scanner

end Scopelight
