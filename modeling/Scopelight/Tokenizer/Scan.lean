import Scopelight.Tokenizer.Candidates
import Scopelight.Tokenizer.Captures

/-!
# Scanning a line

The scan of a line goes from match to match. Each step applies the next match: it closes the
innermost region, opens one, or makes the tokens of a single rule. A match without text moves the
scan on where repeating it would change nothing: after a single rule, after the end of a region that
was opened at the same place, and instead of opening a region that was opened there already.
-/

namespace Scopelight

/-- How far the scan of a line has come. -/
structure Cursor where
  state : State
  /-- Where the next search begins. -/
  pos : Nat
  /-- Nothing of a document's first line has been matched yet. -/
  firstLine : Bool
  /-- Where `\G` matches. -/
  anchor : Option Nat
  output : Output
deriving DecidableEq, Repr

/-- The outcome of a step. -/
inductive Progression where
  | done (c : Cursor)
  | more (c : Cursor)

/-- The error of an end pattern that cannot be read when its region opens. -/
def endError (registry : Registry) (ref : RuleRef) (cause : PatternError) : GrammarError :=
  .invalidPattern (((registry.grammar? ref.grammar).map (·.scope)).getD "")
    ("rule " ++ toString ref.rule ++ " end") cause

namespace Scanner

variable {M : Type → Type} [Monad M] [MonadExcept Failure M] [Recalls M]

/-- Close the innermost region at its end match. -/
def applyEnd (sc : Scanner) (again : RetokenizeIn M) (line : Array Char) (c : Cursor)
    (m : Regex.Match) : M Cursor := do
  let o := c.output.produce m.start c.state.scopes
  let s := c.state.mapTop fun f => { f with contentScopes := f.nameScopes }
  let top := s.top
  let o ← match sc.registry.rule? top.rule with
    | some (.region r) =>
      emitCaptures again s line top.rule.grammar r.closingCaptures m c.firstLine o
    | _ => pure o
  let o := o.produce m.stop top.nameScopes
  let empty := m.start == m.stop
  let firstLine := c.firstLine && empty
  if s.regions.isEmpty then
    return ⟨s, m.stop, firstLine, c.anchor, o⟩
  else
    let pos := if empty && top.entered == some m.start then m.start + 1 else m.stop
    return ⟨s.pop, pos, firstLine, top.anchor, o⟩

/-- The frame of a rule that has just matched. -/
def openFrame (c : Cursor) (line : Array Char) (ref : RuleRef) (rule : Rule) (m : Regex.Match) :
    Frame :=
  let scopes := c.state.scopes ++ expandName rule.name? line m
  { rule := ref
    nameScopes := scopes
    contentScopes := scopes
    ending := none
    openedAtLineEnd := m.stop == line.size
    anchor := c.anchor
    entered := some m.start }

/-- Open a region at its match. -/
def openRegion (sc : Scanner) (again : RetokenizeIn M) (line : Array Char) (c : Cursor)
    (ref : RuleRef) (rule : Rule) (ending : EndTemplate) (captures : CaptureRules)
    (m : Regex.Match) : M Cursor := do
  let frame := openFrame c line ref rule m
  let inside := c.state.push frame
  let o := c.output.produce m.start c.state.scopes
  let o ← emitCaptures again inside line ref.grammar captures m c.firstLine o
  let o := o.produce m.stop frame.nameScopes
  match ending.instantiate line m with
  | .error e => throw (.grammar (endError sc.registry ref e))
  | .ok p =>
    let s := c.state.push { frame with
      contentScopes := frame.nameScopes ++ expandName rule.contentName? line m
      ending := some p }
    return ⟨s, m.stop, c.firstLine && m.start == m.stop, some m.stop, o⟩

/-- Make the tokens of a single rule. -/
def applySingle (again : RetokenizeIn M) (line : Array Char) (c : Cursor) (ref : RuleRef)
    (rule : Rule) (captures : CaptureRules) (m : Regex.Match) : M Cursor := do
  let frame := openFrame c line ref rule m
  let o := c.output.produce m.start c.state.scopes
  let o ← emitCaptures again (c.state.push frame) line ref.grammar captures m c.firstLine o
  let o := o.produce m.stop frame.nameScopes
  let empty := m.start == m.stop
  return ⟨c.state, if empty then m.start + 1 else m.stop, c.firstLine && empty, c.anchor, o⟩

/-- Apply a rule at its match. -/
def applyRule (sc : Scanner) (again : RetokenizeIn M) (line : Array Char) (c : Cursor)
    (ref : RuleRef) (m : Regex.Match) : M Cursor :=
  let empty := m.start == m.stop
  match sc.registry.rule? ref with
  | some (.single r) => applySingle again line c ref (.single r) r.captures m
  | some (.region r) =>
    if empty && c.state.enteredAt ref m.start then pure { c with pos := m.start + 1 }
    else sc.openRegion again line c ref (.region r) r.closing r.openingCaptures m
  | some (.whileRegion r) =>
    if empty && c.state.enteredAt ref m.start then pure { c with pos := m.start + 1 }
    else sc.openRegion again line c ref (.whileRegion r) r.condition r.openingCaptures m
  | _ => pure { c with pos := if empty then m.start + 1 else m.stop }

/-- Apply the next match; without one the rest of the line gets the scopes of the state. -/
def step (sc : Scanner) (again : RetokenizeIn M) (line : Array Char) (c : Cursor) :
    M Progression := do
  let rules ← Recalls.nestedRules sc.nested c.state.top.rule
  let sc' := { sc with nested := fun _ => rules }
  match sc'.findNext c.state line c.pos ⟨c.firstLine, c.anchor⟩ with
  | none => return .done { c with output := c.output.produce line.size c.state.scopes }
  | some ⟨.ending, m⟩ => .more <$> sc.applyEnd again line c m
  | some ⟨.rule ref, m⟩ => .more <$> sc.applyRule again line c ref m

theorem step_eq (sc : Scanner) (again : Retokenize) (line : Array Char) (c : Cursor) :
    sc.step again line c =
      match sc.findNext c.state line c.pos ⟨c.firstLine, c.anchor⟩ with
      | none => .ok (.done { c with output := c.output.produce line.size c.state.scopes })
      | some ⟨.ending, m⟩ => .more <$> sc.applyEnd again line c m
      | some ⟨.rule ref, m⟩ => .more <$> sc.applyRule again line c ref m := rfl

/-- Step until nothing matches any more; the number bounds the steps. -/
def scan (sc : Scanner) : Nat → Array Char → Cursor → M Cursor
  | 0, _, _ => throw .stepLimit
  | fuel + 1, line, c => do
    let again : RetokenizeIn M := fun s part start firstLine =>
      (·.output) <$> sc.scan fuel part ⟨s, start, firstLine, none, .startAt start⟩
    match ← sc.step again line c with
    | .done c => return c
    | .more c => sc.scan fuel line c

/-- Tokenize a part of a line with so many steps. -/
def retokenize (sc : Scanner) (fuel : Nat) : RetokenizeIn M := fun s part start firstLine =>
  (·.output) <$> sc.scan fuel part ⟨s, start, firstLine, none, .startAt start⟩

/-- Check the conditions of while regions from the outermost on. Each must match where the one
before it ended; the first that fails closes its region and all inside it. `kept` are the regions
that stay open, the innermost first. -/
def checkWhile (sc : Scanner) (again : RetokenizeIn M) (line : Array Char) :
    List Frame → Cursor → M Cursor
  | [], c => pure c
  | f :: fs, c =>
    let inside := c.state.push f
    match sc.registry.rule? f.rule, f.ending with
    | some (.whileRegion r), some p =>
      match p.matchAt line c.pos ⟨c.firstLine, c.anchor⟩ with
      | none => pure c
      | some m => do
        let o := c.output.produce m.start f.contentScopes
        let o ← emitCaptures again inside line f.rule.grammar r.conditionCaptures m c.firstLine o
        let o := o.produce m.stop f.contentScopes
        if c.pos < m.stop then
          sc.checkWhile again line fs ⟨inside, m.stop, false, some m.stop, o⟩
        else sc.checkWhile again line fs { c with state := inside, output := o }
    | _, _ => sc.checkWhile again line fs { c with state := inside }

/-- Where the scan of a line begins: `\G` matches there if the innermost region was opened at the
end of the line before. -/
def lineStart (s : State) (firstLine : Bool) : Cursor :=
  { state := { s with regions := [] }
    pos := 0
    firstLine
    anchor := if s.top.openedAtLineEnd then some 0 else none
    output := .startAt 0 }

/-- Scan a whole line in a state. -/
def scanLine (sc : Scanner) (fuel : Nat) (s : State) (line : Array Char) (firstLine : Bool) :
    M Cursor := do
  let c ← sc.checkWhile (sc.retokenize fuel) line s.regions.reverse (lineStart s firstLine)
  sc.scan fuel line c

end Scanner

end Scopelight
