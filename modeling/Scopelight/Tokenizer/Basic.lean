import Scopelight.Text.Offset
import Scopelight.Tokenizer.Scan

/-!
# Tokenizers

A tokenizer makes the tokens of documents in one grammar, line by line. It remembers the expansions
of the rules that its scans have asked for.
-/

namespace Scopelight

open Text

structure Tokenizer where
  registry : Registry
  /-- The place of the grammar of the documents. -/
  base : Nat
  config : Config
  injections : List (Selector × List RuleRef)
  /-- Expansions that were made before. -/
  memo : Memo

/-- The steps that one line may take. -/
def stepLimit : Nat := wordLimit / 4

/-- A line as it is matched: its content and a line feed. -/
def matchedLine (line : List Char) : Array Char := (stripTerminator line ++ ['\n']).toArray

/-- The byte that a position of the matched line lies at. What is past the content is past the real
terminator. -/
def realOffset (line : List Char) (pos : Nat) : Nat :=
  let content := stripTerminator line
  if pos ≤ content.length then byteOffset content pos else byteLength line

/-- Tokens of the matched line as tokens of the real one; empty ones are dropped. -/
def realTokens (line : List Char) (ts : List Token) : List Token :=
  (ts.map fun t => { t with start := realOffset line t.start, stop := realOffset line t.stop }).filter
    fun t => t.start < t.stop

namespace Registry

/-- The rules that other grammars inject by their selectors. -/
def foreignInjections (r : Registry) (base limit : Nat) : List (Selector × List RuleRef) :=
  (List.range r.grammars.size).filterMap fun id =>
    if id = base then none
    else do
      let g ← r.grammar? id
      let selector ← g.injectionSelector
      return (selector, r.expandNested base limit ⟨id, g.root⟩)

/-- A tokenizer for documents of a scope under a configuration. -/
def tokenizerWith (r : Registry) (scope : String) (config : Config) :
    Except GrammarError Tokenizer :=
  match r.idOf? scope with
  | none => .error (.unknownScope scope)
  | some base =>
    let own := ((r.grammar? base).map (·.injections)).getD []
    .ok {
      registry := r
      base
      config
      injections :=
        (own.map fun (selector, rule) =>
          (selector, r.expandRule base config.includeDepth ⟨base, rule⟩)) ++
        r.foreignInjections base config.includeDepth
      memo := [] }

/-- A tokenizer for documents of a scope. -/
def tokenizer (r : Registry) (scope : String) : Except GrammarError Tokenizer :=
  r.tokenizerWith scope r.config

end Registry

namespace Tokenizer

/-- The rules that can match inside a rule. -/
def nestedRules (t : Tokenizer) (owner : RuleRef) : List RuleRef :=
  t.registry.expandNested t.base t.config.includeDepth owner

/-- The same from memory, if the rule was met before. -/
def remembered (t : Tokenizer) (owner : RuleRef) : List RuleRef :=
  (t.memo.lookup owner).getD (t.nestedRules owner)

def scanner (t : Tokenizer) : Scanner :=
  ⟨t.registry, t.remembered, t.injections, t.config.endPriority⟩

def scope (t : Tokenizer) : String :=
  ((t.registry.grammar? t.base).map (·.scope)).getD ""

/-- The state at the start of a document. -/
def initialState (t : Tokenizer) : State :=
  .initial ⟨t.base, ((t.registry.grammar? t.base).map (·.root)).getD 0⟩ t.scope

/-- The tokens of one line, terminator included, and the state for the next line. -/
def lineTokens {M : Type → Type} [Monad M] [MonadExcept Failure M] [Recalls M] (t : Tokenizer)
    (line : List Char) (s : State) (firstLine : Bool) : M (List Token × State) := do
  let c ← t.scanner.scanLine stepLimit s (matchedLine line) firstLine
  return (realTokens line c.output.tokens.reverse, c.state.forgetPlaces)

/-- The tokens of one line; the tokenizer remembers the expansions that were asked for. -/
def tokenizeLine (t : Tokenizer) (line : List Char) (s : State) (firstLine : Bool) :
    Scan (List Token × State) × Tokenizer :=
  let (answer, memo) := (t.lineTokens (M := Recall) line s firstLine).run.run t.memo
  (answer, { t with memo })

end Tokenizer

/-- Tokens moved by the bytes before their line. -/
def shiftTokens (offset : Nat) (ts : List Token) : List Token :=
  ts.map fun t => { t with start := t.start + offset, stop := t.stop + offset }

namespace Tokenizer

/-- The tokens of some lines one after the other, each by its line. -/
def tokenizeFrom (t : Tokenizer) (s : State) (firstLine : Bool) :
    List Line → Scan (List (Line × List Token))
  | [] => .ok []
  | line :: lines => do
    let (answer, t) := t.tokenizeLine line.text s firstLine
    let (tokens, next) ← answer
    return (line, tokens) :: (← t.tokenizeFrom next false lines)

end Tokenizer

namespace Registry

/-- Errors that have nothing to do with lines. -/
def scanTokenizer (r : Registry) (scope : String) : Scan Tokenizer :=
  (r.tokenizer scope).mapError .grammar

/-- The tokens of each line of a document. -/
def tokenizeLines (r : Registry) (doc scope : String) : Scan (List (Line × List Token)) := do
  let t ← r.scanTokenizer scope
  t.tokenizeFrom t.initialState true (linesOf doc)

/-- The tokens of a document, in offsets of the document. -/
def tokenize (r : Registry) (doc scope : String) : Scan (List Token) := do
  return (← r.tokenizeLines doc scope).flatMap fun (line, ts) => shiftTokens line.offset ts

end Registry

end Scopelight
