import Scopelight.Tokenizer.Basic

/-!
# Highlighters

A highlighter makes the tokens of one document again and again while it is edited. It remembers each
line with the states before and after it. On the next pass a line is taken over if its text and the
state before it are the same, so an edit costs work only up to where the states agree again. A pass
that fails keeps what it has done so far and leaves the lines behind it as they were.
-/

namespace Scopelight

open Text

/-- A line of the last pass. -/
structure CachedLine where
  text : List Char
  start : State
  stop : State
  /-- In offsets of the line. -/
  tokens : List Token
deriving DecidableEq, Repr

/-- Whether the tokens of a line are known for a text in a state. -/
def CachedLine.fits (c : CachedLine) (text : List Char) (s : State) : Bool :=
  c.text == text && c.start == s

/-- The outcome of a pass over a document. -/
structure Pass where
  /-- The tokens, in offsets of the document. -/
  answer : Scan (List Token)
  /-- The lines to remember. -/
  cache : List CachedLine
  /-- How many lines were tokenized and not taken over. -/
  retokenized : Nat

namespace Pass

/-- Nothing is left to do. -/
def done : Pass := ⟨.ok [], [], 0⟩

/-- Put a line before a pass over the lines behind it. -/
def cons (p : Pass) (offset : Nat) (c : CachedLine) (fresh : Bool) : Pass where
  answer := (shiftTokens offset c.tokens ++ ·) <$> p.answer
  cache := c :: p.cache
  retokenized := if fresh then p.retokenized + 1 else p.retokenized

end Pass

/-- Go over lines in a state, with the lines remembered at their places. -/
def Tokenizer.pass (t : Tokenizer) (s : State) (firstLine : Bool) :
    List Line → List CachedLine → Pass
  | [], _ => .done
  | line :: lines, cache =>
    match cache.head?.filter (·.fits line.text s) with
    | some c => (t.pass c.stop false lines (cache.drop 1)).cons line.offset c false
    | none =>
      let (answer, t) := t.tokenizeLine line.text s firstLine
      match answer with
      | .error e => ⟨.error e, cache, 0⟩
      | .ok (tokens, next) =>
        (t.pass next false lines (cache.drop 1)).cons line.offset ⟨line.text, s, next, tokens⟩ true

structure Highlighter where
  registry : Registry
  scope : String
  /-- The lines of the last pass. -/
  cache : List CachedLine
  /-- How many lines the last pass tokenized. -/
  retokenized : Nat

namespace Highlighter

/-- A highlighter for a document of a registered scope. -/
def create (registry : Registry) (scope : String) : Except GrammarError Highlighter :=
  if (registry.idOf? scope).isSome then .ok ⟨registry, scope, [], 0⟩
  else .error (.unknownScope scope)

/-- A highlighter for a file, by its name. -/
def forFile? (registry : Registry) (path : String) : Option Highlighter := do
  let scope ← registry.resolveFlag (← Path.fileName? path)
  (create registry scope).toOption

/-- The tokens of the document as it is now. -/
def highlight (h : Highlighter) (doc : String) : Scan (List Token) × Highlighter :=
  match h.registry.scanTokenizer h.scope with
  | .error e => (.error e, h)
  | .ok t =>
    let p := t.pass t.initialState true (linesOf doc) h.cache
    (p.answer, { h with cache := p.cache, retokenized := p.retokenized })

/-- Forget the lines from a place on. -/
def invalidateFrom (h : Highlighter) (line : Nat) : Highlighter :=
  { h with cache := h.cache.take line }

/-- Forget all lines. -/
def invalidateAll (h : Highlighter) : Highlighter := { h with cache := [] }

/-- Change to another snapshot that has the scope. States belong to the snapshot that they were made
with, so all lines are forgotten. -/
def setRegistry (h : Highlighter) (registry : Registry) : Except GrammarError Highlighter :=
  if (registry.idOf? h.scope).isSome then .ok { h with registry, cache := [] }
  else .error (.unknownScope h.scope)

end Highlighter

end Scopelight
