import Scopelight.Tokenizer.Recall
import Scopelight.Tokenizer.Output
import Scopelight.Tokenizer.State

/-!
# Tokens of captures

The groups of a match get scopes of their own. Groups inside other groups add to the scopes of those
around them, and a group may be tokenized again by rules of its own.
-/

namespace Scopelight

/-- Tokenizes a part of a line again: the state to start in, the line up to the end of the part, and
where the part starts. The flag says that it is the start of a document. -/
abbrev RetokenizeIn (m : Type → Type) := State → Array Char → Nat → Bool → m Output

abbrev Retokenize := RetokenizeIn Scan

/-- The scopes of a capture that is still open, and where it ends. -/
structure OpenCapture where
  scopes : List String
  stop : Nat
deriving DecidableEq, Repr

/-- Close the captures that end at or before a place, the innermost first. -/
def closeCaptures (upTo : Nat) : List OpenCapture → Output → List OpenCapture × Output
  | [], o => ([], o)
  | c :: cs, o =>
    if c.stop ≤ upTo then closeCaptures upTo cs (o.produce c.stop c.scopes) else (c :: cs, o)

/-- Close all captures, the innermost first. -/
def closeAll (open_ : List OpenCapture) (o : Output) : Output :=
  open_.foldl (fun o c => o.produce c.stop c.scopes) o

/-- A name's scopes for a match; none without a name. -/
def expandName (name : Option ScopeName) (line : Array Char) (m : Regex.Match) : List String :=
  match name with
  | some name => name.expand line m
  | none => []

/-- Take over the tokens of a part, which end where they end there. -/
def Output.absorb (o part : Output) : Output :=
  part.tokens.reverse.foldl (fun o t => o.produce t.stop t.scopes) o

section Emit

variable {M : Type → Type} [Monad M]

/-- Tokens for the groups of a match, in order of their numbers, inside a state. -/
def emitGroups [Recalls M] (again : RetokenizeIn M) (s : State) (line : Array Char)
    (grammar : Nat) (m : Regex.Match) (firstLine : Bool) :
    CaptureRules → List OpenCapture → Output → M Output
  | [], open_, o => pure (closeAll open_ o)
  | (n, rule) :: rest, open_, o =>
    match m.group? n with
    | none => emitGroups again s line grammar m firstLine rest open_ o
    | some span =>
      if span.stop ≤ span.start then emitGroups again s line grammar m firstLine rest open_ o
      else
        let (open_, o) := closeCaptures span.start open_ o
        let base := match open_ with
          | c :: _ => c.scopes
          | [] => s.scopes
        let o := o.produce span.start base
        match rule.patterns with
        | some patterns => do
          let nameScopes := base ++ expandName rule.name line m
          let inside := s.push {
            rule := ⟨grammar, patterns⟩
            nameScopes
            contentScopes := nameScopes ++ expandName rule.contentName line m
            ending := none
            openedAtLineEnd := false
            anchor := none
            entered := some span.start }
          let part ← again inside (line.extract 0 span.stop) span.start
            (firstLine && span.start == 0)
          emitGroups again s line grammar m firstLine rest open_ (o.absorb part)
        | none =>
          match expandName rule.name line m with
          | [] => emitGroups again s line grammar m firstLine rest open_ o
          | scopes =>
            emitGroups again s line grammar m firstLine rest (⟨base ++ scopes, span.stop⟩ :: open_) o

/-- Tokens for the captures of a match whose scopes are those of the state. -/
def emitCaptures [Recalls M] (again : RetokenizeIn M) (s : State) (line : Array Char)
    (grammar : Nat) (rules : CaptureRules) (m : Regex.Match) (firstLine : Bool) (o : Output) :
    M Output :=
  emitGroups again s line grammar m firstLine rules [] o

end Emit

end Scopelight
