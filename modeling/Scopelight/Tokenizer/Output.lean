import Scopelight.Regex.Match

/-!
# Tokens

Runs of text with the scopes that apply to them, and how they are collected from left to right.
-/

namespace Scopelight

/-- A run of text and its scopes, the outermost first. -/
structure Token where
  scopes : List String
  start : Nat
  stop : Nat
deriving DecidableEq, Repr

/-- Tokens so far, the latest first, and where the next one begins. -/
structure Output where
  tokens : List Token
  reached : Nat
deriving DecidableEq, Repr

namespace Output

def startAt (start : Nat) : Output := ⟨[], start⟩

/-- Give scopes to the text up to a place; nothing happens if it has them already. -/
def produce (o : Output) (stop : Nat) (scopes : List String) : Output :=
  if stop ≤ o.reached then o else ⟨⟨scopes, o.reached, stop⟩ :: o.tokens, stop⟩

end Output

/-- A token joins the one before it if their scopes are equal and they touch. -/
def Token.Joins (a b : Token) : Prop := a.scopes = b.scopes ∧ a.stop = b.start

instance (a b : Token) : Decidable (a.Joins b) := inferInstanceAs (Decidable (_ ∧ _))

/-- Go on joining tokens in place. The one at `read` is joined to the one at `write` or put behind
it; those between the two are of no use any more, and at the end all behind `write` are cut off. -/
def mergeFrom (ts : Array Token) (write read : Nat) (h : write < read) : Array Token :=
  if hread : read < ts.size then
    if ts[write].Joins ts[read] then
      mergeFrom (ts.set write { ts[write] with stop := ts[read].stop }) write (read + 1) (by omega)
    else if write + 1 = read then mergeFrom ts (write + 1) (read + 1) (by omega)
    else mergeFrom (ts.set (write + 1) ts[read]) (write + 1) (read + 1) (by omega)
  else ts.take (write + 1)
termination_by ts.size - read

/-- Join touching neighbours of equal scopes. -/
def mergeTokens (ts : List Token) : List Token :=
  if ts.length < 2 then ts else (mergeFrom ts.toArray 0 1 (by omega)).toList

end Scopelight
