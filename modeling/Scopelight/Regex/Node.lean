import Scopelight.Regex.CharSet

/-!
# Patterns as trees

The shape of a pattern after reading: inline options have been moved into the leaves, groups are
numbered, and names are gone.
-/

namespace Scopelight.Regex

/-- A condition on a position. -/
inductive Anchor where
  | lineStart
  | lineEnd
  | textStart
  | textEnd
  /-- The end of the text, or before a line feed that ends it. -/
  | lastLineEnd
  | searchStart
  | wordBoundary
  | notWordBoundary
deriving DecidableEq, Repr

inductive Node where
  | empty
  /-- One character, up to case if `anyCase`. -/
  | char (c : Char) (anyCase : Bool)
  | set (s : CharSet)
  | seq (a b : Node)
  | alt (a b : Node)
  /-- From `least` to `most` repetitions; as many as possible if `greedy`, else as few. -/
  | repeated (body : Node) (least : Nat) (most : Option Nat) (greedy : Bool)
  | group (n : Nat) (body : Node)
  /-- Matches as `body` does first, and never otherwise. -/
  | atomic (body : Node)
  | lookahead (body : Node)
  | notAhead (body : Node)
  | lookbehind (body : Node)
  | notBehind (body : Node)
  | anchor (a : Anchor)
  /-- The text of the first of these groups that has one and fits here. -/
  | backref (groups : List Nat) (anyCase : Bool)
  /-- A group's pattern at another place; group 0 is the whole pattern. -/
  | call (n : Nat)
  /-- Lets the match start here. -/
  | keep
deriving DecidableEq, Repr

namespace Node

/-- One node after the other. -/
def ofSeq : List Node → Node
  | [] => empty
  | [a] => a
  | a :: as => seq a (ofSeq as)

/-- The first of these that lets the rest match. -/
def ofAlts : List Node → Node
  | [] => empty
  | [a] => a
  | a :: as => alt a (ofAlts as)

/-- The body of a numbered group; the first one of that number. -/
def findGroup (n : Nat) : Node → Option Node
  | group m body => if m = n then some body else body.findGroup n
  | seq a b | alt a b => (a.findGroup n).or (b.findGroup n)
  | repeated body _ _ _ | atomic body | lookahead body | notAhead body | lookbehind body
  | notBehind body => body.findGroup n
  | empty | char _ _ | set _ | anchor _ | backref _ _ | call _ | keep => none

/-- Whether a group occurs. -/
def hasGroup : Node → Bool
  | group _ _ => true
  | seq a b | alt a b => a.hasGroup || b.hasGroup
  | repeated body _ _ _ | atomic body | lookahead body | notAhead body | lookbehind body
  | notBehind body => body.hasGroup
  | empty | char _ _ | set _ | anchor _ | backref _ _ | call _ | keep => false

end Node

end Scopelight.Regex
