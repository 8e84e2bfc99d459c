import Scopelight.Regex.Reader

/-!
# Matching

Backtracking over the tree of a pattern. Each node is tried with what is to match after it as a
continuation, so alternatives are taken in order and the first success decides. The recursion
follows the tree; a repetition ends because each round but the last takes a character, and a call
because calls nest to a fixed depth only.
-/

namespace Scopelight.Regex

open Text

/-- A range of positions in a text. -/
structure Span where
  start : Nat
  stop : Nat
deriving DecidableEq, Repr

/-- How far a match has come. -/
structure Progress where
  pos : Nat
  /-- What the groups took, the latest first. -/
  taken : List (Nat × Span)
  /-- Where the match is to start instead of where it was tried. -/
  kept : Option Nat
deriving DecidableEq, Repr

/-- What is left to match. -/
abbrev Cont := Progress → Option Progress

/-- The text searched, and where the search began. -/
structure Subject where
  text : Array Char
  origin : Nat

namespace Progress

def move (p : Progress) (pos : Nat) : Progress := { p with pos }

def take (p : Progress) (n start : Nat) : Progress :=
  { p with taken := (n, ⟨start, p.pos⟩) :: p.taken }

/-- What a group took last. -/
def group? (p : Progress) (n : Nat) : Option Span := p.taken.lookup n

end Progress

/-- The first success of `f` at `from`, `from + 1`, …, `count` places. -/
def firstFrom {α : Type} (f : Nat → Option α) : Nat → Nat → Option α
  | 0, _ => none
  | count + 1, i =>
    match f i with
    | some a => some a
    | none => firstFrom f count (i + 1)

/-- Exactly `n` rounds. -/
def rounds (round : Cont → Cont) : Nat → Cont → Cont
  | 0, k, p => k p
  | n + 1, k, p => round (fun q => rounds round n k q) p

/-- Up to `n` rounds; one that takes nothing is the last. -/
def moreRounds (round : Cont → Cont) (greedy : Bool) : Nat → Cont → Cont
  | 0, k, p => k p
  | n + 1, k, p =>
    if greedy then
      match round (fun q => if q.pos = p.pos then k q else moreRounds round greedy n k q) p with
      | some r => some r
      | none => k p
    else
      match k p with
      | some r => some r
      | none => round (fun q => if q.pos = p.pos then k q else moreRounds round greedy n k q) p

namespace Subject

def wordAt (s : Subject) (i : Nat) : Bool :=
  match s.text[i]? with
  | some c => isWordChar c
  | none => false

/-- Whether the character before `i` is a word character. -/
def wordBefore (s : Subject) : Nat → Bool
  | 0 => false
  | i + 1 => s.wordAt i

/-- Whether the character before `i` is a line feed. -/
def breakBefore (s : Subject) : Nat → Bool
  | 0 => false
  | i + 1 => s.text[i]? == some '\n'

/-- A condition at a position. A line feed that ends the text starts no line. -/
def holds (s : Subject) (i : Nat) : Anchor → Bool
  | .lineStart => i == 0 || (s.breakBefore i && i < s.text.size)
  | .lineEnd => i == s.text.size || s.text[i]? == some '\n'
  | .textStart => i == 0
  | .textEnd => i == s.text.size
  | .lastLineEnd => i == s.text.size || (i + 1 == s.text.size && s.text[i]? == some '\n')
  | .searchStart => i == s.origin
  | .wordBoundary => s.wordAt i != s.wordBefore i
  | .notWordBoundary => s.wordAt i == s.wordBefore i

/-- Whether `count` characters at `i` repeat those at `j`. -/
def repeats (s : Subject) (anyCase : Bool) : Nat → Nat → Nat → Bool
  | 0, _, _ => true
  | count + 1, j, i =>
    match s.text[j]?, s.text[i]? with
    | some a, some b =>
      (a == b || (anyCase && foldCase a == foldCase b)) && s.repeats anyCase count (j + 1) (i + 1)
    | _, _ => false

/-- Where a backreference to one group ends, if the group has a text and it fits. -/
def backrefEnd (s : Subject) (anyCase : Bool) (p : Progress) (n : Nat) : Option Nat :=
  match p.group? n with
  | none => none
  | some span =>
    if s.repeats anyCase (span.stop - span.start) span.start p.pos then
      some (p.pos + (span.stop - span.start))
    else none

end Subject

/-- Match a node, then what follows; `call` matches groups that are called. -/
def Node.run (s : Subject) (call : Nat → Cont → Cont) : Node → Cont → Cont
  | .empty, k, p => k p
  | .char c anyCase, k, p =>
    match s.text[p.pos]? with
    | some d =>
      if d == c || (anyCase && foldCase d == foldCase c) then k (p.move (p.pos + 1)) else none
    | none => none
  | .set cs, k, p =>
    match s.text[p.pos]? with
    | some d => if cs.has d then k (p.move (p.pos + 1)) else none
    | none => none
  | .seq a b, k, p => a.run s call (fun q => b.run s call k q) p
  | .alt a b, k, p =>
    match a.run s call k p with
    | some r => some r
    | none => b.run s call k p
  | .repeated body least most greedy, k, p =>
    rounds (body.run s call) least
      (fun q => moreRounds (body.run s call) greedy
        (match most with
          | some m => m - least
          | none => s.text.size - q.pos + 1) k q) p
  | .group n body, k, p => body.run s call (fun q => k (q.take n p.pos)) p
  | .atomic body, k, p =>
    match body.run s call some p with
    | some q => k q
    | none => none
  | .lookahead body, k, p =>
    match body.run s call some p with
    | some q => k (q.move p.pos)
    | none => none
  | .notAhead body, k, p =>
    match body.run s call some p with
    | some _ => none
    | none => k p
  | .lookbehind body, k, p =>
    match firstFrom (fun back => body.run s call
        (fun q => if q.pos = p.pos then some q else none) (p.move (p.pos - back)))
        (p.pos + 1) 0 with
    | some q => k q
    | none => none
  | .notBehind body, k, p =>
    match firstFrom (fun back => body.run s call
        (fun q => if q.pos = p.pos then some q else none) (p.move (p.pos - back)))
        (p.pos + 1) 0 with
    | some _ => none
    | none => k p
  | .anchor a, k, p => if s.holds p.pos a then k p else none
  | .backref groups anyCase, k, p =>
    match groups.findSome? (s.backrefEnd anyCase p) with
    | some pos => k (p.move pos)
    | none => none
  | .call n, k, p => call n k p
  | .keep, k, p => k { p with kept := some p.pos }

end Scopelight.Regex

namespace Scopelight

/-- A pattern that has been read. -/
structure Regex where
  root : Regex.Node
  /-- How many numbered groups it has. -/
  groups : Nat
deriving DecidableEq, Repr

namespace Regex

/-- Read a pattern. -/
def ofString (source : String) : Except Error Regex := do
  let (root, groups) ← readPattern source.toList
  return ⟨root, groups⟩

/-- The node that a call means. -/
def callee (r : Regex) (n : Nat) : Option Node :=
  if n = 0 then some r.root else (r.root.findGroup n).map (Node.group n)

/-- The number of calls that may be open at a time. -/
def callDepth : Nat := 24

/-- Match a called group, with room for `depth` calls. -/
def runCall (r : Regex) (s : Subject) : Nat → Nat → Cont → Cont
  | 0, _, _, _ => none
  | depth + 1, n, k, p =>
    match r.callee n with
    | some node => node.run s (r.runCall s depth) k p
    | none => none

/-- Match the whole pattern at a position. -/
def matchAt (r : Regex) (s : Subject) (start : Nat) : Option Progress :=
  r.root.run s (r.runCall s callDepth) some ⟨start, [], none⟩

/-- What each group took; group 0 is the whole match. -/
structure Match where
  groups : List (Option Span)
deriving DecidableEq, Repr

namespace Match

def group? (m : Match) (n : Nat) : Option Span := (m.groups[n]?).join

def whole (m : Match) : Span := (m.group? 0).getD ⟨0, 0⟩

def start (m : Match) : Nat := m.whole.start

def stop (m : Match) : Nat := m.whole.stop

end Match

/-- The match that a finished progress from `start` amounts to. -/
def report (r : Regex) (start : Nat) (p : Progress) : Match :=
  ⟨some ⟨min (p.kept.getD start) p.pos, p.pos⟩ ::
    (List.range r.groups).map fun i => p.group? (i + 1)⟩

/-- The match that starts first at `origin` or after it. -/
def search (r : Regex) (text : Array Char) (origin : Nat) : Option Match :=
  firstFrom (fun start => (r.matchAt ⟨text, origin⟩ start).map (r.report start))
    (text.size + 1 - origin) origin

end Regex

end Scopelight
