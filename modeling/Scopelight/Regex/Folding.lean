import Scopelight.Regex.Node

/-!
# Case folds of several characters

Some characters fold to more than one. Where case does not count, such a character and the text
that it folds to stand for each other. In a run of characters the longest such text is taken at
each place, and it is matched in each way that its folded form can be written. A class also matches
the folded forms of its members. A lookbehind takes the characters of a run one by one.
-/

namespace Scopelight.Regex

open Text

/-- The characters that fold to a text of several. -/
def foldedTo (cs : List Char) : List Char :=
  foldSeveral.filterMap fun (n, ms) =>
    if ms = cs.map fun c => (foldCase c).toNat then some (Char.ofNat n) else none

/-- The text that a character folds to, if it has several characters. -/
def foldOf? (c : Char) : Option (List Char) :=
  (foldSeveral.lookup c.toNat).map (·.map Char.ofNat)

namespace CharSet

def ofList (cs : List Char) : CharSet :=
  cs.foldr (fun c s => .union (.single c) s) .none

/-- The texts of several characters that members fold to, shorter ones first. -/
def foldsOf (s : CharSet) : List (List Char) :=
  let members := foldSeveral.filter fun (n, _) => s.has (Char.ofNat n)
  let folds := members.map fun (_, ms) => ms.map Char.ofNat
  folds.filter (·.length = 2) ++ folds.filter (·.length = 3)

end CharSet

namespace Node

/-- A text in any case. -/
def anyCaseText (cs : List Char) : Node := ofSeq (cs.map (char · true))

/-- One of the characters that fold to a text. -/
def foldingTo (cs : List Char) : Node := set (.ofList (foldedTo cs))

/-- Two characters, as they are or as one. -/
def foldedPair (a b : Char) : Node := alt (anyCaseText [a, b]) (foldingTo [a, b])

/-- Three characters, as they are, two of them as one, or as one. -/
def foldedTriple (a b c : Char) : Node :=
  ofAlts [seq (char a true) (foldedPair b c), seq (foldingTo [a, b]) (char c true),
    foldingTo [a, b, c]]

end Node

/-- A piece of a sequence. Characters in any case that stand side by side are a run. -/
inductive Piece where
  | char (c : Char)
  | node (n : Node)
deriving DecidableEq, Repr

namespace Piece

/-- A piece by itself. -/
def toNode : Piece → Node
  | char c =>
    match foldOf? c with
    | some cs => .alt (.char c true) (.anyCaseText cs)
    | none => .char c true
  | node n => n

/-- The longest text at the head that is the folded form of a character, and how many pieces follow
the first in it. -/
def foldedText : List Piece → Option (Nat × Node)
  | char a :: char b :: rest =>
    let two := if foldedTo [a, b] = [] then none else some (1, .foldedPair a b)
    match rest with
    | char c :: _ => if foldedTo [a, b, c] = [] then two else some (2, .foldedTriple a b c)
    | _ => two
  | _ => none

/-- The nodes of a sequence; the number counts pieces that are taken already. -/
def join : Nat → List Piece → List Node
  | _, [] => []
  | taken + 1, _ :: ps => join taken ps
  | 0, p :: ps =>
    match foldedText (p :: ps) with
    | some (more, n) => n :: join more ps
    | none => p.toNode :: join 0 ps

end Piece

namespace Node

/-- Pieces one after the other. -/
def ofPieces (ps : List Piece) : Node := ofSeq (Piece.join 0 ps)

/-- The pieces of a node, with all in them folded. -/
def pieces (behind : Bool) : Node → List Piece
  | char c true => [if behind then .node (char c true) else .char c]
  | seq a b => a.pieces behind ++ b.pieces behind
  | set (.anyCase s) =>
    [.node (ofAlts (set (.anyCase s) :: (CharSet.anyCase s).foldsOf.map anyCaseText))]
  | alt a b => [.node (alt (ofPieces (a.pieces behind)) (ofPieces (b.pieces behind)))]
  | repeated body least most greedy =>
    [.node (repeated (ofPieces (body.pieces behind)) least most greedy)]
  | group n body => [.node (group n (ofPieces (body.pieces behind)))]
  | atomic body => [.node (atomic (ofPieces (body.pieces behind)))]
  | lookahead body => [.node (lookahead (ofPieces (body.pieces behind)))]
  | notAhead body => [.node (notAhead (ofPieces (body.pieces behind)))]
  | lookbehind body => [.node (lookbehind (ofPieces (body.pieces true)))]
  | notBehind body => [.node (notBehind (ofPieces (body.pieces true)))]
  | n => [.node n]

/-- The tree in which characters that fold to several are matched by what they fold to, and the
other way round. -/
def folded (n : Node) : Node := ofPieces (n.pieces false)

end Node

end Scopelight.Regex
