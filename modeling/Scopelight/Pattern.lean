import Scopelight.Regex.Match
import Scopelight.Text.Offset

/-!
# Patterns with positional anchors

Lines are matched one at a time, so two anchors depend on the state of the tokenizer: `\A` may match
only on the first line of a document, and `\G` only where the last match of the enclosing rule
ended. A pattern that has them is read in four variants. In each, the anchors that may not match are
replaced by a character that does not occur in source text, and a search picks the variant.
-/

namespace Scopelight

open Text Regex

/-- Stands for an anchor that may not match. -/
def deadAnchor : Char := '\uffff'

/-- Why a pattern was refused, with the pattern as it was written. -/
structure PatternError where
  pattern : String
  cause : Regex.Error
deriving DecidableEq, Repr

def PatternError.message (e : PatternError) : String :=
  "invalid pattern \x60" ++ e.pattern ++ "\x60: Oniguruma error: " ++ e.cause.message

/-- Whether a letter is escaped somewhere. A backslash and the character after it are one unit, so
the letter after an escaped backslash does not count. -/
def hasEscape (letter : Char) : List Char → Bool
  | '\\' :: c :: cs => c == letter || hasEscape letter cs
  | [] => false
  | _ :: cs => hasEscape letter cs

/-- Replace every escape of a letter. -/
def replaceEscape (letter : Char) (replacement : List Char) : List Char → List Char
  | '\\' :: c :: cs =>
    (if c = letter then replacement else ['\\', c]) ++ replaceEscape letter replacement cs
  | [] => []
  | c :: cs => c :: replaceEscape letter replacement cs

/-- The anchors that may match in a search. -/
structure Anchors where
  /-- `\A` may match. -/
  documentStart : Bool
  /-- Where `\G` may match. -/
  anchor : Option Nat
deriving DecidableEq, Repr

def Anchors.none : Anchors := ⟨false, Option.none⟩

/-- A pattern with the variants that a search chooses from. -/
structure Pattern where
  source : String
  /-- Both anchors may match. -/
  live : Regex
  noStart : Regex
  noAnchor : Regex
  neither : Regex
deriving DecidableEq, Repr

namespace Pattern

/-- The text of a variant. -/
def variantText (source : String) (killStart killAnchor : Bool) : String :=
  let cs := source.toList
  let cs := if killStart then replaceEscape 'A' [deadAnchor] cs else cs
  let cs := if killAnchor then replaceEscape 'G' [deadAnchor] cs else cs
  String.ofList cs

/-- Read a text; an error names the pattern that it was made from. -/
def readAs (source text : String) : Except PatternError Regex :=
  (Regex.ofString text).mapError fun e => ⟨source, e⟩

/-- Read a pattern in all its variants, in the order of `live`, `noStart`, `noAnchor`, `neither`. -/
def compile (source : String) : Except PatternError Pattern := do
  if hasEscape 'A' source.toList || hasEscape 'G' source.toList then
    return {
      source
      live := ← readAs source (variantText source false false)
      noStart := ← readAs source (variantText source true false)
      noAnchor := ← readAs source (variantText source false true)
      neither := ← readAs source (variantText source true true) }
  else
    let r ← readAs source source
    return ⟨source, r, r, r, r⟩

/-- The variant for a search from a position. -/
def variant (p : Pattern) (a : Anchors) (origin : Nat) : Regex :=
  match a.documentStart, a.anchor == some origin with
  | true, true => p.live
  | false, true => p.noStart
  | true, false => p.noAnchor
  | false, false => p.neither

/-- The match that starts first at `origin` or after it. What stands before `origin` stays visible to
lookbehinds and anchors. -/
def search (p : Pattern) (text : Array Char) (origin : Nat) (a : Anchors) : Option Match :=
  (p.variant a origin).search text origin

/-- The match found from `origin`, if it starts there. -/
def matchAt (p : Pattern) (text : Array Char) (origin : Nat) (a : Anchors) : Option Match :=
  (p.search text origin a).filter fun m => m.start == origin

end Pattern

/-- What a group took, as text. -/
def Regex.Match.text? (m : Match) (line : Array Char) (n : Nat) : Option (List Char) :=
  (m.group? n).map fun s => (line.extract s.start s.stop).toList

namespace Pattern

/-- A span in bytes. -/
def spanBytes (cs : List Char) (s : Span) : Span :=
  ⟨byteOffset cs s.start, byteOffset cs s.stop⟩

/-- Search with offsets counted in bytes: `exact` asks for a match that starts at `origin`. -/
def searchBytes (p : Pattern) (text : String) (origin : Nat) (documentStart : Bool)
    (anchor : Option Nat) (exact : Bool) : Option (List (Option Span)) := do
  let cs := text.toList
  let i ← position? cs origin
  let a : Anchors := ⟨documentStart, if anchor = some origin then some i else none⟩
  let m ← if exact then p.matchAt cs.toArray i a else p.search cs.toArray i a
  return m.groups.map (·.map (spanBytes cs))

end Pattern

end Scopelight
