import Scopelight.Pattern
import Scopelight.Pattern.Literal
import Scopelight.Scope.Name

/-!
# End templates

The end or while pattern of a region may refer back to the groups of its begin match. Such a
template is read when a region opens, with the escaped texts of the groups in place.
-/

namespace Scopelight

open Text

/-- A part of an end pattern: a backslash followed by digits refers back. -/
inductive EndPart where
  | char (c : Char)
  | reference (digits : List Char)
deriving DecidableEq, Repr

/-- The parts of an end pattern; the number counts digits of the reference before. -/
def endParts : Nat → List Char → List EndPart
  | _, [] => []
  | skip + 1, _ :: cs => endParts skip cs
  | 0, c :: cs =>
    let ds := cs.takeWhile isDecimalDigit
    if c = '\\' ∧ ds ≠ [] then .reference ds :: endParts ds.length cs
    else .char c :: endParts 0 cs

def EndPart.isReference : EndPart → Bool
  | reference _ => true
  | char _ => false

/-- Replace references by texts. -/
def fillReferences (text : List Char → List Char) (parts : List EndPart) : List Char :=
  parts.flatMap fun
    | .char c => [c]
    | .reference ds => text ds

/-- An end or while pattern. -/
inductive EndTemplate where
  | fixed (pattern : Pattern)
  /-- Read per region. -/
  | perRegion (source : String)
deriving DecidableEq, Repr

namespace EndTemplate

def source : EndTemplate → String
  | fixed p => p.source
  | perRegion source => source

def hasBackreferences : EndTemplate → Bool
  | fixed _ => false
  | perRegion _ => true

/-- Read a template. One with references is checked with a stand-in for each. -/
def compile (source : String) : Except PatternError EndTemplate :=
  let parts := endParts 0 source.toList
  if parts.any (·.isReference) then
    match Pattern.compile (String.ofList (fillReferences (fun _ => [deadAnchor]) parts)) with
    | .ok _ => .ok (.perRegion source)
    | .error e => .error ⟨source, e.cause⟩
  else (Pattern.compile source).map fixed

/-- The escaped text of the group that digits name; empty if there is none. -/
def referenceText (line : Array Char) (m : Regex.Match) (ds : List Char) : List Char :=
  match (groupNumber? ds).bind (m.text? line) with
  | some cs => escapeLiteral cs
  | none => []

/-- The pattern for a region that a match opens. -/
def instantiate (t : EndTemplate) (line : Array Char) (m : Regex.Match) :
    Except PatternError Pattern :=
  match t with
  | fixed p => .ok p
  | perRegion source =>
    Pattern.compile (String.ofList
      (fillReferences (referenceText line m) (endParts 0 source.toList)))

end EndTemplate

end Scopelight
