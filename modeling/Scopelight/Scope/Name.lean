import Scopelight.Pattern
import Scopelight.Text.Case
import Scopelight.Text.Word

/-!
# Scope names

A scope name may hold placeholders that a match fills in: `$1`, or with a change of case
`${1:/downcase}` and `${1:/upcase}`. A name with blanks contributes several scopes.
-/

namespace Scopelight

open Text

/-- What happens to the text that fills a placeholder. -/
inductive LetterCase where
  | asWritten | lower | upper
deriving DecidableEq, Repr

def LetterCase.apply : LetterCase → List Char → List Char
  | asWritten, cs => cs
  | lower, cs => lowerChars cs
  | upper, cs => upperChars cs

/-- A placeholder after its dollar sign. -/
structure Placeholder where
  written : List Char
  /-- None if the digits spell no group number. -/
  group : Option Nat
  letterCase : LetterCase
deriving DecidableEq, Repr

/-- Group numbers are written in plain digits and fit 64 bits. -/
def groupNumber? (ds : List Char) : Option Nat :=
  if ds.isEmpty || !ds.all isAsciiDigit then none
  else
    let n := digitsValue 10 ds
    if n < wordLimit then some n else none

/-- The case changes a placeholder can ask for, as written between the digits and the brace. -/
def caseMarks : List (List Char × LetterCase) := [
  (":/downcase\x7d".toList, .lower), (":/upcase\x7d".toList, .upper)]

/-- A placeholder between braces, after the digits. -/
def bracedPlaceholder (ds rest : List Char) : Option Placeholder :=
  caseMarks.findSome? fun (mark, letterCase) =>
    (dropLeading mark rest).map fun _ =>
      ⟨'\x7b' :: ds ++ mark, groupNumber? ds, letterCase⟩

/-- The placeholder that a text begins with. -/
def placeholder? : List Char → Option Placeholder
  | '\x7b' :: cs =>
    let ds := cs.takeWhile isDecimalDigit
    if ds.isEmpty then none else bracedPlaceholder ds (cs.dropWhile isDecimalDigit)
  | cs =>
    let ds := cs.takeWhile isDecimalDigit
    if ds.isEmpty then none else some ⟨ds, groupNumber? ds, .asWritten⟩

/-- A part of a scope name. -/
inductive NamePart where
  | char (c : Char)
  | placeholder (p : Placeholder)
deriving DecidableEq, Repr

/-- The parts of a name; the number counts characters that belong to the placeholder before. -/
def nameParts : Nat → List Char → List NamePart
  | _, [] => []
  | skip + 1, _ :: cs => nameParts skip cs
  | 0, c :: cs =>
    if c = '$' then
      match placeholder? cs with
      | some p => .placeholder p :: nameParts p.written.length cs
      | none => .char c :: nameParts 0 cs
    else .char c :: nameParts 0 cs

/-- The text of a part. A placeholder whose group has no text stays as it is written; leading dots of
a group's text are dropped. -/
def NamePart.fill (line : Array Char) (m : Regex.Match) : NamePart → List Char
  | char c => [c]
  | placeholder p =>
    match p.group.bind (m.text? line) with
    | some cs => p.letterCase.apply (cs.dropWhile (· == '.'))
    | none => '$' :: p.written

/-- A scope name as authored. -/
structure ScopeName where
  template : String
deriving DecidableEq, Repr

def NamePart.isPlaceholder : NamePart → Bool
  | char _ => false
  | placeholder _ => true

/-- Whether a match has to fill in anything. -/
def ScopeName.dynamic (name : ScopeName) : Bool :=
  (nameParts 0 name.template.toList).any (·.isPlaceholder)

/-- The scopes that a name contributes for a match. -/
def ScopeName.expand (name : ScopeName) (line : Array Char) (m : Regex.Match) : List String :=
  if name.dynamic then
    (words ((nameParts 0 name.template.toList).flatMap (·.fill line m))).map String.ofList
  else wordsOf name.template

end Scopelight
