import Scopelight.Text.Category.Cased

/-!
# Upper case, lower case and folding

Full case maps of whole texts, and the folded form by which letters are compared when case is to be
ignored.
-/

namespace Scopelight.Text

/-- The one-to-one image of a character. -/
def shiftChar (shifts : List Shift) (c : Char) : Char :=
  Char.ofNat (shifted c.toNat shifts)

/-- The image of a character under a map that may lengthen it. -/
def mapCase (shifts : List Shift) (several : List (Nat × List Nat)) (c : Char) : List Char :=
  match several.find? (·.1 == c.toNat) with
  | some (_, images) => images.map Char.ofNat
  | none => [shiftChar shifts c]

/-- Equal for characters that differ in case only. -/
def foldCase (c : Char) : Char :=
  shiftChar foldShift c

def upperChars (cs : List Char) : List Char :=
  cs.flatMap (mapCase upperShift upperSeveral)

/-- The first character that case does not ignore has case. -/
def startsCased (cs : List Char) : Bool :=
  match cs.dropWhile (fun c => memRuns c.toNat caseIgnorable) with
  | c :: _ => memRuns c.toNat casedRuns
  | [] => false

/-- Lower case with the text before it, last character first: a capital sigma that ends a word takes
its final form. -/
def lowerAfter : List Char → List Char → List Char
  | _, [] => []
  | before, c :: cs =>
    (if c = 'Σ' then
      [if startsCased before && !startsCased cs then 'ς' else 'σ']
    else mapCase lowerShift lowerSeveral c) ++ lowerAfter (c :: before) cs

def lowerChars (cs : List Char) : List Char :=
  lowerAfter [] cs

def upper (s : String) : String := String.ofList (upperChars s.toList)

def lower (s : String) : String := String.ofList (lowerChars s.toList)

end Scopelight.Text
