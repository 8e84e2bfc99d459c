import Scopelight.Text.Character

/-!
# Trimming and splitting

Texts as lists of characters: blanks cut from the ends, words between blanks, and pieces between
occurrences of a character.
-/

namespace Scopelight.Text

/-- Drop matching characters from both ends. -/
def trimBoth (p : Char → Bool) (cs : List Char) : List Char :=
  ((cs.dropWhile p).reverse.dropWhile p).reverse

def trimBlank (cs : List Char) : List Char := trimBoth isBlank cs

/-- Pieces between the characters that match; `n` of those make `n + 1` pieces. -/
def splitAt (p : Char → Bool) : List Char → List (List Char)
  | [] => [[]]
  | c :: cs =>
    if p c then [] :: splitAt p cs
    else match splitAt p cs with
      | [] => [[c]]
      | piece :: pieces => (c :: piece) :: pieces

/-- The nonempty pieces between blanks. -/
def words (cs : List Char) : List (List Char) :=
  (splitAt isBlank cs).filter (!·.isEmpty)

def wordsOf (s : String) : List String :=
  (words s.toList).map String.ofList

/-- What follows a leading text, if it leads. -/
def dropLeading : List Char → List Char → Option (List Char)
  | [], cs => some cs
  | _ :: _, [] => none
  | a :: as, c :: cs => if a = c then dropLeading as cs else none

/-- The parts before and after the first occurrence of a character. -/
def cutAt (sep : Char) : List Char → Option (List Char × List Char)
  | [] => none
  | c :: cs => if c = sep then some ([], cs) else (cutAt sep cs).map fun (a, b) => (c :: a, b)

end Scopelight.Text
