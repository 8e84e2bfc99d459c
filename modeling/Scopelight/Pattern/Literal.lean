import Scopelight.Text.Character

/-!
# Literal text in patterns

Escapes so that a text denotes itself in a pattern, also where blanks and comments are skipped.
-/

namespace Scopelight

open Text

/-- Whether a character is escaped in a literal text. -/
def needsEscape (c : Char) : Bool :=
  "-\\\x7b\x7d*+?|^$.,[]()#".toList.contains c || isBlank c

/-- A text in which each character denotes itself. -/
def escapeLiteral (cs : List Char) : List Char :=
  cs.flatMap fun c => if needsEscape c then ['\\', c] else [c]

end Scopelight
