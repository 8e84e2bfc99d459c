import Scopelight.Text.Line

/-!
# Byte offsets

Positions in a text are counted in characters; offsets that come in or go out are counted in bytes
of its UTF-8 form.
-/

namespace Scopelight.Text

/-- The bytes before the character at `i`. -/
def byteOffset (cs : List Char) (i : Nat) : Nat := byteLength (cs.take i)

/-- The first position that lies at `offset` bytes or beyond; none past the end of the text. -/
def position? : List Char → Nat → Option Nat
  | _, 0 => some 0
  | [], _ + 1 => none
  | c :: cs, offset => (position? cs (offset - c.utf8Size)).map (· + 1)

/-- Cut a text after some bytes. -/
def cutBytes (cs : List Char) (n : Nat) : List Char × List Char :=
  cs.splitAt ((position? cs n).getD cs.length)

end Scopelight.Text
