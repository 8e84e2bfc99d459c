/-!
# Numerals

Digits of plain numbers and their values, and how far numbers of 64 bits go.
-/

namespace Scopelight.Text

def isAsciiDigit (c : Char) : Bool :=
  '0' ≤ c && c ≤ '9'

def isHexDigit (c : Char) : Bool :=
  isAsciiDigit c || ('a' ≤ c && c ≤ 'f') || ('A' ≤ c && c ≤ 'F')

/-- The value of a hexadecimal digit, zero for any other character. -/
def hexValue (c : Char) : Nat :=
  if isAsciiDigit c then c.toNat - '0'.toNat
  else if 'a' ≤ c && c ≤ 'f' then c.toNat - 'a'.toNat + 10
  else if 'A' ≤ c && c ≤ 'F' then c.toNat - 'A'.toNat + 10
  else 0

/-- The number that digits of a base spell, most significant first. -/
def digitsValue (base : Nat) (cs : List Char) : Nat :=
  cs.foldl (fun n c => n * base + hexValue c) 0

/-- One more than the largest number of 64 bits. -/
def wordLimit : Nat := 18446744073709551616

/-- Whether an integer is a number of 64 bits without sign. -/
def fitsWord (n : Int) : Bool := 0 ≤ n && n < wordLimit

/-- Whether an integer is a number of 64 bits with sign. -/
def fitsSignedWord (n : Int) : Bool := -wordLimit ≤ 2 * n && 2 * n < wordLimit

end Scopelight.Text
