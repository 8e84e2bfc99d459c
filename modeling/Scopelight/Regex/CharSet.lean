import Scopelight.Regex.Property
import Scopelight.Text.Case

/-!
# Sets of characters

What a bracketed class denotes: ranges and properties combined by union, intersection and
complement.
-/

namespace Scopelight.Regex

open Text

inductive CharSet where
  | none
  | range (lo hi : Char)
  | property (p : Property)
  | union (a b : CharSet)
  | inter (a b : CharSet)
  | compl (a : CharSet)
  /-- Every character that differs from a member in case only. -/
  | anyCase (a : CharSet)
deriving DecidableEq, Repr

/-- The characters whose folded form is that of `c`. -/
def caseVariants (c : Char) : List Char :=
  let base := foldCase c
  base :: foldShift.filterMap fun s =>
    let n := ((base.toNat : Int) - s.distance).toNat
    if s.run.has n && shifted n foldShift == base.toNat then some (Char.ofNat n) else Option.none

namespace CharSet

def single (c : Char) : CharSet := range c c

/-- Membership. -/
def has : CharSet → Char → Bool
  | none, _ => false
  | range lo hi, c => lo ≤ c && c ≤ hi
  | property p, c => p.has c
  | union a b, c => a.has c || b.has c
  | inter a b, c => a.has c && b.has c
  | compl a, c => !a.has c
  | anyCase a, c => a.has c || (caseVariants c).any a.has

end CharSet

end Scopelight.Regex
