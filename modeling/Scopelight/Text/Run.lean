/-!
# Runs of code points

A property of characters is a sorted list of runs, and a case map is a sorted list of runs that
each lie a fixed distance from their images.
-/

namespace Scopelight.Text

/-- The code points `lo`, `lo + step`, … up to `hi`. -/
structure Run where
  lo : Nat
  hi : Nat
  step : Nat
deriving DecidableEq, Repr

/-- Membership in one run. -/
def Run.has (r : Run) (n : Nat) : Bool :=
  r.lo ≤ n && n ≤ r.hi && (n - r.lo) % r.step == 0

/-- Membership in a sorted list of runs; the search ends at the first run beyond `n`. -/
def memRuns (n : Nat) : List Run → Bool
  | [] => false
  | r :: rs => if n < r.lo then false else r.has n || memRuns n rs

/-- A run whose members all move by the same distance. -/
structure Shift where
  run : Run
  distance : Int
deriving DecidableEq, Repr

/-- The image of `n`: itself unless a run moves it. -/
def shifted (n : Nat) : List Shift → Nat
  | [] => n
  | s :: ss =>
    if n < s.run.lo then n
    else if s.run.has n then (n + s.distance).toNat
    else shifted n ss

end Scopelight.Text
