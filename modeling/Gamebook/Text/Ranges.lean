/-!
# Sets of code points

The character properties of Unicode are given as sorted lists of ranges.  Letters that come in
pairs of upper and lower case alternate, so case tables list runs with a step.
-/

namespace Gamebook

/-- Ranges of code points, both ends included. -/
abbrev CodeRanges := List (Nat × Nat)

def CodeRanges.contains (ranges : CodeRanges) (code : Nat) : Bool :=
  ranges.any fun range => range.1 ≤ code && code ≤ range.2

/-- Every `step`-th code point from `first` to `last`. -/
structure CodeRun where
  first : Nat
  last : Nat
  step : Nat
deriving DecidableEq, Repr

def CodeRun.contains (run : CodeRun) (code : Nat) : Bool :=
  run.first ≤ code && code ≤ run.last && (code - run.first) % run.step == 0

/-- A run of code points that a case mapping moves by the same distance. -/
structure CaseRun extends CodeRun where
  distance : Int
deriving DecidableEq, Repr

def CaseRun.target (run : CaseRun) (code : Nat) : Nat :=
  (Int.ofNat code + run.distance).toNat

end Gamebook
