/-!
# Character ranges

Classes of characters given by ranges of code points, and character maps given
by runs of code points that are shifted alike.
-/

namespace Cadence
namespace Text

/-- Whether a character lies in one of the ranges, ends included. -/
def inRanges (ranges : List (Nat × Nat)) (character : Char) : Bool :=
  ranges.any fun range =>
    decide (range.1 ≤ character.toNat ∧ character.toNat ≤ range.2)

/-- A run of characters at equal steps that a map shifts by the same amount. -/
structure MappedRun where
  /-- The first character of the run. -/
  first : Nat
  /-- The last character of the run. -/
  last : Nat
  /-- The distance between neighbours in the run. -/
  step : Nat
  /-- The image of the first character. -/
  image : Nat

/-- Whether a code point belongs to a run. -/
def MappedRun.contains (run : MappedRun) (code : Nat) : Bool :=
  decide (run.first ≤ code ∧ code ≤ run.last) && (code - run.first) % run.step == 0

/-- The image of a character under the first of the runs that contains it. -/
def mapRuns? (runs : List MappedRun) (character : Char) : Option Char :=
  (runs.find? fun run => run.contains character.toNat).map fun run =>
    Char.ofNat (run.image + (character.toNat - run.first))

/-- The image of a character that is listed with its image. -/
def mapSequences?
    (sequences : List (Nat × List Nat))
    (character : Char) : Option (List Char) :=
  (sequences.find? fun entry => entry.1 == character.toNat).map fun entry =>
    entry.2.map Char.ofNat

end Text
end Cadence
