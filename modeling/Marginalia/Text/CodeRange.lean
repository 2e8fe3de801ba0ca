/-!
Character classes and case maps as tables: a class is a list of runs of code points, a case map is a
list of runs that all move by the same distance.
-/

namespace Marginalia.Text

/-- A run of code points, both ends included. -/
structure CodeRange where
  first : Nat
  last : Nat

/-- Does the code point lie in the run? -/
def CodeRange.holds (r : CodeRange) (n : Nat) : Bool :=
  r.first ≤ n && n ≤ r.last

/-- Does some run of the class hold the character? -/
def inClass (ranges : List CodeRange) (c : Char) : Bool :=
  ranges.any (·.holds c.toNat)

/-- Every `step`-th code point from `first` to `last` goes to the one `shift` further on. -/
structure CaseRun where
  first : Nat
  last : Nat
  step : Nat
  shift : Int

/-- Does the run say where the code point goes? -/
def CaseRun.holds (r : CaseRun) (n : Nat) : Bool :=
  r.first ≤ n && n ≤ r.last && (n - r.first) % r.step == 0

/-- Where the code point goes. -/
def CaseRun.apply (r : CaseRun) (n : Nat) : Char :=
  Char.ofNat ((n : Int) + r.shift).toNat

/-- The image of a character under the runs; a character that no run holds stays. -/
def mapCase (runs : List CaseRun) (c : Char) : Char :=
  match runs.find? (·.holds c.toNat) with
  | some r => r.apply c.toNat
  | none => c

end Marginalia.Text
