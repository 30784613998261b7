/-! Sets of characters written as runs of code points. Tables of the Unicode character database
leave out ASCII, which every class here decides by a comparison. -/
namespace TaskDriver.Text

/-- The code points `first`, `first + step`, and so on up to `last`. -/
structure CodeRun where
  first : Nat
  last : Nat
  step : Nat

def CodeRun.has (r : CodeRun) (n : Nat) : Bool :=
  r.first ≤ n && n ≤ r.last && (n - r.first) % r.step == 0

def inRuns (runs : List CodeRun) (c : Char) : Bool :=
  runs.any (·.has c.toNat)

end TaskDriver.Text
