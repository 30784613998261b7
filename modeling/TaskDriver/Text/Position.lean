/-! Places in a text, as they are told to its author. -/
namespace TaskDriver.Text

/-- One-based line and column, both counted in characters. -/
structure Position where
  line : Nat
  column : Nat
  deriving DecidableEq, Repr

def Position.start : Position :=
  ⟨1, 1⟩

def Position.advance (p : Position) (c : Char) : Position :=
  if c = '\n' then ⟨p.line + 1, 1⟩ else ⟨p.line, p.column + 1⟩

/-- The position of the character after the first `n` of a text. -/
def Position.ofOffset (s : List Char) (n : Nat) : Position :=
  (s.take n).foldl Position.advance .start

end TaskDriver.Text
