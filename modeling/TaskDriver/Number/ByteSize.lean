import TaskDriver.Number.Rounding

/-! The size of a set of files for a reader: in bytes, or with one decimal in the largest of three
units that is not greater. -/
namespace TaskDriver.Number

/-- The nearest number with at most 53 binary digits before its zeros. -/
def to53Bits (n : Nat) : Nat :=
  if n < mantissaLimit then n
  else
    let unit := Nat.pow 2 (Nat.log2 n - 52)
    roundDiv n unit * unit

/-- A number of tenths, with a point. -/
def tenths (n : Nat) : String :=
  toString (n / 10) ++ "." ++ toString (n % 10)

def kilobyte : Nat := 1024

def megabyte : Nat := kilobyte * kilobyte

def gigabyte : Nat := megabyte * kilobyte

def byteSize (n : Nat) : String :=
  let size := to53Bits n
  if size < kilobyte then toString n ++ " B"
  else if size < megabyte then tenths (roundDiv (size * 10) kilobyte) ++ " KB"
  else if size < gigabyte then tenths (roundDiv (size * 10) megabyte) ++ " MB"
  else tenths (roundDiv (size * 10) gigabyte) ++ " GB"

end TaskDriver.Number
