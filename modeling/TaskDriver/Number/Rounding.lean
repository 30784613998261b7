/-! Quotients of natural numbers rounded to the nearest one, a half to the even neighbour. -/
namespace TaskDriver.Number

/-- The mantissa of a floating-point number has 53 binary digits. -/
def mantissaLimit : Nat := 0x20000000000000

def roundDiv (num den : Nat) : Nat :=
  let q := num / den
  let r := num % den
  if 2 * r < den then q
  else if den < 2 * r then q + 1
  else if q % 2 = 0 then q
  else q + 1

end TaskDriver.Number
