import TaskDriver.Number.Rounding

/-! Floating-point numbers with 53 binary digits: the one nearest to a decimal number, and the
shortest decimal number that leads back to it. -/
namespace TaskDriver.Number

inductive Binary64
  | nan
  | infinite (negative : Bool)
  /-- The number `mantissa · 2 ^ exponent`, with 53 binary digits in the mantissa, or fewer if the
  exponent is the least. -/
  | finite (negative : Bool) (mantissa : Nat) (exponent : Int)
  deriving DecidableEq, Repr, Inhabited

def leastExponent : Int := -1074

def greatestExponent : Int := 971

/-- A fraction that stands for `a · base ^ e`. -/
def power (a base : Nat) (e : Int) : Nat × Nat :=
  if 0 ≤ e then (a * Nat.pow base e.toNat, 1) else (a, Nat.pow base (-e).toNat)

namespace Binary64

def zero (negative : Bool) : Binary64 :=
  .finite negative 0 leastExponent

/-- The exponent with which the mantissa of a positive quotient has 53 binary digits. -/
def exponentOf (num den : Nat) : Int :=
  let e : Int := (Nat.log2 num : Int) - (Nat.log2 den : Int) - 53
  let (n, d) := power den 2 e
  if num * d / n < mantissaLimit then e else e + 1

/-- The nearest number to a quotient, of two the one with the even mantissa. -/
def ofRatio (negative : Bool) (num den : Nat) : Binary64 :=
  if num = 0 then zero negative
  else
    let e := max leastExponent (exponentOf num den)
    let (n, d) := power den 2 e
    let m := roundDiv (num * d) n
    let (m, e) := if m = mantissaLimit then (mantissaLimit / 2, e + 1) else (m, e)
    if greatestExponent < e then .infinite negative else .finite negative m e

def ofNat (n : Nat) : Binary64 :=
  ofRatio false n 1

def digitValue (c : Char) : Nat :=
  c.toNat - 48

def natOfDigits (ds : List Char) : Nat :=
  ds.foldl (fun n c => 10 * n + digitValue c) 0

/-- The nearest number to `ds · 10 ^ e`. The exponents that are out of reach are cut off first. -/
def ofDecimal (negative : Bool) (ds : List Char) (e : Int) : Binary64 :=
  let ds := ds.dropWhile (· = '0')
  let size : Int := ds.length + e
  if ds = [] then zero negative
  else if 310 < size then .infinite negative
  else if size < -330 then zero negative
  else
    let (n, d) := power (natOfDigits ds) 10 e
    ofRatio negative n d

end Binary64

/-- A decimal number in scientific form: the digits, with a point after the first, and the power
of ten. -/
structure Scientific where
  digits : List Char
  exponent : Int
  deriving DecidableEq, Repr

def digitsOf (n : Nat) : List Char :=
  if n < 10 then [Char.ofNat (48 + n)] else digitsOf (n / 10) ++ [Char.ofNat (48 + n % 10)]
termination_by n

/-- The real numbers that are rounded to `mantissa · 2 ^ exponent`, as fractions. -/
structure Interval where
  low : Nat × Nat
  value : Nat × Nat
  high : Nat × Nat
  closed : Bool

def intervalOf (mantissa : Nat) (exponent : Int) : Interval :=
  let below := if 2 * mantissa = mantissaLimit ∧ leastExponent < exponent then 1 else 2
  { low := power (4 * mantissa - below) 2 (exponent - 2)
    value := power mantissa 2 exponent
    high := power (4 * mantissa + 2) 2 (exponent - 2)
    closed := mantissa % 2 = 0 }

def fractionLt (a b : Nat × Nat) : Bool :=
  a.1 * b.2 < b.1 * a.2

def Interval.contains (i : Interval) (x : Nat × Nat) : Bool :=
  if i.closed then !fractionLt x i.low && !fractionLt i.high x
  else fractionLt i.low x && fractionLt x i.high

/-- The greatest `t` with `10 ^ t` at most the positive fraction `x`. -/
def decimalExponent (x : Nat × Nat) : Int :=
  let estimate : Int := ((Nat.log2 x.1 : Int) - (Nat.log2 x.2 : Int)) * 30103 / 100000
  let t := estimate + 1
  if !fractionLt x (power 1 10 t) then t
  else if !fractionLt x (power 1 10 (t - 1)) then t - 1
  else t - 2

/-- The multiple of `10 ^ p` in the interval that is nearest to its value, of two the greater. -/
def gridPoint (i : Interval) (p : Int) : Option Nat :=
  let (n, d) := power i.value.2 10 p
  let q := i.value.1 * d / n
  let lower := i.contains (power q 10 p)
  let upper := i.contains (power (q + 1) 10 p)
  let nearUpper : Bool := 2 * (i.value.1 * d % n) ≥ n
  if lower && upper then some (if nearUpper then q + 1 else q)
  else if lower then some q
  else if upper then some (q + 1)
  else none

/-- The first grid from `10 ^ p` on down that has a point in the interval. -/
def shortestFrom (i : Interval) : Nat → Int → Nat × Int
  | 0, p => (0, p)
  | fuel + 1, p =>
    match gridPoint i p with
    | some q => if q = 0 then shortestFrom i fuel (p - 1) else (q, p)
    | none => shortestFrom i fuel (p - 1)

/-- Seventeen digits always suffice. -/
def shortest (mantissa : Nat) (exponent : Int) : Scientific :=
  if mantissa = 0 then ⟨['0'], 0⟩
  else
    let i := intervalOf mantissa exponent
    let (q, p) := shortestFrom i 18 (decimalExponent i.value)
    let ds := digitsOf q
    let kept := (ds.reverse.dropWhile (· = '0')).reverse
    ⟨kept, p + ds.length - 1⟩

/-- Without an exponent, and with at least one digit on each side of the point. -/
def Scientific.positional (s : Scientific) : List Char :=
  if s.exponent < 0 then
    "0.".toList ++ List.replicate ((-s.exponent).toNat - 1) '0' ++ s.digits
  else
    let whole := s.exponent.toNat + 1
    let padded := s.digits ++ List.replicate (whole - s.digits.length) '0'
    let places := s.digits.drop whole
    padded.take whole ++ '.' :: (if places = [] then ['0'] else places)

def Scientific.exponential (s : Scientific) : List Char :=
  let places := s.digits.drop 1
  s.digits.take 1 ++ (if places = [] then [] else '.' :: places) ++ 'e' ::
    (if s.exponent < 0 then '-' :: digitsOf s.exponent.natAbs else digitsOf s.exponent.natAbs)

/-- Numbers from a ten-thousandth up to `10 ^ 16` are shown without an exponent. -/
def Scientific.shown (s : Scientific) : List Char :=
  if s.digits = ['0'] ∨ (-4 ≤ s.exponent ∧ s.exponent < 16) then s.positional else s.exponential

namespace Binary64

private def signed (negative : Bool) (s : List Char) : String :=
  String.ofList (if negative then '-' :: s else s)

/-- The text of a number for a reader. -/
def shown : Binary64 → String
  | .nan => "NaN"
  | .infinite negative => signed negative "inf".toList
  | .finite negative m e => signed negative (shortest m e).shown

/-- The text of a number in a table of settings. -/
def positional : Binary64 → String
  | .nan => "nan"
  | .infinite negative => signed negative "inf".toList
  | .finite negative m e => signed negative (shortest m e).positional

/-- The parts of a decimal numeral: digits before and after the point, and the exponent. -/
structure Numeral where
  whole : List Char
  places : List Char
  exponent : Int

/-- An exponent after its letter, with a sign or without. -/
def readExponent : List Char → Option Int
  | '-' :: ds => if ds ≠ [] ∧ ds.all Char.isDigit then some (-(natOfDigits ds : Int)) else none
  | '+' :: ds => if ds ≠ [] ∧ ds.all Char.isDigit then some (natOfDigits ds : Int) else none
  | ds => if ds ≠ [] ∧ ds.all Char.isDigit then some (natOfDigits ds : Int) else none

/-- A numeral has a digit before or after the point. -/
def readNumeral (s : List Char) : Option Numeral :=
  let whole := s.takeWhile Char.isDigit
  let rest := s.dropWhile Char.isDigit
  let (places, rest) := match rest with
    | '.' :: r => (r.takeWhile Char.isDigit, r.dropWhile Char.isDigit)
    | r => ([], r)
  if whole = [] ∧ places = [] then none
  else match rest with
    | [] => some ⟨whole, places, 0⟩
    | c :: r =>
      if c = 'e' ∨ c = 'E' then (readExponent r).map fun e => ⟨whole, places, e⟩ else none

def Numeral.value (n : Numeral) (negative : Bool) : Binary64 :=
  ofDecimal negative (n.whole ++ n.places) (n.exponent - n.places.length)

def readUnsigned (negative : Bool) (s : List Char) : Option Binary64 :=
  match String.ofList (s.map Char.toLower) with
  | "inf" => some (.infinite negative)
  | "infinity" => some (.infinite negative)
  | "nan" => some .nan
  | _ => (readNumeral s).map (·.value negative)

/-- Reads a numeral, an infinity or `nan`, with a sign or without. -/
def ofText? (s : List Char) : Option Binary64 :=
  match s with
  | '-' :: r => readUnsigned true r
  | '+' :: r => readUnsigned false r
  | r => readUnsigned false r

end Binary64

end TaskDriver.Number
