import TaskDriver.Toml.Strings
import TaskDriver.Toml.Datetime

/-! Integers, floating-point numbers, dates and times. -/
namespace TaskDriver.Toml

open Number

/-- Digits in groups, with an underscore between two groups; underscores are dropped. -/
def digitGroups (p : Char → Bool) : Scan (List Char) := do
  let d ← Scan.oneOf p
  let ds ← Scan.many (Scan.orElse (Scan.oneOf p) (do
    .mark '_'
    Scan.settle (Scan.oneOf p)))
  pure (d :: ds)

def sign : Scan (Option Char) :=
  .optional (.oneOf fun c => c = '+' ∨ c = '-')

/-- Decimal digits that start with a zero only if it is the only one. -/
def wholeDigits : Scan (List Char) := fun s =>
  match s with
  | '0' :: r => .read ['0'] r
  | _ => digitGroups Char.isDigit s

/-- Integers have 64 bits. -/
def inRange (i : Int) : Option Int :=
  if -0x8000000000000000 ≤ i ∧ i < 0x8000000000000000 then some i else none

def signedValue (sign : Option Char) (n : Nat) : Int :=
  if sign = some '-' then -n else n

def decimalInteger : Scan Int := fun s =>
  match (do let m ← sign; let ds ← wholeDigits; pure (m, ds) : Scan (Option Char × List Char)) s with
  | .failed b r => .failed b r
  | .read (m, ds) r =>
    match inRange (signedValue m (Binary64.natOfDigits ds)) with
    | some i => .read i r
    | none => .failed true s

def digitsValue (base : Nat) (ds : List Char) : Nat :=
  ds.foldl (fun n c => base * n + hexDigitValue c) 0

def isDigitOf (base : Nat) (c : Char) : Bool :=
  isHexDigit c && hexDigitValue c < base

/-- A number in another base, after a zero and the letter of the base. -/
def basedInteger (base : Nat) (letter : Char) : Scan Int :=
  .settle (.mapped (do
    .exactly ['0', letter]
    Scan.settle (digitGroups (isDigitOf base))) fun ds => inRange (digitsValue base ds))

def integer : Scan Int := fun s =>
  match s with
  | '0' :: 'x' :: _ => basedInteger 16 'x' s
  | '0' :: 'o' :: _ => basedInteger 8 'o' s
  | '0' :: 'b' :: _ => basedInteger 2 'b' s
  | _ => decimalInteger s

def exponentPart : Scan Int := do
  let _ ← Scan.oneOf fun c => c = 'e' ∨ c = 'E'
  let m ← sign
  let ds ← Scan.settle (digitGroups Char.isDigit)
  pure (signedValue m (Binary64.natOfDigits ds))

def placesPart : Scan (List Char) := do
  .mark '.'
  Scan.settle (digitGroups Char.isDigit)

structure FloatText where
  negative : Bool
  numeral : Binary64.Numeral

def floatText : Scan FloatText := do
  let m ← sign
  let whole ← wholeDigits
  let (places, exponent) ← Scan.orElse
    (do let e ← exponentPart; pure ([], e))
    (do
      let places ← placesPart
      let e ← Scan.optional exponentPart
      pure (places, e.getD 0))
  pure ⟨m = some '-', ⟨whole, places, exponent⟩⟩

/-- Beyond the greatest number there is nothing; below the least there is minus infinity. -/
def FloatText.value (t : FloatText) : Option Binary64 :=
  match t.numeral.value t.negative with
  | .infinite false => none
  | x => some x

def specialFloat : Scan Binary64 := do
  let m ← sign
  Scan.orElse (do .exactly "inf".toList; pure (.infinite (m = some '-')))
    (do .exactly "nan".toList; pure .nan)

def float : Scan Binary64 := fun s =>
  match floatText s with
  | .read t r =>
    match t.value with
    | some x => .read x r
    | none => .failed true s
  | .failed false _ => specialFloat s
  | .failed true r => .failed true r

/-- Two digits that make a number of a range. -/
def twoDigits (low high : Nat) : Scan Nat :=
  .mapped (.count 2 Char.isDigit) fun ds =>
    let n := Binary64.natOfDigits ds
    if low ≤ n ∧ n ≤ high then some n else none

/-- After year and hyphen it can only be a date. -/
def fullDate : Scan Date := do
  let year ← Scan.count 4 Char.isDigit
  .mark '-'
  Scan.settle do
    let year := Binary64.natOfDigits year
    let month ← twoDigits 1 12
    .mark '-'
    let day ← Scan.mapped (twoDigits 1 31) fun d => if d ≤ daysIn year month then some d else none
    pure ⟨year, month, day⟩

def secondFraction : Scan Nat := do
  .mark '.'
  let ds ← Scan.takeSome Char.isDigit
  pure (nanosecondsOf ds)

/-- After hour and colon it can only be a time of day. -/
def partialTime : Scan Time := do
  let hour ← twoDigits 0 23
  .mark ':'
  Scan.settle do
    let minute ← twoDigits 0 59
    .mark ':'
    let second ← twoDigits 0 60
    let fraction ← Scan.optional secondFraction
    pure ⟨hour, minute, second, fraction.getD 0⟩

def timeOffset : Scan Offset := do
  let c ← Scan.oneOf fun c => c = 'Z' ∨ c = 'z' ∨ c = '+' ∨ c = '-'
  if c = 'Z' ∨ c = 'z' then pure .utc
  else Scan.settle do
    let hours ← twoDigits 0 23
    .mark ':'
    let minutes ← twoDigits 0 59
    pure (.minutes (signedValue (some c) (hours * 60 + minutes)))

def datetime : Scan Datetime :=
  .orElse
    (do
      let date ← fullDate
      let rest ← Scan.optional do
        let _ ← Scan.oneOf fun c => c = 'T' ∨ c = 't' ∨ c = ' '
        let time ← partialTime
        let offset ← Scan.optional timeOffset
        pure (time, offset)
      match rest with
      | some (time, offset) => pure ⟨some date, some time, offset⟩
      | none => pure ⟨some date, none, none⟩)
    (do
      let time ← partialTime
      pure ⟨none, some time, none⟩)

end TaskDriver.Toml
