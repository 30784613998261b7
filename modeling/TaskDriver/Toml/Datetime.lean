import TaskDriver.Number.Binary64

/-! Dates and times of day, together or alone, and the offset of a local time. -/
namespace TaskDriver.Toml

structure Date where
  year : Nat
  month : Nat
  day : Nat
  deriving DecidableEq, Repr

structure Time where
  hour : Nat
  minute : Nat
  second : Nat
  nanosecond : Nat
  deriving DecidableEq, Repr

inductive Offset
  | utc
  | minutes (m : Int)
  deriving DecidableEq, Repr

structure Datetime where
  date : Option Date
  time : Option Time
  offset : Option Offset
  deriving DecidableEq, Repr

def isLeapYear (year : Nat) : Bool :=
  year % 4 = 0 && (year % 100 ≠ 0 || year % 400 = 0)

def daysIn (year month : Nat) : Nat :=
  if month = 2 then (if isLeapYear year then 29 else 28)
  else if month = 4 ∨ month = 6 ∨ month = 9 ∨ month = 11 then 30
  else 31

/-- A number in decimal, with zeros in front up to `width` digits. -/
def zeroPadded (width n : Nat) : List Char :=
  let ds := Number.digitsOf n
  List.replicate (width - ds.length) '0' ++ ds

def Date.text (d : Date) : List Char :=
  zeroPadded 4 d.year ++ '-' :: (zeroPadded 2 d.month ++ '-' :: zeroPadded 2 d.day)

/-- The fraction of a second without zeros at its end. -/
def fractionText (nanosecond : Nat) : List Char :=
  if nanosecond = 0 then []
  else '.' :: ((zeroPadded 9 nanosecond).reverse.dropWhile (· = '0')).reverse

def Time.text (t : Time) : List Char :=
  zeroPadded 2 t.hour ++ ':' :: (zeroPadded 2 t.minute ++ ':' :: zeroPadded 2 t.second) ++
    fractionText t.nanosecond

def Offset.text : Offset → List Char
  | .utc => ['Z']
  | .minutes m =>
    (if m < 0 then '-' else '+') :: (zeroPadded 2 (m.natAbs / 60) ++ ':' :: zeroPadded 2 (m.natAbs % 60))

def Datetime.text (d : Datetime) : List Char :=
  (match d.date with | some x => x.text | none => []) ++
    (if d.date.isSome && d.time.isSome then ['T'] else []) ++
    (match d.time with | some x => x.text | none => []) ++
    (match d.offset with | some x => x.text | none => [])

/-- Two digits and the rest. -/
def readTwo : List Char → Option (Nat × List Char)
  | a :: b :: r =>
    if a.isDigit && b.isDigit then some (Number.Binary64.natOfDigits [a, b], r) else none
  | _ => none

def readFour (s : List Char) : Option (Nat × List Char) := do
  let (a, r) ← readTwo s
  let (b, r) ← readTwo r
  pure (100 * a + b, r)

def readMark (c : Char) : List Char → Option (List Char)
  | d :: r => if d = c then some r else none
  | [] => none

def readDate (s : List Char) : Option (Date × List Char) := do
  let (year, r) ← readFour s
  let r ← readMark '-' r
  let (month, r) ← readTwo r
  let r ← readMark '-' r
  let (day, r) ← readTwo r
  if 1 ≤ month ∧ month ≤ 12 ∧ 1 ≤ day ∧ day ≤ daysIn year month then pure (⟨year, month, day⟩, r)
  else none

/-- Digits after the ninth do not count. -/
def nanosecondsOf (ds : List Char) : Nat :=
  Number.Binary64.natOfDigits ((ds ++ List.replicate 9 '0').take 9)

def readFraction : List Char → Option (Nat × List Char)
  | '.' :: r =>
    let ds := r.takeWhile Char.isDigit
    if ds = [] then none else some (nanosecondsOf ds, r.dropWhile Char.isDigit)
  | r => some (0, r)

def readTime (s : List Char) : Option (Time × List Char) := do
  let (hour, r) ← readTwo s
  let r ← readMark ':' r
  let (minute, r) ← readTwo r
  let r ← readMark ':' r
  let (second, r) ← readTwo r
  let (nanosecond, r) ← readFraction r
  if hour ≤ 24 ∧ minute ≤ 59 ∧ second ≤ 60 then pure (⟨hour, minute, second, nanosecond⟩, r)
  else none

def readOffset : List Char → Option (Option Offset × List Char)
  | [] => some (none, [])
  | c :: r =>
    if c = 'Z' ∨ c = 'z' then some (some .utc, r)
    else if c = '+' ∨ c = '-' then do
      let (hours, r) ← readTwo r
      let r ← readMark ':' r
      let (minutes, r) ← readTwo r
      let m : Int := hours * 60 + minutes
      if m ≤ 24 * 60 then pure (some (.minutes (if c = '-' then -m else m)), r) else none
    else none

/-- Whether a text starts as a time of day does and a date does not. -/
def startsAsTime : List Char → Bool
  | _ :: _ :: ':' :: _ => true
  | _ => false

/-- Reads the whole of a text; only a date with a time takes an offset. -/
def Datetime.ofText? (s : List Char) : Option Datetime := do
  if startsAsTime s then
    let (t, r) ← readTime s
    if r = [] then pure ⟨none, some t, none⟩ else none
  else
    let (d, r) ← readDate s
    match r with
    | [] => pure ⟨some d, none, none⟩
    | c :: r =>
      if c = 'T' ∨ c = 't' ∨ c = ' ' then
        let (t, r) ← readTime r
        let (o, r) ← readOffset r
        if r = [] then pure ⟨some d, some t, o⟩ else none
      else none

end TaskDriver.Toml
