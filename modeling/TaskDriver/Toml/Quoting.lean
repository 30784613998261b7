/-! How a text is written as a value or a key: in the plainest quotes that can hold it. -/
namespace TaskDriver.Toml

/-- The length of the longest run of `c`. -/
def longestRun (c : Char) (s : List Char) : Nat :=
  (s.foldl (fun (best, run) d =>
    let run := if d = c then run + 1 else 0
    (max best run, run)) (0, 0)).1

/-- A control other than tab and line feed. -/
def isControl (c : Char) : Bool :=
  (c.toNat < 0x20 && c ≠ '\t' && c ≠ '\n') || c.toNat = 0x7F

def hexDigitUpper (n : Nat) : Char :=
  Char.ofNat (if n < 10 then 48 + n else 55 + n)

/-- The escape of a character in double quotes, if it needs one whatever the quotes. -/
def escape? (c : Char) : Option (List Char) :=
  if c = '\x08' then some ['\\', 'b']
  else if c = '\t' then some ['\\', 't']
  else if c = '\x0c' then some ['\\', 'f']
  else if c = '\r' then some ['\\', 'r']
  else if c = '\\' then some ['\\', '\\']
  else if c.toNat < 0x20 && c ≠ '\n' || c.toNat = 0x7F then
    some ['\\', 'u', '0', '0', hexDigitUpper (c.toNat / 16), hexDigitUpper (c.toNat % 16)]
  else none

/-- Between double quotes on one line, every quote is escaped. -/
def escapeLine : List Char → List Char
  | [] => []
  | c :: s =>
    (if c = '\x22' then ['\\', '\x22']
    else if c = '\n' then ['\\', 'n']
    else (escape? c).getD [c]) ++ escapeLine s

/-- Between triple double quotes, the third quote of a run is escaped; `run` quotes went before. -/
def escapeLines (run : Nat) : List Char → List Char
  | [] => []
  | c :: s =>
    if c = '\x22' then
      if run = 2 then '\\' :: '\x22' :: escapeLines 0 s else c :: escapeLines (run + 1) s
    else (escape? c).getD [c] ++ escapeLines 0 s

def tripleQuotes (q : Char) : List Char :=
  [q, q, q]

/-- A line feed right after the opening quotes is not part of the text. -/
def multiLine (q : Char) (newline : Bool) (body : List Char) : List Char :=
  tripleQuotes q ++ (if newline then ['\n'] else []) ++ body ++ tripleQuotes q

def stringText (s : List Char) : List Char :=
  let controls := s.any isControl
  let backslash := s.contains '\\'
  let newline := s.contains '\n'
  let doubles := longestRun '\x22' s
  let singles := longestRun '\x27' s
  if !controls && !backslash && doubles = 0 && !newline then '\x22' :: (escapeLine s ++ ['\x22'])
  else if !controls && singles = 0 && !newline then '\x27' :: (s ++ ['\x27'])
  else if !controls && !backslash && doubles ≤ 2 then multiLine '\x22' newline (escapeLines 0 s)
  else if !controls && singles ≤ 2 then multiLine '\x27' newline s
  else if newline then multiLine '\x22' newline (escapeLines 0 s)
  else '\x22' :: (escapeLine s ++ ['\x22'])

/-- Characters of a key that needs no quotes. -/
def isBare (c : Char) : Bool :=
  c.isAlphanum || c = '_' || c = '-'

def keyText (s : List Char) : List Char :=
  let controls := s.any isControl || s.contains '\n'
  if s ≠ [] && s.all isBare then s
  else if !controls && !s.contains '\\' && !s.contains '\x22' then
    '\x22' :: (escapeLine s ++ ['\x22'])
  else if !controls && !s.contains '\x27' then '\x27' :: (s ++ ['\x27'])
  else '\x22' :: (escapeLine s ++ ['\x22'])

end TaskDriver.Toml
