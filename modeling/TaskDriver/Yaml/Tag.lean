import TaskDriver.Yaml.Quoted
import TaskDriver.Yaml.Token

/-! Tags and the directives before a document. A tag is a handle, which a directive gives a
meaning, and a suffix. -/
namespace TaskDriver.Yaml

def isTagChar (c : Char) : Bool :=
  isWordChar c || c ∈ [';', '/', '?', ':', '@', '&', '=', '+', '$', '.', '!', '~', '*', '\x27',
    '(', ')']

/-- Between angle brackets and in a directive. -/
def isWideTagChar (c : Char) : Bool :=
  isTagChar c || c = ',' || c = '[' || c = ']'

/-- The number of octets that the first octet of a character announces. -/
def octetCount? (n : Nat) : Option Nat :=
  if n < 0x80 then some 1
  else if 0xC0 ≤ n ∧ n < 0xE0 then some 2
  else if 0xE0 ≤ n ∧ n < 0xF0 then some 3
  else if 0xF0 ≤ n ∧ n < 0xF8 then some 4
  else none

def octet? : List Char → Option (Nat × List Char)
  | '%' :: a :: b :: r => do
    pure (16 * (← hexValue? a) + (← hexValue? b), r)
  | _ => none

def laterOctets? : Nat → List Char → Option (List Nat × List Char)
  | 0, s => some ([], s)
  | n + 1, s => do
    let (a, s) ← octet? s
    if 0x80 ≤ a ∧ a < 0xC0 then do
      let (as, s) ← laterOctets? n s
      pure (a :: as, s)
    else none

/-- The octets of one character, each written as a percent sign and two digits. -/
def percentOctets? (s : List Char) : Option (Octets × List Char) := do
  let (a, s) ← octet? s
  let n ← octetCount? a
  let (as, s) ← laterOctets? (n - 1) s
  pure ((a :: as).map UInt8.ofNat, s)

/-- The characters of a tag, as octets; the fuel is the length of the text. -/
def tagOctets? (p : Char → Bool) : Nat → List Char → Option (Octets × List Char)
  | 0, s => some ([], s)
  | n + 1, s =>
    match s with
    | [] => some ([], [])
    | c :: r =>
      if c = '%' then do
        let (a, s) ← percentOctets? s
        let (as, s) ← tagOctets? p n s
        pure (a ++ as, s)
      else if p c then do
        let (as, s) ← tagOctets? p n r
        pure (octetsOf [c] ++ as, s)
      else some ([], s)

/-- A tag ends before an octet of zero. -/
def endedTag (t : Octets) : Octets :=
  t.takeWhile (· ≠ 0)

/-- At least one character. -/
def tagText? (p : Char → Bool) (s : List Char) : Option (Octets × List Char) := do
  let (t, rest) ← tagOctets? p s.length s
  if t = [] then none else pure (endedTag t, rest)

/-- The text from an exclamation mark to the next one, or the first one and the word after it. -/
def handleText? : List Char → Option (List Char × List Char)
  | '!' :: r =>
    let word := r.takeWhile isWordChar
    match r.dropWhile isWordChar with
    | '!' :: rest => some ('!' :: word ++ ['!'], rest)
    | rest => some ('!' :: word, rest)
  | _ => none

def isHandle (h : List Char) : Bool :=
  2 ≤ h.length && h.getLast? = some '!'

/-- Reads a tag: one between angle brackets stands for itself, one exclamation mark alone too. -/
def tag? (s : List Char) : Option (Token × List Char) :=
  match s with
  | '!' :: '<' :: r => do
    let (t, rest) ← tagText? isWideTagChar r
    match rest with
    | '>' :: rest => pure (.tag [] t, rest)
    | _ => none
  | _ => do
    let (h, r) ← handleText? s
    if isHandle h then do
      let (t, rest) ← tagText? isTagChar r
      pure (.tag h t, rest)
    else do
      let (t, rest) ← tagOctets? isTagChar r.length r
      let t := endedTag (octetsOf (h.drop 1) ++ t)
      pure (if t = [] then .tag [] (octetsOf ['!']) else .tag ['!'] t, rest)

/-! ## Directives -/

/-- At most nine digits. -/
def versionNumber? (s : List Char) : Option (Nat × List Char) :=
  let ds := s.takeWhile Char.isDigit
  if ds = [] ∨ 9 < ds.length then none
  else some (ds.foldl (fun n c => 10 * n + (c.toNat - 48)) 0, s.dropWhile Char.isDigit)

def versionDirective? (s : List Char) : Option (Token × List Char) := do
  let (major, s) ← versionNumber? (s.dropWhile isBlank)
  match s with
  | '.' :: s =>
    let (minor, s) ← versionNumber? s
    pure (.version major minor, s)
  | _ => none

def handleDirective? (s : List Char) : Option (Token × List Char) := do
  let (h, s) ← handleText? (s.dropWhile isBlank)
  if (isHandle h || h = ['!']) && s.head?.any isBlank then do
    let (t, s) ← tagText? isWideTagChar (s.dropWhile isBlank)
    if endsWord s then pure (.handle h t, s) else none
  else none

/-- Reads a directive after its percent sign. Only two kinds are known. -/
def directive? (s : List Char) : Option (Token × List Char) :=
  let name := s.takeWhile isWordChar
  let rest := s.dropWhile isWordChar
  if !endsWord rest then none
  else if name = "YAML".toList then versionDirective? rest
  else if name = "TAG".toList then handleDirective? rest
  else none

end TaskDriver.Yaml
