import TaskDriver.Yaml.Text

/-! Scalars in quotes. Breaks inside are folded, and a line that starts or ends a document must not
stand in them. -/
namespace TaskDriver.Yaml

/-- The texts of the escapes of one character. -/
def escaped : Char → Option Char
  | '0' => some '\x00'
  | 'a' => some '\x07'
  | 'b' => some '\x08'
  | 't' => some '\t'
  | '\t' => some '\t'
  | 'n' => some '\n'
  | 'v' => some '\x0b'
  | 'f' => some '\x0c'
  | 'r' => some '\r'
  | 'e' => some '\x1b'
  | ' ' => some ' '
  | '\x22' => some '\x22'
  | '/' => some '/'
  | '\\' => some '\\'
  | 'N' => some '\u0085'
  | '_' => some '\u00a0'
  | 'L' => some '\u2028'
  | 'P' => some '\u2029'
  | _ => none

/-- The number of hexadecimal digits after an escape that names a code point. -/
def escapeWidth : Char → Option Nat
  | 'x' => some 2
  | 'u' => some 4
  | 'U' => some 8
  | _ => none

def hexValue? (c : Char) : Option Nat :=
  if c.isDigit then some (c.toNat - 48)
  else if 'a' ≤ c ∧ c ≤ 'f' then some (c.toNat - 87)
  else if 'A' ≤ c ∧ c ≤ 'F' then some (c.toNat - 55)
  else none

def hexNumber? (ds : List Char) : Option Nat :=
  ds.foldlM (fun n c => do pure (16 * n + (← hexValue? c))) 0

def charOfCode? (n : Nat) : Option Char :=
  if n.isValidChar then some (Char.ofNat n) else none

/-- The character of an escape, read after its backslash, and the number of characters read. -/
def escape? : List Char → Option (Char × Nat)
  | [] => none
  | c :: r =>
    match escapeWidth c with
    | none => (escaped c).map (·, 1)
    | some n =>
      if r.length < n then none
      else do
        let code ← hexNumber? (r.take n)
        let a ← charOfCode? code
        pure (a, n + 1)

/-- What follows a gap inside quotes must not start or end a document. -/
def mayFollow (gap rest : List Char) : Bool :=
  !(isBroken gap && indentationAfter gap = 0 && isDocumentMark rest)

def singleQuoted : List Char → Option (List Char × List Char)
  | [] => none
  | '\x27' :: '\x27' :: r => do
    let (t, rest) ← singleQuoted r
    pure ('\x27' :: t, rest)
  | c :: r =>
    if c = '\x27' then some ([], r)
    else if isGap c then
      let gap := c :: r.takeWhile isGap
      let rest := r.dropWhile isGap
      if mayFollow gap rest then do
        let (t, rest) ← singleQuoted rest
        pure (foldedGap gap ++ t, rest)
      else none
    else do
      let (t, rest) ← singleQuoted r
      pure (c :: t, rest)
termination_by s => s.length
decreasing_by
  · exact Nat.lt_succ_of_lt (Nat.lt_succ_self r.length)
  · exact Nat.lt_succ_of_le (Text.length_dropWhile_le isGap r)
  · exact Nat.lt_succ_self r.length

/-- A backslash before a break takes the break away; further breaks stay. -/
def doubleQuoted : List Char → Option (List Char × List Char)
  | [] => none
  | c :: r =>
    if c = '\x22' then some ([], r)
    else if c = '\\' then
      match r with
      | [] => none
      | b :: q =>
        if isBreak b then
          let gap := q.takeWhile isGap
          let rest := q.dropWhile isGap
          if mayFollow (b :: gap) rest then do
            let (t, rest) ← doubleQuoted rest
            pure (gap.filter isBreak ++ t, rest)
          else none
        else do
          let (a, n) ← escape? (b :: q)
          let (t, rest) ← doubleQuoted ((b :: q).drop n)
          pure (a :: t, rest)
    else if isGap c then
      let gap := c :: r.takeWhile isGap
      let rest := r.dropWhile isGap
      if mayFollow gap rest then do
        let (t, rest) ← doubleQuoted rest
        pure (foldedGap gap ++ t, rest)
      else none
    else do
      let (t, rest) ← doubleQuoted r
      pure (c :: t, rest)
termination_by s => s.length
decreasing_by
  · exact Nat.lt_succ_of_lt (Nat.lt_succ_of_le (Text.length_dropWhile_le isGap q))
  · exact Nat.lt_succ_of_le (List.length_drop ▸ Nat.sub_le _ _)
  · exact Nat.lt_succ_of_le (Text.length_dropWhile_le isGap r)
  · exact Nat.lt_succ_self r.length

end TaskDriver.Yaml
