import TaskDriver.Text.Blank
import TaskDriver.Definition.Token

/-! Literals of a definition file. The scanners here give the number of characters that a literal
takes at the start of a text, or nothing if none stands there; the readers give its value. -/
namespace TaskDriver.Definition

def isHex (c : Char) : Bool :=
  c.isDigit || ('a' ≤ c && c ≤ 'f') || ('A' ≤ c && c ≤ 'F')

def hexValue (c : Char) : Nat :=
  if c.isDigit then c.toNat - 48 else if c.isLower then c.toNat - 87 else c.toNat - 55

def isScalar (n : Nat) : Bool :=
  n < 0xD800 || (0xE000 ≤ n && n ≤ 0x10FFFF)

/-- Up to the closing brace of a code point in hexadecimal, which has one to six digits; underscores
are skipped after the first. Gives the code point and the number of characters. -/
def codePoint (value digits : Nat) : List Char → Option (Nat × Nat)
  | [] => none
  | c :: r =>
    if isHex c then
      if digits = 6 then none
      else (codePoint (value * 16 + hexValue c) (digits + 1) r).map fun (v, n) => (v, n + 1)
    else if digits = 0 then none
    else if c = '_' then (codePoint value digits r).map fun (v, n) => (v, n + 1)
    else if c = '\x7d' && isScalar value then some (value, 1)
    else none

/-- After a backslash and `u`. -/
def bracedCode : List Char → Option (Nat × Nat)
  | '\x7b' :: r => (codePoint 0 0 r).map fun (v, n) => (v, n + 1)
  | _ => none

/-- Blanks after a backslash at the end of a line, down to the next other character. A carriage
return is good only before a line feed. -/
def continuation : List Char → Option Nat
  | '\r' :: '\n' :: r => (continuation r).map (· + 2)
  | '\r' :: _ => none
  | c :: r => if c = ' ' || c = '\t' || c = '\n' then (continuation r).map (· + 1) else some 0
  | [] => none

/-- What kind of text stands between double quotes. -/
inductive QuotedKind
  | text
  | bytes
  | zeroFree
  deriving DecidableEq

/-- A code of two hexadecimal digits after a backslash and `x`. -/
def QuotedKind.allowsByte (k : QuotedKind) (hi lo : Char) : Bool :=
  isHex hi && isHex lo && match k with
    | .text => '0' ≤ hi && hi ≤ '7'
    | .bytes => true
    | .zeroFree => !(hi == '0' && lo == '0')

def QuotedKind.allowsPlain (k : QuotedKind) (c : Char) : Bool :=
  match k with
  | .text => true
  | .bytes => c.toNat < 0x80
  | .zeroFree => c != '\x00'

/-- After a backslash: the number of characters of an escape that is not a line continuation. -/
def escapeLength (k : QuotedKind) : List Char → Option Nat
  | 'x' :: hi :: lo :: _ => if k.allowsByte hi lo then some 3 else none
  | 'u' :: r =>
    if k = .bytes then none
    else match bracedCode r with
      | some (v, n) => if k = .zeroFree && v == 0 then none else some (n + 1)
      | none => none
  | '0' :: _ => if k = .zeroFree then none else some 1
  | c :: _ => if c ∈ ['n', 'r', 't', '\\', '\x27', '\x22'] then some 1 else none
  | [] => none

/-- Up to and including the closing quote of a text whose opening quote has been read. -/
def quotedLength (k : QuotedKind) (s : List Char) : Option Nat :=
  match s with
  | [] => none
  | '\x22' :: _ => some 1
  | '\r' :: '\n' :: r => (quotedLength k r).map (· + 2)
  | '\r' :: _ => none
  | '\\' :: '\n' :: r =>
    match continuation r with
    | some n => (quotedLength k (r.drop n)).map (· + (n + 2))
    | none => none
  | '\\' :: '\r' :: '\n' :: r =>
    match continuation r with
    | some n => (quotedLength k (r.drop n)).map (· + (n + 3))
    | none => none
  | '\\' :: r =>
    match escapeLength k r with
    | some n => (quotedLength k (r.drop n)).map (· + (n + 1))
    | none => none
  | c :: r => if k.allowsPlain c then (quotedLength k r).map (· + 1) else none
termination_by s.length
decreasing_by all_goals simp; all_goals omega

/-- Up to and including the closing quote and number signs of a raw text. -/
def rawBodyLength (k : QuotedKind) (signs : Nat) : List Char → Option Nat
  | [] => none
  | '\r' :: '\n' :: r => (rawBodyLength k signs r).map (· + 2)
  | '\r' :: _ => none
  | c :: r =>
    if c = '\x22' && r.take signs == List.replicate signs '#' then some (signs + 1)
    else if k.allowsPlain c then (rawBodyLength k signs r).map (· + 1)
    else none

/-- A raw text from its number signs on, of which it has at most 255. -/
def rawLength (k : QuotedKind) (s : List Char) : Option Nat :=
  let signs := (s.takeWhile (· == '#')).length
  if 255 < signs then none
  else match s.drop signs with
    | '\x22' :: r => (rawBodyLength k signs r).map (· + (signs + 1))
    | _ => none

/-- A character between single quotes, up to and including the closing one. -/
def charLength (k : QuotedKind) : List Char → Option Nat
  | '\\' :: r =>
    match escapeLength k r with
    | some n => if (r.drop n).head? = some '\x27' then some (n + 2) else none
    | none => none
  | c :: '\x27' :: _ => if k.allowsPlain c then some 2 else none
  | _ => none

/-- Digits of a number with a point or an exponent, up to where its suffix may start. -/
structure FractionScan where
  length : Nat
  dotted : Bool
  exponent : Bool
  rest : List Char

/-- `none` when a point is followed by another or by a word, so that it is no decimal point. -/
def scanFraction (length : Nat) (dotted : Bool) : List Char → Option FractionScan
  | [] => some ⟨length, dotted, false, []⟩
  | c :: r =>
    if c.isDigit || c == '_' then scanFraction (length + 1) dotted r
    else if c = '.' && !dotted then
      if r.head?.any fun d => d == '.' || Text.isIdentStart d then none
      else scanFraction (length + 1) true r
    else if c = 'e' || c = 'E' then some ⟨length + 1, dotted, true, r⟩
    else some ⟨length, dotted, false, c :: r⟩

/-- The length with the exponent's digits, or `none` when it has no digit or two signs. -/
def scanExponent (length : Nat) (sign digits : Bool) : List Char → Option Nat
  | [] => if digits then some length else none
  | c :: r =>
    if c = '+' || c = '-' then
      if digits then some length
      else if sign then none
      else scanExponent (length + 1) true digits r
    else if c.isDigit then scanExponent (length + 1) sign true r
    else if c = '_' then scanExponent (length + 1) sign digits r
    else if digits then some length else none

/-- A number takes a suffix, and no other word may touch it. -/
def withSuffix (s : List Char) (digits : Nat) : Option Nat :=
  let n := digits + wordLength (s.drop digits)
  if (s.drop n).head?.any Text.isIdentContinue then none else some n

def fractionLength (s : List Char) : Option Nat :=
  match s with
  | c :: r =>
    if c.isDigit then
      match scanFraction 1 false r with
      | none => none
      | some f =>
        if f.exponent then
          match scanExponent f.length false false f.rest with
          | some n => withSuffix s n
          | none => if f.dotted then withSuffix s (f.length - 1) else none
        else if f.dotted then withSuffix s f.length
        else none
    else none
  | [] => none

/-- Digits of an integer in a base, of which there must be one; a decimal digit outside the base
spoils it. -/
def digitsLength (base : Nat) (empty : Bool) : List Char → Option Nat
  | [] => if empty then none else some 0
  | c :: r =>
    if c.isDigit then
      if base ≤ hexValue c then none else (digitsLength base false r).map (· + 1)
    else if isHex c then
      if base ≤ hexValue c then (if empty then none else some 0)
      else (digitsLength base false r).map (· + 1)
    else if c = '_' then
      if empty && base == 10 then none else (digitsLength base empty r).map (· + 1)
    else if empty then none else some 0

def integerLength (s : List Char) : Option Nat :=
  let (base, lead) := match s with
    | '0' :: 'x' :: _ => (16, 2)
    | '0' :: 'o' :: _ => (8, 2)
    | '0' :: 'b' :: _ => (2, 2)
    | _ => (10, 0)
  (digitsLength base true (s.drop lead)).bind fun n => withSuffix s (n + lead)

/-- A quoted literal with its opening characters, body and suffix. -/
def quotedLiteral (s : List Char) (opening : Nat) (body : List Char → Option Nat) : Option Nat :=
  (body (s.drop opening)).map fun n => n + opening + wordLength (s.drop (n + opening))

/-- The first kind of literal that fits the start of a text. -/
def literalLength (s : List Char) : Option Nat :=
  let quoted : Option Nat := match s with
    | '\x22' :: _ => quotedLiteral s 1 (quotedLength .text)
    | 'r' :: _ => quotedLiteral s 1 (rawLength .text)
    | 'b' :: '\x22' :: _ => quotedLiteral s 2 (quotedLength .bytes)
    | 'b' :: 'r' :: _ => quotedLiteral s 2 (rawLength .bytes)
    | 'b' :: '\x27' :: _ => quotedLiteral s 2 (charLength .bytes)
    | 'c' :: '\x22' :: _ => quotedLiteral s 2 (quotedLength .zeroFree)
    | 'c' :: 'r' :: _ => quotedLiteral s 2 (rawLength .zeroFree)
    | '\x27' :: _ => quotedLiteral s 1 (charLength .text)
    | _ => none
  quoted.or ((fractionLength s).or (integerLength s))

/-- The value of a text after its opening quote, with line breaks read as line feeds. -/
def unquote (s : List Char) : List Char :=
  match s with
  | [] => []
  | '\x22' :: _ => []
  | '\r' :: '\n' :: r => '\n' :: unquote r
  | '\\' :: '\n' :: r => unquote (r.dropWhile (· ∈ [' ', '\t', '\n', '\r']))
  | '\\' :: '\r' :: r => unquote (r.dropWhile (· ∈ [' ', '\t', '\n', '\r']))
  | '\\' :: 'x' :: hi :: lo :: r => Char.ofNat (hexValue hi * 16 + hexValue lo) :: unquote r
  | '\\' :: 'u' :: r =>
    match bracedCode r with
    | some (v, n) => Char.ofNat v :: unquote (r.drop n)
    | none => []
  | '\\' :: 'n' :: r => '\n' :: unquote r
  | '\\' :: 'r' :: r => '\r' :: unquote r
  | '\\' :: 't' :: r => '\t' :: unquote r
  | '\\' :: '0' :: r => '\x00' :: unquote r
  | '\\' :: c :: r => c :: unquote r
  | c :: r => c :: unquote r
termination_by s.length
decreasing_by
  all_goals simp only [List.length_cons, List.length_drop]
  all_goals first
    | omega
    | exact Nat.lt_succ_of_lt (Nat.lt_succ_of_le (Text.length_dropWhile_le _ _))

/-- The value of a raw text from its number signs on. -/
def unquoteRaw (s : List Char) : List Char :=
  let signs := (s.takeWhile (· == '#')).length
  match rawLength .text s with
  | some n => (s.take (n - signs - 1)).drop (signs + 1)
  | none => []

/-- The text that a string literal stands for. -/
def Literal.string? : Literal → Option (List Char)
  | .comment t => some t
  | .spelled ('\x22' :: s) => some (unquote s)
  | .spelled ('r' :: s) => some (unquoteRaw s)
  | .spelled _ => none

/-- A suffix is a word or nothing. -/
def isSuffix (s : List Char) : Bool :=
  wordLength s == s.length

/-- Whether an `e` in decimal digits starts an exponent rather than a suffix. -/
def startsExponent : List Char → Bool → Bool
  | [], seen => seen
  | c :: r, seen =>
    if c = '_' then startsExponent r seen
    else if c = '+' || c = '-' then true
    else if c.isDigit then startsExponent r true
    else seen && isSuffix (c :: r)

/-- The value of an integer and what follows its digits. -/
def readDigits (base value : Nat) (seen : Bool) : List Char → Option (Nat × List Char)
  | [] => if seen then some (value, []) else none
  | c :: r =>
    let stop : Option (Nat × List Char) := if seen then some (value, c :: r) else none
    if c.isDigit || (base == 16 && isHex c) then
      if base ≤ hexValue c then none else readDigits base (value * base + hexValue c) true r
    else if c = '_' then readDigits base value seen r
    else if base = 10 && c = '.' then none
    else if base = 10 && (c = 'e' || c = 'E') then
      if startsExponent r false then none else stop
    else stop

/-- The value and the suffix of an integer's spelling. -/
def readInteger (s : List Char) : Option (Nat × List Char) :=
  let read := match s with
    | '0' :: 'x' :: r => readDigits 16 0 false r
    | '0' :: 'o' :: r => readDigits 8 0 false r
    | '0' :: 'b' :: r => readDigits 2 0 false r
    | _ => readDigits 10 0 false s
  read.bind fun (v, suffix) => if isSuffix suffix then some (v, suffix) else none

/-- An index of a field has at most 32 bits. -/
def indexLimit : Nat := 0x100000000

/-- Whether a spelling that is no integer is a number with a point or an exponent. -/
def isFraction (s : List Char) : Bool :=
  s.head?.any Char.isDigit && (readInteger s).isNone && (fractionLength s).isSome

end TaskDriver.Definition
