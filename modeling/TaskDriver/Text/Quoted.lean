import TaskDriver.Text.Printable

/-! Texts in double quotes, as string literals of the generated program and in shown values. The
form is safe to paste: it holds no line break, and a character that would not show has its code
point written in hexadecimal. -/
namespace TaskDriver.Text

def hexDigit (n : Nat) : Char :=
  Char.ofNat (if n < 10 then 48 + n else 87 + n)

/-- Hexadecimal digits in lower case, with at least one. -/
def hexDigits (n : Nat) : List Char :=
  if n < 16 then [hexDigit n] else hexDigits (n / 16) ++ [hexDigit (n % 16)]
termination_by n

def escapeCode (c : Char) : List Char :=
  '\\' :: 'u' :: '\x7b' :: (hexDigits c.toNat ++ ['\x7d'])

/-- Backslash and quote take a backslash, four controls have a letter, and a character that does
not show, or would merge with the one before it, is written by code point. -/
def escapeChar (c : Char) : List Char :=
  if c = '\x00' then ['\\', '0']
  else if c = '\t' then ['\\', 't']
  else if c = '\r' then ['\\', 'r']
  else if c = '\n' then ['\\', 'n']
  else if c = '\\' then ['\\', '\\']
  else if c = '\x22' then ['\\', '\x22']
  else if isExtending c || isFiller c then escapeCode c
  else if isPrintable c then [c]
  else escapeCode c

def quoteChars (s : List Char) : List Char :=
  '\x22' :: (s.flatMap escapeChar ++ ['\x22'])

def quote (s : String) : String :=
  String.ofList (quoteChars s.toList)

/-- A list of texts on one line, in brackets. -/
def quoteList (xs : List String) : String :=
  "[" ++ String.intercalate ", " (xs.map quote) ++ "]"

end TaskDriver.Text
