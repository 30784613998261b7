import TaskDriver.Text.LetterCase

/-! The name under which a function is run from the command line: its words in lower case, joined
by hyphens. A word starts after an underscore or a hyphen and at an upper-case letter that follows
a lower-case letter or a digit, or that ends a run of upper-case letters. -/
namespace TaskDriver.Task

def isSeparator (c : Char) : Bool :=
  c == '_' || c == '-'

/-- Whether an upper-case letter between its neighbours starts a word. -/
def startsWord (before : Option Char) (after : Option Char) : Bool :=
  match before with
  | none => false
  | some b =>
    Text.isLowercase b || b.isDigit ||
      (Text.isUppercase b && after.any Text.isLowercase)

/-- Adds a hyphen to a name built so far, given backwards, unless it would stand first or doubled. -/
def addHyphen : List Char → List Char
  | [] => []
  | c :: r => if c = '-' then c :: r else '-' :: c :: r

/-- The name built so far is `built`, backwards; `before` is the last character read. -/
def nameFrom (built : List Char) (before : Option Char) : List Char → List Char
  | [] => built
  | c :: s =>
    if isSeparator c then nameFrom (addHyphen built) (some c) s
    else
      let start := Text.isUppercase c && startsWord before s.head?
      let built := if start then addHyphen built else built
      nameFrom ((Text.lowercase c).reverse ++ built) (some c) s

def nameChars (ident : List Char) : List Char :=
  ((nameFrom [] none ident).dropWhile (· == '-')).reverse

def name (ident : String) : String :=
  String.ofList (nameChars ident.toList)

end TaskDriver.Task
