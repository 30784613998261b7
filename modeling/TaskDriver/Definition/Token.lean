import TaskDriver.Definition.Word
import TaskDriver.Text.Position

/-! Tokens of a definition file, with bracketed groups nested. A token knows the number of
characters before it in the source, where a fault that concerns it is reported. -/
namespace TaskDriver.Definition

inductive Delimiter
  | paren
  | bracket
  | brace
  deriving DecidableEq

/-- A literal as it is spelled in the source, or the text of a documentation comment, which stands
for a string. -/
inductive Literal
  | spelled (spelling : List Char)
  | comment (text : List Char)

/-- A lifetime is a quote joined to a word. -/
inductive Token
  | word (w : Word) (offset : Nat)
  | punct (mark : Char) (joint : Bool) (offset : Nat)
  | literal (value : Literal) (offset : Nat)
  | group (delimiter : Delimiter) (inner : List Token) (opening closing : Nat)

def Token.offset : Token → Nat
  | .word _ n => n
  | .punct _ _ n => n
  | .literal _ n => n
  | .group _ _ n _ => n

/-- Where a fault is reported; a file that ends too early has no token to point at. -/
inductive Place
  | char (offset : Nat)
  | wholeFile
  deriving DecidableEq

def Place.position (source : List Char) : Place → Text.Position
  | .char n => .ofOffset source n
  | .wholeFile => .start

end TaskDriver.Definition
