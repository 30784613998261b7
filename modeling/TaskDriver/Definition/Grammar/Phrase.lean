import TaskDriver.Definition.Stream

/-! The phrases of the grammar that contain one another. A rule reads one phrase, given readers for
all of them; what it gives back is only what decides how the text after the phrase is read. -/
namespace TaskDriver.Definition

inductive TypeKind
  /-- A path of one name, which an argument list may go on to constrain. -/
  | oneName
  | plainPath
  /-- One bound with no `dyn` before it. -/
  | soloBound
  | other
  deriving DecidableEq

structure TypeShape where
  kind : TypeKind
  /-- Whether the last token is a closing brace. -/
  braceEnd : Bool

inductive BoundKind
  | trait
  | constTrait
  | lifetime
  | capture
  deriving DecidableEq

structure BoundShape where
  kind : BoundKind
  braceEnd : Bool

/-- The dots of a range pattern that lacks a limit, if the pattern is one. -/
structure PatternShape where
  openRange : Option Place

inductive ExprKind
  /-- Ends in a block, so that no comma or semicolon has to follow. -/
  | blockLike
  | invocation (delimiter : Delimiter)
  | range (dots : Place)
  | comparison
  | other
  deriving DecidableEq

structure ExprShape where
  kind : ExprKind
  braceEnd : Bool

def ExprShape.plain : ExprShape := ⟨.other, false⟩

/-- A function with a body, and the texts that document it. -/
structure FunctionItem where
  name : Name
  docs : List (List Char)

inductive Phrase
  | type (plus : Bool)
  | bound (capture const : Bool)
  | pattern
  | expr (braces : Bool)
  | operand (braces : Bool)
  | operators (left : ExprShape) (braces : Bool) (level : Nat)
  | body
  | statements
  | item

@[reducible] def Phrase.Shape : Phrase → Type
  | .type _ => TypeShape
  | .bound _ _ => BoundShape
  | .pattern => PatternShape
  | .expr _ => ExprShape
  | .operand _ => ExprShape
  | .operators _ _ _ => ExprShape
  | .body => ExprShape
  | .statements => Unit
  | .item => Option FunctionItem

abbrev Rules := (p : Phrase) → Reader p.Shape

end TaskDriver.Definition
