import TaskDriver.Yaml.Text

/-! Scalars that take whole lines. The lines are indented deeper than what surrounds them; the
literal style keeps the breaks between them, the folded style makes spaces of them. -/
namespace TaskDriver.Yaml

/-- What becomes of the breaks at the end. -/
inductive Chomping
  | clip
  | strip
  | keep
  deriving DecidableEq, Repr

structure BlockHeader where
  chomping : Chomping
  /-- How much deeper than their surroundings the lines are, if that is said. -/
  depth : Option Nat

def chomping? : List Char → Option (Chomping × List Char)
  | '+' :: r => some (.keep, r)
  | '-' :: r => some (.strip, r)
  | _ => none

/-- A depth of zero is a mistake. -/
def depth? : List Char → Option (Option Nat × List Char)
  | c :: r =>
    if c = '0' then none
    else if c.isDigit then some (some (c.toNat - 48), r)
    else some (none, c :: r)
  | [] => some (none, [])

/-- The two parts of the header come in either order. -/
def blockHeader? (s : List Char) : Option (BlockHeader × List Char) := do
  let (header, s) ← match chomping? s with
    | some (c, r) => do
      let (d, r) ← depth? r
      pure (⟨c, d⟩, r)
    | none => do
      let (d, r) ← depth? s
      match d with
      | none => pure (⟨.clip, none⟩, r)
      | some _ =>
        let (c, r) := (chomping? r).getD (.clip, r)
        pure (⟨c, d⟩, r)
  pure (header, ← restOfLine? s)

/-- Empty lines, and the indentation of the line after them. -/
structure EmptyLines where
  breaks : List Char
  /-- The widest indentation among all of them. -/
  widest : Nat
  column : Nat
  rest : List Char

def indentationOf (indent : Option Nat) (s : List Char) : Nat :=
  let n := (s.takeWhile (· = ' ')).length
  match indent with
  | none => n
  | some i => min i n

/-- Reads empty lines; spaces that belong to the text are left unread. Tabs do not indent. -/
def emptyLines? (indent : Option Nat) (s : List Char) : Option EmptyLines :=
  let n := indentationOf indent s
  if startsWith '\t' (s.drop n) && indent.all (n < ·) then none
  else
    match _h : s.drop n with
    | [] => some ⟨[], n, n, []⟩
    | b :: r =>
      if isBreak b then do
        let e ← emptyLines? indent r
        pure { e with breaks := b :: e.breaks, widest := max n e.widest }
      else some ⟨[], n, n, b :: r⟩
termination_by s.length
decreasing_by
  have := congrArg List.length _h
  simp at this
  omega

/-- Lines read so far: the text, the break after it and the empty lines after that. -/
structure BlockText where
  text : List Char
  lastBreak : List Char
  breaks : List Char
  startsBlank : Bool
  rest : List Char

/-- What joins a line to the lines before it. Lines that start with a blank are not folded. -/
def BlockText.joint (b : BlockText) (literal : Bool) (line : List Char) : List Char :=
  if !literal && b.lastBreak = ['\n'] && !b.startsBlank && !line.head?.any isBlank then
    if b.breaks = [] then [' '] else b.breaks
  else b.lastBreak ++ b.breaks

/-- Reads on from the start of a line's text; the fuel is the number of lines at most. -/
def blockLines? (literal : Bool) (indent : Nat) : Nat → BlockText → Option BlockText
  | 0, b => some b
  | n + 1, b => do
    let line := b.rest.takeWhile (!isBreak ·)
    let after := b.rest.dropWhile (!isBreak ·)
    let e ← emptyLines? (some indent) (after.drop 1)
    let b := BlockText.mk (b.text ++ b.joint literal line ++ line) (after.take 1) e.breaks
      (line.head?.any isBlank) e.rest
    if e.column = indent ∧ e.rest ≠ [] then blockLines? literal indent n b else some b

def BlockText.chomped (b : BlockText) : Chomping → List Char
  | .strip => b.text
  | .clip => b.text ++ b.lastBreak
  | .keep => b.text ++ b.lastBreak ++ b.breaks

/-- Reads a block scalar after its first character; `least` is the least column for its lines. -/
def blockText? (literal : Bool) (least : Nat) (s : List Char) : Option (List Char × List Char) := do
  let (header, s) ← blockHeader? s
  let said := header.depth.map (fun d => least - 1 + d)
  let e ← emptyLines? said s
  let indent := said.getD (max (max e.widest least) 1)
  let start := BlockText.mk [] [] e.breaks false e.rest
  let b ← if e.column = indent ∧ e.rest ≠ [] then blockLines? literal indent s.length start
    else some start
  pure (b.chomped header.chomping, b.rest)

end TaskDriver.Yaml
