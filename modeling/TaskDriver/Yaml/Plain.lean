import TaskDriver.Yaml.Text

/-! Scalars without quotes. They run over several lines as long as the lines are indented, and end
before a comment, before a colon with a gap after it and, between brackets, before punctuation. -/
namespace TaskDriver.Yaml

def isFlowPunctuation (c : Char) : Bool :=
  c = ',' || c = '[' || c = ']' || c = '\x7b' || c = '\x7d'

structure PlainText where
  text : List Char
  /-- The gap before the rest has a break. -/
  broken : Bool
  rest : List Char

/-- The rest of the scalar after a gap in it. -/
def PlainText.after (gap : List Char) (p : PlainText) (rest : List Char) : PlainText :=
  if p.text = [] then ⟨[], isBroken gap, rest⟩ else { p with text := foldedGap gap ++ p.text }

/-- The end of the scalar lies in the gap. -/
def endsInGap (flow : Bool) (indent : Nat) (gap rest : List Char) : Bool :=
  startsWith '#' rest ||
    (isBroken gap &&
      ((!flow && decide (indentationAfter gap < indent)) ||
        (indentationAfter gap = 0 && isDocumentMark rest)))

/-- Lines of the scalar start at column `indent` or later. Between brackets a colon right before
punctuation is a mistake. -/
def plainText? (flow : Bool) (indent : Nat) : List Char → Option PlainText
  | [] => some ⟨[], false, []⟩
  | c :: r =>
    if isGap c then
      let gap := c :: r.takeWhile isGap
      let rest := r.dropWhile isGap
      if hasEarlyTab indent none gap then none
      else if endsInGap flow indent gap rest then some ⟨[], isBroken gap, rest⟩
      else do
        let p ← plainText? flow indent rest
        pure (p.after gap rest)
    else if flow && c = ':' && r.head?.any (fun a => a = '?' || isFlowPunctuation a) then none
    else if (c = ':' && endsWord r) || (flow && isFlowPunctuation c) then some ⟨[], false, c :: r⟩
    else do
      let p ← plainText? flow indent r
      pure { p with text := c :: p.text }
termination_by s => s.length
decreasing_by
  · exact Nat.lt_succ_of_le (Text.length_dropWhile_le isGap r)
  · exact Nat.lt_succ_self r.length

end TaskDriver.Yaml
