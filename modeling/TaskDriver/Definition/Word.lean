import TaskDriver.Text.Identifier

/-! The words of a definition file, and which of them can name something. -/
namespace TaskDriver.Definition

/-- Characters of the word at the start of a text. -/
def wordLength : List Char → Nat
  | [] => 0
  | c :: r => if Text.isIdentStart c then (r.takeWhile Text.isIdentContinue).length + 1 else 0

/-- These words cannot be made plain names. -/
def neverRaw : List String :=
  ["_", "super", "self", "Self", "crate"]

def keywords : List String :=
  ["_", "abstract", "as", "async", "await", "become", "box", "break", "const", "continue", "crate",
   "do", "dyn", "else", "enum", "extern", "false", "final", "fn", "for", "if", "impl", "in", "let",
   "loop", "macro", "match", "mod", "move", "mut", "override", "priv", "pub", "ref", "return",
   "Self", "self", "static", "struct", "super", "trait", "true", "try", "type", "typeof", "unsafe",
   "unsized", "use", "virtual", "where", "while", "yield"]

/-- A text that is one word from its first character to its last. -/
def IsWord (s : List Char) : Prop :=
  s ≠ [] ∧ wordLength s = s.length

instance (s : List Char) : Decidable (IsWord s) :=
  inferInstanceAs (Decidable (_ ∧ _))

/-- A word without the mark that makes it raw, which keeps it from being a keyword. -/
structure Word where
  raw : Bool
  name : String
  isWord : IsWord name.toList
  allowed : raw = true → name ∉ neverRaw

/-- Whether a word can name something. -/
def Word.isName (w : Word) : Bool :=
  w.raw || w.name ∉ keywords

/-- A word that can name something. -/
structure Name where
  word : Word
  isName : word.isName = true

/-- What is counted as a word is one. -/
theorem isWord_take {s : List Char} (h : wordLength s ≠ 0) : IsWord (s.take (wordLength s)) := by
  cases s with
  | nil => exact absurd rfl h
  | cons c r =>
    by_cases hc : Text.isIdentStart c = true
    · have ht : (c :: r).take (wordLength (c :: r)) = c :: r.takeWhile Text.isIdentContinue := by
        rw [wordLength, if_pos hc, List.take_succ_cons, ← List.prefix_iff_eq_take.mp]
        exact List.takeWhile_prefix _
      rw [ht]
      refine ⟨List.cons_ne_nil _ _, ?_⟩
      have hall := List.all_eq_true.mp (List.all_takeWhile (p := Text.isIdentContinue) (l := r))
      have hself : (r.takeWhile Text.isIdentContinue ++ []).takeWhile Text.isIdentContinue =
          r.takeWhile Text.isIdentContinue ++ [].takeWhile Text.isIdentContinue :=
        List.takeWhile_append_of_pos hall
      rw [List.append_nil, List.takeWhile_nil, List.append_nil] at hself
      rw [wordLength, if_pos hc, hself]
      rfl
    · exact absurd (by rw [wordLength, if_neg hc]) h

/-- The word at the start of a text, and its length. -/
def Word.atStart (raw : Bool) (s : List Char) : Option (Word × Nat) :=
  let n := wordLength s
  if h : n = 0 then none
  else
    let name := String.ofList (s.take n)
    if hr : raw = true → name ∉ neverRaw then
      some (⟨raw, name, by rw [String.toList_ofList]; exact isWord_take h, hr⟩, n)
    else none

end TaskDriver.Definition
