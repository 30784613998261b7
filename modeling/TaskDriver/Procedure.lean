/-! Steps that change a state. A fault ends the steps and leaves the state as it is by then. -/
namespace TaskDriver

def Procedure (σ ε α : Type) := σ → Except ε α × σ

namespace Procedure

variable {σ τ ε φ α β : Type}

instance : Monad (Procedure σ ε) where
  pure a := fun s => (.ok a, s)
  bind p f := fun s =>
    match p s with
    | (.ok a, s) => f a s
    | (.error e, s) => (.error e, s)

theorem run_pure (a : α) (s : σ) : (pure a : Procedure σ ε α) s = (.ok a, s) :=
  rfl

theorem run_bind (p : Procedure σ ε α) (f : α → Procedure σ ε β) (s : σ) :
    (p >>= f) s = match p s with
      | (.ok a, t) => f a t
      | (.error e, t) => (.error e, t) :=
  rfl

def fail (e : ε) : Procedure σ ε α := fun s => (.error e, s)

def state : Procedure σ ε σ := fun s => (.ok s, s)

/-- Reads the state without a change. -/
def look (f : σ → Except ε α) : Procedure σ ε α := fun s => (f s, s)

/-- Changes the state, or leaves it as it is. -/
def change (f : σ → Except ε σ) : Procedure σ ε Unit := fun s =>
  match f s with
  | .ok t => (.ok (), t)
  | .error e => (.error e, s)

def inOrder : List (Procedure σ ε Unit) → Procedure σ ε Unit
  | [] => pure ()
  | p :: ps => do
    p
    inOrder ps

/-- The same steps on a part of a larger state, with faults of a wider kind. -/
def within (part : τ → σ) (replace : τ → σ → τ) (widen : ε → φ) (p : Procedure σ ε α) :
    Procedure τ φ α := fun s =>
  match p (part s) with
  | (.ok a, t) => (.ok a, replace s t)
  | (.error e, t) => (.error (widen e), replace s t)

end Procedure

end TaskDriver
