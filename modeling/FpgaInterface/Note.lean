/-!
# Notes

What a step reports beside its result.

* `Note`: a text and its weight;
* `Progress`: a state, the notes on the way to it and what stopped the way, if anything did;
* `Progress.along`: steps over a list until one fails.
-/

namespace FpgaInterface

/-- The weight of a note. -/
inductive Level where
  | debug
  | info
  | warning
  deriving DecidableEq, Repr

def Level.name : Level → String
  | debug => "DEBUG"
  | info => "INFO"
  | warning => "WARNING"

/-- A text reported beside a result. -/
structure Note where
  level : Level
  /-- What it says. -/
  text : String
  deriving DecidableEq, Repr

/-- A note with its weight in front. -/
def Note.line (n : Note) : String := n.level.name ++ ": " ++ n.text

/-- How far a sequence of steps came. -/
structure Progress (σ ε : Type) where
  state : σ
  /-- The notes of all steps, the failed one included. -/
  notes : List Note := []
  fault : Option ε := none

namespace Progress

/-- Steps over a list, until one fails. -/
def along (step : σ → α → Except ε σ) (notes : σ → α → List Note) : σ → List α → Progress σ ε
  | s, [] => { state := s }
  | s, a :: rest =>
    match step s a with
    | .error e => { state := s, notes := notes s a, fault := some e }
    | .ok s' =>
      let p := along step notes s' rest
      { p with notes := notes s a ++ p.notes }

def result (p : Progress σ ε) : Except ε σ :=
  match p.fault with
  | none => .ok p.state
  | some e => .error e

/-- The steps fail exactly as a fold of them does. -/
theorem result_along (step : σ → α → Except ε σ) (notes : σ → α → List Note) (s : σ) (as : List α) :
    (along step notes s as).result = as.foldlM step s := by
  induction as generalizing s with
  | nil => rfl
  | cons a rest ih =>
    rw [List.foldlM_cons, along]
    cases h : step s a with
    | error e => rfl
    | ok s' => exact ih s'

end Progress

end FpgaInterface
