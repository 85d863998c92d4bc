/-!
# Scans

* `Scan`: reads the start of a text;
* `one`, `many`, `word`, `andThen`, `firstOf`: how scans are built;
* `Scan.reads`: a scan reads the whole of a text.

`word_eq_some`, `andThen_eq_some` and `exists_of_firstOf` say what they read.
-/

namespace FpgaInterface.Text

/-- Reads the start of a text: what was read, and the rest. -/
abbrev Scan := List Char → Option (List Char × List Char)

namespace Scan

/-- One character of a class. -/
def one (p : Char → Bool) : Scan
  | [] => none
  | c :: cs => if p c then some ([c], cs) else none

/-- As many characters of a class as there are. -/
def many (p : Char → Bool) : Scan := fun cs => some (cs.takeWhile p, cs.dropWhile p)

def word (w : List Char) : Scan := fun cs =>
  if w.isPrefixOf cs then some (cs.take w.length, cs.drop w.length) else none

def andThen (a b : Scan) : Scan := fun cs =>
  match a cs with
  | none => none
  | some (u, r) => match b r with
    | none => none
    | some (v, r') => some (u ++ v, r')

def firstOf : List Scan → Scan
  | [], _ => none
  | s :: rest, cs => (s cs).orElse fun _ => firstOf rest cs

def optional (s : Scan) : Scan := fun cs => some ((s cs).getD ([], cs))

def some1 (p : Char → Bool) : Scan := andThen (one p) (many p)

/-- A scan as often as it reads something, at most `n` times. -/
def repeated (s : Scan) : Nat → Scan
  | 0, cs => some ([], cs)
  | n + 1, cs => optional (andThen s (repeated s n)) cs

def oneOrTwo (p : Char → Bool) : Scan := andThen (one p) (optional (one p))

/-- A scan reads the whole of a text. -/
def reads (s : Scan) (cs : List Char) : Bool :=
  match s cs with
  | some (_, []) => true
  | _ => false

def sequence : List Scan → Scan
  | [], cs => some ([], cs)
  | s :: rest, cs => andThen s (sequence rest) cs

variable {a b : Scan} {ss : List Scan} {w cs u r : List Char}

theorem word_eq_some (h : word w cs = some (u, r)) : u = w := by
  rw [word] at h
  split at h
  · next hstart =>
    cases h
    exact (List.prefix_iff_eq_take.1 (List.isPrefixOf_iff_prefix.1 hstart)).symm
  · cases h

theorem andThen_eq_some (h : andThen a b cs = some (u, r)) :
    ∃ v s w, a cs = some (v, s) ∧ b s = some (w, r) ∧ u = v ++ w := by
  rw [andThen] at h
  split at h
  · cases h
  · next v s hv =>
    split at h
    · cases h
    · next w s' hw =>
      cases h
      exact ⟨v, s, w, hv, hw, rfl⟩

theorem exists_of_firstOf (h : firstOf ss cs = some (u, r)) : ∃ s ∈ ss, s cs = some (u, r) := by
  induction ss with
  | nil => cases h
  | cons s rest ih =>
    rw [firstOf] at h
    cases hs : s cs with
    | some found =>
      rw [hs] at h
      cases h
      exact ⟨s, List.mem_cons_self .., hs⟩
    | none =>
      rw [hs] at h
      obtain ⟨s', hmem, hs'⟩ := ih h
      exact ⟨s', List.mem_cons_of_mem _ hmem, hs'⟩

end Scan

end FpgaInterface.Text
