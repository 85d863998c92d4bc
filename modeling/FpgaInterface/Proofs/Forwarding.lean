import FpgaInterface.Access.Accessor
import FpgaInterface.Proofs.Traversal

/-!
# What accessors ask of a session over a run

* `Use`, `useRun` : uses of accessors one after another, each over the state that the one before it
  leaves;
* `Use.Means u a` : the method and the arguments of `u` are those of the access `a`;
* `Access.Asks`, `Access.Rejects`, `Access.Mistyped` : the call that an access makes, or why it makes
  none (`Access.call_eq_ok_iff`, `Access.call_eq_error_iff`);
* `Use.IsTyped` : a use that is given values of the types it is made for;
* `HandsOn`, `MissesSize` : what becomes of the answer to a call, and when it is warned of;
* `TypedOutcome`, `UseOutcome` : how a typed use ends, and how any use does (`Use.outcome`);
* `useRun_forwards` : over every run, the session is asked for what the accessors say and for nothing
  else. The uses that it is not asked for are those of a wrong length or of a negative count.
-/

namespace FpgaInterface

variable {σ : Type}

/-! ## Sizes -/

theorem Binary64.pos_of_whole? {m : Nat} {e i : Int} (hm : m ≠ 0)
    (h : (Binary64.finite false m e).whole? = some i) : 0 < i := by
  have hpos : 0 < m := Nat.pos_of_ne_zero hm
  simp only [whole?] at h
  split at h
  · have hi := Option.some.inj h
    simp only [aligned, Bool.false_eq_true, if_false] at hi
    have hshift : 0 < m <<< (e - 0).toNat := by
      rw [Nat.shiftLeft_eq]
      exact Nat.mul_pos hpos (Nat.two_pow_pos _)
    omega
  · split at h
    · next hmod =>
      have hi := Option.some.inj h
      simp only [Bool.false_eq_true, if_false] at hi
      have hshift : 0 < m >>> (-e).toNat := by
        rw [Nat.shiftLeft_eq, Nat.one_mul] at hmod
        rw [Nat.shiftRight_eq_div_pow]
        exact Nat.div_pos (Nat.le_of_dvd hpos (Nat.dvd_of_mod_eq_zero hmod)) (Nat.two_pow_pos _)
      omega
    · cases h

theorem Value.equals_int_iff {i : Int} {v : Value} :
    (Value.int i).equals v = true ↔ v.number? = some (.inl i) := by
  have hscalar : (Value.int i).equals v = (Value.int i).sameScalar v := by
    rw [Value.equals]
    all_goals nofun
  rw [hscalar]
  have hnumber : (Value.int i).number? = some (.inl i) := rfl
  cases v with
  | null | bool | int | real | text | bytes | list | set | table | series | other =>
    simp only [Value.sameScalar, hnumber, Option.isSome_some, Bool.true_and, decide_eq_true_eq]
    exact eq_comm

/-- The length of a sequence that is the size of an array is one at least. -/
theorem Value.pos_of_equals {n : Nat} {size : Value} (hsize : size.isAtMostZero? = some false)
    (h : (Value.int n).equals size = true) : 1 ≤ n := by
  rw [Value.equals_int_iff] at h
  have hpos : size.integer? = some (n : Int) → 1 ≤ n := by
    intro hi
    rw [Value.isAtMostZero?_of_integer? hi] at hsize
    simp only [Option.some.injEq, decide_eq_false_iff_not] at hsize
    omega
  cases size with
  | int | bool => exact hpos (by simpa [Value.number?] using h)
  | real x =>
    cases x with
    | finite negative m e =>
      have hwhole : (Binary64.finite negative m e).whole? = some (n : Int) := by
        simp only [Value.number?] at h
        split at h <;> simp_all
      simp only [Value.isAtMostZero?, Value.zeroOrder?, Binary64.zeroOrder?, Option.map_some] at hsize
      split at hsize
      · cases hsize
      · next hm =>
        cases negative with
        | true => cases hsize
        | false =>
          have := Binary64.pos_of_whole? hm hwhole
          omega
    | infinite | notNumber => cases h
  | null | text | bytes | list | set | table | series | other => cases hsize

/-- A length is that of the elements. -/
theorem Value.exists_elements?_of_length? {v : Value} {n : Nat} (h : v.length? = some n) :
    ∃ items, v.elements? = some items ∧ items.length = n := by
  unfold Value.length? at h
  split at h
  · cases h
  · exact Option.map_eq_some_iff.1 h

/-! ## Uses -/

/-- A method of an accessor and the arguments given to it. -/
structure Use where
  accessor : Accessor
  method : String
  args : List Value

/-- The method is one that the accessor has, and the arguments are as many as it takes. A timeout may
be left out. -/
inductive Use.Means : Use → Access → Prop
  | readRegister (r : Register) : Means ⟨.register r, "read", []⟩ (.readRegister r)
  | writeRegister (r : Register) (value : Value) :
    Means ⟨.register r, "write", [value]⟩ (.writeRegister r value)
  | readArray (r : ArrayRegister) : Means ⟨.arrayRegister r, "read", []⟩ (.readArray r)
  | writeArray (r : ArrayRegister) (values : Value) :
    Means ⟨.arrayRegister r, "write", [values]⟩ (.writeArray r values)
  | readFifo (f : ReadFifo) (count : Value) (timeout : Option Value) :
    Means ⟨.readFifo f, "read", count :: timeout.toList⟩ (.readFifo f count (timeout.getD .null))
  | writeFifo (f : WriteFifo) (values : Value) (timeout : Option Value) :
    Means ⟨.writeFifo f, "write", values :: timeout.toList⟩
      (.writeFifo f values (timeout.getD .null))
  | startReading (f : ReadFifo) : Means ⟨.readFifo f, "start", []⟩ (.start f.fifo)
  | stopReading (f : ReadFifo) : Means ⟨.readFifo f, "stop", []⟩ (.stop f.fifo)
  | startWriting (f : WriteFifo) : Means ⟨.writeFifo f, "start", []⟩ (.start f.fifo)
  | stopWriting (f : WriteFifo) : Means ⟨.writeFifo f, "stop", []⟩ (.stop f.fifo)

theorem checkArguments_eq_ok_iff {method : String} {hidden optional : Nat} {names : List String}
    {args : List Value} :
    checkArguments method hidden names optional args = .ok () ↔
      names.length ≤ args.length ∧ args.length ≤ names.length + optional := by
  unfold checkArguments
  split
  · next h => exact ⟨nofun, fun h' => absurd h'.1 (by omega)⟩
  · next h =>
    split
    · next h' => exact ⟨nofun, fun h'' => absurd h''.2 (by omega)⟩
    · next h' => exact ⟨fun _ => ⟨by omega, by omega⟩, fun _ => rfl⟩

/-- A method without arguments. -/
theorem checkArguments_none {method : String} {hidden : Nat} {args : List Value} :
    checkArguments method hidden [] 0 args = .ok () ↔ args = [] := by
  rw [checkArguments_eq_ok_iff]
  simp

/-- A method with one argument. -/
theorem checkArguments_one {method name : String} {hidden : Nat} {args : List Value} :
    checkArguments method hidden [name] 0 args = .ok () ↔ ∃ v, args = [v] := by
  rw [checkArguments_eq_ok_iff]
  cases args with
  | nil => simp
  | cons v rest => cases rest <;> simp

/-- A method with one argument and another one that may be left out. -/
theorem checkArguments_optional {method name : String} {hidden : Nat} {args : List Value} :
    checkArguments method hidden [name] 1 args = .ok () ↔
      ∃ (v : Value) (more : Option Value), args = v :: more.toList := by
  rw [checkArguments_eq_ok_iff]
  constructor
  · rintro ⟨hleast, hmost⟩
    match args, hleast, hmost with
    | [v], _, _ => exact ⟨v, none, rfl⟩
    | [v, w], _, _ => exact ⟨v, some w, rfl⟩
  · rintro ⟨v, more, rfl⟩
    cases more <;> simp

theorem Use.Means.of_use {a : Accessor} {method : String} {args : List Value} {access : Access}
    (h : a.use method args = .ok access) : Use.Means ⟨a, method, args⟩ access := by
  unfold Accessor.use at h
  -- one case for each method of a class, and one for the methods that a class lacks
  split at h
  case h_11 => cases h
  all_goals
    obtain ⟨_, hcheck, h⟩ := bind_eq_ok_iff.1 h
    cases h
  · cases checkArguments_none.1 hcheck
    exact .readRegister _
  · cases checkArguments_none.1 hcheck
    exact .readArray _
  · obtain ⟨count, timeout, rfl⟩ := checkArguments_optional.1 hcheck
    cases timeout with
    | none => exact .readFifo _ count none
    | some timeout => exact .readFifo _ count (some timeout)
  · obtain ⟨value, rfl⟩ := checkArguments_one.1 hcheck
    exact .writeRegister _ value
  · obtain ⟨values, rfl⟩ := checkArguments_one.1 hcheck
    exact .writeArray _ values
  · obtain ⟨values, timeout, rfl⟩ := checkArguments_optional.1 hcheck
    cases timeout with
    | none => exact .writeFifo _ values none
    | some timeout => exact .writeFifo _ values (some timeout)
  · cases checkArguments_none.1 hcheck
    exact .startReading _
  · cases checkArguments_none.1 hcheck
    exact .startWriting _
  · cases checkArguments_none.1 hcheck
    exact .stopReading _
  · cases checkArguments_none.1 hcheck
    exact .stopWriting _

theorem Use.Means.use {u : Use} {access : Access} (h : u.Means access) :
    u.accessor.use u.method u.args = .ok access := by
  cases h with
  | readFifo f count timeout => cases timeout <;> rfl
  | writeFifo f values timeout => cases timeout <;> rfl
  | _ => rfl

/-! ## Calls -/

namespace Access

/-- The call that an access makes, with what its accessor holds and what it is given. An array is
written whole, and the elements that are read of a FIFO are not negative in number. -/
inductive Asks : Access → SessionCall → Prop
  | readRegister (r : Register) : Asks (.readRegister r) (.readRegister r.ctype r.address)
  | writeRegister (r : Register) (value : Value) :
    Asks (.writeRegister r value) (.writeRegister r.ctype r.address value)
  | readArray (r : ArrayRegister) : Asks (.readArray r) (.readArray r.ctype r.address r.size)
  | writeArray (r : ArrayRegister) (values : Value) (n : Nat) (length : values.length? = some n)
    (whole : (Value.int n).equals r.size = true) :
    Asks (.writeArray r values) (.writeArray r.ctype r.address values)
  | readFifo (f : ReadFifo) (count timeout : Value)
    (notNegative : count.isBelowZero? = some false) :
    Asks (.readFifo f count timeout) (.readFifo f.ctype f.fifo count timeout)
  | writeFifo (f : WriteFifo) (values timeout : Value) :
    Asks (.writeFifo f values timeout) (.writeFifo f.ctype f.fifo values timeout)
  | start (fifo : Value) : Asks (.start fifo) (.startFifo fifo)
  | stop (fifo : Value) : Asks (.stop fifo) (.stopFifo fifo)

/-- An array is given another number of elements than it holds, or a negative number of elements
is to be read of a FIFO. -/
inductive Rejects : Access → AccessFault → Prop
  | wrongLength (r : ArrayRegister) (values : Value) (n : Nat) (address : Int)
    (length : values.length? = some n) (different : (Value.int n).equals r.size = false)
    (shown : r.address.integer? = some address) :
    Rejects (.writeArray r values) (.wrongLength address r.size.numberText n)
  | negativeCount (f : ReadFifo) (count timeout : Value)
    (negative : count.isBelowZero? = some true) :
    Rejects (.readFifo f count timeout) (.negativeCount count.numberText)

/-- What should be the elements of an array has no length, what should be a number of elements is no
number, or the refusal of a length would show an address that is no integer. -/
inductive Mistyped : Access → AccessFault → Prop
  | noLength (r : ArrayRegister) (values : Value) (length : values.length? = none) :
    Mistyped (.writeArray r values) (.noLength values.typeName)
  | noAddress (r : ArrayRegister) (values : Value) (n : Nat) (length : values.length? = some n)
    (different : (Value.int n).equals r.size = false) (shown : r.address.integer? = none) :
    Mistyped (.writeArray r values) (.noAddress r.address.typeName)
  | noOrder (f : ReadFifo) (count timeout : Value) (negative : count.isBelowZero? = none) :
    Mistyped (.readFifo f count timeout) (.noOrder "<" count.typeName)

variable {a : Access} {call : SessionCall} {fault : AccessFault}

/-- A refused length and a refused count are errors of a value. -/
theorem Rejects.kind (h : a.Rejects fault) : fault.kind = .value := by cases h <;> rfl

theorem call_eq_ok_iff : a.call = .ok call ↔ a.Asks call := by
  constructor
  · intro h
    cases a with
    | writeArray r values =>
      simp only [Access.call] at h
      split at h
      · cases h
      · next n hlength =>
        split at h
        · next hwhole =>
          cases h
          exact .writeArray r values n hlength hwhole
        · cases h
    | readFifo f count timeout =>
      simp only [Access.call] at h
      split at h
      · cases h
      · cases h
      · next hbelow =>
        cases h
        exact .readFifo f count timeout hbelow
    | _ =>
      cases h
      constructor
  · intro h
    cases h with
    | writeArray r values n hlength hwhole => simp [Access.call, hlength, hwhole]
    | readFifo f count timeout hbelow => simp [Access.call, hbelow]
    | _ => rfl

theorem call_eq_error_iff : a.call = .error fault ↔ a.Rejects fault ∨ a.Mistyped fault := by
  constructor
  · intro h
    cases a with
    | writeArray r values =>
      simp only [Access.call] at h
      split at h
      · next hnone =>
        cases h
        exact .inr (.noLength r values hnone)
      · next n hlength =>
        split at h
        · cases h
        · next hdifferent =>
          rw [Bool.not_eq_true] at hdifferent
          cases h
          cases haddress : r.address.integer? with
          | none =>
            rw [faultAt, haddress]
            exact .inr (.noAddress r values n hlength hdifferent haddress)
          | some address =>
            rw [faultAt, haddress]
            exact .inl (.wrongLength r values n address hlength hdifferent haddress)
    | readFifo f count timeout =>
      simp only [Access.call] at h
      split at h
      · next hnone =>
        cases h
        exact .inr (.noOrder f count timeout hnone)
      · next hbelow =>
        cases h
        exact .inl (.negativeCount f count timeout hbelow)
      · cases h
    | _ => cases h
  · rintro (h | h)
    · cases h with
      | wrongLength r values n address hlength hdifferent haddress =>
        simp [Access.call, hlength, hdifferent, faultAt, haddress]
      | negativeCount f count timeout hbelow => simp [Access.call, hbelow]
    · cases h with
      | noLength r values hnone => simp [Access.call, hnone]
      | noAddress r values n hlength hdifferent haddress =>
        simp [Access.call, hlength, hdifferent, faultAt, haddress]
      | noOrder f count timeout hnone => simp [Access.call, hnone]

end Access

/-! ## Typed uses -/

/-- Integers, truth values and binary fractions, those among them that are no number included. -/
inductive Value.IsNumber : Value → Prop
  | int (i : Int) : IsNumber (.int i)
  | bool (b : Bool) : IsNumber (.bool b)
  | real (x : Binary64) : IsNumber (.real x)

theorem Value.IsNumber.isBelowZero?_ne_none {v : Value} (h : v.IsNumber) :
    v.isBelowZero? ≠ none := by
  cases h <;> exact Option.some_ne_none _

/-- The values of an access are of the types it is made for: the elements of an array are something
with a length, its address is an integer, and the elements to be read are counted by a number. Any
other value may be of any type. -/
inductive Access.IsTyped : Access → Prop
  | readRegister (r : Register) : IsTyped (.readRegister r)
  | writeRegister (r : Register) (value : Value) : IsTyped (.writeRegister r value)
  | readArray (r : ArrayRegister) : IsTyped (.readArray r)
  | writeArray (r : ArrayRegister) (values : Value) (n : Nat) (address : Int)
    (length : values.length? = some n) (integer : r.address.integer? = some address) :
    IsTyped (.writeArray r values)
  | readFifo (f : ReadFifo) (count timeout : Value) (number : count.IsNumber) :
    IsTyped (.readFifo f count timeout)
  | writeFifo (f : WriteFifo) (values timeout : Value) : IsTyped (.writeFifo f values timeout)
  | start (fifo : Value) : IsTyped (.start fifo)
  | stop (fifo : Value) : IsTyped (.stop fifo)

/-- A use is an access with values of its types. -/
def Use.IsTyped (u : Use) : Prop := ∃ access, u.Means access ∧ access.IsTyped

theorem Access.Mistyped.not_isTyped {a : Access} {fault : AccessFault} (h : a.Mistyped fault) :
    ¬ a.IsTyped := by
  intro htyped
  cases htyped with
  | writeArray r values n address hlength haddress =>
    cases h with
    | noLength _ _ hnone => cases hlength.symm.trans hnone
    | noAddress _ _ _ _ _ hnone => cases haddress.symm.trans hnone
  | readFifo f count timeout hnumber =>
    cases h with
    | noOrder _ _ _ hnone => exact hnumber.isBelowZero?_ne_none hnone
  | _ => cases h

theorem Use.Means.unique {u : Use} {a a' : Access} (h : u.Means a) (h' : u.Means a') : a = a' :=
  Except.ok.inj (h.use.symm.trans h'.use)

/-! ## Answers -/

/-- What a use makes of the answer to its call. A failure is passed on, and so is what was read; the
elements of an array are made a list, and the answers to other calls are dropped. -/
inductive HandsOn : SessionCall → Except SessionFault Value → Except AccessFault Value → Prop
  | failure (call : SessionCall) (e : SessionFault) :
    HandsOn call (.error e) (.error (.session e))
  | readRegister (ctype : String) (address v : Value) :
    HandsOn (.readRegister ctype address) (.ok v) (.ok v)
  | readArray (ctype : String) (address size v : Value) (items : List Value)
    (elements : v.elements? = some items) :
    HandsOn (.readArray ctype address size) (.ok v) (.ok (.list items))
  | noArray (ctype : String) (address size v : Value) (elements : v.elements? = none) :
    HandsOn (.readArray ctype address size) (.ok v) (.error (.noSequence v.typeName))
  | readFifo (ctype : String) (fifo count timeout v : Value) :
    HandsOn (.readFifo ctype fifo count timeout) (.ok v) (.ok v)
  | writeFifo (ctype : String) (fifo values timeout v : Value) :
    HandsOn (.writeFifo ctype fifo values timeout) (.ok v) (.ok v)
  | writeRegister (ctype : String) (address value v : Value) :
    HandsOn (.writeRegister ctype address value) (.ok v) (.ok .null)
  | writeArray (ctype : String) (address values v : Value) :
    HandsOn (.writeArray ctype address values) (.ok v) (.ok .null)
  | startFifo (fifo v : Value) : HandsOn (.startFifo fifo) (.ok v) (.ok .null)
  | stopFifo (fifo v : Value) : HandsOn (.stopFifo fifo) (.ok v) (.ok .null)

/-- The elements that were read of an array are not as many as its size. -/
inductive MissesSize : SessionCall → Except SessionFault Value → Prop
  | readArray (ctype : String) (address size v : Value) (items : List Value)
    (elements : v.elements? = some items)
    (different : (Value.int items.length).equals size = false) :
    MissesSize (.readArray ctype address size) (.ok v)

/-- There is one warning if the elements that were read of an array are not as many as its size, and
else nothing is reported. -/
def WarnsOf (call : SessionCall) (answer : Except SessionFault Value) (notes : List Note) : Prop :=
  (MissesSize call answer ∧ notes.map (·.level) = [.warning]) ∨
    (¬ MissesSize call answer ∧ notes = [])

theorem Access.Asks.data {a : Access} {call : SessionCall} (h : a.Asks call) (v : Value) :
    HandsOn call (.ok v) (a.data v).2 ∧ WarnsOf call (.ok v) (a.data v).1 := by
  cases h with
  | readArray r =>
    cases hitems : v.elements? with
    | none =>
      have hdata : (Access.readArray r).data v = ([], .error (.noSequence v.typeName)) := by
        simp only [Access.data, hitems]
      rw [hdata]
      refine ⟨.noArray _ _ _ v hitems, .inr ⟨?_, rfl⟩⟩
      rintro ⟨_, _, _, _, items, hsome, -⟩
      rw [hitems] at hsome
      cases hsome
    | some items =>
      have hdata : (Access.readArray r).data v =
          (sizeNotes r items.length, .ok (.list items)) := by
        simp only [Access.data, hitems]
      rw [hdata]
      refine ⟨.readArray _ _ _ v items hitems, ?_⟩
      cases hsize : (Value.int items.length).equals r.size with
      | true =>
        refine .inr ⟨?_, if_pos hsize⟩
        rintro ⟨_, _, _, _, items', hsome, hdifferent⟩
        rw [hitems] at hsome
        cases hsome
        rw [hsize] at hdifferent
        cases hdifferent
      | false =>
        refine .inl ⟨.readArray _ _ _ v items hitems hsize, ?_⟩
        simp [sizeNotes, hsize]
  | _ =>
    refine ⟨by constructor, .inr ⟨?_, rfl⟩⟩
    rintro ⟨⟩

/-! ## One use over a session -/

section Perform
variable {a : Access} {call : SessionCall} {fault : AccessFault}

theorem Access.perform_of_error (h : a.call = .error fault) (s : Session σ) (state : σ) :
    a.perform s state = { state, result := .error fault } := by
  simp only [Access.perform, h]

/-- The session is asked once, and its answer is handed on. -/
theorem Access.Asks.forwards (h : a.Asks call) (s : Session σ) (state : σ) :
    (a.perform s state).calls = [call] ∧
      (a.perform s state).state = (s.answer state call).1 ∧
      HandsOn call (s.answer state call).2 (a.perform s state).result ∧
      WarnsOf call (s.answer state call).2 (a.perform s state).notes := by
  have hcall := Access.call_eq_ok_iff.2 h
  rcases hanswer : s.answer state call with ⟨after, e | v⟩
  · have hended : a.perform s state =
        { state := after, calls := [call], result := .error (.session e) } := by
      simp only [Access.perform, hcall, hanswer]
    rw [hended]
    exact ⟨rfl, rfl, .failure call e, .inr ⟨nofun, rfl⟩⟩
  · have hended : a.perform s state =
        { state := after, calls := [call], notes := (a.data v).1, result := (a.data v).2 } := by
      simp only [Access.perform, hcall, hanswer]
    rw [hended]
    exact ⟨rfl, rfl, h.data v⟩

end Perform

/-! ## Runs -/

/-- A use over a session. A method that the accessor lacks, or that is given the wrong number of
arguments, fails before the session is asked for anything. -/
def Use.perform (s : Session σ) (state : σ) (u : Use) : Accessed σ :=
  match u.accessor.use u.method u.args with
  | .error e => { state, result := .error e }
  | .ok access => access.perform s state

/-- A use in a run. -/
structure UseStep (σ : Type) where
  use : Use
  /-- The state of the session before it. -/
  before : σ
  ended : Accessed σ

/-- Uses one after another. A use that fails does not end the run. -/
def useRun (s : Session σ) (state : σ) : List Use → List (UseStep σ)
  | [] => []
  | u :: us =>
    let ended := u.perform s state
    ⟨u, state, ended⟩ :: useRun s ended.state us

def Session.stateAfter (s : Session σ) (state : σ) (calls : List SessionCall) : σ :=
  calls.foldl (fun state call => (s.answer state call).1) state

def callsOf (steps : List (UseStep σ)) : List SessionCall := steps.flatMap (·.ended.calls)

/-- How a use ends that is given values of its types. -/
inductive TypedOutcome (s : Session σ) (step : UseStep σ) : Prop
  /-- The session is asked once, and its answer is handed on. -/
  | forwarded (access : Access) (call : SessionCall) (means : step.use.Means access)
    (asks : access.Asks call) (once : step.ended.calls = [call])
    (state : step.ended.state = (s.answer step.before call).1)
    (handed : HandsOn call (s.answer step.before call).2 step.ended.result)
    (warned : WarnsOf call (s.answer step.before call).2 step.ended.notes)
  /-- The length or the number of elements is refused, and the session is asked for nothing. -/
  | rejected (access : Access) (fault : AccessFault) (means : step.use.Means access)
    (rejects : access.Rejects fault) (kind : fault.kind = .value)
    (ended : step.ended = { state := step.before, result := .error fault })

/-- How a use ends. -/
inductive UseOutcome (s : Session σ) (step : UseStep σ) : Prop
  | typed (h : TypedOutcome s step)
  /-- A value is of another type than it should be. -/
  | mistyped (access : Access) (fault : AccessFault) (means : step.use.Means access)
    (mistyped : access.Mistyped fault) (untyped : ¬ step.use.IsTyped)
    (ended : step.ended = { state := step.before, result := .error fault })
  /-- The accessor has no such method with so many arguments. -/
  | noUse (fault : AccessFault) (none : ∀ access, ¬ step.use.Means access)
    (ended : step.ended = { state := step.before, result := .error fault })

theorem Use.outcome (s : Session σ) (state : σ) (u : Use) :
    UseOutcome s ⟨u, state, u.perform s state⟩ := by
  cases huse : u.accessor.use u.method u.args with
  | error fault =>
    have hended : u.perform s state = { state, result := .error fault } := by
      simp only [Use.perform, huse]
    refine .noUse fault (fun access hmeans => ?_) hended
    rw [hmeans.use] at huse
    cases huse
  | ok access =>
    have hmeans : u.Means access := .of_use huse
    have hperform : u.perform s state = access.perform s state := by
      simp only [Use.perform, huse]
    cases hcall : access.call with
    | error fault =>
      have hended := access.perform_of_error hcall s state
      rw [← hperform] at hended
      rcases Access.call_eq_error_iff.1 hcall with hrejects | hmistyped
      · exact .typed (.rejected access fault hmeans hrejects hrejects.kind hended)
      · refine .mistyped access fault hmeans hmistyped ?_ hended
        rintro ⟨access', hmeans', htyped⟩
        rw [hmeans'.unique hmeans] at htyped
        exact hmistyped.not_isTyped htyped
    | ok call =>
      have hasks := Access.call_eq_ok_iff.1 hcall
      obtain ⟨honce, hstate, hhanded, hwarned⟩ := hasks.forwards s state
      rw [← hperform] at honce hstate hhanded hwarned
      exact .typed (.forwarded access call hmeans hasks honce hstate hhanded hwarned)

section Run
variable {s : Session σ} {state : σ} {step : UseStep σ} {u : Use} {us : List Use}

theorem UseOutcome.of_isTyped (h : UseOutcome s step) (htyped : step.use.IsTyped) :
    TypedOutcome s step := by
  cases h with
  | typed h => exact h
  | mistyped _ _ _ _ huntyped => exact absurd htyped huntyped
  | noUse _ hnone =>
    obtain ⟨access, hmeans, -⟩ := htyped
    exact absurd hmeans (hnone access)

/-- A use makes one call, which belongs to the access that the use is, or it makes none and leaves
the session as it was. -/
theorem UseOutcome.calls_cases (h : UseOutcome s step) :
    (∃ access call, step.use.Means access ∧ access.Asks call ∧ step.ended.calls = [call] ∧
        step.ended.state = (s.answer step.before call).1) ∨
      step.ended.calls = [] ∧ step.ended.state = step.before := by
  cases h with
  | typed h =>
    cases h with
    | forwarded access call means asks once state =>
      exact .inl ⟨access, call, means, asks, once, state⟩
    | rejected _ _ _ _ _ ended =>
      rw [ended]
      exact .inr ⟨rfl, rfl⟩
  | mistyped _ _ _ _ _ ended | noUse _ _ ended =>
    rw [ended]
    exact .inr ⟨rfl, rfl⟩

/-- The state changes by the calls that are made. -/
theorem UseOutcome.state_eq (h : UseOutcome s step) :
    step.ended.state = s.stateAfter step.before step.ended.calls := by
  rcases h.calls_cases with ⟨_, call, -, -, honce, hstate⟩ | ⟨hnone, hstate⟩
  · rw [honce, hstate, Session.stateAfter, List.foldl_cons, List.foldl_nil]
  · rw [hnone, hstate, Session.stateAfter, List.foldl_nil]

/-- Each call of a use belongs to the access that the use is. -/
theorem UseOutcome.asks_of_mem (h : UseOutcome s step) {call : SessionCall}
    (hcall : call ∈ step.ended.calls) : ∃ access, step.use.Means access ∧ access.Asks call := by
  rcases h.calls_cases with ⟨access, call', hmeans, hasks, honce, -⟩ | ⟨hnone, -⟩
  · rw [honce, List.mem_singleton] at hcall
    subst hcall
    exact ⟨access, hmeans, hasks⟩
  · rw [hnone] at hcall
    cases hcall

theorem Session.stateAfter_append (s : Session σ) (state : σ) (cs ds : List SessionCall) :
    s.stateAfter state (cs ++ ds) = s.stateAfter (s.stateAfter state cs) ds := List.foldl_append

theorem map_use_useRun (s : Session σ) (state : σ) (us : List Use) :
    (useRun s state us).map (·.use) = us := by
  induction us generalizing state with
  | nil => rfl
  | cons u us ih =>
    rw [useRun, List.map_cons, ih]

theorem useRun_outcome (h : step ∈ useRun s state us) : UseOutcome s step := by
  induction us generalizing state with
  | nil => cases h
  | cons u us ih =>
    rcases List.mem_cons.1 h with rfl | h
    · exact u.outcome s state
    · exact ih h

/-- A use starts in the state that the calls before it lead to. -/
theorem before_useRun {done rest : List (UseStep σ)} (h : useRun s state us = done ++ step :: rest) :
    step.before = s.stateAfter state (callsOf done) := by
  induction us generalizing state done with
  | nil => cases done <;> cases h
  | cons u us ih =>
    cases done with
    | nil =>
      have hhead := (List.cons.inj h).1
      rw [← hhead]
      rfl
    | cons first done =>
      obtain ⟨hfirst, hrest⟩ := List.cons.inj h
      have hended := (u.outcome s state).state_eq
      have hcalls : callsOf (first :: done) = first.ended.calls ++ callsOf done :=
        List.flatMap_cons
      rw [ih hrest, hcalls, Session.stateAfter_append, ← hfirst, hended]

end Run

/-! ## Accessors that can be made -/

theorem Accessor.make_eq_ok_iff {c : AccessorClass} {ctype : String} {args : List Value}
    {a : Accessor} :
    Accessor.make c ctype args = .ok a ↔
      a.accessorClass = c ∧ a.ctype = ctype ∧ a.fields.map (·.2) = args := by
  constructor
  · intro h
    obtain ⟨_, hcheck, h⟩ := bind_eq_ok_iff.1 h
    cases c with
    | arrayRegister =>
      obtain ⟨hleast, hmost⟩ := checkArguments_eq_ok_iff.1 hcheck
      match args, hleast, hmost, h with
      | [address, size], _, _, h =>
        simp only [Accessor.ofSize, List.headD_cons, List.getD_cons_succ, List.getD_cons_zero] at h
        split at h
        · cases h
          exact ⟨rfl, rfl, rfl⟩
        · split at h <;> cases h
    | register | readFifo | writeFifo =>
      obtain ⟨address, rfl⟩ := checkArguments_one.1 hcheck
      cases h
      exact ⟨rfl, rfl, rfl⟩
  · rintro ⟨rfl, rfl, rfl⟩
    cases a with
    | arrayRegister r =>
      have hsize : Accessor.ofSize r.ctype r.address r.size = .ok (.arrayRegister r) :=
        dif_pos r.not_empty
      exact hsize
    | register | readFifo | writeFifo => rfl

/-- A session answers what it is asked to read of an array, if it does not fail, with something that
has elements. -/
def Session.AnswersElements (s : Session σ) : Prop :=
  ∀ state ctype address size v, (s.answer state (.readArray ctype address size)).2 = .ok v →
    v.elements? ≠ none

/-- A failure that is handed on is one of the session, unless an answer has no elements. -/
theorem HandsOn.fault {call : SessionCall} {answer : Except SessionFault Value}
    {fault : AccessFault} (h : HandsOn call answer (.error fault))
    (helements : ∀ ctype address size v, call = .readArray ctype address size → answer = .ok v →
      v.elements? ≠ none) :
    ∃ e, answer = .error e ∧ fault = .session e := by
  cases h with
  | failure _ e => exact ⟨e, rfl, rfl⟩
  | noArray ctype address size v hnone => exact absurd hnone (helements _ _ _ v rfl rfl)

/-- Why a typed use fails: the session failed at its call, or the use was refused without one. -/
theorem TypedOutcome.fault {s : Session σ} {step : UseStep σ} {fault : AccessFault}
    (h : TypedOutcome s step) (hs : s.AnswersElements) (hfault : step.ended.result = .error fault) :
    (∃ call e, step.ended.calls = [call] ∧ (s.answer step.before call).2 = .error e ∧
        fault = .session e) ∨
      step.ended.calls = [] ∧ fault.kind = .value := by
  cases h with
  | forwarded access call means asks once state handed =>
    rw [hfault] at handed
    obtain ⟨e, hanswer, rfl⟩ := handed.fault fun ctype address size v hcall hanswer =>
      hs step.before ctype address size v (hcall ▸ hanswer)
    exact .inl ⟨call, e, once, hanswer, rfl⟩
  | rejected access fault' means rejects kind ended =>
    rw [ended] at hfault ⊢
    cases hfault
    exact .inr ⟨rfl, kind⟩

/-- A run asks the session for what its accessors say, and for nothing else. -/
structure ForwardedRun (s : Session σ) (start : σ) (uses : List Use) : Prop where
  inOrder : (useRun s start uses).map (·.use) = uses
  /-- The accessors can be made, with the type, the address and the size that they hold. -/
  made : ∀ u ∈ uses, ∃ c ctype args, Accessor.make c ctype args = .ok u.accessor
  outcomes : ∀ step ∈ useRun s start uses, UseOutcome s step
  /-- A use with values of its types is forwarded, unless it is one of a wrong length or of a
  negative count, which is refused as an error of a value. -/
  typed : ∀ step ∈ useRun s start uses, step.use.IsTyped → TypedOutcome s step
  /-- Such a use fails by a failure of the session or by a refusal, and for no other reason. -/
  faults : s.AnswersElements → ∀ step ∈ useRun s start uses, step.use.IsTyped →
    ∀ fault, step.ended.result = .error fault →
      (∃ call e, step.ended.calls = [call] ∧ (s.answer step.before call).2 = .error e ∧
          fault = .session e) ∨
        step.ended.calls = [] ∧ fault.kind = .value
  /-- The state of the session is that to which the calls lead, before and after each use. -/
  states : ∀ done step rest, useRun s start uses = done ++ step :: rest →
    step.before = s.stateAfter start (callsOf done) ∧
      step.ended.state = s.stateAfter start (callsOf (done ++ [step]))
  /-- Each array that is written is one of the accessors. It is given as many elements as its size,
  and that is one at least. -/
  whole : ∀ ctype address values,
    .writeArray ctype address values ∈ callsOf (useRun s start uses) →
      ∃ u ∈ uses, ∃ size items,
        Accessor.make .arrayRegister ctype [address, size] = .ok u.accessor ∧
          values.elements? = some items ∧ (Value.int items.length).equals size = true ∧
          1 ≤ items.length

theorem useRun_forwards (s : Session σ) (start : σ) (uses : List Use) :
    ForwardedRun s start uses where
  inOrder := map_use_useRun s start uses
  made u _ := ⟨_, _, _, Accessor.make_eq_ok_iff.2 ⟨rfl, rfl, rfl⟩⟩
  outcomes _ := useRun_outcome
  typed _ hstep htyped := (useRun_outcome hstep).of_isTyped htyped
  faults hs _ hstep htyped _ hfault := ((useRun_outcome hstep).of_isTyped htyped).fault hs hfault
  states done step rest h := by
    have hbefore := before_useRun h
    have hmem : step ∈ useRun s start uses := by simp [h]
    have hended := (useRun_outcome hmem).state_eq
    refine ⟨hbefore, ?_⟩
    rw [hended, hbefore, ← Session.stateAfter_append]
    simp [callsOf]
  whole ctype address values h := by
    obtain ⟨step, hstep, hcall⟩ := List.mem_flatMap.1 h
    obtain ⟨access, hmeans, hasks⟩ := (useRun_outcome hstep).asks_of_mem hcall
    have huse : step.use ∈ uses := by
      have hmap := List.mem_map_of_mem hstep (f := (·.use))
      rwa [map_use_useRun] at hmap
    refine ⟨step.use, huse, ?_⟩
    cases hasks with
    | writeArray r values n hlength hwhole =>
      obtain ⟨items, hitems, rfl⟩ := Value.exists_elements?_of_length? hlength
      have haccessor : step.use.accessor = .arrayRegister r := by
        generalize step.use = u at hmeans
        cases hmeans
        rfl
      have hmade : Accessor.make .arrayRegister r.ctype [r.address, r.size] =
          .ok (.arrayRegister r) := Accessor.make_eq_ok_iff.2 ⟨rfl, rfl, rfl⟩
      rw [haccessor]
      exact ⟨r.size, items, hmade, hitems, hwhole, Value.pos_of_equals r.not_empty hwhole⟩

end FpgaInterface
