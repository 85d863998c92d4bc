import FpgaInterface.Access.Guard
import Mathlib.Data.List.Chain

/-!
# What guards do over a run

A run makes calls of its guards, those of its blocks included, and each call starts where the one
before it left the guards.

* `GuardCall` : an acquire or a release of a guard, with the state before it;
* `GuardStep.calls`, `stepsCalls` : the calls of a step and of the body of a block;
* `Linked` : calls one after another (`Linked.append_iff`);
* `Accounts` : calls that account for the guards and for the hooks of an outcome. The calls of a
  step do (`GuardStep.accounts`);
* `turns` : the acquires of a guard that succeed and its releases that are not rejected. They
  alternate, and the last one tells whether the guard is active (`Linked.turns`);
* `guardRun_initOnce` : guards are made ready once before they are shut down once, over every run.
-/

namespace FpgaInterface

/-- What a guard is asked for. -/
inductive GuardRequest where
  | acquire
  | release
  deriving DecidableEq, Repr

structure GuardCall where
  guard : String
  request : GuardRequest
  /-- The state that it finds. -/
  before : GuardState

/-! ## One call -/

section Steps
variable {hooks : String → Hooks} {s : GuardState} {g : String}

theorem acquire_of_fault (h : (acquire hooks g s).fault ≠ none) :
    (acquire hooks g s).state.active = s.active := by
  unfold acquire at h ⊢
  split
  · rfl
  · next hmem =>
    rw [if_neg hmem] at h
    exact if_pos (Option.isSome_iff_ne_none.2 h)

theorem mem_active_acquire (h : (acquire hooks g s).fault = none) :
    g ∈ (acquire hooks g s).state.active := by
  unfold acquire at h ⊢
  split
  · next hmem => exact hmem
  · next hmem =>
    rw [if_neg hmem] at h
    dsimp only at h ⊢
    rw [h]
    exact List.mem_cons_self ..

theorem mem_events_acquire {e : GuardEvent} (h : e ∈ (acquire hooks g s).events) :
    e = .madeReady g := by
  unfold acquire at h
  split at h
  · cases h
  · dsimp only at h
    split at h
    · exact List.mem_singleton.1 h
    · cases h

theorem mem_active_release {n : String} :
    n ∈ (release hooks g s).state.active ↔ n ∈ s.active ∧ n ≠ g := by
  unfold release
  split
  · simp
  · next hmem =>
    refine ⟨fun h => ⟨h, ?_⟩, And.left⟩
    rintro rfl
    exact hmem h

end Steps

variable (hooks : String → Hooks)

namespace GuardCall

def outcome (c : GuardCall) : GuardOutcome :=
  match c.request with
  | .acquire => FpgaInterface.acquire hooks c.guard c.before
  | .release => FpgaInterface.release hooks c.guard c.before

/-- An active guard is acquired, or an idle one is released. -/
def IsRejected (c : GuardCall) : Prop :=
  match c.request with
  | .acquire => c.guard ∈ c.before.active
  | .release => c.guard ∉ c.before.active

instance (c : GuardCall) : Decidable c.IsRejected :=
  match h : c.request with
  | .acquire => decidable_of_iff (c.guard ∈ c.before.active) (by simp [IsRejected, h])
  | .release => decidable_of_iff (c.guard ∉ c.before.active) (by simp [IsRejected, h])

def refusal (c : GuardCall) : GuardFault :=
  match c.request with
  | .acquire => .alreadyActive
  | .release => .notActive

def hook (c : GuardCall) : Hook :=
  match c.request with
  | .acquire => (hooks c.guard).onAcquire
  | .release => (hooks c.guard).onRelease

/-- The run of the hook that belongs to a call, if its guard has one. -/
def hookRun (c : GuardCall) : List GuardEvent :=
  if (c.hook hooks).isNone then []
  else match c.request with
    | .acquire => [.madeReady c.guard]
    | .release => [.shutDown c.guard]

theorem outcome_acquire {c : GuardCall} (h : c.request = .acquire) :
    c.outcome hooks = FpgaInterface.acquire hooks c.guard c.before := by rw [outcome, h]

theorem outcome_release {c : GuardCall} (h : c.request = .release) :
    c.outcome hooks = FpgaInterface.release hooks c.guard c.before := by rw [outcome, h]

theorem isRejected_acquire {c : GuardCall} (h : c.request = .acquire) :
    c.IsRejected ↔ c.guard ∈ c.before.active := by rw [IsRejected, h]

theorem isRejected_release {c : GuardCall} (h : c.request = .release) :
    c.IsRejected ↔ c.guard ∉ c.before.active := by rw [IsRejected, h]

theorem outcome_of_isRejected {c : GuardCall} (h : c.IsRejected) :
    c.outcome hooks = { state := c.before, fault := some c.refusal } := by
  obtain ⟨g, request, before⟩ := c
  cases request with
  | acquire =>
    have hmem : g ∈ before.active := h
    simp [outcome, acquire, refusal, hmem]
  | release =>
    have hmem : g ∉ before.active := h
    simp [outcome, release, refusal, hmem]

theorem events_of_not_isRejected {c : GuardCall} (h : ¬ c.IsRejected) :
    (c.outcome hooks).events = c.hookRun hooks := by
  obtain ⟨g, request, before⟩ := c
  cases request with
  | acquire =>
    have hmem : g ∉ before.active := h
    cases hhook : (hooks g).onAcquire <;> simp [outcome, acquire, hookRun, hook, hmem, hhook]
  | release =>
    have hmem : g ∈ before.active := not_not.1 h
    cases hhook : (hooks g).onRelease <;> simp [outcome, release, hookRun, hook, hmem, hhook]

theorem events_outcome (c : GuardCall) :
    (c.outcome hooks).events = if c.IsRejected then [] else c.hookRun hooks := by
  split
  · next h => rw [outcome_of_isRejected hooks h]
  · next h => exact events_of_not_isRejected hooks h

theorem fault_of_not_isRejected {c : GuardCall} (h : ¬ c.IsRejected) :
    (c.outcome hooks).fault = (c.hook hooks).fault? c.before.hooksRun := by
  obtain ⟨g, request, before⟩ := c
  cases request with
  | acquire =>
    have hmem : g ∉ before.active := h
    simp [outcome, acquire, hook, hmem]
  | release =>
    have hmem : g ∈ before.active := not_not.1 h
    simp [outcome, release, hook, hmem]

theorem hooksRun_outcome (c : GuardCall) :
    (c.outcome hooks).state.hooksRun = c.before.hooksRun + (c.outcome hooks).events.length := by
  by_cases hrej : c.IsRejected
  · rw [outcome_of_isRejected hooks hrej]
    rfl
  obtain ⟨g, request, before⟩ := c
  cases request with
  | acquire =>
    have hmem : g ∉ before.active := hrej
    cases hhook : (hooks g).onAcquire <;> simp [outcome, acquire, Hook.count, hmem, hhook]
  | release =>
    have hmem : g ∈ before.active := not_not.1 hrej
    cases hhook : (hooks g).onRelease <;> simp [outcome, release, Hook.count, hmem, hhook]

/-- An acquire that succeeds, or a release that is not rejected. -/
def TakesTurn (c : GuardCall) : Prop :=
  ¬ c.IsRejected ∧ (c.request = .acquire → (c.outcome hooks).fault = none)

instance (c : GuardCall) : Decidable (c.TakesTurn hooks) :=
  inferInstanceAs (Decidable (_ ∧ (_ → _)))

/-- The request of a call that takes a turn of the guard. -/
def turn? (g : String) (c : GuardCall) : Option GuardRequest :=
  if c.guard = g ∧ c.TakesTurn hooks then some c.request else none

theorem turn?_eq_some_iff {c : GuardCall} {g : String} {r : GuardRequest} :
    c.turn? hooks g = some r ↔ c.guard = g ∧ c.TakesTurn hooks ∧ c.request = r := by
  unfold turn?
  split <;> simp_all

/-- A call changes whether a guard is active only by a turn of it, which makes it active if it is an
acquire and idle if it is a release. -/
theorem mem_active_outcome (c : GuardCall) (g : String) :
    g ∈ (c.outcome hooks).state.active ↔
      match c.turn? hooks g with
      | some .acquire => True
      | some .release => False
      | none => g ∈ c.before.active := by
  by_cases hrej : c.IsRejected
  · have hturn : c.turn? hooks g = none := if_neg fun h => h.2.1 hrej
    rw [outcome_of_isRejected hooks hrej, hturn]
  -- an acquire takes a turn if its hook succeeds, a release also if its hook fails
  obtain ⟨n, request, before⟩ := c
  cases request with
  | acquire =>
    have hmem : n ∉ before.active := hrej
    cases hfault : (hooks n).onAcquire.fault? before.hooksRun with
    | none =>
      by_cases hn : n = g
      · subst hn
        simp [turn?, TakesTurn, IsRejected, outcome, acquire, hmem, hfault]
      · simp [turn?, TakesTurn, IsRejected, outcome, acquire, hmem, hfault, hn, Ne.symm hn]
    | some f => simp [turn?, TakesTurn, IsRejected, outcome, acquire, hmem, hfault]
  | release =>
    have hmem : n ∈ before.active := not_not.1 hrej
    by_cases hn : n = g
    · subst hn
      simp [turn?, TakesTurn, IsRejected, outcome, release, hmem]
    · simp [turn?, TakesTurn, IsRejected, outcome, release, hmem, hn, Ne.symm hn]

end GuardCall

/-- The last turn of a guard, as the active guards tell it. -/
def standing (g : String) (active : List String) : GuardRequest :=
  if g ∈ active then .acquire else .release

theorem standing_eq_acquire {g : String} {active : List String} :
    standing g active = .acquire ↔ g ∈ active := by
  unfold standing
  split <;> simp_all

theorem standing_eq_release {g : String} {active : List String} :
    standing g active = .release ↔ g ∉ active := by
  unfold standing
  split <;> simp_all

/-- A turn of a guard is never the same as the one before, and it is the last one then. -/
theorem GuardCall.standing_outcome (c : GuardCall) (g : String) :
    standing g (c.outcome hooks).state.active =
        (c.turn? hooks g).getD (standing g c.before.active) ∧
      ∀ r, c.turn? hooks g = some r → standing g c.before.active ≠ r := by
  have hmem := c.mem_active_outcome hooks g
  constructor
  · cases hturn : c.turn? hooks g with
    | none =>
      rw [hturn] at hmem
      simp only [standing, hmem, Option.getD_none]
    | some r =>
      rw [hturn] at hmem
      cases r with
      | acquire => exact standing_eq_acquire.2 (hmem.2 trivial)
      | release => exact standing_eq_release.2 hmem.1
  · intro r hr
    obtain ⟨rfl, ⟨hrej, -⟩, rfl⟩ := (turn?_eq_some_iff hooks).1 hr
    unfold GuardCall.IsRejected at hrej
    cases hrequest : c.request with
    | acquire =>
      rw [hrequest] at hrej
      rw [standing_eq_release.2 hrej]
      decide
    | release =>
      rw [hrequest] at hrej
      rw [standing_eq_acquire.2 (not_not.1 hrej)]
      decide

/-! ## Calls one after another -/

/-- Calls of which each starts where the one before it left the guards. -/
inductive Linked : GuardState → List GuardCall → GuardState → Prop
  | nil (s : GuardState) : Linked s [] s
  | cons {c : GuardCall} {cs : List GuardCall} {s : GuardState}
    (rest : Linked (c.outcome hooks).state cs s) : Linked c.before (c :: cs) s

section Calls
variable {hooks : String → Hooks} {s middle after : GuardState} {cs ds : List GuardCall}
  {c : GuardCall} {g : String}

theorem Linked.append_iff :
    Linked hooks s (cs ++ ds) after ↔
      ∃ middle, Linked hooks s cs middle ∧ Linked hooks middle ds after := by
  induction cs generalizing s with
  | nil =>
    constructor
    · intro h
      exact ⟨s, .nil s, h⟩
    · rintro ⟨_, hnil, h⟩
      cases hnil
      exact h
  | cons c cs ih =>
    constructor
    · intro h
      cases h with
      | cons rest =>
        obtain ⟨middle, hcs, hds⟩ := ih.1 rest
        exact ⟨middle, .cons hcs, hds⟩
    · rintro ⟨middle, hcs, hds⟩
      cases hcs with
      | cons rest => exact .cons (ih.2 ⟨middle, rest, hds⟩)

theorem Linked.append (h : Linked hooks s cs middle) (h' : Linked hooks middle ds after) :
    Linked hooks s (cs ++ ds) after := Linked.append_iff.2 ⟨middle, h, h'⟩

theorem Linked.single (c : GuardCall) : Linked hooks c.before [c] (c.outcome hooks).state :=
  .cons (.nil _)

/-- The calls between two calls lead from what the first leaves to what the second finds. -/
theorem Linked.between {c' : GuardCall} {bs : List GuardCall}
    (h : Linked hooks s (cs ++ c :: (bs ++ c' :: ds)) after) :
    Linked hooks (c.outcome hooks).state bs c'.before := by
  obtain ⟨_, _, hrest⟩ := Linked.append_iff.1 h
  cases hrest with
  | cons hrest =>
    obtain ⟨_, hbs, hlast⟩ := Linked.append_iff.1 hrest
    cases hlast with
    | cons _ => exact hbs

variable (hooks) in
def turns (g : String) (cs : List GuardCall) : List GuardRequest :=
  cs.filterMap (GuardCall.turn? hooks g)

theorem mem_turns {r : GuardRequest} :
    r ∈ turns hooks g cs ↔ ∃ c ∈ cs, c.turn? hooks g = some r := List.mem_filterMap

/-- The turns of a guard alternate, and the last one tells whether the guard is active. -/
theorem Linked.turns (h : Linked hooks s cs after) (g : String) :
    (standing g s.active :: turns hooks g cs).IsChain (· ≠ ·) ∧
      (standing g s.active :: turns hooks g cs).getLast? = some (standing g after.active) := by
  induction h with
  | nil s => exact ⟨.singleton _, rfl⟩
  | @cons c cs after rest ih =>
    obtain ⟨hstanding, hne⟩ := c.standing_outcome hooks g
    rw [hstanding] at ih
    cases hturn : c.turn? hooks g with
    | none =>
      have hskip : FpgaInterface.turns hooks g (c :: cs) = FpgaInterface.turns hooks g cs :=
        List.filterMap_cons_none hturn
      rw [hturn, Option.getD_none] at ih
      rw [hskip]
      exact ih
    | some r =>
      have htake : FpgaInterface.turns hooks g (c :: cs) = r :: FpgaInterface.turns hooks g cs :=
        List.filterMap_cons_some hturn
      rw [hturn, Option.getD_some] at ih
      rw [htake]
      exact ⟨.cons_cons (hne r hturn) ih.1, by rw [List.getLast?_cons_cons]; exact ih.2⟩

/-- The hooks that ran are those of the calls. -/
theorem Linked.hooksRun (h : Linked hooks s cs after) :
    after.hooksRun = s.hooksRun + (cs.flatMap fun c => (c.outcome hooks).events).length := by
  induction h with
  | nil s => rfl
  | @cons c cs after rest ih =>
    rw [ih, c.hooksRun_outcome hooks, List.flatMap_cons, List.length_append, Nat.add_assoc]

/-- Between two states of a guard that differ it takes a turn. -/
theorem Linked.exists_turn (h : Linked hooks s cs after)
    (hne : standing g s.active ≠ standing g after.active) :
    ∃ c ∈ cs, c.turn? hooks g = some (standing g after.active) := by
  have hlast := (h.turns g).2
  have hmem := List.mem_of_getLast? hlast
  rcases List.mem_cons.1 hmem with heq | hmem
  · exact absurd heq.symm hne
  · exact mem_turns.1 hmem

end Calls

/-! ## The calls of a step -/

mutual

def GuardStep.calls (s : GuardState) : GuardStep → List GuardCall
  | .acquire g => [⟨g, .acquire, s⟩]
  | .release g => [⟨g, .release, s⟩]
  | .within g steps _ =>
    let entry := FpgaInterface.acquire hooks g s
    ⟨g, .acquire, s⟩ ::
      if entry.fault.isSome then []
      else stepsCalls entry.state steps ++
        [⟨g, .release, (runSteps hooks entry.state steps).state⟩]
  | .attempt steps => stepsCalls s steps

/-- The calls that steps make, of which the first that fails is the last. -/
def stepsCalls (s : GuardState) : List GuardStep → List GuardCall
  | [] => []
  | step :: rest =>
    let first := step.run hooks s
    step.calls s ++ if first.fault.isSome then [] else stepsCalls first.state rest

end

def GuardEvent.isHook : GuardEvent → Bool
  | madeReady _ | shutDown _ => true
  | body _ => false

/-- The calls lead from a state to that of the outcome, and their hooks are those of the outcome. -/
structure Accounts (s : GuardState) (cs : List GuardCall) (o : GuardOutcome) : Prop where
  linked : Linked hooks s cs o.state
  events : o.events.filter GuardEvent.isHook = cs.flatMap fun c => (c.outcome hooks).events

theorem GuardCall.filter_events (c : GuardCall) :
    (c.outcome hooks).events.filter GuardEvent.isHook = (c.outcome hooks).events := by
  rw [c.events_outcome, List.filter_eq_self]
  intro e he
  split at he
  · cases he
  · unfold hookRun at he
    split at he
    · cases he
    · cases hrequest : c.request with
      | acquire =>
        rw [hrequest] at he
        obtain rfl := List.mem_singleton.1 he
        rfl
      | release =>
        rw [hrequest] at he
        obtain rfl := List.mem_singleton.1 he
        rfl

theorem GuardCall.accounts (c : GuardCall) : Accounts hooks c.before [c] (c.outcome hooks) where
  linked := .single c
  events := by rw [c.filter_events, List.flatMap_singleton]

section Accounts
variable {hooks : String → Hooks} {s : GuardState} {cs ds : List GuardCall}
  {o o' whole : GuardOutcome}

theorem Accounts.append (h : Accounts hooks s cs o) (h' : Accounts hooks o.state ds o')
    (hstate : whole.state = o'.state)
    (hevents : whole.events.filter GuardEvent.isHook =
      o.events.filter GuardEvent.isHook ++ o'.events.filter GuardEvent.isHook) :
    Accounts hooks s (cs ++ ds) whole where
  linked := by
    rw [hstate]
    exact h.linked.append h'.linked
  events := by rw [hevents, h.events, h'.events, List.flatMap_append]

/-- A block: its entry, its body and its exit, with a mark that is no hook where the body starts. -/
theorem Accounts.block {c c' : GuardCall} {g : String} {entry inner exit : GuardOutcome}
    (hentry : Accounts hooks s [c] entry) (hinner : Accounts hooks entry.state cs inner)
    (hexit : Accounts hooks inner.state [c'] exit) (hstate : whole.state = exit.state)
    (hevents : whole.events = entry.events ++ .body g :: inner.events ++ exit.events) :
    Accounts hooks s (c :: (cs ++ [c'])) whole := by
  have hrest : Accounts hooks entry.state (cs ++ [c'])
      { state := exit.state, events := inner.events ++ exit.events } :=
    hinner.append hexit rfl (List.filter_append ..)
  refine hentry.append hrest hstate ?_
  rw [hevents]
  simp [GuardEvent.isHook]

end Accounts

mutual

theorem GuardStep.accounts (s : GuardState) :
    (step : GuardStep) → Accounts hooks s (step.calls hooks s) (step.run hooks s)
  | .acquire g => GuardCall.accounts hooks ⟨g, .acquire, s⟩
  | .release g => GuardCall.accounts hooks ⟨g, .release, s⟩
  | .within g steps fails => by
    have hentry := GuardCall.accounts hooks ⟨g, .acquire, s⟩
    have hbody := runSteps_accounts (FpgaInterface.acquire hooks g s).state steps
    -- the exit finds the guards as the body left them, also if the body failed
    have hexit := GuardCall.accounts hooks
      ⟨g, .release, (runSteps hooks (FpgaInterface.acquire hooks g s).state steps).state⟩
    rw [GuardStep.calls, GuardStep.run]
    by_cases hfault : (FpgaInterface.acquire hooks g s).fault.isSome
    · simp only [if_pos hfault]
      exact hentry
    · simp only [if_neg hfault]
      exact hentry.block hbody hexit rfl rfl
  | .attempt steps => by
    have hsteps := runSteps_accounts s steps
    rw [GuardStep.calls, GuardStep.run]
    exact ⟨hsteps.linked, hsteps.events⟩

theorem runSteps_accounts (s : GuardState) :
    (steps : List GuardStep) →
      Accounts hooks s (stepsCalls hooks s steps) (runSteps hooks s steps)
  | [] => ⟨.nil s, rfl⟩
  | step :: rest => by
    have hfirst := GuardStep.accounts s step
    have hrest := runSteps_accounts (step.run hooks s).state rest
    rw [stepsCalls, runSteps]
    by_cases hfault : (step.run hooks s).fault.isSome
    · simp only [if_pos hfault, List.append_nil]
      exact hfirst
    · simp only [if_neg hfault]
      exact hfirst.append hrest rfl (List.filter_append ..)

end

/-! ## Runs -/

/-- What comes of steps that are taken one after another. -/
structure GuardRun where
  /-- The calls of all steps, in order. -/
  calls : List GuardCall
  events : List GuardEvent
  /-- The state at the end. -/
  state : GuardState

/-- Takes steps one after another, also after one that failed. -/
def guardRun (s : GuardState) : List GuardStep → GuardRun
  | [] => ⟨[], [], s⟩
  | step :: rest =>
    let first := step.run hooks s
    let more := guardRun first.state rest
    ⟨step.calls hooks s ++ more.calls, first.events ++ more.events, more.state⟩

theorem guardRun_accounts (s : GuardState) (steps : List GuardStep) :
    Accounts hooks s (guardRun hooks s steps).calls
      { state := (guardRun hooks s steps).state
        events := (guardRun hooks s steps).events } := by
  induction steps generalizing s with
  | nil => exact ⟨.nil s, rfl⟩
  | cons step rest ih =>
    exact (step.accounts hooks s).append (ih _) rfl (List.filter_append ..)

/-- Guards are made ready once before they are shut down once. -/
structure InitOnce (r : GuardRun) : Prop where
  /-- Successful acquires and accepted releases of a guard alternate, an acquire first. -/
  alternate : ∀ g, (turns hooks g r.calls).IsChain (· ≠ ·) ∧
    (turns hooks g r.calls).head? ≠ some .release
  /-- A guard is active exactly if its last turn is an acquire. -/
  active_iff : ∀ g, g ∈ r.state.active ↔ (turns hooks g r.calls).getLast? = some .acquire
  /-- The hook of a call runs, once, exactly if the call is not rejected. -/
  hooks_run : r.events.filter GuardEvent.isHook =
    r.calls.flatMap fun c => if c.IsRejected then [] else c.hookRun hooks
  /-- A hook is told how many hooks ran before it. -/
  numbered : ∀ a c b, r.calls = a ++ c :: b →
    c.before.hooksRun = (a.flatMap fun c => if c.IsRejected then [] else c.hookRun hooks).length
  /-- A rejected call fails and changes nothing. -/
  rejected : ∀ c ∈ r.calls, c.IsRejected →
    c.outcome hooks = { state := c.before, fault := some c.refusal }
  /-- An acquire whose hook fails leaves its guard idle, and every guard as it was. -/
  failed_acquire : ∀ c ∈ r.calls, c.request = .acquire → ¬ c.IsRejected →
    (c.hook hooks).fault? c.before.hooksRun ≠ none →
      c.guard ∉ (c.outcome hooks).state.active ∧
        (c.outcome hooks).state.active = c.before.active
  /-- A release leaves its guard idle, also if its hook fails, and the other guards as they were. -/
  released : ∀ c ∈ r.calls, c.request = .release → ¬ c.IsRejected →
    (c.outcome hooks).fault = (c.hook hooks).fault? c.before.hooksRun ∧
      ∀ g, g ∈ (c.outcome hooks).state.active ↔ g ∈ c.before.active ∧ g ≠ c.guard
  /-- Between a release of a guard and one that is not rejected it is acquired. -/
  shutDown_once : ∀ a c b c' d, r.calls = a ++ c :: (b ++ c' :: d) → c.guard = c'.guard →
    c.request = .release → c'.request = .release → ¬ c'.IsRejected →
      ∃ x ∈ b, x.turn? hooks c.guard = some .acquire
  /-- Between a successful acquire of a guard and one that is not rejected it is released. -/
  madeReady_once : ∀ a c b c' d, r.calls = a ++ c :: (b ++ c' :: d) → c.guard = c'.guard →
    c.request = .acquire → c'.request = .acquire → (c.outcome hooks).fault = none →
      ¬ c'.IsRejected → ∃ x ∈ b, x.turn? hooks c.guard = some .release

/-- A block whose entry succeeds leaves its guard idle, whatever its body and its exit do. One whose
entry fails runs nothing but the hook of the entry and leaves all guards as they were. -/
def LeavesIdle (s : GuardState) (g : String) (o : GuardOutcome) : Prop :=
  ((acquire hooks g s).fault = none → g ∉ o.state.active) ∧
    ((acquire hooks g s).fault ≠ none →
      o.fault = (acquire hooks g s).fault ∧ o.state.active = s.active ∧
        ∀ e ∈ o.events, e = .madeReady g)

theorem Accounts.initOnce {hooks : String → Hooks} {r : GuardRun}
    (h : Accounts hooks {} r.calls { state := r.state, events := r.events }) :
    InitOnce hooks r where
  alternate g := by
    have hchain := (h.linked.turns g).1
    cases hturns : turns hooks g r.calls with
    | nil => exact ⟨.nil, nofun⟩
    | cons first rest =>
      rw [hturns] at hchain
      refine ⟨hchain.tail, ?_⟩
      rintro ⟨⟩
      exact hchain.rel rfl
  active_iff g := by
    have hlast := (h.linked.turns g).2
    rw [← standing_eq_acquire]
    cases hturns : turns hooks g r.calls with
    | nil =>
      rw [hturns] at hlast
      rw [← Option.some.inj hlast]
      exact ⟨nofun, nofun⟩
    | cons first rest =>
      rw [hturns, List.getLast?_cons_cons] at hlast
      rw [hlast, Option.some.injEq]
  hooks_run := by
    rw [h.events]
    congr 1
    funext c
    exact c.events_outcome hooks
  numbered a c b hcalls := by
    obtain ⟨_, ha, hrest⟩ := Linked.append_iff.1 (hcalls ▸ h.linked)
    cases hrest with
    | cons _ => simpa only [GuardCall.events_outcome, Nat.zero_add] using ha.hooksRun
  rejected c _ hrej := c.outcome_of_isRejected hooks hrej
  failed_acquire c _ hrequest hrej hfault := by
    rw [← c.fault_of_not_isRejected hooks hrej, c.outcome_acquire hooks hrequest] at hfault
    rw [c.isRejected_acquire hrequest] at hrej
    rw [c.outcome_acquire hooks hrequest, acquire_of_fault hfault]
    exact ⟨hrej, rfl⟩
  released c _ hrequest hrej := by
    refine ⟨c.fault_of_not_isRejected hooks hrej, fun g => ?_⟩
    rw [c.outcome_release hooks hrequest]
    exact mem_active_release
  shutDown_once a c b c' d hcalls hguard hc hc' hrej' := by
    -- the guard is idle behind `c` and active before `c'`
    have hb := (hcalls ▸ h.linked).between
    rw [c'.isRejected_release hc', not_not, ← hguard] at hrej'
    have hidle : c.guard ∉ (c.outcome hooks).state.active := by
      rw [c.outcome_release hooks hc, mem_active_release]
      exact fun h => h.2 rfl
    have hturn := hb.exists_turn (g := c.guard)
    rw [standing_eq_release.2 hidle, standing_eq_acquire.2 hrej'] at hturn
    exact hturn (by decide)
  madeReady_once a c b c' d hcalls hguard hc hc' hfault hrej' := by
    -- the guard is active behind `c` and idle before `c'`
    have hb := (hcalls ▸ h.linked).between
    rw [c'.isRejected_acquire hc', ← hguard] at hrej'
    have hactive : c.guard ∈ (c.outcome hooks).state.active := by
      rw [c.outcome_acquire hooks hc] at hfault ⊢
      exact mem_active_acquire hfault
    have hturn := hb.exists_turn (g := c.guard)
    rw [standing_eq_acquire.2 hactive, standing_eq_release.2 hrej'] at hturn
    exact hturn (by decide)

theorem leavesIdle_within (hooks : String → Hooks) (s : GuardState) (g : String)
    (body : List GuardStep) (fails : Bool) :
    LeavesIdle hooks s g ((GuardStep.within g body fails).run hooks s) := by
  rw [GuardStep.run]
  constructor
  · intro hentry
    simp only [hentry, Option.isSome_none, Bool.false_eq_true, if_false]
    exact fun h => (mem_active_release.1 h).2 rfl
  · intro hentry
    simp only [Option.isSome_iff_ne_none.2 hentry, if_true]
    exact ⟨trivial, acquire_of_fault hentry, fun e he => mem_events_acquire he⟩

example : (guardRun (fun _ => ⟨some fun _ => .ok (), some fun _ => .ok ()⟩) {}
    [.within "A" [.attempt [.acquire "A"], .release "A"] false]).events =
      [.madeReady "A", .body "A", .shutDown "A"] := by decide

/-- A hook that fails once: the guard is acquired when that is tried again. -/
example : (guardRun (fun _ => ⟨some fun n => if n = 0 then .error "busy" else .ok (), none⟩) {}
    [.acquire "A", .acquire "A"]).state = ⟨["A"], 2⟩ := by decide

end FpgaInterface
