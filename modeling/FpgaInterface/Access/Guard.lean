/-!
# Guards

The driver library is made ready once before the first use and shut down after the last one. A guard
keeps track of that; its hooks do the work.

* `Hooks`: what runs when a guard is acquired and when it is released;
* `GuardState`: the guards that are active, and how many hooks ran;
* `acquire`, `release`: the two steps of a guard;
* `GuardStep`, `GuardStep.run`: also blocks, which hold a guard while their body runs, and steps
  whose failure is caught.

A hook that fails may succeed when it runs again. A release leaves the guard idle even if its hook
fails. If both the body of a block and the release after it fail, the fault of the release is the one
that counts.
-/

namespace FpgaInterface

/-- What runs in a step of a guard: nothing, or a hook that succeeds or fails with a message. How it
ends may differ from run to run: it is given the number of hooks that ran before it. -/
abbrev Hook := Option (Nat → Except String Unit)

/-- The hooks of a guard. -/
structure Hooks where
  onAcquire : Hook := none
  onRelease : Hook := none

/-- What steps leave behind. -/
structure GuardState where
  active : List String := []
  hooksRun : Nat := 0
  deriving DecidableEq, Repr

/-- What happens during a step. -/
inductive GuardEvent where
  /-- The first hook of a guard runs. -/
  | madeReady (guard : String)
  /-- The second hook of a guard runs. -/
  | shutDown (guard : String)
  /-- The body of a block starts. -/
  | body (guard : String)
  deriving DecidableEq, Repr

/-- Why a step fails. -/
inductive GuardFault where
  | alreadyActive
  | notActive
  | hook (message : String)
  | body
  deriving DecidableEq, Repr

def GuardFault.message : GuardFault → String
  | alreadyActive => "The FPGA context is already active"
  | notActive => "The FPGA context is not active"
  | hook message => message
  | body => "body failed"

/-- How a step ends. -/
structure GuardOutcome where
  state : GuardState
  events : List GuardEvent := []
  fault : Option GuardFault := none
  deriving DecidableEq, Repr

/-- Why a hook fails that runs after `n` others. -/
def Hook.fault? (h : Hook) (n : Nat) : Option GuardFault :=
  match h with
  | none => none
  | some run => match run n with
    | .ok _ => none
    | .error message => some (.hook message)

/-- The hooks that ran, once this one had its turn. -/
def Hook.count (h : Hook) (n : Nat) : Nat := if h.isSome then n + 1 else n

variable (hooks : String → Hooks)

/-- Acquires a guard that is idle. It becomes active unless its hook fails. -/
def acquire (g : String) (s : GuardState) : GuardOutcome :=
  if g ∈ s.active then { state := s, fault := some .alreadyActive }
  else
    let hook := (hooks g).onAcquire
    let fault := hook.fault? s.hooksRun
    { state := ⟨if fault.isSome then s.active else g :: s.active, hook.count s.hooksRun⟩
      events := if hook.isSome then [.madeReady g] else []
      fault }

/-- Releases a guard that is active. It becomes idle. -/
def release (g : String) (s : GuardState) : GuardOutcome :=
  if g ∈ s.active then
    let hook := (hooks g).onRelease
    { state := ⟨s.active.filter (· ≠ g), hook.count s.hooksRun⟩
      events := if hook.isSome then [.shutDown g] else []
      fault := hook.fault? s.hooksRun }
  else { state := s, fault := some .notActive }

/-- A step of a program that uses guards. -/
inductive GuardStep where
  | acquire (guard : String)
  | release (guard : String)
  /-- A block that holds a guard while its steps run, and that fails after them or does not. -/
  | within (guard : String) (steps : List GuardStep) (fails : Bool)
  /-- Steps whose failure is caught. -/
  | attempt (steps : List GuardStep)

mutual

/-- How a step ends. -/
def GuardStep.run (s : GuardState) : GuardStep → GuardOutcome
  | .acquire g => FpgaInterface.acquire hooks g s
  | .release g => FpgaInterface.release hooks g s
  | .within g steps fails =>
    let entry := FpgaInterface.acquire hooks g s
    if entry.fault.isSome then entry
    else
      let inner := runSteps entry.state steps
      let failure := inner.fault.or (if fails then some .body else none)
      let exit := FpgaInterface.release hooks g inner.state
      { state := exit.state
        events := entry.events ++ .body g :: inner.events ++ exit.events
        fault := exit.fault.or failure }
  | .attempt steps => { runSteps s steps with fault := none }

/-- How steps end, of which the first that fails is the last. -/
def runSteps (s : GuardState) : List GuardStep → GuardOutcome
  | [] => { state := s }
  | step :: rest =>
    let first := step.run s
    if first.fault.isSome then first
    else
      let more := runSteps first.state rest
      { more with events := first.events ++ more.events }

end

end FpgaInterface
