import Mathlib.Data.List.Basic

namespace ModuleDatabase

/-!
# Runs of a deterministic machine

A machine takes one action at a time.  An action always ends, in an outcome
(which may be an exception) and a next state, and whoever drives the machine
may go on after any outcome.  Safety of a run is then a demand that is made
at every action of the run.

The rules below reduce such a demand to single steps.  An invariant is
checked once for each action; a demand on the outcomes is exchanged for a
condition on the states that the actions find.
-/

/-- What one action makes of a state. -/
structure Machine (State Action Outcome : Type*) where
  perform : Action → State → Outcome × State

namespace Machine

variable {State Action Outcome : Type*} (machine : Machine State Action Outcome)

/-- The state in which a run leaves the machine. -/
def after : State → List Action → State
  | state, [] => state
  | state, action :: rest => after (machine.perform action state).2 rest

/-- The demand holds of every action of the run, at the state it finds. -/
def Along (demand : State → Action → Prop) : State → List Action → Prop
  | _, [] => True
  | state, action :: rest =>
      demand state action ∧ Along demand (machine.perform action state).2 rest

/-- A demand on actions alone holds along a run of such actions. -/
theorem along_of_mem {demand : Action → Prop} (state : State) (run : List Action)
    (meets : ∀ action ∈ run, demand action) :
    machine.Along (fun _ action => demand action) state run := by
  induction run generalizing state with
  | nil => exact trivial
  | cons action rest ih =>
      exact ⟨meets action List.mem_cons_self,
        ih _ fun other member => meets other (List.mem_cons_of_mem _ member)⟩

/-- A property that every legal step keeps survives every legal run. -/
theorem invariant_after {legal : State → Action → Prop} (invariant : State → Prop)
    (step : ∀ state action, invariant state → legal state action →
      invariant (machine.perform action state).2)
    (state : State) (run : List Action) (initially : invariant state)
    (legalRun : machine.Along legal state run) : invariant (machine.after state run) := by
  induction run generalizing state with
  | nil => exact initially
  | cons action rest ih =>
      exact ih _ (step state action initially legalRun.1) legalRun.2

/-- A property that every step keeps survives every run. -/
theorem invariant_of_steps (invariant : State → Prop)
    (step : ∀ state action, invariant state → invariant (machine.perform action state).2)
    (state : State) (run : List Action) (initially : invariant state) :
    invariant (machine.after state run) := by
  induction run generalizing state with
  | nil => exact initially
  | cons action rest ih => exact ih _ (step state action initially)

/-- A demand that follows from an invariant holds along every run. -/
theorem along_of_invariant (invariant : State → Prop) {demand : State → Action → Prop}
    (step : ∀ state action, invariant state → invariant (machine.perform action state).2)
    (meets : ∀ state action, invariant state → demand state action)
    (state : State) (run : List Action) (initially : invariant state) :
    machine.Along demand state run := by
  induction run generalizing state with
  | nil => exact trivial
  | cons action rest ih =>
      exact ⟨meets state action initially, ih _ (step state action initially)⟩

/-- Under an invariant, two demands that agree at every legal step agree
along every legal run. -/
theorem along_congr (legal : State → Action → Prop) (invariant : State → Prop)
    {first second : State → Action → Prop}
    (step : ∀ state action, invariant state → legal state action →
      invariant (machine.perform action state).2)
    (agree : ∀ state action, invariant state → legal state action →
      (first state action ↔ second state action))
    (state : State) (run : List Action) (initially : invariant state)
    (legalRun : machine.Along legal state run) :
    machine.Along first state run ↔ machine.Along second state run := by
  induction run generalizing state with
  | nil => exact Iff.rfl
  | cons action rest ih =>
      have head := agree state action initially legalRun.1
      have tail := ih _ (step state action initially legalRun.1) legalRun.2
      exact and_congr head tail

/-- Two demands that agree wherever an invariant holds, and keep it, agree along every run. -/
theorem along_iff_of_kept (invariant : State → Prop) {first second : State → Action → Prop}
    (agree : ∀ state action, invariant state → (first state action ↔ second state action))
    (step : ∀ state action, invariant state → second state action →
      invariant (machine.perform action state).2)
    (state : State) (run : List Action) (initially : invariant state) :
    machine.Along first state run ↔ machine.Along second state run := by
  induction run generalizing state with
  | nil => exact Iff.rfl
  | cons action rest ih =>
      exact (and_congr_left fun _ => agree state action initially).trans
        (and_congr_right fun held => ih _ (step state action initially held))

/-! ## Two machines at one run -/

/-- Both machines take the actions of a run, and the demand holds of the outcomes of each. -/
def Together {Other : Type*} (other : Machine Other Action Outcome)
    (demand : Action → Outcome → Outcome → Prop) : State → Other → List Action → Prop
  | _, _, [] => True
  | state, second, action :: rest =>
      demand action (machine.perform action state).1 (other.perform action second).1 ∧
        Together other demand (machine.perform action state).2 (other.perform action second).2 rest

/-- A relation between the states that every step keeps, where the second machine may take
it, carries a demand on the outcomes along the run. -/
theorem together_of_steps {Other : Type*} {other : Machine Other Action Outcome}
    {demand : Action → Outcome → Outcome → Prop} {legal : Other → Action → Prop}
    (related : State → Other → Prop)
    (step : ∀ state second action, related state second → legal second action →
      demand action (machine.perform action state).1 (other.perform action second).1 ∧
        related (machine.perform action state).2 (other.perform action second).2)
    (state : State) (second : Other) (run : List Action) (initially : related state second)
    (legalRun : other.Along legal second run) :
    machine.Together other demand state second run := by
  induction run generalizing state second with
  | nil => exact trivial
  | cons action rest ih =>
      have taken := step state second action initially legalRun.1
      exact ⟨taken.1, ih _ _ taken.2 legalRun.2⟩

end Machine

end ModuleDatabase
