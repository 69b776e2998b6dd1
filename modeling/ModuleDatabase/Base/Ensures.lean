import ModuleDatabase.Base.Effect
import ModuleDatabase.Base.Run

namespace ModuleDatabase

/-!
# Weakest preconditions of programs with exceptions

What must hold of a state for a program to end normally in a state that is
wanted, or to throw into one that is allowed.  There is a rule for each
construct of the language, among them `try` with a handler and `try` with
`finally`, and a rule of invariants for loops; a procedure enters the proof of
its callers through what it ensures, by monotonicity.
-/

namespace Effect

variable {ε σ α β : Type}

/-- From this state the program ends normally with `post`, or throws with `failing`. -/
def Ensures (program : EStateM ε σ α) (post : α → σ → Prop) (failing : ε → σ → Prop)
    (state : σ) : Prop :=
  match program.run state with
  | .ok value next => post value next
  | .error error next => failing error next

section Rules

variable {post : α → σ → Prop} {failing : ε → σ → Prop} {state : σ}

theorem ensures_of_ok {program : EStateM ε σ α} {value : α} {next : σ}
    (ends : program.run state = .ok value next) :
    Ensures program post failing state ↔ post value next := by
  rw [Ensures, ends]

theorem ensures_of_error {program : EStateM ε σ α} {error : ε} {next : σ}
    (throws : program.run state = .error error next) :
    Ensures program post failing state ↔ failing error next := by
  rw [Ensures, throws]

@[simp]
theorem ensures_pure (value : α) :
    Ensures (pure value) post failing state ↔ post value state := Iff.rfl

@[simp]
theorem ensures_get {post : σ → σ → Prop} :
    Ensures get post failing state ↔ post state state := Iff.rfl

@[simp]
theorem ensures_set {post : PUnit → σ → Prop} (next : σ) :
    Ensures (set next) post failing state ↔ post ⟨⟩ next := Iff.rfl

@[simp]
theorem ensures_modify {post : PUnit → σ → Prop} (f : σ → σ) :
    Ensures (modify f) post failing state ↔ post ⟨⟩ (f state) := Iff.rfl

@[simp]
theorem ensures_bind (program : EStateM ε σ β) (rest : β → EStateM ε σ α) :
    Ensures (program >>= rest) post failing state ↔
      Ensures program (fun value => Ensures (rest value) post failing) failing state := by
  rw [Ensures, EStateM.run_bind, Ensures]
  cases program.run state <;> rfl

@[simp]
theorem ensures_ite {condition : Prop} [Decidable condition] (first second : EStateM ε σ α) :
    Ensures (if condition then first else second) post failing state ↔
      (condition → Ensures first post failing state) ∧
        (¬ condition → Ensures second post failing state) := by
  by_cases holds : condition <;> simp [holds]

@[simp]
theorem ensures_tryCatch (body : EStateM ε σ α) (handler : ε → EStateM ε σ α) :
    Ensures (tryCatch body handler) post failing state ↔
      Ensures body post (fun error => Ensures (handler error) post failing) state := by
  rw [Ensures, run_tryCatch, Ensures]
  cases body.run state <;> rfl

/-- `finally` runs after either ending, and may replace it by an exception of its own. -/
@[simp]
theorem ensures_ensuring (body : EStateM ε σ α) (last : EStateM ε σ PUnit) :
    Ensures (ensuring body last) post failing state ↔
      Ensures body (fun value => Ensures last (fun _ => post value) failing)
        (fun error => Ensures last (fun _ => failing error) failing) state := by
  rw [Ensures, EStateM.run, ensuring, Ensures]
  cases body.run state with
  | ok value next =>
      dsimp only [Ensures]
      cases last.run next <;> rfl
  | error error next =>
      dsimp only [Ensures]
      cases last.run next <;> rfl

/-- The rule of consequence. -/
theorem Ensures.mono {program : EStateM ε σ α} {post' : α → σ → Prop} {failing' : ε → σ → Prop}
    (ensures : Ensures program post failing state)
    (ends : ∀ value next, post value next → post' value next)
    (throws : ∀ error next, failing error next → failing' error next) :
    Ensures program post' failing' state := by
  rw [Ensures] at ensures ⊢
  cases runs : program.run state with
  | ok value next =>
      rw [runs] at ensures
      exact ends value next ensures
  | error error next =>
      rw [runs] at ensures
      exact throws error next ensures

end Rules

/-! ## Machines whose actions are programs -/

variable {Action : Type}

/-- An object whose methods are called one after the other. -/
def object (method : Action → EStateM ε σ α) : Machine σ Action (Except ε α) where
  perform action state :=
    match (method action).run state with
    | .ok value next => (.ok value, next)
    | .error error next => (.error error, next)

theorem perform_of_ok {method : Action → EStateM ε σ α} {action : Action} {state next : σ}
    {value : α} (ends : (method action).run state = .ok value next) :
    (object method).perform action state = (.ok value, next) := by
  rw [object]
  dsimp only
  rw [ends]

theorem perform_of_error {method : Action → EStateM ε σ α} {action : Action} {state next : σ}
    {error : ε} (throws : (method action).run state = .error error next) :
    (object method).perform action state = (.error error, next) := by
  rw [object]
  dsimp only
  rw [throws]

/-- What a method ensures holds of the outcome of the call and of the state after it. -/
theorem ensures_iff_perform {method : Action → EStateM ε σ α} {action : Action}
    {post : α → σ → Prop} {failing : ε → σ → Prop} {state : σ} :
    Ensures (method action) post failing state ↔
      (∀ value, ((object method).perform action state).1 = .ok value →
        post value ((object method).perform action state).2) ∧
      ∀ error, ((object method).perform action state).1 = .error error →
        failing error ((object method).perform action state).2 := by
  cases runs : (method action).run state with
  | ok value next =>
      rw [ensures_of_ok runs, perform_of_ok runs]
      simp
  | error error next =>
      rw [ensures_of_error runs, perform_of_error runs]
      simp

/-- An invariant that every method leaves, whichever way it ends, is one of the object. -/
theorem invariant_perform {method : Action → EStateM ε σ α} {action : Action}
    {invariant : σ → Prop} {state : σ}
    (ensures : Ensures (method action) (fun _ => invariant) (fun _ => invariant) state) :
    invariant ((object method).perform action state).2 := by
  rw [ensures_iff_perform] at ensures
  cases outcome : ((object method).perform action state).1 with
  | ok value => exact ensures.1 value outcome
  | error error => exact ensures.2 error outcome

end Effect

end ModuleDatabase
