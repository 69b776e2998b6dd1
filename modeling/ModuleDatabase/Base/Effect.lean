import Mathlib.Logic.Basic

namespace ModuleDatabase

/-!
# Programs with exceptions that keep the state

`EStateM ε σ` is the meaning of a statement of an imperative language: it
changes a state and either ends normally or throws, and a throw does not undo
what was done before it.  A handler therefore starts in the state of the
throw.

Core has the equations of `pure`, `bind`, `get` and `set` on a state.  Added
here are those of `throw` at any result type and of `tryCatch`, and the rules
of a loop over a list: an invariant over the part already visited, for loops
whose body ends normally; a transitive relation between the states of a loop
that has ended normally; and how loops with tests and loops inside loops are
single loops.
-/

namespace Effect

variable {ε σ α β : Type}

@[simp]
theorem run_throw (error : ε) (state : σ) :
    EStateM.run (throw error : EStateM ε σ α) state = .error error state := rfl

@[simp]
theorem run_tryCatch (body : EStateM ε σ α) (handler : ε → EStateM ε σ α) (state : σ) :
    EStateM.run (tryCatch body handler) state =
      match EStateM.run body state with
      | .ok value next => .ok value next
      | .error error next => EStateM.run (handler error) next := by
  have unfolded : EStateM.run (tryCatch body handler) state =
      EStateM.tryCatch body handler state := rfl
  rw [unfolded]
  unfold EStateM.tryCatch EStateM.run
  cases ran : body state with
  | ok value next => rfl
  | error error next => rfl

@[simp]
theorem run_map (f : α → β) (program : EStateM ε σ α) (state : σ) :
    EStateM.run (f <$> program) state =
      match EStateM.run program state with
      | .ok value next => .ok (f value) next
      | .error error next => .error error next := rfl

/-- `try { body } finally { last }`: an exception of `last` takes precedence. -/
def ensuring (body : EStateM ε σ α) (last : EStateM ε σ PUnit) : EStateM ε σ α := fun state =>
  match body.run state with
  | .ok value next =>
      match last.run next with
      | .ok _ final => .ok value final
      | .error error final => .error error final
  | .error error next =>
      match last.run next with
      | .ok _ final => .error error final
      | .error error final => .error error final

theorem run_ensuring_of_ok {body : EStateM ε σ α} {last : EStateM ε σ PUnit}
    {state next final : σ} {value : α} (ends : body.run state = .ok value next)
    (closes : last.run next = .ok ⟨⟩ final) :
    (ensuring body last).run state = .ok value final := by
  rw [EStateM.run, ensuring, ends]
  dsimp only
  rw [closes]

/-- A program that ends normally with `finally` has ended normally without. -/
theorem ok_of_run_ensuring {body : EStateM ε σ α} {last : EStateM ε σ PUnit} {state final : σ}
    {value : α} (ends : (ensuring body last).run state = .ok value final) :
    ∃ next, body.run state = .ok value next ∧ last.run next = .ok ⟨⟩ final := by
  rw [EStateM.run, ensuring] at ends
  cases first : body.run state with
  | error error next =>
      rw [first] at ends
      dsimp only at ends
      cases second : last.run next <;> rw [second] at ends <;> cases ends
  | ok value' next =>
      rw [first] at ends
      dsimp only at ends
      cases second : last.run next with
      | error error final' =>
          rw [second] at ends
          cases ends
      | ok done final' =>
          rw [second] at ends
          cases ends
          exact ⟨next, rfl, second⟩

/-! ## Loops over a list -/

@[simp]
theorem run_forM_nil (body : α → EStateM ε σ PUnit) (state : σ) :
    EStateM.run (List.forM [] body) state = .ok ⟨⟩ state := rfl

@[simp]
theorem run_forM_cons (body : α → EStateM ε σ PUnit) (value : α) (rest : List α) (state : σ) :
    EStateM.run (List.forM (value :: rest) body) state =
      match EStateM.run (body value) state with
      | .ok _ next => EStateM.run (List.forM rest body) next
      | .error error next => .error error next := by
  rw [List.forM, EStateM.run_bind]
  cases EStateM.run (body value) state <;> rfl

/-- A loop returns if its first turn does and the rest returns from there. -/
theorem returns_forM_cons_iff (body : α → EStateM ε σ PUnit) (value : α) (rest : List α)
    (state : σ) :
    (∃ next, (List.forM (value :: rest) body).run state = .ok ⟨⟩ next) ↔
      ∃ mid, (body value).run state = .ok ⟨⟩ mid ∧
        ∃ next, (List.forM rest body).run mid = .ok ⟨⟩ next := by
  rw [run_forM_cons]
  cases (body value).run state with
  | error thrown last =>
      refine iff_of_false ?_ ?_
      · rintro ⟨next, impossible⟩
        cases impossible
      · rintro ⟨mid, impossible, -⟩
        cases impossible
  | ok done mid =>
      constructor
      · intro returns
        exact ⟨mid, rfl, returns⟩
      · rintro ⟨other, same, returns⟩
        cases same
        exact returns

/-- A loop whose body always ends normally ends normally, and keeps an
invariant over the part that it has visited. -/
theorem run_forM_invariant {body : α → EStateM ε σ PUnit} (values : List α)
    (invariant : List α → σ → Prop)
    (step : ∀ visited value rest state, values = visited ++ value :: rest →
      invariant visited state →
      ∃ next, EStateM.run (body value) state = .ok ⟨⟩ next ∧ invariant (visited ++ [value]) next)
    {state : σ} (initially : invariant [] state) :
    ∃ next, EStateM.run (List.forM values body) state = .ok ⟨⟩ next ∧ invariant values next := by
  have general : ∀ rest visited state, values = visited ++ rest → invariant visited state →
      ∃ next, EStateM.run (List.forM rest body) state = .ok ⟨⟩ next ∧ invariant values next := by
    intro rest
    induction rest with
    | nil =>
        intro visited state split holds
        rw [List.append_nil] at split
        exact ⟨state, rfl, split ▸ holds⟩
    | cons value rest ih =>
        intro visited state split holds
        rcases step visited value rest state split holds with ⟨next, ends, holdsNext⟩
        rw [run_forM_cons, ends]
        apply ih (visited ++ [value]) next
        · rw [split, List.append_assoc, List.singleton_append]
        · exact holdsNext
  exact general values [] state rfl initially

/-- A loop whose body does nothing does nothing. -/
theorem run_forM_pure {body : α → EStateM ε σ PUnit} (values : List α)
    (nothing : ∀ value ∈ values, body value = pure ⟨⟩) (state : σ) :
    EStateM.run (List.forM values body) state = .ok ⟨⟩ state := by
  induction values with
  | nil => rfl
  | cons value rest ih =>
      rw [run_forM_cons, nothing value List.mem_cons_self]
      exact ih fun other member => nothing other (List.mem_cons_of_mem _ member)

theorem run_forM_append (body : α → EStateM ε σ PUnit) (first second : List α) (state : σ) :
    EStateM.run (List.forM (first ++ second) body) state =
      match EStateM.run (List.forM first body) state with
      | .ok _ next => EStateM.run (List.forM second body) next
      | .error error next => .error error next := by
  induction first generalizing state with
  | nil => rfl
  | cons value rest ih =>
      rw [List.cons_append, run_forM_cons, run_forM_cons]
      cases EStateM.run (body value) state with
      | ok done next => exact ih next
      | error error next => rfl

/-- A loop whose body tests its value is a loop over the values that pass. -/
theorem run_forM_filter (body : α → EStateM ε σ PUnit) (test : α → Bool) (values : List α)
    (state : σ) :
    EStateM.run (List.forM values fun value => if test value then body value else pure ⟨⟩) state =
      EStateM.run (List.forM (values.filter test) body) state := by
  induction values generalizing state with
  | nil => rfl
  | cons value rest ih =>
      rw [run_forM_cons]
      cases passes : test value with
      | true =>
          rw [if_pos rfl, List.filter_cons_of_pos passes, run_forM_cons]
          cases EStateM.run (body value) state with
          | ok done next => exact ih next
          | error error next => rfl
      | false =>
          rw [if_neg Bool.false_ne_true, List.filter_cons_of_neg (by rw [passes]; decide)]
          exact ih state

/-- A loop inside a loop is one loop. -/
theorem run_forM_flatMap {ι : Type} (body : α → EStateM ε σ PUnit) (parts : ι → List α)
    (values : List ι) (state : σ) :
    EStateM.run (List.forM values fun value => List.forM (parts value) body) state =
      EStateM.run (List.forM (values.flatMap parts) body) state := by
  induction values generalizing state with
  | nil => rfl
  | cons value rest ih =>
      rw [run_forM_cons, List.flatMap_cons, run_forM_append]
      cases EStateM.run (List.forM (parts value) body) state with
      | ok done next => exact ih next
      | error error next => rfl

theorem run_forM_map {ι : Type} (body : α → EStateM ε σ PUnit) (f : ι → α) (values : List ι)
    (state : σ) :
    EStateM.run (List.forM (values.map f) body) state =
      EStateM.run (List.forM values fun value => body (f value)) state := by
  induction values generalizing state with
  | nil => rfl
  | cons value rest ih =>
      rw [List.map_cons, run_forM_cons, run_forM_cons]
      cases EStateM.run (body (f value)) state with
      | ok done next => exact ih next
      | error error next => rfl

/-- What every turn of a loop relates, the loop relates, if it has a turn. -/
theorem run_forM_relation {body : α → EStateM ε σ PUnit} (relation : σ → σ → Prop)
    (transitive : ∀ first second third, relation first second → relation second third →
      relation first third)
    (turn : ∀ value state next, EStateM.run (body value) state = .ok ⟨⟩ next →
      relation state next)
    {values : List α} (nonempty : values ≠ []) {state next : σ}
    (ends : EStateM.run (List.forM values body) state = .ok ⟨⟩ next) : relation state next := by
  induction values generalizing state with
  | nil => exact absurd rfl nonempty
  | cons value rest ih =>
      rw [run_forM_cons] at ends
      cases first : EStateM.run (body value) state with
      | error error middle =>
          rw [first] at ends
          cases ends
      | ok done middle =>
          rw [first] at ends
          have head := turn value state middle first
          cases rest with
          | nil =>
              cases ends
              exact head
          | cons other others =>
              exact transitive _ _ _ head (ih (List.cons_ne_nil _ _) ends)

/-! ## Final states -/

/-- The state in which a program ends, normally or by an exception. -/
def final (program : EStateM ε σ α) (state : σ) : σ :=
  match program.run state with
  | .ok _ next => next
  | .error _ next => next

theorem final_of_ok {program : EStateM ε σ α} {state next : σ} {value : α}
    (ends : program.run state = .ok value next) : final program state = next := by
  rw [final, ends]

theorem final_of_error {program : EStateM ε σ α} {state next : σ} {error : ε}
    (ends : program.run state = .error error next) : final program state = next := by
  rw [final, ends]

theorem final_bind (program : EStateM ε σ α) (rest : α → EStateM ε σ β) (state : σ) :
    final (program >>= rest) state =
      match program.run state with
      | .ok value next => final (rest value) next
      | .error _ next => next := by
  rw [final, EStateM.run_bind]
  cases program.run state <;> rfl

/-- A program whose exceptions are swallowed. -/
theorem run_tryCatch_ignored (body : EStateM ε σ PUnit) (state : σ) :
    EStateM.run (tryCatch body fun _ => pure ⟨⟩) state = .ok ⟨⟩ (final body state) := by
  rw [run_tryCatch, final]
  cases body.run state <;> rfl

/-! ## Turns of a loop that are reached -/

/-- A loop comes to a value, in this state. -/
def Reaches (body : α → EStateM ε σ PUnit) (values : List α) (state : σ) (value : α) (mid : σ) :
    Prop :=
  ∃ before after, values = before ++ value :: after ∧
    EStateM.run (List.forM before body) state = .ok ⟨⟩ mid

/-- The value at which a loop throws. -/
def stop (body : α → EStateM ε σ PUnit) : List α → σ → Option α
  | [], _ => none
  | value :: rest, state =>
      match (body value).run state with
      | .ok _ next => stop body rest next
      | .error _ _ => some value

section Reached

variable {body : α → EStateM ε σ PUnit} {values : List α} {state mid : σ} {value first : α}

theorem reaches_cons :
    Reaches body (first :: values) state value mid ↔
      (value = first ∧ mid = state) ∨
        ∃ next, (body first).run state = .ok ⟨⟩ next ∧ Reaches body values next value mid := by
  constructor
  · rintro ⟨before, after, split, runs⟩
    cases before with
    | nil =>
        cases runs
        rw [List.nil_append, List.cons.injEq] at split
        exact Or.inl ⟨split.1.symm, rfl⟩
    | cons head rest =>
        rw [List.cons_append, List.cons.injEq] at split
        rw [run_forM_cons, ← split.1] at runs
        right
        cases turn : (body first).run state with
        | error error next =>
            rw [turn] at runs
            cases runs
        | ok done next =>
            rw [turn] at runs
            exact ⟨next, rfl, rest, after, split.2, runs⟩
  · rintro (⟨same, start⟩ | ⟨next, turn, before, after, split, runs⟩)
    · subst same
      subst start
      exact ⟨[], values, rfl, rfl⟩
    · refine ⟨first :: before, after, ?_, ?_⟩
      · rw [split, List.cons_append]
      · rw [run_forM_cons, turn]
        exact runs

theorem final_forM_cons (body : α → EStateM ε σ PUnit) (first : α) (values : List α) (state : σ) :
    final (List.forM (first :: values) body) state =
      match (body first).run state with
      | .ok _ next => final (List.forM values body) next
      | .error _ next => next := by
  rw [final, run_forM_cons]
  cases (body first).run state <;> rfl

/-- What every turn relates, the rest of a loop relates. -/
theorem final_forM_relation (relation : σ → σ → Prop) (reflexive : ∀ state, relation state state)
    (transitive : ∀ first second third, relation first second → relation second third →
      relation first third)
    (turn : ∀ value ∈ values, ∀ state, relation state (final (body value) state))
    (state : σ) : relation state (final (List.forM values body) state) := by
  induction values generalizing state with
  | nil => exact reflexive state
  | cons first rest ih =>
      have head := turn first List.mem_cons_self state
      rw [final_forM_cons]
      cases runs : (body first).run state with
      | error error next =>
          rw [final_of_error runs] at head
          exact head
      | ok done next =>
          rw [final_of_ok runs] at head
          exact transitive _ _ _ head
            (ih (fun value member => turn value (List.mem_cons_of_mem _ member)) next)

/-- A turn that is reached stands between the first state and the last. -/
theorem Reaches.relation {relation : σ → σ → Prop} (reflexive : ∀ state, relation state state)
    (transitive : ∀ first second third, relation first second → relation second third →
      relation first third)
    (turn : ∀ value ∈ values, ∀ state, relation state (final (body value) state))
    (reached : Reaches body values state value mid) :
    relation state mid ∧
      relation (final (body value) mid) (final (List.forM values body) state) := by
  induction values generalizing state with
  | nil =>
      rcases reached with ⟨before, after, split, -⟩
      exact absurd split.symm (List.append_ne_nil_of_right_ne_nil _ (List.cons_ne_nil _ _))
  | cons first rest ih =>
      have later : ∀ value ∈ rest, ∀ state, relation state (final (body value) state) :=
        fun value member => turn value (List.mem_cons_of_mem _ member)
      rw [final_forM_cons]
      rcases reaches_cons.mp reached with ⟨same, start⟩ | ⟨next, runs, further⟩
      · subst same
        subst start
        refine ⟨reflexive mid, ?_⟩
        cases runs : (body value).run mid with
        | error error next =>
            rw [final_of_error runs]
            exact reflexive next
        | ok done next =>
            rw [final_of_ok runs]
            exact final_forM_relation relation reflexive transitive later next
      · have head := turn first List.mem_cons_self state
        rw [final_of_ok runs] at head
        rw [runs]
        rcases ih later further with ⟨before, after⟩
        exact ⟨transitive _ _ _ head before, after⟩

end Reached

/-- The program ends normally, in a state that passes a test. -/
def endsIn (program : EStateM ε σ α) (test : σ → Bool) (state : σ) : Bool :=
  match program.run state with
  | .ok _ next => test next
  | .error _ _ => false

theorem endsIn_of_ok {program : EStateM ε σ α} {state next : σ} {value : α}
    (ends : program.run state = .ok value next) (test : σ → Bool) :
    endsIn program test state = test next := by
  rw [endsIn, ends]

theorem exists_of_endsIn {program : EStateM ε σ α} {test : σ → Bool} {state : σ}
    (ends : endsIn program test state = true) :
    ∃ value next, program.run state = .ok value next ∧ test next = true := by
  unfold endsIn at ends
  cases runs : program.run state with
  | error error next =>
      rw [runs] at ends
      cases ends
  | ok value next =>
      rw [runs] at ends
      exact ⟨value, next, rfl, ends⟩

end Effect

end ModuleDatabase
