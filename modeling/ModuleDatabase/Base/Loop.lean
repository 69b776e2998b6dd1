import Mathlib.Logic.Relation

namespace ModuleDatabase

/-!
# Loops with a guard

`while (guard) { body }`, where the body may also leave the loop by itself.
A run is bounded by fuel; running out of it is no result.

Two rules are all that is used of a loop.  It ends if some number becomes
smaller in every turn, under an invariant; and what a turn preserves holds in
every state that a run reaches, in particular in the last one.
-/

/-- A loop; the body gives none where it leaves the loop. -/
structure Loop (State : Type*) where
  guard : State → Bool
  body : State → Option State

namespace Loop

variable {State : Type*} (loop : Loop State)

/-- The state in which the loop ends, and whether it is the guard that ends it. -/
def run : Nat → State → Option (State × Bool)
  | fuel, state =>
    if loop.guard state then
      match fuel with
      | 0 => none
      | fuel + 1 =>
        match loop.body state with
        | none => some (state, false)
        | some next => run fuel next
    else some (state, true)

/-- One turn: the guard holds, and the body comes to its end. -/
def Turn (state next : State) : Prop := loop.guard state = true ∧ loop.body state = some next

/-- Some turns lead from one state to the other. -/
def Reaches : State → State → Prop := Relation.ReflTransGen loop.Turn

variable {loop} {state next last : State} {fuel : Nat} {byGuard : Bool}

theorem run_of_turn (turn : loop.Turn state next) :
    loop.run (fuel + 1) state = loop.run fuel next := by
  rw [run, if_pos turn.1, turn.2]

theorem run_of_guard (stops : loop.guard state = false) :
    loop.run fuel state = some (state, true) := by
  unfold run
  rw [stops, if_neg Bool.false_ne_true]

theorem run_of_leave (holds : loop.guard state = true) (leaves : loop.body state = none) :
    loop.run (fuel + 1) state = some (state, false) := by
  rw [run, if_pos holds, leaves]

/-- The three things that can happen at the head of the loop. -/
theorem head_cases (loop : Loop State) (state : State) :
    loop.guard state = false ∨ loop.guard state = true ∧ loop.body state = none ∨
      ∃ next, loop.Turn state next := by
  cases guard : loop.guard state with
  | false => exact Or.inl rfl
  | true =>
      cases body : loop.body state with
      | none => exact Or.inr (Or.inl ⟨rfl, rfl⟩)
      | some next => exact Or.inr (Or.inr ⟨next, guard, body⟩)

/-- A run reaches the state in which it ends, and there it cannot go on. -/
theorem reaches_of_run (ends : loop.run fuel state = some (last, byGuard)) :
    loop.Reaches state last ∧ loop.guard last = !byGuard ∧
      (byGuard = false → loop.body last = none) := by
  induction fuel generalizing state with
  | zero =>
      cases guard : loop.guard state with
      | true =>
          rw [run, if_pos guard] at ends
          cases ends
      | false =>
          rw [run_of_guard guard] at ends
          cases ends
          exact ⟨Relation.ReflTransGen.refl, guard, fun impossible => by cases impossible⟩
  | succ fuel ih =>
      rcases loop.head_cases state with stops | ⟨holds, leaves⟩ | ⟨next, turn⟩
      · rw [run_of_guard stops] at ends
        cases ends
        exact ⟨Relation.ReflTransGen.refl, stops, fun impossible => by cases impossible⟩
      · rw [run_of_leave holds leaves] at ends
        cases ends
        exact ⟨Relation.ReflTransGen.refl, holds, fun _ => leaves⟩
      · rw [run_of_turn turn] at ends
        rcases ih ends with ⟨reached, stops, left⟩
        exact ⟨reached.head turn, stops, left⟩

/-- What every turn preserves, and relates to the state before it, holds wherever
a run comes. -/
theorem relation_of_reaches {invariant : State → Prop} (relation : State → State → Prop)
    (reflexive : ∀ state, relation state state)
    (transitive : ∀ first second third, relation first second → relation second third →
      relation first third)
    (step : ∀ state next, invariant state → loop.Turn state next →
      invariant next ∧ relation state next)
    (initially : invariant state) (reached : loop.Reaches state last) :
    invariant last ∧ relation state last := by
  induction reached with
  | refl => exact ⟨initially, reflexive state⟩
  | tail earlier turn ih =>
      rcases step _ _ ih.1 turn with ⟨still, related⟩
      exact ⟨still, transitive _ _ _ ih.2 related⟩

/-- What every turn preserves holds wherever a run comes. -/
theorem invariant_of_reaches {invariant : State → Prop}
    (step : ∀ state next, invariant state → loop.Turn state next → invariant next)
    (initially : invariant state) (reached : loop.Reaches state last) : invariant last :=
  (relation_of_reaches (fun _ _ => True) (fun _ => trivial)
    (fun _ _ _ _ _ => trivial) (fun state next holds turn => ⟨step state next holds turn, trivial⟩)
    initially reached).1

/-- A run goes on from every state that it reaches. -/
theorem reaches_last (ends : loop.run fuel state = some (last, byGuard))
    (reached : loop.Reaches state next) : loop.Reaches next last := by
  induction reached using Relation.ReflTransGen.head_induction_on generalizing fuel with
  | refl => exact (reaches_of_run ends).1
  | head turn later ih =>
      cases fuel with
      | zero =>
          rw [run, if_pos turn.1] at ends
          cases ends
      | succ fuel =>
          rw [run_of_turn turn] at ends
          exact ih ends

/-- A loop ends if every turn makes a number smaller. -/
theorem run_ends (invariant : State → Prop) (measure : State → Nat)
    (step : ∀ state next, invariant state → loop.Turn state next →
      invariant next ∧ measure next < measure state)
    (initially : invariant state) (enough : measure state < fuel) :
    ∃ last byGuard, loop.run fuel state = some (last, byGuard) := by
  induction fuel generalizing state with
  | zero => exact absurd enough (Nat.not_lt_zero _)
  | succ fuel ih =>
      rcases loop.head_cases state with stops | ⟨holds, leaves⟩ | ⟨next, turn⟩
      · exact ⟨state, true, run_of_guard stops⟩
      · exact ⟨state, false, run_of_leave holds leaves⟩
      · rcases step state next initially turn with ⟨still, smaller⟩
        rw [run_of_turn turn]
        exact ih still (by omega)

end Loop

end ModuleDatabase
