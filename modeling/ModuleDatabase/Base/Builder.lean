import Mathlib.Data.List.Basic

namespace ModuleDatabase

/-!
# Texts built by loops

A loop appends a piece for each element of a list, with separators between the
pieces.  There are two ways to leave out the last separator: the loop looks
whether the element is the last one, or it appends a separator behind every
piece and the last one is cut off afterwards.  Both come to joining the pieces.
-/

section Builder

variable {α β σ : Type}

/-- A loop over a list, with the number of each element. -/
def forEachIndexed (values : List α) (state : σ) (action : Nat → α → σ → σ) : σ :=
  values.zipIdx.foldl (fun state entry => action entry.2 entry.1 state) state

/-- A loop that looks for the last element joins the pieces. -/
theorem forEachIndexed_separated {values : List α} {builder : List β}
    {action : Nat → α → List β → List β} {piece : α → List β} {separator : List β}
    (appends : ∀ index value builder, action index value builder =
      builder ++ (piece value ++ if index = values.length - 1 then [] else separator)) :
    forEachIndexed values builder action =
      builder ++ separator.intercalate (values.map piece) := by
  have general : ∀ (rest : List α) (start : Nat) (builder : List β),
      start + rest.length = values.length →
      (rest.zipIdx start).foldl (fun builder entry => action entry.2 entry.1 builder) builder =
        builder ++ separator.intercalate (rest.map piece) := by
    intro rest
    induction rest with
    | nil =>
        intro start builder _
        simp
    | cons value others ih =>
        intro start builder place
        rw [List.length_cons] at place
        rw [List.zipIdx_cons, List.foldl_cons, ih (start + 1) _ (by omega)]
        cases others with
        | nil =>
            have last : start = values.length - 1 := by
              rw [List.length_nil] at place
              omega
            simp [appends, last]
        | cons other more =>
            have early : start ≠ values.length - 1 := by
              rw [List.length_cons] at place
              omega
            simp [appends, early, List.intercalate_cons_cons]
  exact general values 0 builder (Nat.zero_add _)

/-- A loop that appends a separator behind every piece joins the pieces, and leaves one
separator too many. -/
theorem foldl_trailing {values : List α} (nonempty : values ≠ []) (piece : α → List β)
    (separator builder : List β) :
    values.foldl (fun builder value => builder ++ piece value ++ separator) builder =
      builder ++ separator.intercalate (values.map piece) ++ separator := by
  induction values generalizing builder with
  | nil => exact absurd rfl nonempty
  | cons value others ih =>
      cases others with
      | nil => simp
      | cons other more =>
          rw [List.foldl_cons, ih (List.cons_ne_nil _ _)]
          simp [List.intercalate_cons_cons]

/-- An ending of every piece may be counted to the separator, and stands behind the last piece. -/
theorem intercalate_ending {values : List α} (nonempty : values ≠ []) (piece : α → List β)
    (ending separator : List β) :
    separator.intercalate (values.map fun value => piece value ++ ending) =
      (ending ++ separator).intercalate (values.map piece) ++ ending := by
  induction values with
  | nil => exact absurd rfl nonempty
  | cons value others ih =>
      cases others with
      | nil => simp
      | cons other more =>
          have later := ih (List.cons_ne_nil _ _)
          simp only [List.map_cons, List.intercalate_cons_cons] at later ⊢
          rw [later]
          simp

/-- An opening of every piece may be counted to the separator, and stands before the first piece. -/
theorem intercalate_opening {values : List α} (nonempty : values ≠ []) (piece : α → List β)
    (opening separator : List β) :
    separator.intercalate (values.map fun value => opening ++ piece value) =
      opening ++ (separator ++ opening).intercalate (values.map piece) := by
  induction values with
  | nil => exact absurd rfl nonempty
  | cons value others ih =>
      cases others with
      | nil => simp
      | cons other more =>
          have later := ih (List.cons_ne_nil _ _)
          simp only [List.map_cons, List.intercalate_cons_cons] at later ⊢
          rw [later]
          simp

/-- Joining copies of one text. -/
theorem intercalate_replicate (separator text : List β) (count : Nat) :
    separator.intercalate (List.replicate (count + 1) text) =
      (List.replicate count (text ++ separator)).flatten ++ text := by
  induction count with
  | zero => simp
  | succ count ih =>
      rw [List.replicate_succ, List.replicate_succ, List.intercalate_cons_cons,
        ← List.replicate_succ, ih, List.replicate_succ, List.flatten_cons]
      simp

end Builder

end ModuleDatabase
