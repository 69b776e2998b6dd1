import ModuleDatabase.Migration.Columns

namespace ModuleDatabase
namespace Migration

open Text
open Sql

/-!
# Are columns matched as the engine matches them?

The columns that a turn of the loop carries over are the ones in its own list
of properties.  They get the values of their namesakes in the backup, except
that the rows of a table with an `INTEGER PRIMARY KEY` are numbered where the
backup has null.
-/

variable {V : Type}

/-- A turn of the loop lists the common columns if and only if they are spelled
alike, and each column that it lists gets the values that the backup has for
it, unless the `INSERT` throws, or the column numbers the rows of the table and
the backup has null in it. -/
theorem restoreOne_matches_iff {engine : Engine V} (documented : engine.Documented)
    (steady : engine.Steady) {conn : Conn V} {table : String} (plain : engine.Plain table)
    {old : Schema V} {target made : Table V} (named : conn.db.named (tempOf table) = some made)
    (backs : made.schema.names = old.names)
    (plainColumns : ∀ column ∈ old.names, engine.Plain column)
    (found : conn.db.find table = some target) (fresh : target.rows = [])
    (properties : List String) :
    ∃ last, (restoreOne engine table).run ⟨conn, "", "", properties⟩ = .ok () last ∧
      (MatchesEngine last.properties target.schema old ↔ SpelledAlike target.schema old) ∧
      ∀ new, restoredFrom engine table (some target) made = some new →
        last.conn.db.find table = some new ∧
          ∀ name ∈ last.properties,
            (fold name ∈ target.schema.numbered →
              ∀ row ∈ made.rows, row (fold name) ≠ none) →
            new.rows.map (fun row => row (fold name)) =
              made.rows.map fun row => row (fold name) := by
  have plainShared : ∀ column ∈ sharedColumns
      ((conn.db.find table).elim [] fun target => target.schema.columns) made.schema.names,
      engine.Plain column := by
    intro column member
    rw [backs] at member
    exact plainColumns column (mem_sharedColumns.mp member).2.2
  rcases settles_one documented steady plain named plainShared .clean properties with
    ⟨last, ends, -, db, -, lists⟩
  rw [found, Option.elim, backs] at lists
  refine ⟨last, ends, ?_, ?_⟩
  · rw [lists]
    exact matchesEngine_sharedColumns_iff target.schema old
  · intro new restores
    constructor
    · rw [db, settleOne_find engine false conn.db (ne_temp table), if_neg Bool.false_ne_true, brings,
        named, Option.bind_some, found, restores, Option.some_or]
    · intro name member whole
      have among : ∀ column ∈ [name],
          column ∈ sharedColumns target.schema.columns made.schema.names := by
        intro column inside
        rw [List.mem_singleton.mp inside, backs, ← lists]
        exact member
      have stores : target.schema.Stores [name] made.rows := by
        intro column inside
        rw [List.mem_singleton.mp inside]
        exact whole
      have alone := (restoredFrom_project fresh among stores restores).2.2
      have cells : Row.project (V := V) [name] = (fun value => [value]) ∘
        fun row => row (fold name) := rfl
      rw [cells, ← List.map_map, ← List.map_map] at alone
      exact List.map_injective_iff.mpr List.singleton_injective alone

/-! ## A column in another case -/

section Small

open Sql.Reference

/-- A backup of the table with the column `x`. -/
def lowerBackup : Table Int where
  name := "A_TEMP"
  schema := schemaOf [⟨"x", "TEXT", false, false⟩]
  rows := [valueRow 7]
  apart := List.pairwise_singleton _ _

/-- `A` is created again with the column `X`, as the processor writes it. -/
def lowerCase : Conn Int := ⟨(valueTables [("A", [])]).put lowerBackup, 0⟩

/-- Then nothing is carried over. -/
theorem not_matches_lower_case :
    ∃ last, (restoreOne (failing []) "A").run ⟨lowerCase, "", "", []⟩ = .ok () last ∧
      ¬ MatchesEngine last.properties valueSchema lowerBackup.schema := by
  have evaluated : Effect.endsIn (restoreOne (failing []) "A")
      (fun last => last.properties.isEmpty) ⟨lowerCase, "", "", []⟩ = true := by decide +kernel
  rcases Effect.exists_of_endsIn evaluated with ⟨⟨⟩, last, ends, nothing⟩
  refine ⟨last, ends, ?_⟩
  intro matching
  have common : "x" ∈ last.properties.map fold :=
    (matching "x").mpr (by decide +kernel)
  rw [List.isEmpty_iff.mp nothing] at common
  cases common

/-- `A` is created again with the column `X`, and its backup has `X` too. -/
def sameCase : Conn Int := ⟨valueTables [("A_TEMP", [7]), ("A", [])], 0⟩

/-- Then `X` is carried over. -/
theorem matches_same_case :
    ∃ last, (restoreOne (failing []) "A").run ⟨sameCase, "", "", []⟩ = .ok () last ∧
      MatchesEngine last.properties valueSchema valueSchema := by
  have found : sameCase.db.find "A" = some (valueTable "A" []) := by
    unfold sameCase
    rw [valueTables_cons_find, if_neg (by decide), valueTables_cons_find, if_pos rfl]
  have named : sameCase.db.named (tempOf "A") = some (valueTable "A_TEMP" [7]) := by
    apply Database.named_eq_some.mpr
    refine ⟨?_, rfl⟩
    unfold sameCase
    rw [valueTables_cons_find, if_pos (by decide)]
  have plainColumns : ∀ column ∈ valueSchema.names, (failing []).Plain column := by
    have words : valueSchema.names.all plain = true := by decide +kernel
    exact fun column member => plain_failing (List.all_eq_true.mp words column member) []
  rcases restoreOne_matches_iff (documented_failing []) (steady_failing [])
    (plain_failing (by decide) []) named rfl plainColumns found rfl [] with ⟨last, ends, rightIff, -⟩
  refine ⟨last, ends, rightIff.mpr ?_⟩
  have alike : ∀ name ∈ valueSchema.names, ∀ other ∈ valueSchema.names, fold name = fold other →
      fold name ≠ "_id" → name = other ∧ sameIgnoringCase name "_id" = false := by decide +kernel
  exact alike

end Small

end Migration
end ModuleDatabase
