import ModuleDatabase.Migration.Conservation
import ModuleDatabase.Migration.Presence

namespace ModuleDatabase
namespace Migration

open Text
open Sql

/-!
# Are unlisted tables left alone?

`buildTables` executes a configured statement if a listed name stands in it
before ` (`, be it as the end of another name or in a reference.  So statements
of unlisted tables are executed too.  Such a statement does no harm if it says
`IF NOT EXISTS` and the table is there; otherwise it creates a table that
nobody asked for, or it throws, and nothing catches that.

The second phase is one sequence of statements.  Which of them are reached is
part of the condition, since a listed table may stop the sequence itself.  A
statement is reached if those that are matched before it work in the first pass,
and that depends on the keys of the tables only.

`sqlite_sequence` counts as an unlisted table: whether it is there must not change
either.
-/

variable {V : Type}

/-- Unlisted tables that exist stay. -/
def Grows (tables : List String) (state next : Conn V) : Prop :=
  ∀ key, Unlisted tables key → (state.db.lookup key).isSome = true →
    next.db.lookup key = state.db.lookup key

theorem Grows.refl (tables : List String) (state : Conn V) : Grows tables state state :=
  fun _ _ _ => rfl

theorem Grows.trans {tables : List String} (first second third : Conn V)
    (before : Grows tables first second) (after : Grows tables second third) :
    Grows tables first third := by
  intro key unlisted present
  have same := before key unlisted present
  rw [← same] at present ⊢
  exact after key unlisted present

section Statements

variable {engine : Engine V} {statements tables : List String} {sql : String}

/-- The statements of the second phase drop listed tables, or are configured. -/
theorem mem_phaseTexts (member : sql ∈ phaseTexts statements tables) :
    (∃ table ∈ tables, sql = "DROP TABLE IF EXISTS " ++ table) ∨ sql ∈ statements := by
  rcases List.mem_flatMap.mp member with ⟨-, -, inside⟩
  rcases List.mem_append.mp inside with drops | creates
  · rcases List.mem_map.mp drops with ⟨table, among, same⟩
    exact Or.inl ⟨table, among, same.symm⟩
  · exact Or.inr (mem_matched.mp creates).1

variable (documented : engine.Documented) (plain : ∀ table ∈ tables, engine.Plain table)
  (creating : Creating engine statements) (member : sql ∈ phaseTexts statements tables)
include documented plain creating member

end Statements

/-! ## Statements that are reached -/

section Reaching

variable {engine : Engine V} {statements tables : List String} {sql : String}

variable (documented : engine.Documented) (steady : engine.Steady)
  (plain : ∀ table ∈ tables, engine.Plain table) (creating : Creating engine statements)
  (nonempty : tables ≠ []) {backed : Conn V}
include documented steady plain creating nonempty

end Reaching

section Whole

variable {engine : Engine V} (documented : engine.Documented) (prefixed : engine.Prefixed)
  {sqls : KtAutoSqls} {dbName : String} {tables : List String}
  (plain : ∀ table ∈ tables, engine.Plain table) (nonempty : tables ≠ []) {conn : Conn V}
include documented prefixed plain nonempty

variable (steady : engine.Steady) (creating : Creating engine (configured sqls dbName))
include steady creating

end Whole

/-! ## A name that ends like another -/

section Small

open Sql.Reference

end Small

end Migration
end ModuleDatabase
