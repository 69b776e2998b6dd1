import ModuleDatabase.Migration.Phases
import ModuleDatabase.Migration.Presence
import ModuleDatabase.Migration.Recreation
import ModuleDatabase.Opening.DatabaseHelper

namespace ModuleDatabase
namespace Opening

open Text
open Sql
open Migration

/-!
# What an upgrade leaves

An upgrade migrates the tables of the update directive of the old version and
drops those of its delete directive.  Both lists may be missing; then nothing
is done, which is what a migration and a drop of no tables would leave.
-/

variable {V : Type}

/-- The tables that the update directive names. -/
def updates (sqls : KtAutoSqls) (dbName : String) (version : Int) : List String :=
  (ModuleReflectTool.getDatabaseUpdateTables sqls dbName version).getD []

/-- The tables that the delete directive names. -/
def deletes (sqls : KtAutoSqls) (dbName : String) (version : Int) : List String :=
  (ModuleReflectTool.getDatabaseDeleteTables sqls dbName version).getD []

/-- The directives of a version name plain tables. -/
structure PlainDirectives (engine : Engine V) (sqls : KtAutoSqls) (dbName : String)
    (version : Int) : Prop where
  plainUpdates : ∀ name ∈ updates sqls dbName version, engine.Plain name
  plainDeletes : ∀ name ∈ deletes sqls dbName version, engine.Plain name

/-- The directives of a version name plain tables, those of the update directive differ
and are not called like backups, and the database is in the shape in which upgrades
leave it. -/
structure Upgradeable (engine : Engine V) (sqls : KtAutoSqls) (dbName : String) (version : Int)
    (db : Database V) : Prop where
  listing : Listing engine (updates sqls dbName version)
  copyable : Copyable engine db (updates sqls dbName version)
  noLeftover : ∀ name ∈ updates sqls dbName version, db.find (tempOf name) = none
  unclaimed : ∀ name ∈ updates sqls dbName version,
    created engine (configured sqls dbName) (fold (tempOf name)) = none
  plainDeletes : ∀ name ∈ deletes sqls dbName version, engine.Plain name

/-- Migrating no tables leaves everything as it is. -/
theorem migrated_nil (engine : Engine V) (sqls : KtAutoSqls) (dbName : String) (db : Database V) :
    Migrated engine sqls dbName [] db db where
  table := by
    intro before name after split
    cases (List.append_eq_nil_iff.mp split.symm).2
  temp := fun name member => absurd member List.not_mem_nil
  other := by
    intro key apart
    rw [matched_nil, created, List.findSome?_nil, Option.or_none]

section Run

variable {engine : Engine V} (documented : engine.Documented) {sqls : KtAutoSqls}
  {dbName : String} {oldVersion newVersion : Int} {conn next : Conn V}

/-- An upgrade migrates the tables of its update directive, if there is one. -/
theorem run_upgradeTables :
    (upgradeTables engine sqls dbName oldVersion).run conn =
      if updates sqls dbName oldVersion = [] then .ok () conn
      else (migrateSpecifyTable engine sqls dbName (updates sqls dbName oldVersion)).run conn := by
  unfold upgradeTables updates
  cases directive : ModuleReflectTool.getDatabaseUpdateTables sqls dbName oldVersion with
  | none => rfl
  | some names =>
      cases names with
      | nil => rfl
      | cons name rest => rfl

include documented in
/-- What an upgrade drops. -/
theorem run_deleteTables (plain : ∀ name ∈ deletes sqls dbName oldVersion, engine.Plain name)
    (middle : Conn V) :
    ∃ next, (deleteTables engine sqls dbName oldVersion).run middle = .ok () next ∧
      (∀ key, next.db.lookup key =
        if key ∈ (deletes sqls dbName oldVersion).map fold then none
        else middle.db.lookup key) ∧
      next.db.sequence = middle.db.sequence := by
  unfold deleteTables
  unfold deletes at plain ⊢
  cases directive : ModuleReflectTool.getDatabaseDeleteTables sqls dbName oldVersion with
  | none => exact ⟨middle, rfl, fun key => rfl, rfl⟩
  | some names =>
      rw [directive] at plain
      cases names with
      | nil => exact ⟨middle, rfl, fun key => rfl, rfl⟩
      | cons name rest =>
          rcases run_cleanTables documented plain middle with ⟨next, drops, lookups⟩
          have sequence := sequence_cleanTables documented plain middle
          rw [Effect.final_of_ok drops] at sequence
          exact ⟨next, drops, lookups, sequence⟩

include documented in
/-- An upgrade that returns has migrated and then dropped. -/
theorem dropped_of_run (plain : ∀ name ∈ deletes sqls dbName oldVersion, engine.Plain name)
    (returns : (onUpgrade engine sqls dbName oldVersion newVersion).run conn = .ok () next) :
    ∃ middle, (upgradeTables engine sqls dbName oldVersion).run conn = .ok () middle ∧
      (∀ key, next.db.lookup key =
        if key ∈ (deletes sqls dbName oldVersion).map fold then none
        else middle.db.lookup key) ∧
      next.db.sequence = middle.db.sequence := by
  rw [onUpgrade, EStateM.run_bind] at returns
  cases migrates : (upgradeTables engine sqls dbName oldVersion).run conn with
  | error thrown last =>
      rw [migrates] at returns
      cases returns
  | ok done middle =>
      rw [migrates] at returns
      rcases run_deleteTables documented plain middle with ⟨last, drops, lookups, sequence⟩
      dsimp only at returns
      rw [drops] at returns
      cases returns
      exact ⟨middle, rfl, lookups, sequence⟩

variable (creating : Creating engine (configured sqls dbName))

section Plain

variable (prefixed : engine.Prefixed)
  (plain : ∀ name ∈ updates sqls dbName oldVersion, engine.Plain name)
include documented creating prefixed plain

/-- Which tables an upgrade leaves, backups apart. -/
theorem isSome_of_upgradeTables {middle : Conn V}
    (returns : (upgradeTables engine sqls dbName oldVersion).run conn = .ok () middle)
    {key : String} (apart : ∀ name ∈ updates sqls dbName oldVersion, key ≠ fold (tempOf name)) :
    (middle.db.lookup key).isSome =
      ((!((updates sqls dbName oldVersion).map fold).contains key &&
          (conn.db.lookup key).isSome) ||
        (created engine (matched (configured sqls dbName) (updates sqls dbName oldVersion))
          key).isSome) := by
  rw [run_upgradeTables] at returns
  by_cases nothing : updates sqls dbName oldVersion = []
  · rw [if_pos nothing] at returns
    cases returns
    rw [nothing, matched_nil, created, List.findSome?_nil, Option.isSome_none, Bool.or_false]
    rfl
  · rw [if_neg nothing] at returns
    rcases rebuilt_of_migrate documented prefixed plain nothing creating returns with
      ⟨backed, mid, rebuilt, shapes, kept, -⟩
    have still := congrArg Option.isSome (kept.shapes key apart)
    have before := congrArg Option.isSome (shapes key apart)
    rw [Option.isSome_map, Option.isSome_map] at still before
    rw [still, rebuilt key]
    by_cases listed : key ∈ (updates sqls dbName oldVersion).map fold
    · rw [if_pos listed, List.contains_iff_mem.mpr listed]
      rfl
    · have absent : ((updates sqls dbName oldVersion).map fold).contains key = false :=
        Bool.eq_false_iff.mpr fun among => listed (List.contains_iff_mem.mp among)
      rw [if_neg listed, absent, Option.isSome_or, before]
      rfl

/-- `sqlite_sequence` is there after an upgrade if it has been, or a statement brings
it. -/
theorem sequence_of_upgradeTables (steady : engine.Steady) {middle : Conn V}
    (returns : (upgradeTables engine sqls dbName oldVersion).run conn = .ok () middle) :
    middle.db.sequence =
      (conn.db.sequence || (backupsCount engine conn.db (updates sqls dbName oldVersion) ||
        counts engine (matched (configured sqls dbName) (updates sqls dbName oldVersion))
          (keysLeft engine conn.db (updates sqls dbName oldVersion)))) := by
  rw [run_upgradeTables] at returns
  by_cases nothing : updates sqls dbName oldVersion = []
  · rw [if_pos nothing] at returns
    cases returns
    rw [nothing, matched_nil, counts, backupsCount, List.any_nil, Bool.or_false, Bool.or_false]
  · rw [if_neg nothing] at returns
    have sequence := sequence_final_migrate documented prefixed steady plain nothing creating conn
    rw [Effect.final_of_ok returns] at sequence
    exact sequence

end Plain

variable (upgradeable : Upgradeable engine sqls dbName oldVersion conn.db)
include documented creating upgradeable

/-- What an upgrade has migrated, if that returns. -/
theorem migrated_of_upgradeTables (steady : engine.Steady) {middle : Conn V}
    (returns : (upgradeTables engine sqls dbName oldVersion).run conn = .ok () middle) :
    Migrated engine sqls dbName (updates sqls dbName oldVersion) conn.db middle.db := by
  rcases upgradeable with ⟨listing, copyable, noLeftover, unclaimed, -⟩
  rw [run_upgradeTables] at returns
  by_cases nothing : updates sqls dbName oldVersion = []
  · rw [if_pos nothing] at returns
    cases returns
    rw [nothing]
    exact migrated_nil engine sqls dbName conn.db
  · rw [if_neg nothing] at returns
    exact migrated_of_run documented steady listing creating nothing copyable noLeftover unclaimed
      returns

end Run

/-! ## Versions without directives -/

section Nothing

variable {engine : Engine V} {sqls : KtAutoSqls} {dbName : String} {version : Int}
  (noUpdates : updates sqls dbName version = []) (noDeletes : deletes sqls dbName version = [])
include noUpdates noDeletes

/-- Leaving a version without directives changes nothing. -/
theorem run_onUpgrade_of_nil (engine : Engine V) (newVersion : Int) (conn : Conn V) :
    (onUpgrade engine sqls dbName version newVersion).run conn = .ok () conn := by
  unfold updates at noUpdates
  unfold deletes at noDeletes
  have migrates : (upgradeTables engine sqls dbName version).run conn = .ok () conn := by
    unfold upgradeTables
    cases directive : ModuleReflectTool.getDatabaseUpdateTables sqls dbName version with
    | none => rfl
    | some names =>
        rw [directive, Option.getD_some] at noUpdates
        rw [noUpdates]
        rfl
  have drops : (deleteTables engine sqls dbName version).run conn = .ok () conn := by
    unfold deleteTables
    cases directive : ModuleReflectTool.getDatabaseDeleteTables sqls dbName version with
    | none => rfl
    | some names =>
        rw [directive, Option.getD_some] at noDeletes
        rw [noDeletes]
        rfl
  rw [onUpgrade, EStateM.run_bind, migrates]
  exact drops

theorem upgradeable_of_nil (engine : Engine V) (db : Database V) :
    Upgradeable engine sqls dbName version db where
  listing := by
    rw [noUpdates]
    constructor
    · exact fun name member => absurd member List.not_mem_nil
    · exact fun name member => absurd member List.not_mem_nil
    · exact List.Pairwise.nil
  copyable := by
    rw [noUpdates]
    exact fun name member => absurd member List.not_mem_nil
  noLeftover := by
    rw [noUpdates]
    exact fun name member => absurd member List.not_mem_nil
  unclaimed := by
    rw [noUpdates]
    exact fun name member => absurd member List.not_mem_nil
  plainDeletes := by
    rw [noDeletes]
    exact fun name member => absurd member List.not_mem_nil

end Nothing

end Opening
end ModuleDatabase
