import ModuleDatabase.Migration.Loss
import ModuleDatabase.Opening.Creation
import ModuleDatabase.Opening.Upgrade

namespace ModuleDatabase
namespace Opening

open Text
open Sql
open Migration

/-!
# Does a successful open mean a complete schema?

Whoever gets a handle expects every table that the configuration creates,
except those that are to be deleted.

In a database without a version the tables are created inside a nested
transaction, and its exception is swallowed.  The outer transaction is then
rolled back in silence, and the handle is returned all the same.  In an older
database nothing but the update directive decides what is created.
-/

variable {V : Type}

/-- A configured statement creates the table, and no delete directive names it. -/
def Required (engine : Engine V) (sqls : KtAutoSqls) (dbName key : String) : Prop :=
  (created engine (configured sqls dbName) key).isSome = true ∧
    ∀ version, key ∉ (deletes sqls dbName version).map fold

/-- All required tables exist. -/
def Complete (engine : Engine V) (sqls : KtAutoSqls) (dbName : String) (db : Database V) : Prop :=
  ∀ key, Required engine sqls dbName key → (db.lookup key).isSome = true

/-- After an upgrade the table is there: it was there and is not migrated, or a
statement creates it in which the name of a migrated table stands. -/
def Supplied (engine : Engine V) (sqls : KtAutoSqls) (dbName : String) (version : Int)
    (db : Database V) (key : String) : Prop :=
  (key ∉ (updates sqls dbName version).map fold ∧ (db.lookup key).isSome = true) ∨
    (created engine (matched (configured sqls dbName) (updates sqls dbName version)) key).isSome =
      true

/-! ## Older databases -/

section Older

variable {engine : Engine V} {sqls : KtAutoSqls} {dbName : String} {session next : Session V}

/-- An older database is opened if its upgrade returns. -/
theorem upgrade_of_run {newVersion : Int} (versioned : session.version ≠ 0)
    (below : session.version < newVersion) (idle : session.transactions = [])
    (returns : (getDatabaseLocked engine sqls dbName newVersion).run session = .ok () next) :
    ∃ last, (onUpgrade engine sqls dbName session.version newVersion).run session.conn =
      .ok () last ∧ next.conn.db = last.db := by
  rcases session with ⟨conn, version, transactions, saved⟩
  dsimp only at versioned below idle ⊢
  subst idle
  have reads : (getVersion : InSession V Int).run ⟨conn, version, [], saved⟩ =
      .ok version ⟨conn, version, [], saved⟩ := rfl
  have begins : (beginTransaction : InSession V Unit).run ⟨conn, version, [], saved⟩ =
      .ok () ⟨conn, version, [⟨false, false⟩], some (conn.db, version)⟩ := rfl
  rw [getDatabaseLocked, EStateM.run_bind, reads] at returns
  dsimp only at returns
  rw [if_neg (Int.ne_of_lt below), EStateM.run_bind, begins] at returns
  dsimp only at returns
  rcases Effect.ok_of_run_ensuring returns with ⟨middle, body, closes⟩
  rw [EStateM.run_bind, onVersion, if_neg versioned, if_neg (Int.not_lt.mpr (Int.le_of_lt below))]
    at body
  cases upgrades : (onTables (onUpgrade engine sqls dbName version newVersion)).run
      ⟨conn, version, [⟨false, false⟩], some (conn.db, version)⟩ with
  | error thrown last =>
      rw [upgrades] at body
      cases body
  | ok done upgraded =>
      rw [upgrades] at body
      rcases ok_of_run_onTables upgrades with ⟨runs, same⟩
      refine ⟨upgraded.conn, runs, ?_⟩
      rw [same] at body
      cases body
      cases closes
      rfl

/-- A required table that is not the backup of a migrated one is there after an upgrade
if and only if it is supplied. -/
theorem supplied_iff (documented : engine.Documented) (prefixed : engine.Prefixed)
    (creating : Creating engine (configured sqls dbName)) {version newVersion : Int}
    (plain : PlainDirectives engine sqls dbName version) {conn last : Conn V}
    (returns : (onUpgrade engine sqls dbName version newVersion).run conn = .ok () last)
    {key : String} (required : Required engine sqls dbName key)
    (apart : ∀ name ∈ updates sqls dbName version, key ≠ fold (tempOf name)) :
    (last.db.lookup key).isSome = true ↔ Supplied engine sqls dbName version conn.db key := by
  rcases dropped_of_run documented plain.plainDeletes returns with ⟨middle, migrates, dropped, -⟩
  rw [dropped key, if_neg (required.2 version), isSome_of_upgradeTables documented creating prefixed
    plain.plainUpdates migrates apart, Supplied, Bool.or_eq_true, Bool.and_eq_true,
    Bool.not_eq_true', Bool.eq_false_iff, ne_eq, List.contains_iff_mem]

end Older

/-! ## Both ways -/

/-- In a database without a version no configured statement throws, or all required
tables were there before.  In an older one the directives name plain tables, and every
required table is supplied and is not the backup of a migrated one. -/
def Provided (engine : Engine V) (sqls : KtAutoSqls) (dbName : String) (session : Session V) :
    Prop :=
  if session.version = 0 then
    (∃ last, ((configured sqls dbName).forM (execSQL engine)).run session.conn = .ok () last) ∨
      Complete engine sqls dbName session.conn.db
  else
    PlainDirectives engine sqls dbName session.version ∧
      ∀ key, Required engine sqls dbName key →
        (∀ name ∈ updates sqls dbName session.version, key ≠ fold (tempOf name)) ∧
          Supplied engine sqls dbName session.version session.conn.db key

/-- The same, of a required table that is the backup of none. -/
def Demanded (engine : Engine V) (sqls : KtAutoSqls) (dbName : String) (session : Session V) :
    Prop :=
  if session.version = 0 then
    (∃ last, ((configured sqls dbName).forM (execSQL engine)).run session.conn = .ok () last) ∨
      Complete engine sqls dbName session.conn.db
  else
    PlainDirectives engine sqls dbName session.version →
      ∀ key, Required engine sqls dbName key →
        (∀ name ∈ updates sqls dbName session.version, key ≠ fold (tempOf name)) →
          Supplied engine sqls dbName session.version session.conn.db key

/-- What the configuration leaves in a database without a version. -/
theorem complete_fresh_iff {engine : Engine V} {sqls : KtAutoSqls} {dbName : String}
    (creating : Creating engine (configured sqls dbName)) {session next : Session V}
    {newVersion : Int} (idle : session.transactions = []) (below : session.version < newVersion)
    (fresh : session.version = 0)
    (returns : (getDatabaseLocked engine sqls dbName newVersion).run session = .ok () next) :
    Complete engine sqls dbName next.conn.db ↔
      (∃ last, ((configured sqls dbName).forM (execSQL engine)).run session.conn = .ok () last) ∨
        Complete engine sqls dbName session.conn.db := by
  have other : newVersion ≠ 0 := by
    intro zero
    rw [fresh, zero] at below
    exact Int.lt_irrefl 0 below
  rcases run_getDatabaseLocked_fresh engine sqls dbName fresh other idle with
    ⟨next', ends, -, left⟩
  rw [returns] at ends
  cases ends
  unfold Complete
  cases runs : ((configured sqls dbName).forM (execSQL engine)).run session.conn with
  | ok done last =>
      rw [runs] at left
      rw [left.1]
      constructor
      · exact fun _ => Or.inl ⟨last, rfl⟩
      · intro _ key required
        rw [lookup_of_executed creating runs key, Option.isSome_or, required.1, Bool.or_true]
  | error thrown last =>
      rw [runs] at left
      rw [left.1]
      constructor
      · exact Or.inr
      · rintro (⟨last', impossible⟩ | present)
        · cases impossible
        · exact present

/-- A handle means a complete schema if the required tables are provided; and every
required table that is the backup of none has to be. -/
theorem open_complete_iff {engine : Engine V} (documented : engine.Documented)
    (prefixed : engine.Prefixed) {sqls : KtAutoSqls} {dbName : String}
    {session next : Session V} {newVersion : Int} (idle : session.transactions = [])
    (below : session.version < newVersion)
    (returns : (getDatabaseLocked engine sqls dbName newVersion).run session = .ok () next) :
    (Creating engine (configured sqls dbName) ∧ Provided engine sqls dbName session →
        Complete engine sqls dbName next.conn.db) ∧
      (Creating engine (configured sqls dbName) → Complete engine sqls dbName next.conn.db →
        Demanded engine sqls dbName session) := by
  unfold Provided Demanded
  by_cases fresh : session.version = 0
  · rw [if_pos fresh, if_pos fresh]
    constructor
    · rintro ⟨creating, provided⟩
      exact (complete_fresh_iff creating idle below fresh returns).mpr provided
    · intro creating complete
      exact (complete_fresh_iff creating idle below fresh returns).mp complete
  · rw [if_neg fresh, if_neg fresh]
    rcases upgrade_of_run fresh below idle returns with ⟨last, runs, db⟩
    rw [db]
    constructor
    · rintro ⟨creating, plain, supplied⟩ key required
      exact (supplied_iff documented prefixed creating plain runs required
        (supplied key required).1).mpr (supplied key required).2
    · intro creating complete plain key required apart
      exact (supplied_iff documented prefixed creating plain runs required apart).mp
        (complete key required)

/-! ## A statement that fails in a new database -/

section Small

open Sql.Reference

theorem created_onlyA (texts : List String) (key : String) :
    created (failing texts) (configured onlyA "demo") key =
      if fold "A" = key then some (Table.empty "A" valueSchema) else none := by
  have single : configured onlyA "demo" = [valueText "A"] := rfl
  rw [single, created_cons, created, List.findSome?_nil, Option.or_none, creates,
    (form_value texts).2]

theorem required_A (texts : List String) : Required (failing texts) onlyA "demo" (fold "A") := by
  refine ⟨?_, fun version => List.not_mem_nil⟩
  rw [created_onlyA, if_pos rfl]
  rfl

/-- If `A` cannot be created, a new database is opened without it. -/
theorem not_open_complete_failed_create :
    ∃ next, (getDatabaseLocked (failing [valueText "A"]) onlyA "demo" 2).run newSession =
        .ok () next ∧
      ¬ Complete (failing [valueText "A"]) onlyA "demo" next.conn.db := by
  have evaluated : Effect.endsIn (getDatabaseLocked (failing [valueText "A"]) onlyA "demo" 2)
      (fun next => (next.conn.db.find "A").isNone) newSession = true := by decide +kernel
  rcases Effect.exists_of_endsIn evaluated with ⟨⟨⟩, next, ends, missing⟩
  refine ⟨next, ends, ?_⟩
  intro complete
  have present := complete (fold "A") (required_A _)
  have absent : next.conn.db.lookup (fold "A") = none := Option.isNone_iff_eq_none.mp missing
  rw [absent] at present
  cases present

theorem updates_onlyA : updates onlyA "demo" 1 = ["A"] := by decide

theorem plainDirectives_onlyA : PlainDirectives (failing []) onlyA "demo" 1 where
  plainUpdates := by
    rw [updates_onlyA]
    exact migratable_oneRow.listing.plain
  plainDeletes := fun name member => absurd member List.not_mem_nil

/-- Leaving version 1, the table `A` is migrated and still there. -/
theorem open_complete_upgrade :
    ∃ next, (getDatabaseLocked (failing []) onlyA "demo" 2).run ⟨oneRow, 1, [], none⟩ =
        .ok () next ∧
      Complete (failing []) onlyA "demo" next.conn.db := by
  have evaluated : Effect.endsIn (getDatabaseLocked (failing []) onlyA "demo" 2)
      (fun _ => true) ⟨oneRow, 1, [], none⟩ = true := by decide +kernel
  rcases Effect.exists_of_endsIn evaluated with ⟨⟨⟩, next, ends, -⟩
  refine ⟨next, ends, ?_⟩
  have versioned : (1 : Int) ≠ 0 := by decide
  apply (open_complete_iff (documented_failing []) (prefixed _) rfl (by decide) ends).1
  rw [Provided, if_neg versioned]
  refine ⟨creating_onlyA [], plainDirectives_onlyA, ?_⟩
  intro key required
  have claimed := required.1
  rw [created_onlyA] at claimed
  split at claimed
  · rename_i same
    subst same
    dsimp only
    rw [updates_onlyA]
    refine ⟨by decide, Or.inr ?_⟩
    rw [updates_onlyA]
    decide +kernel
  · cases claimed

end Small

end Opening
end ModuleDatabase
