import ModuleDatabase.Migration.Restore

namespace ModuleDatabase
namespace Migration

open Text
open Sql

/-!
# Do tables fail independently?

`restoreTable` catches the exception of each table by itself, so that one table
that cannot be restored should not concern the others.  It does: the statement
that has thrown stays in the builder, and it takes the place of those of all
later tables.

Two runs are compared, with a table in the list and without it.  They agree on
the other tables just when the jam that the table causes meets nothing: no
later table has rows to restore before another jam would stop it anyway.
-/

variable {V : Type}

/-- The other tables of a list are restored as if one table were not in it. -/
def RestoredAlike (engine : Engine V) (before : List String) (table : String)
    (after : List String) (conn : Conn V) : Prop :=
  ∃ next other,
    (restoreTable engine true (before ++ table :: after)).run conn = .ok () next ∧
      (restoreTable engine true (before ++ after)).run conn = .ok () other ∧
      ∀ t ∈ before ++ after, next.db.find t = other.db.find t ∧
        next.db.find (tempOf t) = other.db.find (tempOf t)

/-- The lists and databases considered: plain names that differ and are not called
like backups, and backups whose columns have plain names. -/
structure Separable (engine : Engine V) (tables : List String) (db : Database V) : Prop where
  listing : Listing engine tables
  plainBackups : PlainBackups engine db tables

/-- The table's `INSERT` does not throw, or an earlier one throws already, or every
later table that the jam meets has an empty backup. -/
def Unharmed (engine : Engine V) (db : Database V) (before : List String) (table : String)
    (after : List String) : Prop :=
  jams engine db table = false ∨ before.any (jams engine db) = true ∨
    ∀ middle t rest, after = middle ++ t :: rest →
      middle.any (jams engine db) = false → jams engine db t = false →
      ∀ backup, db.named (tempOf t) = some backup → backup.rows = []

/-- Restoring changes a table unless its backup is empty. -/
theorem brings_eq_find {engine : Engine V} {db : Database V} {table : String}
    {backup restored : Table V} (named : db.named (tempOf table) = some backup)
    (restores : brings engine db table = some restored) :
    some restored = db.find table ↔ backup.rows = [] := by
  rcases brings_eq_some_iff.mp restores with ⟨backup', target, named', found, copies⟩
  rw [named, Option.some.injEq] at named'
  subst named'
  rcases Table.copyFrom_eq_some_iff.mp (Engine.copied_eq_some_iff.mp copies).2.2 with
    ⟨-, inserted, sameName, sameSchema⟩
  have counts := Schema.insertAll_length _ inserted
  rw [found, Option.some.injEq]
  constructor
  · intro same
    rw [same] at counts
    exact List.length_eq_zero_iff.mp (by omega)
  · intro empty
    rw [empty] at inserted
    cases restored
    cases target
    cases inserted
    cases sameName
    cases sameSchema
    rfl

/-- Not restoring a table at all makes no difference if and only if a jam
stands before it, or it throws itself, or its backup is empty. -/
theorem unchanged_iff {engine : Engine V} {db : Database V} {table : String} {backup : Table V}
    (named : db.named (tempOf table) = some backup) (jammed : Bool) :
    (db.find table = if jammed then db.find table
      else (brings engine db table).or (db.find table)) ↔
      (jammed = false → jams engine db table = false →
        ∀ backup, db.named (tempOf table) = some backup → backup.rows = []) := by
  cases jammed with
  | true => simp only [if_pos, Bool.true_eq_false, false_implies]
  | false =>
      rw [if_neg Bool.false_ne_true, jams, named]
      cases restores : brings engine db table with
      | none => simp
      | some restored =>
          have same := brings_eq_find named restores
          rw [Option.some_or, eq_comm, same]
          simp

section Comparison

variable {engine : Engine V} (documented : engine.Documented) (steady : engine.Steady)
  {before after : List String} {table : String}
  (listing : Listing engine (before ++ table :: after)) {conn : Conn V}
  (plainBackups : PlainBackups engine conn.db (before ++ table :: after))
include documented steady listing plainBackups

/-- The two runs, in terms of what stands before each table. -/
theorem restoredAlike_iff_finds :
    RestoredAlike engine before table after conn ↔
      ∀ middle t rest, after = middle ++ t :: rest →
        (if (before ++ table :: middle).any (jams engine conn.db) then conn.db.find t
          else (brings engine conn.db t).or (conn.db.find t)) =
        if (before ++ middle).any (jams engine conn.db) then conn.db.find t
          else (brings engine conn.db t).or (conn.db.find t) := by
  have sub : (before ++ after).Sublist (before ++ table :: after) :=
    (List.sublist_cons_self table after).append_left before
  have fewerBackups : PlainBackups engine conn.db (before ++ after) :=
    fun t member => plainBackups t (sub.subset member)
  rcases run_restoreTable documented listing steady plainBackups.shared with ⟨next, ends, restored⟩
  rcases run_restoreTable documented (listing.sublist sub) steady fewerBackups.shared with
    ⟨other, otherEnds, otherRestored⟩
  have withTable : ∀ middle t rest, after = middle ++ t :: rest →
      next.db.find t = if (before ++ table :: middle).any (jams engine conn.db)
        then conn.db.find t else (brings engine conn.db t).or (conn.db.find t) := by
    intro middle t rest split
    apply restored.table (before ++ table :: middle) t rest
    rw [split, List.append_assoc, List.cons_append]
  have without : ∀ middle t rest, after = middle ++ t :: rest →
      other.db.find t = if (before ++ middle).any (jams engine conn.db)
        then conn.db.find t else (brings engine conn.db t).or (conn.db.find t) := by
    intro middle t rest split
    apply otherRestored.table (before ++ middle) t rest
    rw [split, List.append_assoc]
  constructor
  · rintro ⟨next', other', ends', otherEnds', alike⟩ middle t rest split
    rw [ends] at ends'
    cases ends'
    rw [otherEnds] at otherEnds'
    cases otherEnds'
    have member : t ∈ before ++ after := by
      rw [split]
      exact List.mem_append_right _ (List.mem_append_right _ List.mem_cons_self)
    rw [← withTable middle t rest split, ← without middle t rest split]
    exact (alike t member).1
  · intro same
    refine ⟨next, other, ends, otherEnds, ?_⟩
    intro t member
    constructor
    · rcases List.mem_append.mp member with earlier | later
      · rcases List.append_of_mem earlier with ⟨first, second, split⟩
        have here := restored.table first t (second ++ table :: after)
          (by rw [split, List.append_assoc, List.cons_append])
        have there := otherRestored.table first t (second ++ after)
          (by rw [split, List.append_assoc, List.cons_append])
        rw [here, there]
      · rcases List.append_of_mem later with ⟨middle, rest, split⟩
        rw [withTable middle t rest split, without middle t rest split]
        exact same middle t rest split
    · rw [restored.temp t (sub.subset member), otherRestored.temp t member]

theorem restoredAlike_iff_unharmed (backups : ∀ t ∈ before ++ table :: after, ∃ backup,
      conn.db.named (tempOf t) = some backup) :
    RestoredAlike engine before table after conn ↔
      Unharmed engine conn.db before table after := by
  rw [restoredAlike_iff_finds documented steady listing plainBackups, Unharmed]
  cases earlier : before.any (jams engine conn.db) with
  | true =>
      simp only [List.any_append, earlier, Bool.true_or, if_pos, implies_true, true_or, or_true]
  | false =>
      cases jammed : jams engine conn.db table with
      | false =>
          simp only [List.any_append, List.any_cons, earlier, jammed, Bool.false_or,
            implies_true, true_or]
      | true =>
          simp only [List.any_append, List.any_cons, earlier, jammed, Bool.false_or, Bool.true_or,
            if_pos, Bool.true_eq_false, Bool.false_eq_true, false_or]
          apply forall_congr'
          intro middle
          apply forall_congr'
          intro t
          apply forall_congr'
          intro rest
          apply forall_congr'
          intro split
          have member : t ∈ before ++ table :: after := by
            rw [split]
            exact List.mem_append_right _ (List.mem_cons_of_mem _
              (List.mem_append_right _ List.mem_cons_self))
          rcases backups t member with ⟨backup, named⟩
          exact unchanged_iff named _

omit listing plainBackups in
/-- The two runs agree if the tables are separable and none is harmed, and with
separable tables only then. -/
theorem restoredAlike_iff (backups : ∀ t ∈ before ++ table :: after, ∃ backup,
      conn.db.named (tempOf t) = some backup) :
    (Separable engine (before ++ table :: after) conn.db ∧
          Unharmed engine conn.db before table after →
        RestoredAlike engine before table after conn) ∧
      (Separable engine (before ++ table :: after) conn.db →
        RestoredAlike engine before table after conn →
        Unharmed engine conn.db before table after) := by
  constructor
  · rintro ⟨⟨listing, plainBackups⟩, unharmed⟩
    exact (restoredAlike_iff_unharmed documented steady listing plainBackups backups).mpr unharmed
  · rintro ⟨listing, plainBackups⟩ alike
    exact (restoredAlike_iff_unharmed documented steady listing plainBackups backups).mp alike

end Comparison

/-! ## A table that is no longer created -/

section Small

open Sql.Reference

/-- Only `B` exists; both tables have a backup with these values. -/
def onlyB (valuesA valuesB : List Int) : Conn Int where
  db := valueTables [("B", []), ("A_TEMP", valuesA), ("B_TEMP", valuesB)]
  clock := 0

theorem listing_AB : Listing (failing []) ["A", "B"] :=
  listing_failing [] (by decide) (by decide) (by decide)

theorem plainBackups_value (tables : List (String × List Int)) (listed : List String) :
    PlainBackups (failing []) (valueTables tables) listed := by
  intro table member backup named column inside
  rcases valueTables_find (Database.named_eq_some.mp named).1 with ⟨values, same⟩
  have columns : (valueTable backup.name values).schema.names = ["X"] := rfl
  rw [same, columns] at inside
  rw [List.mem_singleton.mp inside]
  exact plain_failing (by decide) []

theorem onlyB_backup (valuesA valuesB : List Int) :
    (onlyB valuesA valuesB).db.named (tempOf "B") = some (valueTable "B_TEMP" valuesB) := by
  apply Database.named_eq_some.mpr
  refine ⟨?_, rfl⟩
  unfold onlyB
  rw [valueTables_cons_find, if_neg (by decide), valueTables_cons_find, if_neg (by decide),
    valueTables_cons_find, if_pos (by decide)]

/-- If the configuration no longer creates `A`, the row of `B` is lost. -/
theorem not_restoredAlike_missing_table :
    ¬ RestoredAlike (failing []) [] "A" ["B"] (onlyB [] [1]) := by
  intro alike
  have finds := (restoredAlike_iff_finds (documented_failing []) (steady_failing []) listing_AB
    (plainBackups_value _ _)).mp alike [] "B" [] rfl
  have jammed : ([] ++ ["A"]).any (jams (failing []) (onlyB [] [1]).db) = true := by decide
  have free : ([] ++ []).any (jams (failing []) (onlyB [] [1]).db) = false := by decide
  have restores : (brings (failing []) (onlyB [] [1]).db "B").isSome = true := by decide
  rcases Option.isSome_iff_exists.mp restores with ⟨restored, brought⟩
  rw [jammed, free, if_pos rfl, if_neg Bool.false_ne_true, brought, Option.some_or] at finds
  have empty := (brings_eq_find (onlyB_backup [] [1]) brought).mp finds.symm
  cases empty

/-- With an empty backup of `B` nothing is lost. -/
theorem restoredAlike_empty_backup : RestoredAlike (failing []) [] "A" ["B"] (onlyB [1] []) := by
  refine (restoredAlike_iff (documented_failing []) (steady_failing []) ?_).1
    ⟨⟨listing_AB, plainBackups_value _ _⟩, Or.inr (Or.inr ?_)⟩
  · have exist : ∀ t ∈ ["A", "B"],
        ((onlyB [1] []).db.named (tempOf t)).isSome = true := by decide
    exact fun t member => Option.isSome_iff_exists.mp (exist t member)
  · intro middle t rest split _ _ backup named
    rcases List.append_eq_singleton_iff.mp split.symm with ⟨-, same⟩ | ⟨-, impossible⟩
    · cases same
      rw [onlyB_backup, Option.some.injEq] at named
      rw [← named]
      rfl
    · cases impossible

end Small

end Migration
end ModuleDatabase
