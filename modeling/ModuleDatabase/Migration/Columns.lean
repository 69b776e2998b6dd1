import ModuleDatabase.Migration.Phases

namespace ModuleDatabase
namespace Migration

open Text
open Sql

/-!
# Common columns, and rows that are stored as they are

For the engine `x` and `X` are one column.  `restoreTable` looks for the names
of the new columns among those of the backup letter for letter, except that it
leaves out `_id` in any case.  So it carries over no more than the common
columns, and all of them only if they are spelled alike.

A backup says `PRIMARY KEY` behind the column that has number 1 in the primary
key.  If its type is `INTEGER`, it numbers the rows of the backup: it takes
nothing but integers, and a null in it is replaced by the next number.
-/

variable {V : Type}

/-- The columns of both schemas but `_id`, with their new names. -/
def commonColumns (new old : Schema V) : List String :=
  new.names.filter fun name => fold name != "_id" && old.has name

/-- The listed columns are the common ones as the engine sees it, but `_id`. -/
def MatchesEngine (properties : List String) (new old : Schema V) : Prop :=
  ∀ key, key ∈ properties.map fold ↔
    key ∈ new.names.map fold ∧ key ∈ old.names.map fold ∧ key ≠ "_id"

/-- A column of both tables other than `_id` has the same letters in both, and
Java does not take it for `_id` either. -/
def SpelledAlike (new old : Schema V) : Prop :=
  ∀ name ∈ new.names, ∀ other ∈ old.names, fold name = fold other → fold name ≠ "_id" →
    name = other ∧ sameIgnoringCase name "_id" = false

/-- Integers stand where the rows are numbered in a backup. -/
def Numbers (engine : Engine V) (table : Table V) : Prop :=
  ∀ column ∈ table.schema.columns, column.pk = 1 → fold column.type = "integer" →
    column.name ∈ backupColumns table.schema.names →
      ∀ row ∈ table.rows, ∃ value, row column.key = some value ∧ engine.isInteger value = true

/-! ## Names -/

section Names

variable {new old : Schema V}

theorem has_iff {schema : Schema V} {name : String} :
    schema.has name = true ↔ ∃ other ∈ schema.names, fold other = fold name := by
  rw [Schema.has, List.any_eq_true]
  constructor
  · rintro ⟨column, inside, same⟩
    exact ⟨column.name, List.mem_map_of_mem inside, beq_iff_eq.mp same⟩
  · rintro ⟨other, member, same⟩
    rcases List.mem_map.mp member with ⟨column, inside, named⟩
    refine ⟨column, inside, ?_⟩
    rw [Column.key, named, same, beq_self_eq_true]

theorem mem_commonColumns {name : String} :
    name ∈ commonColumns new old ↔
      name ∈ new.names ∧ fold name ≠ "_id" ∧ ∃ other ∈ old.names, fold other = fold name := by
  rw [commonColumns, List.mem_filter, Bool.and_eq_true, bne_iff_ne, has_iff]

/-- Names of one table that fold alike are the same. -/
theorem Schema.eq_of_fold {schema : Schema V} {first second : String}
    (memFirst : first ∈ schema.names) (memSecond : second ∈ schema.names)
    (same : fold first = fold second) : first = second := by
  rcases List.mem_map.mp memFirst with ⟨column, insideFirst, nameFirst⟩
  rcases List.mem_map.mp memSecond with ⟨other, insideSecond, nameSecond⟩
  have keys : column.key = other.key := by
    rw [Column.key, Column.key, nameFirst, nameSecond, same]
  rw [← nameFirst, ← nameSecond, List.inj_on_of_nodup_map schema.distinct insideFirst insideSecond
    keys]

/-- What SQL takes for `_id`, Java takes for it too. -/
theorem fold_ne_id {name : String} (notJava : sameIgnoringCase name "_id" = false) :
    fold name ≠ "_id" := by
  intro isId
  rw [sameIgnoringCase_of_fold (by decide) (isId.trans (by decide))] at notJava
  cases notJava

/-- A column that `restoreTable` lists is a common one. -/
theorem mem_common_of_shared {name : String}
    (member : name ∈ sharedColumns new.columns old.names) : name ∈ commonColumns new old := by
  rcases mem_sharedColumns.mp member with ⟨inNew, notJava, inOld⟩
  exact mem_commonColumns.mpr ⟨inNew, fold_ne_id notJava, name, inOld, rfl⟩

/-- If the common columns are spelled alike, `restoreTable` lists them all. -/
theorem SpelledAlike.columns (alike : SpelledAlike new old) :
    commonColumns new old = sharedColumns new.columns old.names := by
  unfold commonColumns sharedColumns
  apply List.filter_congr
  intro name inNew
  apply Bool.eq_iff_iff.mpr
  constructor
  · intro common
    rcases (mem_commonColumns.mp (List.mem_filter.mpr ⟨inNew, common⟩)).2 with
      ⟨notId, other, inOld, same⟩
    rcases alike name inNew other inOld same.symm notId with ⟨named, notJava⟩
    rw [Bool.and_eq_true, Bool.not_eq_true', List.contains_iff_mem, named]
    exact ⟨named ▸ notJava, inOld⟩
  · intro shared
    have member : name ∈ sharedColumns new.columns old.names := List.mem_filter.mpr ⟨inNew, shared⟩
    exact (List.mem_filter.mp (mem_common_of_shared member)).2

/-- The shared columns are the common ones if and only if these are spelled
alike. -/
theorem matchesEngine_sharedColumns_iff (new old : Schema V) :
    MatchesEngine (sharedColumns new.columns old.names) new old ↔ SpelledAlike new old := by
  constructor
  · intro matching name inNew other inOld same notId
    have common : fold name ∈ (sharedColumns new.columns old.names).map fold :=
      (matching (fold name)).mpr
        ⟨List.mem_map_of_mem inNew, List.mem_map.mpr ⟨other, inOld, same.symm⟩, notId⟩
    rcases List.mem_map.mp common with ⟨shared, member, folds⟩
    rcases mem_sharedColumns.mp member with ⟨sharedNew, notJava, sharedOld⟩
    have alike : shared = name := Schema.eq_of_fold sharedNew inNew folds
    subst alike
    exact ⟨Schema.eq_of_fold sharedOld inOld same, notJava⟩
  · intro alike key
    constructor
    · intro member
      rcases List.mem_map.mp member with ⟨shared, inside, folds⟩
      rcases mem_sharedColumns.mp inside with ⟨sharedNew, notJava, sharedOld⟩
      subst folds
      exact ⟨List.mem_map_of_mem sharedNew, List.mem_map_of_mem sharedOld, fold_ne_id notJava⟩
    · rintro ⟨inNew, inOld, notId⟩
      rcases List.mem_map.mp inNew with ⟨name, memNew, folds⟩
      rcases List.mem_map.mp inOld with ⟨other, memOld, foldsOld⟩
      subst folds
      rcases alike name memNew other memOld foldsOld.symm notId with ⟨same, notJava⟩
      subst same
      exact List.mem_map_of_mem (mem_sharedColumns.mpr ⟨memNew, notJava, memOld⟩)

/-- Whether a null is to be replaced is seen on the columns in question. -/
theorem stores_of_project {schema : Schema V} {names : List String} {first second : List (Row V)}
    (agree : second.map (Row.project names) = first.map (Row.project names))
    (stores : schema.Stores names first) : schema.Stores names second := by
  intro name member numbered row inside null
  have image : row.project names ∈ first.map (Row.project names) := by
    rw [← agree]
    exact List.mem_map_of_mem inside
  rcases List.mem_map.mp image with ⟨other, among, alike⟩
  apply stores name member numbered other among
  rw [← null]
  exact List.map_inj_left.mp alike name member

end Names

/-! ## What a backup takes -/

section Backups

variable {engine : Engine V} (documented : engine.Documented) {table made : Table V}
  (defines : engine.Defines (table.schema.columns.map backupDef))

include documented defines

/-- The column of a backup that numbers its rows. -/
theorem mem_numbered_backup {key : String} :
    key ∈ (engine.schema (table.schema.columns.map backupDef)).numbered ↔
      ∃ column ∈ table.schema.columns, column.pk = 1 ∧ fold column.type = "integer" ∧
        column.key = key := by
  rw [documented.schema_numbered _ defines]
  constructor
  · rintro ⟨definition, member, numbered, same⟩
    rcases List.mem_map.mp member with ⟨column, inside, defined⟩
    rw [← defined, ColumnDef.numbered, Bool.and_eq_true, beq_iff_eq] at numbered
    refine ⟨column, inside, of_decide_eq_true numbered.1, numbered.2, ?_⟩
    rw [← same, ← defined]
    rfl
  · rintro ⟨column, inside, one, integer, same⟩
    refine ⟨backupDef column, List.mem_map_of_mem inside, ?_, same⟩
    rw [ColumnDef.numbered, Bool.and_eq_true, beq_iff_eq]
    exact ⟨decide_eq_true one, integer⟩

/-- With integers where the rows are numbered, a backup keeps all values. -/
theorem Numbers.stores (numbers : Numbers engine table) {names : List String}
    (among : ∀ name ∈ names, name ∈ backupColumns table.schema.names) :
    (engine.schema (table.schema.columns.map backupDef)).Stores names table.rows := by
  intro name member numbered row inside null
  rcases (mem_numbered_backup documented defines).mp numbered with ⟨column, within, one, type, key⟩
  have same : column.name = name :=
    Schema.eq_of_fold (List.mem_map_of_mem within) (mem_backupColumns (among name member)) key
  rcases numbers column within one type (by rw [same]; exact among name member) row inside with
    ⟨value, found, -⟩
  rw [key, null] at found
  cases found

end Backups

section Insertions

variable {engine : Engine V} (documented : engine.Documented) {columns : List ColumnDef}
  (defines : engine.Defines columns) {given : List String}

include documented defines

/-- Rows that differ in the key, with integers where rows are numbered, can all be
inserted into a backup. -/
theorem backup_admits (present values : List (Row V))
    (apart : ∀ column ∈ columns, column.primaryKey = true → fold column.name ∈ given →
      (∀ row ∈ present, ∀ value ∈ values,
        value (fold column.name) = none ∨ row (fold column.name) ≠ value (fold column.name)) ∧
      values.Pairwise fun first second =>
        second (fold column.name) = none ∨ first (fold column.name) ≠ second (fold column.name))
    (whole : ∀ column ∈ columns, column.numbered = true → fold column.name ∈ given →
      ∀ row ∈ values, ∃ value, row (fold column.name) = some value ∧
        engine.isInteger value = true) :
    ((engine.schema columns).insertAll given present values).isSome = true := by
  induction values generalizing present with
  | nil => rfl
  | cons value rest ih =>
      have same : ∀ {key}, key ∈ given → value.only given key = value key :=
        fun among => Row.only_of_mem among value
      have free : ∀ column ∈ columns, column.primaryKey = true → fold column.name ∈ given →
          ∀ row ∈ present, value.only given (fold column.name) = none ∨
            row (fold column.name) ≠ value.only given (fold column.name) := by
        intro column member key among row inside
        rw [same among]
        exact (apart column member key among).1 row inside value List.mem_cons_self
      have integers : ∀ column ∈ columns, column.numbered = true → fold column.name ∈ given →
          ∀ number, value.only given (fold column.name) = some number →
            engine.isInteger number = true := by
        intro column member numbered among number stands
        rcases whole column member numbered among value List.mem_cons_self with
          ⟨known, found, integer⟩
        rw [same among, found, Option.some.injEq] at stands
        rw [← stands]
        exact integer
      rcases Option.isSome_iff_exists.mp
        (documented.schema_accepts columns defines present given _ free integers) with
        ⟨stored, accepted⟩
      rw [Schema.insertAll, accepted]
      apply ih
      · intro column member key among
        have here := apart column member key among
        have kept : stored (fold column.name) = value (fold column.name) := by
          rw [← same among]
          apply (engine.schema columns).keeps present given _ stored accepted _ among
          intro numbered
          rcases (documented.schema_numbered columns defines _).mp numbered with
            ⟨other, inside, isNumbered, folds⟩
          rcases whole other inside isNumbered (by rw [folds]; exact among) value
            List.mem_cons_self with ⟨known, found, -⟩
          rw [same among, ← folds, found]
          exact Option.some_ne_none known
        rw [List.pairwise_cons] at here
        refine ⟨?_, here.2.2⟩
        intro row inside other later
        rcases List.mem_append.mp inside with before | last
        · exact here.1 row before other (List.mem_cons_of_mem _ later)
        · rw [List.mem_singleton.mp last, kept]
          exact here.2.1 other later
      · intro column member numbered among row later
        exact whole column member numbered among row (List.mem_cons_of_mem _ later)

/-- What numbers the rows of a backup that takes them is an integer, or null. -/
theorem integers_of_insertAll {present values rows : List (Row V)}
    (inserted : (engine.schema columns).insertAll given present values = some rows)
    {column : ColumnDef} (member : column ∈ columns) (numbered : column.numbered = true)
    (among : fold column.name ∈ given) {row : Row V} (inside : row ∈ values) {value : V}
    (stands : row (fold column.name) = some value) : engine.isInteger value = true := by
  induction values generalizing present with
  | nil => cases inside
  | cons first rest ih =>
      rw [Schema.insertAll] at inserted
      cases accepted : (engine.schema columns).accept present given (first.only given) with
      | none =>
          rw [accepted] at inserted
          cases inserted
      | some stored =>
          rw [accepted] at inserted
          rcases List.mem_cons.mp inside with here | later
          · by_contra other
            have refuses := documented.schema_refuses columns defines present given
              (first.only given) column member numbered among value
              (by rw [Row.only_of_mem among, ← here]; exact stands) (Bool.eq_false_iff.mpr other)
            rw [accepted] at refuses
            cases refuses
          · exact ih inserted later

end Insertions

end Migration
end ModuleDatabase
