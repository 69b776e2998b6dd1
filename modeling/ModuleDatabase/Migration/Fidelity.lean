import ModuleDatabase.Migration.Conservation

namespace ModuleDatabase
namespace Migration

open Text
open Sql

/-!
# Is a backup faithful?

A backup is created from `PRAGMA table_info`, column by column, and a column
is called the primary key if its number in the key is 1.  Of a key of several
columns the backup thus keeps the first one only, as a key of its own.  Rows
that differ in the others are rejected then; the exception is swallowed, and
the backup stays empty.  If that first column has the type `INTEGER`, it numbers
the rows of the backup: what is no integer is rejected, and null is replaced.

Which statements throw for reasons of their own may depend on the moment here:
there are two, the one that creates the backup and the one that fills it.
-/

variable {V : Type}

/-- `PRAGMA table_info` numbers the columns of a primary key differently. -/
def Numbered (columns : List Column) : Prop :=
  (columns.filter fun column => decide (0 < column.pk)).Pairwise fun first second =>
    first.pk ≠ second.pk

/-- The first column of the primary key, if there is one. -/
def leadingKey (columns : List Column) : List String :=
  (columns.filter fun column => decide (column.pk = 1)).map Column.key

/-- The backup of a table has its columns, in order, and its rows. -/
def Faithful (db : Database V) (table : Table V) : Prop :=
  ∃ made, db.named (tempOf table.name) = some made ∧ made.schema.names = table.schema.names ∧
    (made.rows.map (Row.project table.schema.names)).Perm
      (table.rows.map (Row.project table.schema.names))

/-- What is asked of a table that is backed up: plain names and no `_id`. -/
structure Ordinary (engine : Engine V) (table : Table V) : Prop where
  name : engine.Plain table.name
  own : endsWithIgnoringCase table.name tableTempName = false
  plain : ∀ column ∈ table.schema.columns, engine.Plain column.name
  typed : ∀ column ∈ table.schema.columns, engine.isType column.type = true
  numbered : Numbered table.schema.columns
  noId : "_id" ∉ table.schema.names ∧ "_ID" ∉ table.schema.names

/-- The statement that creates the backup of a table. -/
def creatingText (table : Table V) : String :=
  createText (tempOf table.name) (table.schema.columns.map backupDef)

/-- The statement that fills it. -/
def fillingText (table : Table V) : String :=
  copyText (tempOf table.name) table.schema.names table.name

/-! ## Keys -/

section Keys

variable {engine : Engine V} {table : Table V} {columns : List Column}

/-- One column at most has the number 1. -/
theorem Numbered.oneKey (numbered : Numbered columns) :
    (columns.filter fun column => decide (column.pk = 1)).length ≤ 1 := by
  have sub : (columns.filter fun column => decide (column.pk = 1)).Sublist
      (columns.filter fun column => decide (0 < column.pk)) := by
    apply List.monotone_filter_right
    intro column one
    rw [decide_eq_true_eq] at one ⊢
    omega
  have differ := List.Pairwise.sublist sub numbered
  cases filtered : columns.filter fun column => decide (column.pk = 1) with
  | nil => exact Nat.zero_le _
  | cons first rest =>
      cases rest with
      | nil => exact Nat.le_refl _
      | cons second others =>
          rw [filtered] at differ
          have numbers : ∀ column ∈ first :: second :: others, column.pk = 1 := by
            intro column member
            rw [← filtered] at member
            exact of_decide_eq_true (List.mem_filter.mp member).2
          have same : first.pk = second.pk := by
            rw [numbers first List.mem_cons_self,
              numbers second (List.mem_cons_of_mem _ List.mem_cons_self)]
          exact absurd same ((List.pairwise_cons.mp differ).1 second List.mem_cons_self)

/-- The backup of such a table can be created. -/
theorem Ordinary.defines (ordinary : Ordinary engine table) :
    engine.Defines (table.schema.columns.map backupDef) :=
  defines_backup ordinary.plain ordinary.typed ordinary.numbered.oneKey

theorem Ordinary.copies (ordinary : Ordinary engine table) :
    backupColumns table.schema.names = table.schema.names := by
  rw [backupColumns, List.erase_of_not_mem ordinary.noId.1, List.erase_of_not_mem ordinary.noId.2]

/-- The key of a backup is the first column of the key. -/
theorem backup_key (keyed : engine.Keyed) (ordinary : Ordinary engine table) :
    primaryKey (engine.schema (table.schema.columns.map backupDef)).columns =
      leadingKey table.schema.columns := by
  rw [keyed.schema_key _ ordinary.defines, List.filter_map, List.map_map]
  rfl

/-- Whether keys differ is seen on the columns of the key. -/
theorem KeysDiffer.of_project {key : List String} {names : List String}
    (among : ∀ k ∈ key, ∃ name ∈ names, fold name = k) {first second : List (Row V)}
    (agree : first.map (Row.project names) = second.map (Row.project names))
    (differ : KeysDiffer key first) : KeysDiffer key second := by
  induction first generalizing second with
  | nil =>
      rw [List.map_eq_nil_iff.mp agree.symm]
      exact keysDiffer_nil key
  | cons row rest ih =>
      cases second with
      | nil => cases agree
      | cons other others =>
          rw [List.map_cons, List.map_cons, List.cons.injEq] at agree
          rcases List.pairwise_cons.mp differ with ⟨head, tail⟩
          have same : ∀ {r s : Row V}, r.project names = s.project names →
              ∀ k ∈ key, r k = s k := by
            intro r s projected k member
            rcases among k member with ⟨name, inside, folded⟩
            rw [← folded]
            exact List.map_inj_left.mp projected name inside
          apply List.pairwise_cons.mpr
          refine ⟨?_, ih agree.2 tail⟩
          intro later inside keyed whole
          have image : later.project names ∈ rest.map (Row.project names) := by
            rw [agree.2]
            exact List.mem_map_of_mem inside
          rcases List.mem_map.mp image with ⟨original, within, projected⟩
          have known : ∀ k ∈ key, row k ≠ none := by
            intro k member
            rw [same agree.1 k member]
            exact whole k member
          rcases head original within keyed known with ⟨k, member, different⟩
          refine ⟨k, member, ?_⟩
          rw [← same agree.1 k member, ← same projected k member]
          exact different

end Keys

/-! ## What `generateTempTable` leaves -/

section Backup

variable {engine : Engine V} (documented : engine.Documented) {conn : Conn V} {table : Table V}
  (ordinary : Ordinary engine table)

include documented ordinary

omit documented in
/-- Every column is copied. -/
theorem Ordinary.among (name : String) (member : name ∈ table.schema.names) :
    name ∈ backupColumns table.schema.names := by
  rw [ordinary.copies]
  exact member

/-- The backup takes rows that differ in the first column of the key, if integers
stand where it numbers them. -/
theorem copyFrom_backupBase_isSome (keyed : engine.Keyed) (numbers : Numbers engine table)
    (differ : KeysDiffer (leadingKey table.schema.columns) table.rows) :
    ((backupBase engine none table).copyFrom table.schema.names table).isSome = true := by
  have defines := ordinary.defines
  have key := backup_key keyed ordinary
  have admits : ((engine.schema (table.schema.columns.map backupDef)).insertAll
      (table.schema.names.map fold) [] table.rows).isSome = true := by
    apply backup_admits documented defines
    · intro definition member isKey among
      have keyName : leadingKey table.schema.columns = [fold definition.name] := by
        rw [← key, keyed.schema_key _ defines]
        have within : definition ∈ (table.schema.columns.map backupDef).filter
            ColumnDef.primaryKey := List.mem_filter.mpr ⟨member, isKey⟩
        rw [eq_singleton_of_mem defines.oneKey within, List.map_singleton]
      refine ⟨fun row impossible => absurd impossible List.not_mem_nil, ?_⟩
      rw [keyName] at differ
      exact differ.single
    · intro definition member numbered among
      rcases List.mem_map.mp member with ⟨column, inside, same⟩
      rw [← same, ColumnDef.numbered, Bool.and_eq_true, beq_iff_eq] at numbered
      rw [← same]
      exact numbers column inside (of_decide_eq_true numbered.1) numbered.2
        (ordinary.among column.name (List.mem_map_of_mem inside))
  exact Option.isSome_iff_exists.mpr
    (copyFrom_backupBase documented defines (fun _ member => member) admits)

/-- A filled backup with the rows of the table has integers where it numbers them,
and its rows differ in the key. -/
theorem differ_of_copyFrom (keyed : engine.Keyed) {made : Table V}
    (filled : (backupBase engine none table).copyFrom table.schema.names table = some made)
    (rows : (made.rows.map (Row.project table.schema.names)).Perm
      (table.rows.map (Row.project table.schema.names))) :
    Numbers engine table ∧ KeysDiffer (leadingKey table.schema.columns) table.rows := by
  have defines := ordinary.defines
  rcases Table.copyFrom_eq_some_iff.mp filled with ⟨-, inserted, -, schema⟩
  have whole : made.rows = (backupBase engine none table).rows ++ made.rows :=
    (List.nil_append made.rows).symm
  have stores : (backupBase engine none table).schema.Stores table.schema.names table.rows :=
    Table.stores_of_copyFrom filled whole rows
  have numbers : Numbers engine table := by
    intro column inside one type _ row within
    have named : column.name ∈ table.schema.names := List.mem_map_of_mem inside
    have numbered : (backupDef column).numbered = true := by
      rw [ColumnDef.numbered, Bool.and_eq_true, beq_iff_eq]
      exact ⟨decide_eq_true one, type⟩
    cases stands : row column.key with
    | some value =>
        exact ⟨value, rfl, integers_of_insertAll documented defines inserted
          (List.mem_map_of_mem inside) numbered (List.mem_map_of_mem named) within stands⟩
    | none =>
        exact absurd stands (stores column.name named
          ((mem_numbered_backup documented defines).mpr ⟨column, inside, one, type, rfl⟩) row within)
  refine ⟨numbers, ?_⟩
  rcases Table.copyFrom_rows (fun _ member => member) stores filled with ⟨stored, split, projected⟩
  have apart := made.apart
  have madeRows : made.rows = stored := split
  have madeSchema : made.schema = engine.schema (table.schema.columns.map backupDef) := schema
  rw [madeSchema, backup_key keyed ordinary, madeRows] at apart
  apply KeysDiffer.of_project _ projected apart
  intro k member
  rcases List.mem_map.mp member with ⟨column, inside, same⟩
  exact ⟨column.name, List.mem_map_of_mem (List.mem_filter.mp inside).1, same⟩

/-- The backup is faithful if and only if it is created, and there are no rows
to copy, or their copy is not refused and they differ in the first column of
the primary key, with integers there if its type is `INTEGER`. -/
theorem generateTempTable_faithful_iff (keyed : engine.Keyed)
    (present : conn.db.find table.name = some table)
    (absent : conn.db.find (tempOf table.name) = none) :
    ∃ next, (generateTempTable engine table.name).run conn = .ok () next ∧
      (Faithful next.db table ↔
        engine.fails conn.clock (creatingText table) = false ∧
          (table.rows = [] ∨
            engine.fails (conn.clock + 1) (fillingText table) = false ∧
              KeysDiffer (leadingKey table.schema.columns) table.rows ∧
              Numbers engine table)) := by
  rcases run_generateTempTable_at documented ordinary.name ordinary.own present ordinary.defines
    with ⟨next, ends, lookups⟩
  refine ⟨next, ends, ?_⟩
  have made : next.db.find (tempOf table.name) = backupAt engine conn.clock none table := by
    rw [Database.find, lookups, if_pos rfl, absent]
  have nonempty : table.schema.names ≠ [] := fun empty =>
    table.schema.nonempty (List.map_eq_nil_iff.mp empty)
  have names := backup_names documented ordinary.defines
  -- A backup that is there is the new one, with the rows that it has.
  have faithful_iff : ∀ backup : Table V, backup.name = tempOf table.name →
      backup.schema.names = table.schema.names → next.db.find (tempOf table.name) = some backup →
      (Faithful next.db table ↔ (backup.rows.map (Row.project table.schema.names)).Perm
        (table.rows.map (Row.project table.schema.names))) := by
    intro backup name columns found
    have named : next.db.named (tempOf table.name) = some backup :=
      Database.named_eq_some.mpr ⟨found, name⟩
    rw [Faithful, named]
    simp only [Option.some.injEq, exists_eq_left', columns, true_and]
  have empty_iff : next.db.find (tempOf table.name) = some (backupBase engine none table) →
      (Faithful next.db table ↔ table.rows = []) := by
    intro found
    rw [faithful_iff _ rfl names found]
    exact List.nil_perm.trans List.map_eq_nil_iff
  unfold backupAt at made
  dsimp only at made
  rw [ordinary.copies] at made
  unfold creatingText fillingText
  cases creation : engine.fails conn.clock
      (createText (tempOf table.name) (table.schema.columns.map backupDef)) with
  | true =>
      rw [creation, if_pos rfl] at made
      rw [Faithful, Database.named, made]
      simp
  | false =>
      rw [creation, if_neg Bool.false_ne_true] at made
      rw [eq_self, true_and]
      cases filling : engine.fails (conn.clock + 1)
          (copyText (tempOf table.name) table.schema.names table.name) with
      | true =>
          rw [filling, if_pos (Or.inr rfl)] at made
          rw [empty_iff made]
          simp
      | false =>
          rw [filling, if_neg (not_or.mpr ⟨nonempty, Bool.false_ne_true⟩)] at made
          rw [eq_self, true_and]
          cases filled : (backupBase engine none table).copyFrom table.schema.names table with
          | none =>
              rw [filled, Option.getD_none] at made
              rw [empty_iff made]
              constructor
              · exact Or.inl
              · rintro (nothing | ⟨differ, numbers⟩)
                · exact nothing
                · have accepted :=
                    copyFrom_backupBase_isSome documented ordinary keyed numbers differ
                  rw [filled] at accepted
                  cases accepted
          | some backup =>
              rw [filled, Option.getD_some] at made
              rcases Table.copyFrom_eq_some_iff.mp filled with ⟨-, -, name, schema⟩
              rw [faithful_iff backup name (by rw [schema]; exact names) made]
              constructor
              · intro same
                exact Or.inr (differ_of_copyFrom documented ordinary keyed filled same).symm
              · intro condition
                have numbers : Numbers engine table := by
                  rcases condition with nothing | ⟨-, numbers⟩
                  · intro column _ _ _ _ row inside
                    rw [nothing] at inside
                    cases inside
                  · exact numbers
                have stores : (backupBase engine none table).schema.Stores table.schema.names
                    table.rows :=
                  numbers.stores documented ordinary.defines ordinary.among
                rcases Table.copyFrom_rows (fun _ member => member) stores filled with
                  ⟨stored, split, projected⟩
                have rows : backup.rows = stored := split
                rw [rows, projected]

end Backup

/-! ## A key of two columns -/

section Small

open Sql.Reference

/-- A row of two values. -/
def pairRow (values : Int × Int) : Row Int := fun key =>
  if key = "x" then some values.1 else if key = "y" then some values.2 else none

/-- `(X TEXT, Y TEXT, PRIMARY KEY (X, Y))`. -/
def pairSchema : Schema Int where
  columns := [⟨"X", "TEXT", false, none, 1⟩, ⟨"Y", "TEXT", false, none, 2⟩]
  nonempty := List.cons_ne_nil _ _
  distinct := by decide
  accept := fun present given values =>
    let row := values.only given
    if ["x", "y"].all (fun key => (row key).isSome) &&
        present.any fun other => ["x", "y"].all fun key => other key == row key then none
    else some row
  numbered := []
  autoincrement := false
  numbers := by
    intro present given values row accepted key member
    cases member
  keeps := by
    intro present given values row accepted key member _
    dsimp only at accepted
    split at accepted
    · cases accepted
    · cases accepted
      exact Row.only_of_mem member values
  apart := by
    intro present given values row apart accepted
    dsimp only at accepted
    split at accepted
    · cases accepted
    · rename_i free
      cases accepted
      have key : primaryKey [(⟨"X", "TEXT", false, none, 1⟩ : Column),
          ⟨"Y", "TEXT", false, none, 2⟩] = ["x", "y"] := by decide
      rw [key] at apart ⊢
      apply List.pairwise_append.mpr
      refine ⟨apart, List.pairwise_singleton _ _, ?_⟩
      intro other inside row last _ whole
      rw [List.mem_singleton.mp last]
      by_contra alike
      have same : ∀ key ∈ ["x", "y"], other key = values.only given key := by
        intro key member
        by_contra different
        exact alike ⟨key, member, different⟩
      apply free
      rw [Bool.and_eq_true, List.any_eq_true]
      constructor
      · apply List.all_eq_true.mpr
        intro key member
        rw [← same key member]
        exact Option.isSome_iff_ne_none.mpr (whole key member)
      · refine ⟨other, inside, List.all_eq_true.mpr ?_⟩
        intro key member
        rw [same key member]
        exact beq_self_eq_true _

def pairTable (values : List (Int × Int))
    (apart : KeysDiffer (primaryKey pairSchema.columns) (values.map pairRow)) : Table Int :=
  ⟨"A", pairSchema, values.map pairRow, apart⟩

/-- Two rows with the same first value. -/
def sharedKey : Table Int :=
  pairTable [(1, 2), (1, 3)] (by unfold KeysDiffer; decide)

/-- Two rows with different first values. -/
def distinctKey : Table Int :=
  pairTable [(1, 2), (2, 2)] (by unfold KeysDiffer; decide)

theorem ordinary_pair {values : List (Int × Int)}
    (apart : KeysDiffer (primaryKey pairSchema.columns) (values.map pairRow)) :
    Ordinary (failing []) (pairTable values apart) where
  name := plain_failing (by decide : plain "A" = true) []
  own := (by decide : endsWithIgnoringCase "A" tableTempName = false)
  plain := by
    have words : pairSchema.columns.all (fun column => plain column.name) = true := by decide
    exact fun column member => plain_failing (List.all_eq_true.mp words column member) []
  typed := by
    have words : pairSchema.columns.all (fun column => plain column.type) = true := by decide
    exact fun column member => List.all_eq_true.mp words column member
  numbered := by
    have numbered : Numbered pairSchema.columns := by
      unfold Numbered
      decide
    exact numbered
  noId := (by decide : "_id" ∉ pairSchema.names ∧ "_ID" ∉ pairSchema.names)

theorem find_put_empty (table : Table Int) :
    (Database.empty.put table).find table.name = some table := by
  rw [Database.find, Database.lookup_put]
  exact if_pos rfl

theorem find_temp_put_empty {values : List (Int × Int)}
    (apart : KeysDiffer (primaryKey pairSchema.columns) (values.map pairRow)) :
    (Database.empty.put (pairTable values apart)).find
      (tempOf (pairTable values apart).name) = none := by
  rw [Database.find, Database.lookup_put]
  exact if_neg (by decide : fold (tempOf "A") ≠ fold "A")

/-- The key of the backup of `A` is its first column, and its rows share the
first value: the backup is empty. -/
theorem not_faithful_shared_key :
    ¬ ∃ next, (generateTempTable (failing []) "A").run ⟨Database.empty.put sharedKey, 0⟩ =
      .ok () next ∧ Faithful next.db sharedKey := by
  rintro ⟨next, ends, backup, named, -, rows⟩
  have evaluated : Effect.endsIn (generateTempTable (failing []) "A")
      (fun next => (next.db.find "A_TEMP").all fun backup => backup.rows.isEmpty)
      ⟨Database.empty.put sharedKey, 0⟩ = true := by decide +kernel
  rw [Effect.endsIn_of_ok ends] at evaluated
  have found : next.db.find "A_TEMP" = some backup := (Database.named_eq_some.mp named).1
  rw [found, Option.all_some, List.isEmpty_iff] at evaluated
  rw [evaluated] at rows
  exact List.cons_ne_nil _ _ (List.nil_perm.mp rows)

/-- With different first values the backup is faithful. -/
theorem faithful_distinct_key :
    ∃ next, (generateTempTable (failing []) "A").run ⟨Database.empty.put distinctKey, 0⟩ =
      .ok () next ∧ Faithful next.db distinctKey := by
  have present : (⟨Database.empty.put distinctKey, 0⟩ : Conn Int).db.find distinctKey.name =
      some distinctKey := find_put_empty distinctKey
  rcases generateTempTable_faithful_iff (documented_failing []) (ordinary_pair _) (keyed _)
    present (find_temp_put_empty _) with ⟨next, ends, faithful⟩
  have differ : KeysDiffer ["x"] distinctKey.rows := by
    unfold KeysDiffer
    decide
  have unnumbered : ∀ column ∈ pairSchema.columns, fold column.type ≠ "integer" := by decide
  exact ⟨next, ends, faithful.mpr ⟨rfl, Or.inr ⟨rfl, differ,
    fun column inside _ type => absurd type (unnumbered column inside)⟩⟩⟩

end Small

end Migration
end ModuleDatabase
