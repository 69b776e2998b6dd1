import ModuleDatabase.Migration.Conservation
import ModuleDatabase.Migration.Frame

namespace ModuleDatabase
namespace Migration

open Text
open Sql

/-!
# Is what is dropped backed up?

`tableIsExist` asks the catalog for a name letter for letter, and only if it is
there a backup is made.  `cleanTables` puts the same text behind `DROP TABLE IF
EXISTS`, where neither case nor blanks matter.  So a table may be dropped under
a name under which it was not found.  And a name that ends in `_TEMP` is taken
for that of a backup: what its table holds is deleted, and not copied.

The name may be any text that can stand between apostrophes, as the entries of
a directive are.  A backup that is there already may stay there: copied is what
has been added to it.
-/

variable {V : Type}

/-- The `DROP` of a name removes the table with this key. -/
def Removes (engine : Engine V) (name : String) (conn : Conn V) (key : String) : Prop :=
  (conn.db.lookup key).isSome = true ∧
    ∃ next, (execSQL engine ("DROP TABLE IF EXISTS " ++ name)).run conn = .ok () next ∧
      next.db.lookup key = none

/-- The rows of a table have been added to its backup, on the columns that are
copied. -/
def Copied (before after : Database V) (table : Table V) : Prop :=
  ∃ backup stored, after.find (tempOf table.name) = some backup ∧
    backup.rows = ((before.find (tempOf table.name)).elim [] fun left => left.rows) ++ stored ∧
    (stored.map (Row.project (backupColumns table.schema.names))).Perm
      (table.rows.map (Row.project (backupColumns table.schema.names)))

/-- If the `DROP` of a name removes a table that held rows, `generateTempTable` has
copied them before. -/
def DroppedIsCopied (engine : Engine V) (name : String) (conn : Conn V) : Prop :=
  ∀ backed, (generateTempTable engine name).run conn = .ok () backed →
    ∀ table, conn.db.find table.name = some table → table.rows ≠ [] →
      Removes engine name backed (fold table.name) → Copied conn.db backed.db table

/-- Neither statement of `generateTempTable` throws, and no null is to be replaced. -/
structure Works (engine : Engine V) (conn : Conn V) (table : Table V) : Prop where
  creates : engine.fails conn.clock
    (createText (tempOf table.name) (table.schema.columns.map backupDef)) = false
  nonempty : backupColumns table.schema.names ≠ []
  fills : engine.fails (conn.clock + 1)
    (copyText (tempOf table.name) (backupColumns table.schema.names) table.name) = false
  accepts : ((backupBase engine (conn.db.find (tempOf table.name)) table).copyFrom
    (backupColumns table.schema.names) table).isSome = true
  stores : (backupBase engine (conn.db.find (tempOf table.name)) table).schema.Stores
    (backupColumns table.schema.names) table.rows

/-- A table that is found under a name can be dropped under it, and it can be
backed up if it is not taken for a backup itself. -/
structure Regular (engine : Engine V) (name : String) (db : Database V) : Prop where
  literal : '\x27' ∉ name.toList
  plain : ∀ table, db.named name = some table → engine.Plain name
  defines : ∀ table, db.named name = some table →
    endsWithIgnoringCase name tableTempName = false →
      engine.Defines (table.schema.columns.map backupDef)

/-- What the `DROP` of a name removes is called exactly so and not like a backup, and
it can be copied, unless it has no rows. -/
def RemovesCopyable (engine : Engine V) (name : String) (conn : Conn V) : Prop :=
  ∀ table, conn.db.find table.name = some table → table.rows ≠ [] →
    Removes engine name conn (fold table.name) →
      table.name = name ∧ endsWithIgnoringCase name tableTempName = false ∧
        Works engine conn table

/-- The backup has got the rows if and only if no statement throws. -/
theorem copied_iff {engine : Engine V} {conn : Conn V} {after : Database V} {table : Table V}
    (rows : table.rows ≠ [])
    (made : after.find (tempOf table.name) =
      backupAt engine conn.clock (conn.db.find (tempOf table.name)) table) :
    Copied conn.db after table ↔ Works engine conn table := by
  set columns := backupColumns table.schema.names with columnsEq
  set base := backupBase engine (conn.db.find (tempOf table.name)) table with baseEq
  have before : ((conn.db.find (tempOf table.name)).elim [] fun left => left.rows) = base.rows := by
    rw [baseEq, backupBase]
    cases conn.db.find (tempOf table.name) <;> rfl
  -- A backup that has not grown has not got them.
  have grown : ∀ backup stored : List (Row V), backup = base.rows ++ stored →
      (stored.map (Row.project columns)).Perm (table.rows.map (Row.project columns)) →
      backup ≠ base.rows := by
    intro backup stored split same unchanged
    rw [split] at unchanged
    have nothing : stored = [] := List.append_right_eq_self.mp unchanged
    rw [nothing] at same
    exact rows (List.map_eq_nil_iff.mp (List.nil_perm.mp same))
  unfold Copied
  rw [before, made, ← columnsEq]
  unfold backupAt
  dsimp only
  rw [← columnsEq, ← baseEq]
  constructor
  · rintro ⟨backup, stored, found, split, same⟩
    have more := grown _ stored split same
    split at found
    · rw [found] at before
      exact absurd before more
    · rename_i creates
      split at found
      · cases found
        exact absurd rfl more
      · rename_i works
        rw [not_or, Bool.not_eq_true] at works
        cases filled : base.copyFrom columns table with
        | none =>
            rw [filled] at found
            cases found
            exact absurd rfl more
        | some made =>
            rw [filled] at found
            cases found
            refine ⟨Bool.eq_false_iff.mpr creates, works.1, works.2, ?_, ?_⟩
            · rw [← columnsEq, ← baseEq, filled]
              rfl
            · exact Table.stores_of_copyFrom filled split same
  · rintro ⟨creates, nonempty, fills, accepts, stores⟩
    rw [← columnsEq] at nonempty fills accepts stores
    rw [← baseEq] at accepts stores
    rcases Option.isSome_iff_exists.mp accepts with ⟨backup, filled⟩
    rcases Table.copyFrom_rows (fun _ member => member) stores filled with
      ⟨stored, split, projected⟩
    refine ⟨backup, stored, ?_, split, ?_⟩
    · rw [creates, if_neg Bool.false_ne_true, fills,
        if_neg (not_or.mpr ⟨nonempty, Bool.false_ne_true⟩), filled, Option.getD_some]
    · rw [projected]

/-- What has not changed has not been added to. -/
theorem not_copied_of_same {before after : Database V} {table : Table V} (rows : table.rows ≠ [])
    (same : after.find (tempOf table.name) = before.find (tempOf table.name)) :
    ¬ Copied before after table := by
  rintro ⟨backup, stored, found, split, alike⟩
  rw [← same, found, Option.elim] at split
  rw [List.append_right_eq_self.mp split.symm] at alike
  exact rows (List.map_eq_nil_iff.mp (List.nil_perm.mp alike))

section Agreement

variable {engine : Engine V} {name : String} {conn : Conn V}

/-- A plain name drops the table that it means. -/
theorem removes_iff (documented : engine.Documented) (plain : engine.Plain name) {key : String} :
    Removes engine name conn key ↔ (conn.db.lookup key).isSome = true ∧ key = fold name := by
  have drops := run_dropIfExists documented plain conn
  constructor
  · rintro ⟨present, next, ends, gone⟩
    rw [drops] at ends
    cases ends
    refine ⟨present, ?_⟩
    rw [Conn.executed_db, Database.lookup_erase] at gone
    split at gone
    · rename_i same
      exact same
    · rw [gone] at present
      cases present
  · rintro ⟨present, same⟩
    refine ⟨present, _, drops, ?_⟩
    rw [Conn.executed_db, Database.lookup_erase, if_pos same]

variable (literal : engine.Literal) (regular : Regular engine name conn.db)
include literal regular

/-- A name that is not in the catalog is passed over. -/
theorem run_generateTempTable_of_unnamed (unnamed : conn.db.named name = none) :
    (generateTempTable engine name).run conn = .ok () conn := by
  by_cases empty : name = ""
  · rw [generateTempTable, EStateM.run_bind, tableIsExist, empty]
    rfl
  · rw [generateTempTable, EStateM.run_bind,
      run_tableIsExist_of_reads (literal.countTables name regular.literal) empty, unnamed]
    rfl

/-- What is dropped has been copied if and only if it is called exactly by the name,
not like a backup, and neither statement of `generateTempTable` throws. -/
theorem droppedIsCopied_iff_removesCopyable (documented : engine.Documented)
    (prefixed : engine.Prefixed) :
    DroppedIsCopied engine name conn ↔ RemovesCopyable engine name conn := by
  cases named : conn.db.named name with
  | none =>
      have passes := run_generateTempTable_of_unnamed literal regular named
      constructor
      · intro all table found rows removes
        exact absurd (all conn passes table found rows removes) (not_copied_of_same rows rfl)
      · intro all backed ends table found rows removes
        rw [passes] at ends
        cases ends
        have exactly := (all table found rows removes).1
        rw [exactly] at found
        rw [Database.named_eq_some.mpr ⟨found, exactly⟩] at named
        cases named
  | some table =>
      have plain := regular.plain table named
      rcases Database.named_eq_some.mp named with ⟨found, exactly⟩
      subst exactly
      -- The name means this table, before `generateTempTable` and after it.
      have sole : ∀ other : Table V, conn.db.find other.name = some other →
          fold other.name = fold table.name → other = table := by
        intro other present same
        rw [Database.find, same] at present
        exact Option.some.inj (present.symm.trans found)
      have there : (conn.db.lookup (fold table.name)).isSome = true :=
        Option.isSome_iff_exists.mpr ⟨table, found⟩
      cases ending : endsWithIgnoringCase table.name tableTempName with
      | true =>
          rcases run_generateTempTable_ending documented prefixed plain ending (by rw [named]; rfl)
            with ⟨next, ends, shapes, cleared⟩
          have still : (next.db.lookup (fold table.name)).isSome = true := by
            have same := congrArg Option.isSome (shapes (fold table.name))
            rw [Option.isSome_map, Option.isSome_map] at same
            rw [same]
            exact there
          have sameTemp : next.db.find (tempOf table.name) = conn.db.find (tempOf table.name) := by
            apply (cleared _ (Ne.symm (ne_temp table.name))).2
            intro purges
            -- The table that would lose its rows has a shorter name.
            have lengths := congrArg (fun text => text.toList.length) purges.deletes.same
            simp only [toList_fold, baseOf, tempOf, String.toList_ofList, String.toList_append,
              List.length_map, List.length_take, List.length_append] at lengths
            have longer : 0 < tableTempName.toList.length := by decide
            omega
          constructor
          · intro all other present rows removes
            have same := sole other present ((removes_iff documented plain).mp removes).2
            subst same
            exact absurd (all next ends other present rows
              ((removes_iff documented plain).mpr ⟨still, rfl⟩)) (not_copied_of_same rows sameTemp)
          · intro all backed runs other present rows removes
            have same := sole other present ((removes_iff documented plain).mp removes).2
            subst same
            have apart := (all other present rows
              ((removes_iff documented plain).mpr ⟨there, rfl⟩)).2.1
            rw [ending] at apart
            cases apart
      | false =>
          have defines := regular.defines table named ending
          rcases run_generateTempTable_at documented plain ending found defines with
            ⟨next, ends, lookups⟩
          have made : next.db.find (tempOf table.name) =
              backupAt engine conn.clock (conn.db.find (tempOf table.name)) table := by
            rw [Database.find, lookups, if_pos rfl]
          have still : (next.db.lookup (fold table.name)).isSome = true := by
            rw [lookups, if_neg (ne_temp_of_own ending table.name)]
            exact there
          constructor
          · intro all other present rows removes
            have same := sole other present ((removes_iff documented plain).mp removes).2
            subst same
            have copied := all next ends other present rows
              ((removes_iff documented plain).mpr ⟨still, rfl⟩)
            exact ⟨rfl, ending, (copied_iff rows made).mp copied⟩
          · intro all backed runs other present rows removes
            rw [ends] at runs
            cases runs
            have same := sole other present ((removes_iff documented plain).mp removes).2
            subst same
            have works := (all other present rows
              ((removes_iff documented plain).mpr ⟨there, rfl⟩)).2.2
            exact (copied_iff rows made).mpr works

end Agreement

/-- A name that is read as it stands drops nothing that has not been copied if what it
removes can be copied, and only then. -/
theorem dropped_is_copied_iff {engine : Engine V} (literal : engine.Literal)
    (documented : engine.Documented) (prefixed : engine.Prefixed) {name : String} {conn : Conn V} :
    (Regular engine name conn.db ∧ RemovesCopyable engine name conn →
      DroppedIsCopied engine name conn) ∧
    (Regular engine name conn.db → DroppedIsCopied engine name conn →
      RemovesCopyable engine name conn) :=
  ⟨fun both => (droppedIsCopied_iff_removesCopyable literal both.1 documented prefixed).mpr both.2,
    fun regular => (droppedIsCopied_iff_removesCopyable literal regular documented prefixed).mp⟩

/-! ## A name in another case -/

section Small

open Sql.Reference

theorem literal_failing (texts : List String) : (failing texts).Literal := literal _

theorem regular_value {name : String} (named : plain name = true)
    (tables : List (String × List Int)) : Regular (failing []) name (valueTables tables) where
  literal := notMem_of_plain named (by decide)
  plain := fun _ _ => plain_failing named []
  defines := fun table found _ =>
    copyable_value [] tables [name] name List.mem_cons_self table found

/-- The table is called `b`. -/
def lowerB : Conn Int := ⟨valueTables [("b", [7])], 0⟩

/-- A directive for `B` drops it without a backup. -/
theorem not_dropped_is_copied_other_case :
    ∃ names, directives "1:B" 1 = some names ∧
      ∃ name ∈ names, ¬ DroppedIsCopied (failing []) name lowerB := by
  have plainB : (failing []).Plain "B" := plain_failing (by decide) []
  have found : lowerB.db.find "B" = some (valueTable "b" [7]) := by
    unfold lowerB
    rw [valueTables_cons_find, if_pos (by decide)]
  have unnamed : lowerB.db.named "B" = none := by
    rw [Database.named, found]
    rfl
  have regular : Regular (failing []) "B" lowerB.db := regular_value (by decide) _
  have passes := run_generateTempTable_of_unnamed (literal_failing []) regular unnamed
  have rows : (valueTable "b" [7]).rows ≠ [] := List.cons_ne_nil _ _
  have removes : Removes (failing []) "B" lowerB (fold "b") :=
    (removes_iff (documented_failing []) plainB).mpr ⟨Option.isSome_iff_exists.mpr ⟨_, found⟩, rfl⟩
  refine ⟨["B"], by decide, "B", List.mem_cons_self, ?_⟩
  intro copied
  exact not_copied_of_same rows rfl (copied _ passes (valueTable "b" [7]) found rows removes)

/-- Spelled alike, the table is copied before it is dropped. -/
theorem dropped_is_copied_A : DroppedIsCopied (failing []) "A" oneRow := by
  have plainA : (failing []).Plain "A" := plain_failing (by decide) []
  apply (dropped_is_copied_iff (literal_failing []) (documented_failing []) (prefixed _)).1
  refine ⟨regular_value (by decide) _, ?_⟩
  intro table found rows removes
  have same := ((removes_iff (documented_failing []) plainA).mp removes).2
  rw [Database.find, same] at found
  have one : table = valueTable "A" [7] := Option.some.inj (found.symm.trans oneRow_find)
  subst one
  refine ⟨rfl, by decide, rfl, by decide, rfl, by decide +kernel, ?_⟩
  have unnumbered : ∀ column ∈ backupColumns (valueTable "A" [7]).schema.names, fold column ∉
      (backupBase (failing []) (oneRow.db.find (tempOf "A")) (valueTable "A" [7])).schema.numbered :=
    by decide +kernel
  exact fun column inside numbered => absurd numbered (unnumbered column inside)

end Small

end Migration
end ModuleDatabase
