import ModuleDatabase.Opening.Completeness

namespace ModuleDatabase
namespace Opening

open Text
open Sql
open Migration

/-!
# Is one jump as good as its steps?

Directives are keyed by the version that is left, and `onUpgrade` applies those
of the old version only.  A jump from `a` to `c` does what a step from `a` to
`b` does, whatever lies between.  So the jump equals the two steps just when the
second step, from `b` to `c`, changes nothing in the database that it finds.

Two databases are compared by their tables, the columns of these, and their
rows in any order.  Columns called `_id` are not carried over, so their values
are as before only if the new table gives them again.
-/

variable {V : Type}

/-- The same columns and the same rows, in any order. -/
structure SameTable (first second : Table V) : Prop where
  columns : first.schema.columns = second.schema.columns
  rows : (first.rows.map (Row.project first.schema.names)).Perm
    (second.rows.map (Row.project first.schema.names))

/-- The same tables, among them `sqlite_sequence`. -/
structure SameTables (first second : Database V) : Prop where
  tables : ∀ key, Option.Rel SameTable (first.lookup key) (second.lookup key)
  sequence : first.sequence = second.sequence

/-- The directives of a version change nothing in a database. -/
structure Idle (engine : Engine V) (sqls : KtAutoSqls) (dbName : String) (version : Int)
    (db : Database V) : Prop where
  drops : ∀ name ∈ deletes sqls dbName version, db.find name = none
  adds : ∀ key, key ∉ (deletes sqls dbName version).map fold → db.lookup key = none →
    created engine (matched (configured sqls dbName) (updates sqls dbName version)) key = none
  keeps : ∀ before name after, updates sqls dbName version = before ++ name :: after →
    ∀ old, db.find name = some old →
      ∃ target, recreated engine sqls dbName (updates sqls dbName version) name = some target ∧
        target.schema.columns = old.schema.columns ∧
        (old.rows = [] ∨
          Survives engine sqls dbName (updates sqls dbName version) before db name old ∧
            ComesBack old target)
  uncounted : db.sequence = true ∨
    counts engine (matched (configured sqls dbName) (updates sqls dbName version))
      (keysLeft engine db (updates sqls dbName version)) = false

theorem eq_none_of_rel {r : Table V → Table V → Prop} {table : Option (Table V)}
    (related : Option.Rel r table none) : table = none := by
  cases related
  rfl

theorem SameTable.refl (table : Table V) : SameTable table table := ⟨rfl, List.Perm.refl _⟩

/-- A step without directives is idle. -/
theorem idle_of_nil {engine : Engine V} {sqls : KtAutoSqls} {dbName : String} {version : Int}
    (noUpdates : updates sqls dbName version = []) (noDeletes : deletes sqls dbName version = [])
    (db : Database V) : Idle engine sqls dbName version db where
  drops := by
    rw [noDeletes]
    exact fun name member => absurd member List.not_mem_nil
  adds := by
    intro key _ _
    rw [noUpdates, matched_nil]
    rfl
  keeps := by
    intro before name after split
    rw [noUpdates] at split
    cases (List.append_eq_nil_iff.mp split.symm).2
  uncounted := by
    rw [noUpdates, matched_nil]
    exact Or.inr rfl

section Steps

variable {engine : Engine V} (documented : engine.Documented) {sqls : KtAutoSqls}
  {dbName : String} {version : Int} {db mid next : Database V}
  (upgradeable : Upgradeable engine sqls dbName version db)
  (migrated : Migrated engine sqls dbName (updates sqls dbName version) db mid)
  (dropped : ∀ key, next.lookup key =
    if key ∈ (deletes sqls dbName version).map fold then none else mid.lookup key)
  (sequence : next.sequence = (db.sequence ||
    counts engine (matched (configured sqls dbName) (updates sqls dbName version))
      (keysLeft engine db (updates sqls dbName version))))

include upgradeable migrated in
/-- Where nothing was, a migration leaves what it creates. -/
theorem lookup_of_absent {key : String} (absent : db.lookup key = none) :
    (mid.lookup key).isSome = (created engine
      (matched (configured sqls dbName) (updates sqls dbName version)) key).isSome := by
  by_cases listed : key ∈ (updates sqls dbName version).map fold
  · rcases List.mem_map.mp listed with ⟨name, member, same⟩
    rw [← same]
    exact migrated.find_isSome member
  by_cases claimed : key ∈ (updates sqls dbName version).map fun name => fold (tempOf name)
  · rcases List.mem_map.mp claimed with ⟨name, member, same⟩
    rw [← same]
    have gone := migrated.temp name member
    have uncreated : recreated engine sqls dbName (updates sqls dbName version) (tempOf name) =
        none := recreated_eq_none (upgradeable.unclaimed name member)
    rw [Database.find] at gone
    rw [recreated] at uncreated
    rw [gone, uncreated]
  · have apart : ∀ name ∈ updates sqls dbName version,
        key ≠ fold name ∧ key ≠ fold (tempOf name) := by
      intro name member
      constructor
      · intro same
        exact listed (List.mem_map.mpr ⟨name, member, same.symm⟩)
      · intro same
        exact claimed (List.mem_map.mpr ⟨name, member, same.symm⟩)
    rw [migrated.other key apart, absent, Option.none_or]

include documented upgradeable migrated dropped sequence

/-- What a step must be like in order to change nothing. -/
theorem idle_of_sameTables (same : SameTables db next) : Idle engine sqls dbName version db := by
  have kept : ∀ {key}, (db.lookup key).isSome = true →
      key ∉ (deletes sqls dbName version).map fold ∧ next.lookup key = mid.lookup key := by
    intro key present
    have related := same.tables key
    rw [dropped key] at related
    by_cases listed : key ∈ (deletes sqls dbName version).map fold
    · rw [if_pos listed] at related
      rw [eq_none_of_rel related] at present
      cases present
    · exact ⟨listed, (dropped key).trans (if_neg listed)⟩
  constructor
  · intro name member
    by_contra present
    exact (kept (Option.isSome_iff_ne_none.mpr present)).1 (List.mem_map_of_mem member)
  · intro key unlisted absent
    have related := same.tables key
    rw [dropped key, if_neg unlisted, absent] at related
    have same := lookup_of_absent upgradeable migrated absent
    cases gone : mid.lookup key with
    | some new =>
        rw [gone] at related
        cases related
    | none =>
        rw [gone] at same
        exact Option.isSome_eq_false_iff.mp same.symm |> Option.isNone_iff_eq_none.mp
  · intro before name after split old found
    have member : name ∈ updates sqls dbName version := List.mem_iff_append.mpr ⟨_, _, split⟩
    have related := same.tables (fold name)
    rw [show db.lookup (fold name) = some old from found,
      (kept (by rw [show db.lookup (fold name) = some old from found]; rfl)).2] at related
    cases foundNew : mid.find name with
    | none =>
        rw [Database.find] at foundNew
        rw [foundNew] at related
        cases related
    | some new =>
        rw [show mid.lookup (fold name) = some new from foundNew] at related
        cases related with
        | some alike =>
            rcases migrated.schema member foundNew with ⟨target, makes, sameSchema⟩
            refine ⟨target, makes, ?_, ?_⟩
            · rw [← sameSchema]
              exact alike.columns.symm
            · by_cases empty : old.rows = []
              · exact Or.inl empty
              · right
                have rows : new.rows ≠ [] := by
                  intro nothing
                  have perm := alike.rows
                  rw [nothing, List.map_nil] at perm
                  exact empty (List.map_eq_nil_iff.mp perm.eq_nil)
                rcases carriedOver_of_find migrated split found foundNew rows with
                  ⟨made, target', carried⟩
                have sameTarget := carried.makes
                rw [makes, Option.some.injEq] at sameTarget
                subst sameTarget
                have named := Database.named_eq_some.mpr ⟨found, carried.exactly⟩
                have defines := upgradeable.copyable name member old named
                have columns : target.schema.columns = old.schema.columns := by
                  rw [← sameSchema]
                  exact alike.columns.symm
                exact ⟨⟨made, target, new, carried⟩,
                  (carried.comesBack_iff documented defines columns).mpr alike.rows⟩
  · have same := same.sequence
    rw [sequence] at same
    cases there : db.sequence with
    | true => exact Or.inl rfl
    | false =>
        rw [there, Bool.false_or] at same
        exact Or.inr same.symm

/-- An idle step changes nothing. -/
theorem sameTables_of_idle (idle : Idle engine sqls dbName version db) : SameTables db next := by
  have same : db.sequence = next.sequence := by
    rw [sequence]
    rcases idle.uncounted with there | nothing
    · rw [there, Bool.true_or]
    · rw [nothing, Bool.or_false]
  refine ⟨?_, same⟩
  intro key
  rw [dropped key]
  by_cases listed : key ∈ (deletes sqls dbName version).map fold
  · rcases List.mem_map.mp listed with ⟨name, member, same⟩
    have absent := idle.drops name member
    rw [Database.find, same] at absent
    rw [if_pos listed, absent]
    exact Option.Rel.none
  rw [if_neg listed]
  cases found : db.lookup key with
  | none =>
      have same := lookup_of_absent upgradeable migrated found
      rw [idle.adds key listed found] at same
      rw [Option.isNone_iff_eq_none.mp (Option.isSome_eq_false_iff.mp same)]
      exact Option.Rel.none
  | some old =>
      by_cases updated : key ∈ (updates sqls dbName version).map fold
      · rcases List.mem_map.mp updated with ⟨name, member, same⟩
        subst same
        rcases List.append_of_mem member with ⟨before, after, split⟩
        rcases idle.keeps before name after split old found with
          ⟨target, makes, columns, rows⟩
        have present := migrated.find_isSome member
        rw [makes] at present
        rcases Option.isSome_iff_exists.mp present with ⟨new, foundNew⟩
        rcases migrated.schema member foundNew with ⟨target', makes', sameSchema⟩
        rw [makes, Option.some.injEq] at makes'
        subst makes'
        rw [show mid.lookup (fold name) = some new from foundNew]
        refine Option.Rel.some ⟨?_, ?_⟩
        · rw [sameSchema, columns]
        · rcases rows with empty | ⟨⟨made, target', new', carried⟩, whole⟩
          · have nothing : new.rows = [] := by
              by_contra nonempty
              rcases carriedOver_of_find migrated split found foundNew nonempty with
                ⟨made, target', carried⟩
              have counts := carried.length
              rw [empty, List.length_nil] at counts
              exact nonempty (List.length_eq_zero_iff.mp counts)
            rw [empty, nothing]
          · have foundCarried := carried.find migrated split found
            rw [foundNew, Option.some.injEq] at foundCarried
            subst foundCarried
            have sameTarget := carried.makes
            rw [makes, Option.some.injEq] at sameTarget
            subst sameTarget
            have named := Database.named_eq_some.mpr ⟨found, carried.exactly⟩
            have defines := upgradeable.copyable name member old named
            exact (carried.comesBack_iff documented defines columns).mp whole
      · by_cases claimed : key ∈ (updates sqls dbName version).map fun name => fold (tempOf name)
        · rcases List.mem_map.mp claimed with ⟨name, member, same⟩
          have absent := upgradeable.noLeftover name member
          rw [Database.find, same, found] at absent
          cases absent
        · have apart : ∀ name ∈ updates sqls dbName version,
              key ≠ fold name ∧ key ≠ fold (tempOf name) := by
            intro name member
            constructor
            · intro same
              exact updated (List.mem_map.mpr ⟨name, member, same.symm⟩)
            · intro same
              exact claimed (List.mem_map.mpr ⟨name, member, same.symm⟩)
          rw [migrated.other key apart, found, Option.some_or]
          exact Option.Rel.some (SameTable.refl old)

end Steps

/-! ## The comparison -/

/-- A jump leaves the same tables as its two steps if the directives of the second one
are idle in the database that the first one leaves, and name plain tables that are
not called like backups; and for such directives only then. -/
theorem jump_iff_idle {engine : Engine V} (documented : engine.Documented)
    (prefixed : engine.Prefixed) (steady : engine.Steady) {sqls : KtAutoSqls} {dbName : String}
    {a b c : Int} {conn middle last jumped : Conn V}
    (first : (onUpgrade engine sqls dbName a b).run conn = .ok () middle)
    (second : (onUpgrade engine sqls dbName b c).run middle = .ok () last)
    (jump : (onUpgrade engine sqls dbName a c).run conn = .ok () jumped) :
    (Creating engine (configured sqls dbName) ∧ Upgradeable engine sqls dbName b middle.db ∧
          Idle engine sqls dbName b middle.db →
        SameTables jumped.db last.db) ∧
      (Creating engine (configured sqls dbName) → Upgradeable engine sqls dbName b middle.db →
        SameTables jumped.db last.db → Idle engine sqls dbName b middle.db) := by
  -- The jump does what the first step does.
  have sameRun : (onUpgrade engine sqls dbName a c).run conn = .ok () middle := first
  rw [jump] at sameRun
  cases sameRun
  have changes : Creating engine (configured sqls dbName) →
      Upgradeable engine sqls dbName b middle.db → ∃ mid : Database V,
      Migrated engine sqls dbName (updates sqls dbName b) middle.db mid ∧
        (∀ key, last.db.lookup key =
          if key ∈ (deletes sqls dbName b).map fold then none else mid.lookup key) ∧
        last.db.sequence = (middle.db.sequence ||
          counts engine (matched (configured sqls dbName) (updates sqls dbName b))
            (keysLeft engine middle.db (updates sqls dbName b))) := by
    intro creating upgradeable
    rcases dropped_of_run documented upgradeable.plainDeletes second with
      ⟨mid, migrates, dropped, same⟩
    have sequence := sequence_of_upgradeTables documented creating prefixed
      upgradeable.listing.plain steady migrates
    rw [backupsCount_eq_false documented upgradeable.listing.plain upgradeable.copyable,
      Bool.false_or] at sequence
    exact ⟨mid.db, migrated_of_upgradeTables documented creating upgradeable steady migrates,
      dropped, same.trans sequence⟩
  constructor
  · rintro ⟨creating, upgradeable, idle⟩
    rcases changes creating upgradeable with ⟨mid, migrated, dropped, sequence⟩
    exact sameTables_of_idle documented upgradeable migrated dropped sequence idle
  · intro creating upgradeable same
    rcases changes creating upgradeable with ⟨mid, migrated, dropped, sequence⟩
    exact idle_of_sameTables documented upgradeable migrated dropped sequence same

/-! ## A table to be deleted on the way -/

section Small

open Sql.Reference

/-- Version 2 is left without `B`. -/
def dropsB : KtAutoSqls := .ofEntries [] 3 none (some "2:B")

def withB : Conn Int := ⟨valueTables [("B", [])], 0⟩

/-- The jump from 1 to 3 keeps the table that the steps delete. -/
theorem not_jump_deletes :
    ∃ last, (onUpgrade (failing []) dropsB "demo" 1 2).run withB = .ok () withB ∧
      (onUpgrade (failing []) dropsB "demo" 2 3).run withB = .ok () last ∧
      (onUpgrade (failing []) dropsB "demo" 1 3).run withB = .ok () withB ∧
      ¬ SameTables withB.db last.db := by
  have noUpdates : updates dropsB "demo" 1 = [] := rfl
  have noDeletes : deletes dropsB "demo" 1 = [] := by decide
  have nothing := run_onUpgrade_of_nil noUpdates noDeletes (failing [])
  have evaluated : Effect.endsIn (onUpgrade (failing []) dropsB "demo" 2 3)
      (fun last => (last.db.find "B").isNone) withB = true := by decide +kernel
  rcases Effect.exists_of_endsIn evaluated with ⟨⟨⟩, last, ends, gone⟩
  refine ⟨last, nothing 2 withB, ends, nothing 3 withB, ?_⟩
  intro same
  have related := same.tables (fold "B")
  have absent : last.db.lookup (fold "B") = none := Option.isNone_iff_eq_none.mp gone
  rw [absent] at related
  have present : (withB.db.lookup (fold "B")).isSome = true := by decide +kernel
  rw [eq_none_of_rel related] at present
  cases present

/-- Only version 1 has directives: the jump from 1 to 3 does what the steps do. -/
theorem jump_migrates :
    ∃ middle last jumped, (onUpgrade (failing []) onlyA "demo" 1 2).run oneRow = .ok () middle ∧
      (onUpgrade (failing []) onlyA "demo" 2 3).run middle = .ok () last ∧
      (onUpgrade (failing []) onlyA "demo" 1 3).run oneRow = .ok () jumped ∧
      SameTables jumped.db last.db := by
  have evaluated : Effect.endsIn (onUpgrade (failing []) onlyA "demo" 1 2)
      (fun _ => true) oneRow = true := by decide +kernel
  rcases Effect.exists_of_endsIn evaluated with ⟨⟨⟩, middle, first, -⟩
  have noUpdates : updates onlyA "demo" 2 = [] := by decide
  have noDeletes : deletes onlyA "demo" 2 = [] := rfl
  have second := run_onUpgrade_of_nil noUpdates noDeletes (failing []) 3 middle
  have upgradeable := upgradeable_of_nil noUpdates noDeletes (failing []) middle.db
  refine ⟨middle, middle, middle, first, second, first, ?_⟩
  exact (jump_iff_idle (documented_failing []) (prefixed _) (steady_failing []) first second
    first).1 ⟨creating_onlyA [], upgradeable, idle_of_nil noUpdates noDeletes middle.db⟩

end Small

end Opening
end ModuleDatabase
