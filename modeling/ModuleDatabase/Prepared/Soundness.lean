import ModuleDatabase.Base.Links
import ModuleDatabase.Prepared.SQLiteConnection

namespace ModuleDatabase
namespace Prepared

/-!
# Who owns a prepared statement

An object is owned by the cache, by the uses that hold it, or by both; the other objects
that were ever allocated may be free.  In a sound connection every owned object has a live
native statement of its own, and every live native statement has an owner.

The steps of the connection are put together from a few moves of ownership, and each of
them keeps a connection sound.
-/

namespace SQLiteConnection

variable (connection : SQLiteConnection)

def Cached (sql : String) (statement : Nat) : Prop :=
  (sql, statement) ∈ connection.mPreparedStatementCache.entries

def Owned (held : List Nat) (statement : Nat) : Prop :=
  (∃ sql, connection.Cached sql statement) ∨ statement ∈ held

def pointer (statement : Nat) : Nat := (connection.objects statement).mStatementPtr

/-- The free objects, in the order of the pool. -/
structure Free (owned : Nat → Prop) (free : List Nat) : Prop where
  linked : Linked (fun statement => (connection.objects statement).mPoolNext)
    connection.mPreparedStatementPool free
  nodup : free.Nodup
  known : ∀ statement ∈ free, statement < connection.allocated
  unowned : ∀ statement ∈ free, ¬ owned statement

/-- Each owned object has a live native statement, and each live one an object. -/
structure Owning (owned : Nat → Prop) : Prop where
  pool : ∃ free, connection.Free owned free
  known : ∀ statement, owned statement → statement < connection.allocated
  below : ∀ statement, owned statement → connection.pointer statement < connection.prepared
  live : ∀ statement, owned statement → connection.pointer statement ∉ connection.finalized
  distinct : ∀ first second, owned first → owned second →
    connection.pointer first = connection.pointer second → first = second
  accounted : ∀ statementPtr, statementPtr < connection.prepared →
    statementPtr ∉ connection.finalized →
      ∃ statement, owned statement ∧ connection.pointer statement = statementPtr
  once : connection.finalized.Nodup
  past : ∀ statementPtr ∈ connection.finalized, statementPtr < connection.prepared

/-- The fields of the objects say who owns them. -/
structure Flagged (held : List Nat) : Prop where
  known : ∀ sql statement, connection.Cached sql statement →
    (connection.objects statement).mInCache = true ∧
      (connection.objects statement).mSql = some sql
  cached : ∀ statement ∈ held, (connection.objects statement).mInCache = true →
    ∃ sql, connection.Cached sql statement
  inUse : ∀ sql statement, connection.Cached sql statement →
    (connection.objects statement).mInUse = true → statement ∈ held
  apart : held.Nodup

structure Sound (held : List Nat) : Prop where
  flags : connection.Flagged held
  owning : connection.Owning (connection.Owned held)

variable {connection}

@[simp]
theorem objects_write_self (statement : Nat) (change : PreparedStatement → PreparedStatement) :
    (connection.write statement change).objects statement =
      change (connection.objects statement) := Function.update_self ..

theorem objects_write_of_ne {statement other : Nat} (different : other ≠ statement)
    (change : PreparedStatement → PreparedStatement) :
    (connection.write statement change).objects other = connection.objects other :=
  Function.update_of_ne different _ _

/-- A write that keeps a field keeps it at every object. -/
theorem field_write (connection : SQLiteConnection) (statement : Nat) {Field : Type}
    (field : PreparedStatement → Field) {change : PreparedStatement → PreparedStatement}
    (kept : ∀ fields, field (change fields) = field fields) (other : Nat) :
    field ((connection.write statement change).objects other) = field (connection.objects other) := by
  by_cases same : other = statement
  · rw [same, objects_write_self, kept]
  · rw [objects_write_of_ne same]

theorem pointer_write {statement : Nat} {change : PreparedStatement → PreparedStatement}
    (kept : ∀ fields, (change fields).mStatementPtr = fields.mStatementPtr) (other : Nat) :
    (connection.write statement change).pointer other = connection.pointer other :=
  field_write connection statement PreparedStatement.mStatementPtr kept other

/-! ## Ownership -/

variable {owned other : Nat → Prop}

theorem Owning.congr (owning : connection.Owning owned)
    (same : ∀ statement, other statement ↔ owned statement) : connection.Owning other := by
  rw [show other = owned from funext fun statement => propext (same statement)]
  exact owning

/-- The cache plays no part in it. -/
theorem Owning.withCache (owning : connection.Owning owned) (cache : LruCache String Nat) :
    { connection with mPreparedStatementCache := cache }.Owning owned := by
  obtain ⟨⟨free, linked, nodup, known, unowned⟩, rest⟩ := owning
  exact ⟨⟨free, linked, nodup, known, unowned⟩, ‹_›, ‹_›, ‹_›, ‹_›, ‹_›, ‹_›, ‹_›⟩

theorem Owning.write (owning : connection.Owning owned) {statement : Nat}
    {change : PreparedStatement → PreparedStatement}
    (next : ∀ fields, (change fields).mPoolNext = fields.mPoolNext)
    (pointer : ∀ fields, (change fields).mStatementPtr = fields.mStatementPtr) :
    (connection.write statement change).Owning owned := by
  have nexts := field_write connection statement PreparedStatement.mPoolNext next
  have pointers : ∀ other, (connection.write statement change).pointer other =
      connection.pointer other := pointer_write pointer
  obtain ⟨⟨free, linked, nodup, known, unowned⟩, allocated, below, live, distinct, accounted,
    once, past⟩ := owning
  refine ⟨⟨free, linked.of_agree fun node _ => nexts node, nodup, known, unowned⟩, allocated,
    ?_, ?_, ?_, ?_, once, past⟩
  · intro owner owns
    rw [pointers]
    exact below owner owns
  · intro owner owns
    rw [pointers]
    exact live owner owns
  · intro first second one two same
    rw [pointers, pointers] at same
    exact distinct first second one two same
  · intro statementPtr lower unfinished
    obtain ⟨owner, owns, same⟩ := accounted statementPtr lower unfinished
    exact ⟨owner, owns, (pointers owner).trans same⟩

theorem Owning.writeCache (owning : connection.Owning owned) (cache : LruCache String Nat)
    {statement : Nat} {change : PreparedStatement → PreparedStatement}
    (next : ∀ fields, (change fields).mPoolNext = fields.mPoolNext)
    (pointer : ∀ fields, (change fields).mStatementPtr = fields.mStatementPtr)
    (same : ∀ statement, other statement ↔ owned statement) :
    ({ connection with mPreparedStatementCache := cache }.write statement change).Owning other :=
  ((owning.withCache cache).write next pointer).congr same

theorem objects_finalize (statement : Nat) :
    (connection.finalizePreparedStatement statement).objects =
      Function.update connection.objects statement { connection.objects statement with
        mSql := none
        mPoolNext := connection.mPreparedStatementPool } := rfl

/-- An owned object is finalized, and is free from then on. -/
theorem Owning.finalize (owning : connection.Owning owned) {statement : Nat}
    (owns : owned statement) :
    (connection.finalizePreparedStatement statement).Owning
      fun other => owned other ∧ other ≠ statement := by
  obtain ⟨⟨free, linked, nodup, known, unowned⟩, allocated, below, live, distinct, accounted,
    once, past⟩ := owning
  have outside : statement ∉ free := fun member => unowned statement member owns
  have elsewhere : ∀ other, other ≠ statement →
      (connection.finalizePreparedStatement statement).objects other = connection.objects other :=
    fun other different => by rw [objects_finalize, Function.update_of_ne different]
  refine ⟨⟨statement :: free, ?_, ?_, ?_, ?_⟩, ?_, ?_, ?_, ?_, ?_, ?_, ?_⟩
  · refine linked.push ?_ fun node member => ?_
    · rw [objects_finalize, Function.update_self]
    · rw [elsewhere node fun same => outside (same ▸ member)]
  · exact List.nodup_cons.mpr ⟨outside, nodup⟩
  · intro node member
    rcases List.mem_cons.mp member with rfl | member
    · exact allocated _ owns
    · exact known node member
  · rintro node member ⟨owns', different⟩
    exact unowned node ((List.mem_cons.mp member).resolve_left different) owns'
  · rintro owner ⟨owns', -⟩
    exact allocated owner owns'
  · rintro owner ⟨owns', different⟩
    rw [pointer, elsewhere owner different]
    exact below owner owns'
  · rintro owner ⟨owns', different⟩ member
    rw [pointer, elsewhere owner different] at member
    rcases List.mem_append.mp member with earlier | now
    · exact live owner owns' earlier
    · exact different (distinct owner statement owns' owns (List.mem_singleton.mp now))
  · rintro first second ⟨one, different⟩ ⟨two, different'⟩ same
    rw [pointer, pointer, elsewhere first different, elsewhere second different'] at same
    exact distinct first second one two same
  · intro statementPtr lower unfinished
    have apart : statementPtr ∉ connection.finalized ∧ statementPtr ≠ connection.pointer statement := by
      constructor
      · exact fun member => unfinished (List.mem_append_left _ member)
      · rintro rfl
        exact unfinished (List.mem_append_right _ (List.mem_singleton_self _))
    obtain ⟨owner, owns', same⟩ := accounted statementPtr lower apart.1
    have different : owner ≠ statement := by
      rintro rfl
      exact apart.2 same.symm
    refine ⟨owner, ⟨owns', different⟩, ?_⟩
    rw [pointer, elsewhere owner different]
    exact same
  · refine List.nodup_append.mpr ⟨once, List.nodup_singleton _, ?_⟩
    rintro _ earlier _ now rfl
    rw [List.mem_singleton.mp now] at earlier
    exact live statement owns earlier
  · intro statementPtr member
    rcases List.mem_append.mp member with earlier | now
    · exact past statementPtr earlier
    · rw [List.mem_singleton.mp now]
      exact below statement owns

/-- An object that nobody owns gets the next native statement. -/
theorem Owning.adopt {after : SQLiteConnection} {statement : Nat} (owning : connection.Owning owned)
    (unowned : ¬ owned statement)
    (pool : ∃ free, after.Free (fun other => owned other ∨ other = statement) free)
    (known : statement < after.allocated) (grown : connection.allocated ≤ after.allocated)
    (elsewhere : ∀ other, other ≠ statement → after.objects other = connection.objects other)
    (here : after.pointer statement = connection.prepared)
    (prepared : after.prepared = connection.prepared + 1)
    (finalized : after.finalized = connection.finalized) :
    after.Owning fun other => owned other ∨ other = statement := by
  have pointers : ∀ owner, owned owner → after.pointer owner = connection.pointer owner := by
    intro owner owns
    rw [pointer, elsewhere owner fun same => unowned (same ▸ owns)]
    rfl
  have fresh : ∀ owner, owned owner → after.pointer owner ≠ connection.prepared := by
    intro owner owns
    rw [pointers owner owns]
    exact Nat.ne_of_lt (owning.below owner owns)
  refine ⟨pool, ?_, ?_, ?_, ?_, ?_, ?_, ?_⟩
  · rintro owner (owns | rfl)
    · exact Nat.lt_of_lt_of_le (owning.known owner owns) grown
    · exact known
  · rw [prepared]
    rintro owner (owns | rfl)
    · rw [pointers owner owns]
      exact Nat.lt_succ_of_lt (owning.below owner owns)
    · rw [here]
      exact Nat.lt_succ_self _
  · rw [finalized]
    rintro owner (owns | rfl)
    · rw [pointers owner owns]
      exact owning.live owner owns
    · rw [here]
      exact fun member => Nat.lt_irrefl _ (owning.past _ member)
  · rintro first second (one | rfl) (two | rfl) same
    · rw [pointers first one, pointers second two] at same
      exact owning.distinct first second one two same
    · exact absurd (same.trans here) (fresh first one)
    · exact absurd (same.symm.trans here) (fresh second two)
    · rfl
  · rw [prepared, finalized]
    intro statementPtr lower unfinished
    rcases Nat.lt_or_ge statementPtr connection.prepared with earlier | last
    · obtain ⟨owner, owns, same⟩ := owning.accounted statementPtr earlier unfinished
      exact ⟨owner, Or.inl owns, (pointers owner owns).trans same⟩
    · exact ⟨statement, Or.inr rfl, by omega⟩
  · rw [finalized]
    exact owning.once
  · rw [finalized, prepared]
    exact fun statementPtr member => Nat.lt_succ_of_lt (owning.past statementPtr member)

/-- Where an obtained object comes from. -/
inductive Source (connection : SQLiteConnection) (statement : Nat) (after : SQLiteConnection) :
    Prop where
  | pool (head : connection.mPreparedStatementPool = some statement)
      (next : after.mPreparedStatementPool = (connection.objects statement).mPoolNext)
      (allocated : after.allocated = connection.allocated)
  | new (head : connection.mPreparedStatementPool = none)
      (next : after.mPreparedStatementPool = none) (fresh : statement = connection.allocated)
      (allocated : after.allocated = connection.allocated + 1)

/-- What `obtainPreparedStatement` changes. -/
structure Obtained (connection : SQLiteConnection) (sql : String) (statementPtr statement : Nat)
    (after : SQLiteConnection) : Prop where
  source : Source connection statement after
  elsewhere : ∀ other, other ≠ statement → after.objects other = connection.objects other
  pointer : after.pointer statement = statementPtr
  mSql : (after.objects statement).mSql = some sql
  mInCache : (after.objects statement).mInCache = false
  cache : after.mPreparedStatementCache = connection.mPreparedStatementCache
  prepared : after.prepared = connection.prepared
  finalized : after.finalized = connection.finalized

theorem obtained (sql : String) (statementPtr numParameters type : Nat) (readOnly : Bool)
    {statement : Nat} {after : SQLiteConnection}
    (obtains : connection.obtainPreparedStatement sql statementPtr numParameters type readOnly =
      (statement, after)) :
    connection.Obtained sql statementPtr statement after := by
  rw [obtainPreparedStatement, obtainObject] at obtains
  cases head : connection.mPreparedStatementPool with
  | some first =>
      rw [head] at obtains
      obtain ⟨rfl, rfl⟩ := Prod.mk.inj obtains
      refine ⟨.pool head rfl rfl, ?_, ?_, ?_, ?_, rfl, rfl, rfl⟩
      · intro other different
        rw [objects_write_of_ne different, objects_write_of_ne different]
      · rw [pointer, objects_write_self]
      · rw [objects_write_self]
      · rw [objects_write_self, objects_write_self]
  | none =>
      rw [head] at obtains
      obtain ⟨rfl, rfl⟩ := Prod.mk.inj obtains
      refine ⟨.new head rfl rfl rfl, ?_, ?_, ?_, ?_, rfl, rfl, rfl⟩
      · intro other different
        rw [objects_write_of_ne different, objects_write_of_ne different]
      · rw [pointer, objects_write_self]
      · rw [objects_write_self]
      · rw [objects_write_self, objects_write_self]

/-- An object that is obtained is one that nobody owns. -/
theorem Owning.obtain (owning : connection.Owning owned) {sql : String} {statement : Nat}
    {after : SQLiteConnection}
    (obtained : connection.nativePrepareStatement.2.Obtained sql connection.prepared statement after) :
    ¬ owned statement ∧ after.Owning fun other => owned other ∨ other = statement := by
  obtain ⟨free, linked, nodup, known, unowned⟩ := owning.pool
  cases obtained.source with
  | pool head next allocated =>
      change connection.mPreparedStatementPool = some statement at head
      rw [head] at linked
      obtain ⟨rest, rfl, further⟩ := linked.pop
      obtain ⟨outside, nodup⟩ := List.nodup_cons.mp nodup
      have apart := unowned statement List.mem_cons_self
      refine ⟨apart, owning.adopt apart ⟨rest, ?_, nodup, ?_, ?_⟩ ?_ (Nat.le_of_eq allocated.symm)
        obtained.elsewhere obtained.pointer obtained.prepared obtained.finalized⟩
      · rw [next]
        refine further.of_agree fun node member => ?_
        rw [obtained.elsewhere node fun same => outside (same ▸ member)]
        rfl
      · intro node member
        rw [allocated]
        exact known node (List.mem_cons_of_mem _ member)
      · rintro node member (owns | rfl)
        · exact unowned node (List.mem_cons_of_mem _ member) owns
        · exact outside member
      · rw [allocated]
        exact known statement List.mem_cons_self
  | new head next fresh allocated =>
      have apart : ¬ owned statement := by
        intro owns
        rw [fresh] at owns
        exact Nat.lt_irrefl _ (owning.known _ owns)
      refine ⟨apart, owning.adopt apart ⟨[], next, List.nodup_nil, nofun, nofun⟩ ?_ ?_
        obtained.elsewhere obtained.pointer obtained.prepared obtained.finalized⟩
      · rw [allocated, fresh]
        exact Nat.lt_succ_self _
      · rw [allocated]
        exact Nat.le_succ _

end SQLiteConnection

end Prepared
end ModuleDatabase
