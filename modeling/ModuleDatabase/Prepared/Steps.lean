import ModuleDatabase.Prepared.Moves

namespace ModuleDatabase
namespace Prepared
namespace SQLiteConnection

/-!
# Steps that keep a connection sound

Taking a statement is sound if it takes none away: a statement of the cache that is in use
is marked, or nobody asks for it and it is not the eldest.  Every release is sound.
-/

section Steps

variable {connection : SQLiteConnection} {held : List Nat} {statement : Nat} {sql : String}

/-- The cache gives a statement up that is not held without a mark. -/
theorem Sound.entryRemoved (sound : connection.Sound held)
    (cached : connection.Cached sql statement) {cache : LruCache String Nat}
    (rest : ∀ entry, entry ∈ cache.entries ↔
      entry ∈ connection.mPreparedStatementCache.entries ∧ entry.1 ≠ sql)
    (undisturbed : (connection.objects statement).mInUse = false → statement ∉ held) :
    ({ connection with mPreparedStatementCache := cache }.entryRemoved statement).Sound held := by
  have mark : (({ connection with mPreparedStatementCache := cache }.write statement
      fun fields => { fields with mInCache := false }).objects statement).mInUse =
        (connection.objects statement).mInUse := by
    rw [objects_write_self]
  rw [SQLiteConnection.entryRemoved, mark]
  cases marked : (connection.objects statement).mInUse with
  | true => exact sound.uncache cached (sound.flags.inUse sql statement cached marked) rest
  | false =>
      have holding := sound.hold cached (undisturbed marked)
      refine (holding.uncache cached List.mem_cons_self rest).finalize fun key left => ?_
      obtain ⟨cached', different⟩ := (rest _).mp left
      have one := (sound.flags.known sql statement cached).2
      have two := (sound.flags.known key statement cached').2
      rw [one] at two
      cases two
      exact different rfl

theorem entryRemoved_withCache (cache : LruCache String Nat) :
    { connection with mPreparedStatementCache := cache }.entryRemoved statement =
      { connection.entryRemoved statement with mPreparedStatementCache := cache } := by
  rw [SQLiteConnection.entryRemoved, SQLiteConnection.entryRemoved]
  split
  · rw [if_pos ‹_›]
    rfl
  · rw [if_neg ‹_›]
    rfl

theorem objects_entryRemoved_of_ne {other : Nat} (different : other ≠ statement) :
    (connection.entryRemoved statement).objects other = connection.objects other := by
  rw [SQLiteConnection.entryRemoved]
  split
  · rw [objects_finalize, Function.update_of_ne different, objects_write_of_ne different]
  · rw [objects_write_of_ne different]

/-- A new statement is put into the cache. -/
theorem Sound.enter (sound : connection.Sound held) (member : statement ∈ held)
    (uncached : ∀ key, ¬ connection.Cached key statement)
    (absent : connection.mPreparedStatementCache.find sql = none)
    (named : (connection.objects statement).mSql = some sql)
    (undisturbed : ∀ key eldest,
      connection.mPreparedStatementCache.displaced = some (key, eldest) →
        (connection.objects eldest).mInUse = false → eldest ∉ held) :
    ((connection.changeCache (connection.mPreparedStatementCache.put sql statement)).write
      statement fun fields => { fields with mInCache := true }).Sound held := by
  cases displaced : connection.mPreparedStatementCache.displaced with
  | none =>
      obtain ⟨removed, entries⟩ := LruCache.put_of_room statement absent displaced
      rw [changeCache, removed, List.foldl_nil]
      refine sound.insert member uncached named fun entry => ?_
      rw [entries, List.mem_append, List.mem_singleton]
  | some entry =>
      obtain ⟨key, eldest⟩ := entry
      obtain ⟨rest, whole, removed, entries⟩ :=
        LruCache.put_of_displaced statement absent displaced
      have cached : connection.Cached key eldest := by
        rw [Cached, whole]
        exact List.mem_cons_self
      have others : ∀ entry,
          entry ∈ (connection.mPreparedStatementCache.remove key).2.entries ↔
            entry ∈ connection.mPreparedStatementCache.entries ∧ entry.1 ≠ key :=
        fun entry => LruCache.mem_others
      have evicted := sound.entryRemoved cached others (undisturbed key eldest displaced)
      have different : statement ≠ eldest := fun same => uncached key (same ▸ cached)
      rw [entryRemoved_withCache] at evicted
      rw [changeCache, removed, List.foldl_cons, List.foldl_nil, entryRemoved_withCache]
      have named' : ((connection.entryRemoved eldest).objects statement).mSql = some sql := by
        rw [objects_entryRemoved_of_ne different]
        exact named
      refine evicted.insert member (fun other left => ?_) named' fun entry => ?_
      · exact uncached other ((others _).mp left).1
      · rw [entries, List.mem_append, List.mem_singleton]
        exact or_congr_left ((LruCache.mem_rest whole).trans (others entry).symm)

/-- What an acquisition disturbs nobody by. -/
structure Undisturbed (connection : SQLiteConnection) (held : List Nat) (sql : String)
    (preparation : Preparation) : Prop where
  /-- A statement that is found without a mark is not in use. -/
  unmarked : ∀ statement, connection.Cached sql statement →
    (connection.objects statement).mInUse = false → statement ∉ held
  /-- A copy is not lost by an exception. -/
  copied : ∀ statement, connection.Cached sql statement →
    (connection.objects statement).mInUse = true → preparation ≠ .unread
  /-- The eldest statement has to go, and is not in use without a mark. -/
  eldest : connection.mPreparedStatementCache.find sql = none →
    ∀ numParameters type readOnly, preparation = .read numParameters type readOnly →
      isCacheable type = true → ∀ key statement,
        connection.mPreparedStatementCache.displaced = some (key, statement) →
          (connection.objects statement).mInUse = false → statement ∉ held

/-- The uses after an acquisition. -/
def heldAfter (held : List Nat) : Option Nat → List Nat
  | some statement => statement :: held
  | none => held

theorem Sound.lose (sound : connection.Sound held) :
    (connection.nativePrepareStatement.2.nativeFinalizeStatement connection.prepared).Sound held := by
  obtain ⟨flags, ⟨free, linked, nodup, within, unowned⟩, known, below, live, distinct, accounted,
    once, past⟩ := sound
  refine ⟨⟨flags.known, flags.cached, flags.inUse, flags.apart⟩,
    ⟨free, linked, nodup, within, unowned⟩, known, ?_, ?_, distinct, ?_, ?_, ?_⟩
  · exact fun owner owns => Nat.lt_succ_of_lt (below owner owns)
  · intro owner owns member
    rcases List.mem_append.mp member with earlier | now
    · exact live owner owns earlier
    · exact Nat.ne_of_lt (below owner owns) (List.mem_singleton.mp now)
  · intro statementPtr lower unfinished
    have apart : statementPtr ≠ connection.prepared := by
      rintro rfl
      exact unfinished (List.mem_append_right _ (List.mem_singleton_self _))
    refine accounted statementPtr ?_ fun member => unfinished (List.mem_append_left _ member)
    exact Nat.lt_of_le_of_ne (Nat.le_of_lt_succ lower) apart
  · refine List.nodup_append.mpr ⟨once, List.nodup_singleton _, ?_⟩
    rintro _ earlier _ now rfl
    rw [List.mem_singleton.mp now] at earlier
    exact Nat.lt_irrefl _ (past _ earlier)
  · intro statementPtr member
    rcases List.mem_append.mp member with earlier | now
    · exact Nat.lt_succ_of_lt (past statementPtr earlier)
    · rw [List.mem_singleton.mp now]
      exact Nat.lt_succ_self _

/-- A statement that the cache does not have is prepared. -/
theorem Sound.prepareNew (sound : connection.Sound held)
    (absent : connection.mPreparedStatementCache.find sql = none) {preparation : Preparation}
    (undisturbed : connection.Undisturbed held sql preparation) :
    (connection.prepareStatement sql preparation none).2.Sound
      (heldAfter held (connection.prepareStatement sql preparation none).1) := by
  cases preparation with
  | failed => exact sound
  | unread => exact sound.lose
  | read numParameters type readOnly =>
      rw [prepareStatement]
      dsimp only
      cases obtains : connection.nativePrepareStatement.2.obtainPreparedStatement sql
          connection.nativePrepareStatement.1 numParameters type readOnly with
      | mk statement after =>
          have obtained := obtained sql _ numParameters type readOnly obtains
          obtain ⟨unowned, holding⟩ := sound.obtain obtained
          dsimp only [heldAfter]
          refine Sound.setInUse ?_ true fun _ => List.mem_cons_self
          cases cacheable : isCacheable type with
          | false => exact holding
          | true =>
              have cache : after.mPreparedStatementCache = connection.mPreparedStatementCache :=
                obtained.cache
              refine holding.enter List.mem_cons_self ?_ ?_ obtained.mSql ?_
              · intro key cached
                rw [Cached, cache] at cached
                exact unowned (Or.inl ⟨key, cached⟩)
              · rw [cache]
                exact absent
              · intro key eldest displaced unmarked
                rw [cache] at displaced
                have cached : connection.Cached key eldest :=
                  LruCache.displaced_mem displaced
                have different : eldest ≠ statement := by
                  rintro rfl
                  exact unowned (Or.inl ⟨key, cached⟩)
                rw [obtained.elsewhere eldest different] at unmarked
                intro member
                exact undisturbed.eldest absent _ _ _ rfl cacheable key eldest displaced unmarked
                  ((List.mem_cons.mp member).resolve_left different)

/-- The statement of the cache is in use, and a copy is prepared. -/
theorem Sound.prepareCopy (sound : connection.Sound held) {found : Nat} {preparation : Preparation}
    (kept : preparation ≠ .unread) :
    (connection.prepareStatement sql preparation (some found)).2.Sound
      (heldAfter held (connection.prepareStatement sql preparation (some found)).1) := by
  cases preparation with
  | failed => exact sound
  | unread => exact absurd rfl kept
  | read numParameters type readOnly =>
      rw [prepareStatement]
      dsimp only
      cases obtains : connection.nativePrepareStatement.2.obtainPreparedStatement sql
          connection.nativePrepareStatement.1 numParameters type readOnly with
      | mk statement after =>
          have obtained := obtained sql _ numParameters type readOnly obtains
          exact (sound.obtain obtained).2.setInUse true fun _ => List.mem_cons_self

theorem acquire_of_absent (absent : connection.mPreparedStatementCache.find sql = none)
    (preparation : Preparation) :
    connection.acquirePreparedStatement sql preparation =
      connection.prepareStatement sql preparation none := by
  rw [acquirePreparedStatement, LruCache.get_of_absent absent]

/-- The cache after it was asked for a text. -/
def touched (connection : SQLiteConnection) (sql : String) : SQLiteConnection :=
  { connection with mPreparedStatementCache := (connection.mPreparedStatementCache.get sql).2 }

theorem acquire_of_cached (cached : connection.Cached sql statement) (preparation : Preparation) :
    connection.acquirePreparedStatement sql preparation =
      if (connection.objects statement).mInUse = false then
        (some statement, connection.touched sql)
      else (connection.touched sql).prepareStatement sql preparation (some statement) := by
  have found : (connection.mPreparedStatementCache.get sql).1 = some statement := by
    rw [LruCache.get_fst]
    exact LruCache.find_eq_some.mpr cached
  rw [acquirePreparedStatement, touched]
  cases got : connection.mPreparedStatementCache.get sql with
  | mk value cache =>
      rw [got] at found
      cases found
      dsimp only
      cases (connection.objects statement).mInUse with
      | true => rfl
      | false => rfl

theorem Sound.touched (sound : connection.Sound held) (sql : String) :
    (connection.touched sql).Sound held :=
  sound.touch fun _ => LruCache.mem_get

theorem Sound.acquirePreparedStatement (sound : connection.Sound held)
    {preparation : Preparation} (undisturbed : connection.Undisturbed held sql preparation) :
    (connection.acquirePreparedStatement sql preparation).2.Sound
      (heldAfter held (connection.acquirePreparedStatement sql preparation).1) := by
  cases found : connection.mPreparedStatementCache.find sql with
  | none =>
      rw [acquire_of_absent found]
      exact sound.prepareNew found undisturbed
  | some statement =>
      have cached : connection.Cached sql statement := LruCache.find_eq_some.mp found
      rw [acquire_of_cached cached]
      cases marked : (connection.objects statement).mInUse with
      | false =>
          rw [if_pos rfl]
          exact (sound.touched sql).hold (LruCache.mem_get.mpr cached)
            (undisturbed.unmarked statement cached marked)
      | true =>
          rw [if_neg (Bool.false_ne_true ∘ Eq.symm)]
          exact (sound.touched sql).prepareCopy (undisturbed.copied statement cached marked)

/-- Every release is sound, whether the reset succeeds or not. -/
theorem Sound.releasePreparedStatement (sound : connection.Sound (statement :: held))
    (resetThrows : Bool) :
    (connection.releasePreparedStatement statement resetThrows).Sound held := by
  have released : (connection.write statement fun fields =>
      { fields with mInUse := false }).Sound (statement :: held) := sound.setInUse false nofun
  have unmarked : ((connection.write statement fun fields =>
      { fields with mInUse := false }).objects statement).mInUse = false := by
    rw [objects_write_self]
  rw [SQLiteConnection.releasePreparedStatement]
  generalize connection.write statement (fun fields => { fields with mInUse := false }) = connection
    at released unmarked
  dsimp only
  split
  · rename_i inCache
    obtain ⟨key, cached⟩ := released.flags.cached statement List.mem_cons_self inCache
    have left := released.leave cached unmarked
    split
    · rw [(released.flags.known key statement cached).2]
      dsimp only [LruCache.remove]
      rw [LruCache.find_eq_some.mpr cached]
      exact left.entryRemoved cached (fun entry => LruCache.mem_others)
        fun _ => (List.nodup_cons.mp sound.flags.apart).1
    · exact left
  · rename_i outside
    refine released.finalize fun key cached => outside ?_
    exact (released.flags.known key statement cached).1

end Steps

end SQLiteConnection
end Prepared
end ModuleDatabase
