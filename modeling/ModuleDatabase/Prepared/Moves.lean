import ModuleDatabase.Prepared.Soundness

namespace ModuleDatabase
namespace Prepared
namespace SQLiteConnection

/-!
# Moves of ownership

A statement is marked, enters or leaves the cache, is handed out, or ends.  The steps of a
connection consist of these moves.
-/

section Moves

variable {connection : SQLiteConnection} {held : List Nat} {statement : Nat} {sql : String}

theorem Sound.setInUse (sound : connection.Sound held) (mark : Bool)
    (marks : mark = true → statement ∈ held) :
    (connection.write statement fun fields => { fields with mInUse := mark }).Sound held := by
  have kept {Field : Type} (field : PreparedStatement → Field)
      (same : ∀ fields : PreparedStatement, field { fields with mInUse := mark } = field fields) :=
    field_write connection statement field same
  refine ⟨⟨?_, ?_, ?_, sound.flags.apart⟩, sound.owning.write (fun _ => rfl) fun _ => rfl⟩
  · intro key other cached
    rw [kept PreparedStatement.mInCache fun _ => rfl, kept PreparedStatement.mSql fun _ => rfl]
    exact sound.flags.known key other cached
  · intro other member inCache
    rw [kept PreparedStatement.mInCache fun _ => rfl] at inCache
    exact sound.flags.cached other member inCache
  · intro key other cached marked
    by_cases same : other = statement
    · rw [same, objects_write_self] at marked
      rw [same]
      exact marks marked
    · rw [objects_write_of_ne same] at marked
      exact sound.flags.inUse key other cached marked

theorem Sound.touch (sound : connection.Sound held) {cache : LruCache String Nat}
    (same : ∀ entry, entry ∈ cache.entries ↔ entry ∈ connection.mPreparedStatementCache.entries) :
    { connection with mPreparedStatementCache := cache }.Sound held := by
  refine ⟨⟨?_, ?_, ?_, sound.flags.apart⟩, (sound.owning.withCache cache).congr fun other => ?_⟩
  · exact fun key other cached => sound.flags.known key other ((same _).mp cached)
  · intro other member inCache
    obtain ⟨key, cached⟩ := sound.flags.cached other member inCache
    exact ⟨key, (same _).mpr cached⟩
  · exact fun key other cached => sound.flags.inUse key other ((same _).mp cached)
  · exact or_congr_left (exists_congr fun key => same _)

/-- A statement of the cache is handed out. -/
theorem Sound.hold (sound : connection.Sound held) (cached : connection.Cached sql statement)
    (unheld : statement ∉ held) : connection.Sound (statement :: held) := by
  refine ⟨⟨sound.flags.known, ?_, ?_, List.nodup_cons.mpr ⟨unheld, sound.flags.apart⟩⟩,
    sound.owning.congr fun other => ?_⟩
  · intro other member inCache
    rcases List.mem_cons.mp member with rfl | member
    · exact ⟨sql, cached⟩
    · exact sound.flags.cached other member inCache
  · exact fun key other cached' marked =>
      List.mem_cons_of_mem _ (sound.flags.inUse key other cached' marked)
  · constructor
    · rintro (cached' | member)
      · exact Or.inl cached'
      · rcases List.mem_cons.mp member with rfl | member
        · exact Or.inl ⟨sql, cached⟩
        · exact Or.inr member
    · rintro (cached' | member)
      · exact Or.inl cached'
      · exact Or.inr (List.mem_cons_of_mem _ member)

/-- A use of a statement that stays in the cache ends. -/
theorem Sound.leave (sound : connection.Sound (statement :: held))
    (cached : connection.Cached sql statement)
    (unmarked : (connection.objects statement).mInUse = false) : connection.Sound held := by
  refine ⟨⟨sound.flags.known, ?_, ?_, (List.nodup_cons.mp sound.flags.apart).2⟩,
    sound.owning.congr fun other => ?_⟩
  · exact fun other member inCache =>
      sound.flags.cached other (List.mem_cons_of_mem _ member) inCache
  · intro key other cached' marked
    rcases List.mem_cons.mp (sound.flags.inUse key other cached' marked) with rfl | member
    · rw [unmarked] at marked
      cases marked
    · exact member
  · constructor
    · rintro (cached' | member)
      · exact Or.inl cached'
      · exact Or.inr (List.mem_cons_of_mem _ member)
    · rintro (cached' | member)
      · exact Or.inl cached'
      · rcases List.mem_cons.mp member with rfl | member
        · exact Or.inl ⟨sql, cached⟩
        · exact Or.inr member

/-- A statement that is held leaves the cache. -/
theorem Sound.uncache (sound : connection.Sound held) (cached : connection.Cached sql statement)
    (member : statement ∈ held) {cache : LruCache String Nat}
    (rest : ∀ entry, entry ∈ cache.entries ↔
      entry ∈ connection.mPreparedStatementCache.entries ∧ entry.1 ≠ sql) :
    ({ connection with mPreparedStatementCache := cache }.write statement
      fun fields => { fields with mInCache := false }).Sound held := by
  have elsewhere : ∀ key other, (key, other) ∈ cache.entries →
      connection.Cached key other ∧ other ≠ statement := by
    intro key other left
    obtain ⟨cached', different⟩ := (rest _).mp left
    refine ⟨cached', ?_⟩
    rintro rfl
    have one := (sound.flags.known sql other cached).2
    have two := (sound.flags.known key other cached').2
    rw [one] at two
    cases two
    exact different rfl
  refine ⟨⟨?_, ?_, ?_, sound.flags.apart⟩,
    sound.owning.writeCache cache (fun _ => rfl) (fun _ => rfl) fun other => ?_⟩
  · intro key other left
    obtain ⟨cached', different⟩ := elsewhere key other left
    rw [objects_write_of_ne different]
    exact sound.flags.known key other cached'
  · intro other held' inCache
    by_cases same : other = statement
    · rw [same, objects_write_self] at inCache
      cases inCache
    · rw [objects_write_of_ne same] at inCache
      obtain ⟨key, cached'⟩ := sound.flags.cached other held' inCache
      refine ⟨key, (rest _).mpr ⟨cached', ?_⟩⟩
      rintro rfl
      exact same (LruCache.value_unique cached' cached)
  · intro key other left marked
    obtain ⟨cached', different⟩ := elsewhere key other left
    rw [objects_write_of_ne different] at marked
    exact sound.flags.inUse key other cached' marked
  · constructor
    · rintro (⟨key, left⟩ | held')
      · exact Or.inl ⟨key, (elsewhere key other left).1⟩
      · exact Or.inr held'
    · rintro (⟨key, cached'⟩ | held')
      · by_cases same : key = sql
        · cases same
          right
          rw [LruCache.value_unique cached' cached]
          exact member
        · exact Or.inl ⟨key, (rest _).mpr ⟨cached', same⟩⟩
      · exact Or.inr held'

/-- The use of a statement outside of the cache ends. -/
theorem Sound.finalize (sound : connection.Sound (statement :: held))
    (uncached : ∀ key, ¬ connection.Cached key statement) :
    (connection.finalizePreparedStatement statement).Sound held := by
  obtain ⟨unheld, apart⟩ := List.nodup_cons.mp sound.flags.apart
  have objects := fun other (different : other ≠ statement) =>
    show (connection.finalizePreparedStatement statement).objects other =
      connection.objects other by rw [objects_finalize, Function.update_of_ne different]
  refine ⟨⟨?_, ?_, ?_, apart⟩,
    (sound.owning.finalize (Or.inr List.mem_cons_self)).congr fun other => ?_⟩
  · intro key other cached
    rw [objects other fun same => uncached key (same ▸ cached)]
    exact sound.flags.known key other cached
  · intro other member inCache
    rw [objects other fun same => unheld (same ▸ member)] at inCache
    exact sound.flags.cached other (List.mem_cons_of_mem _ member) inCache
  · intro key other cached marked
    have different : other ≠ statement := fun same => uncached key (same ▸ cached)
    rw [objects other different] at marked
    exact (List.mem_cons.mp (sound.flags.inUse key other cached marked)).resolve_left different
  · constructor
    · rintro (⟨key, cached⟩ | member)
      · exact ⟨Or.inl ⟨key, cached⟩, fun same => uncached key (same ▸ cached)⟩
      · exact ⟨Or.inr (List.mem_cons_of_mem _ member), fun same => unheld (same ▸ member)⟩
    · rintro ⟨cached | member, different⟩
      · exact Or.inl cached
      · exact Or.inr ((List.mem_cons.mp member).resolve_left different)

/-- A new statement is handed out, still outside of the cache. -/
theorem Sound.obtain (sound : connection.Sound held) {after : SQLiteConnection}
    (obtained : connection.nativePrepareStatement.2.Obtained sql connection.prepared statement after) :
    ¬ connection.Owned held statement ∧ after.Sound (statement :: held) := by
  obtain ⟨unowned, owning⟩ := sound.owning.obtain obtained
  have cache : after.mPreparedStatementCache = connection.mPreparedStatementCache := obtained.cache
  have caches : ∀ key other, after.Cached key other ↔ connection.Cached key other := by
    intro key other
    rw [Cached, cache]
    exact Iff.rfl
  have uncached : ∀ key other, after.Cached key other → other ≠ statement := by
    rintro key other cached rfl
    exact unowned (Or.inl ⟨key, (caches key other).mp cached⟩)
  refine ⟨unowned, ⟨?_, ?_, ?_, ?_⟩, owning.congr fun other => ?_⟩
  · intro key other cached
    rw [obtained.elsewhere other (uncached key other cached)]
    exact sound.flags.known key other ((caches key other).mp cached)
  · intro other member inCache
    have different : other ≠ statement := by
      rintro rfl
      rw [obtained.mInCache] at inCache
      cases inCache
    rw [obtained.elsewhere other different] at inCache
    obtain ⟨key, cached⟩ :=
      sound.flags.cached other ((List.mem_cons.mp member).resolve_left different) inCache
    exact ⟨key, (caches key other).mpr cached⟩
  · intro key other cached marked
    rw [obtained.elsewhere other (uncached key other cached)] at marked
    exact List.mem_cons_of_mem _ (sound.flags.inUse key other ((caches key other).mp cached) marked)
  · exact List.nodup_cons.mpr ⟨fun member => unowned (Or.inr member), sound.flags.apart⟩
  · rw [Owned, Owned, List.mem_cons, or_assoc, or_comm (b := other = statement)]
    exact or_congr_left (exists_congr fun key => caches key other)

/-- A statement that is held enters the cache. -/
theorem Sound.insert (sound : connection.Sound held) (member : statement ∈ held)
    (uncached : ∀ key, ¬ connection.Cached key statement)
    (named : (connection.objects statement).mSql = some sql) {cache : LruCache String Nat}
    (grown : ∀ entry, entry ∈ cache.entries ↔
      entry ∈ connection.mPreparedStatementCache.entries ∨ entry = (sql, statement)) :
    ({ connection with mPreparedStatementCache := cache }.write statement
      fun fields => { fields with mInCache := true }).Sound held := by
  refine ⟨⟨?_, ?_, ?_, sound.flags.apart⟩,
    sound.owning.writeCache cache (fun _ => rfl) (fun _ => rfl) fun other => ?_⟩
  · intro key other cached
    rcases (grown _).mp cached with earlier | new
    · rw [objects_write_of_ne fun same : other = statement => uncached key (same ▸ earlier)]
      exact sound.flags.known key other earlier
    · cases new
      rw [objects_write_self]
      exact ⟨rfl, named⟩
  · intro other held' inCache
    by_cases same : other = statement
    · exact ⟨sql, (grown _).mpr (Or.inr (by rw [same]))⟩
    · rw [objects_write_of_ne same] at inCache
      obtain ⟨key, cached⟩ := sound.flags.cached other held' inCache
      exact ⟨key, (grown _).mpr (Or.inl cached)⟩
  · intro key other cached marked
    rcases (grown _).mp cached with earlier | new
    · rw [objects_write_of_ne fun same : other = statement => uncached key (same ▸ earlier)] at marked
      exact sound.flags.inUse key other earlier marked
    · cases new
      exact member
  · constructor
    · rintro (⟨key, cached⟩ | held')
      · rcases (grown _).mp cached with earlier | new
        · exact Or.inl ⟨key, earlier⟩
        · cases new
          exact Or.inr member
      · exact Or.inr held'
    · rintro (⟨key, cached⟩ | held')
      · exact Or.inl ⟨key, (grown _).mpr (Or.inl cached)⟩
      · exact Or.inr held'

end Moves

end SQLiteConnection
end Prepared
end ModuleDatabase
