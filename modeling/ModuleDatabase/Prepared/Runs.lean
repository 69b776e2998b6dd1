import Mathlib.Data.List.Perm.Subperm
import ModuleDatabase.Prepared.Steps

namespace ModuleDatabase
namespace Prepared

/-!
# Runs of nested uses

A statement of the cache is handed out without a mark.  So the mark protects only the uses
that prepared their statement, and a run is safe exactly if no acquisition disturbs one of
the others.  In such a run every native statement is finalized once: none is left when the
connection is closed, and until then there are never more than the cache may hold and the
uses need.
-/

open SQLiteConnection

/-- Whoever uses a statement is the only one, it is not finalized, and no native statement
is forgotten. -/
structure Safe (usage : Usage) : Prop where
  apart : usage.held.Nodup
  live : ∀ statement ∈ usage.held,
    usage.connection.pointer statement ∉ usage.connection.finalized
  accounted : ∀ statementPtr, statementPtr < usage.connection.prepared →
    statementPtr ∉ usage.connection.finalized → ∃ statement,
      usage.connection.Owned usage.held statement ∧ usage.connection.pointer statement = statementPtr

/-- The action disturbs nobody. -/
def Undisturbing (usage : Usage) : Action → Prop
  | .acquire sql preparation => usage.connection.Undisturbed usage.held sql preparation
  | .release _ => True
  | .isPreparedStatementInCache _ => True

section Steps

variable {connection : SQLiteConnection} {held : List Nat} {statement : Nat} {sql : String}

theorem SQLiteConnection.Sound.safe (sound : connection.Sound held) : Safe ⟨connection, held⟩ where
  apart := sound.flags.apart
  live statement member := sound.owning.live statement (Or.inr member)
  accounted := sound.owning.accounted

theorem perform_acquire (sql : String) (preparation : Preparation) (usage : Usage) :
    (machine.perform (.acquire sql preparation) usage).2 =
      ⟨(usage.connection.acquirePreparedStatement sql preparation).2,
        heldAfter usage.held (usage.connection.acquirePreparedStatement sql preparation).1⟩ := by
  change (perform _ usage).2 = _
  rw [perform]
  cases usage.connection.acquirePreparedStatement sql preparation with
  | mk statement connection =>
      cases statement with
      | none => rfl
      | some statement => rfl

theorem SQLiteConnection.Sound.perform {usage : Usage}
    (sound : usage.connection.Sound usage.held) (action : Action)
    (undisturbing : Undisturbing usage action) :
    (machine.perform action usage).2.connection.Sound (machine.perform action usage).2.held := by
  cases action with
  | acquire sql preparation =>
      rw [perform_acquire]
      exact sound.acquirePreparedStatement undisturbing
  | release resetThrows =>
      obtain ⟨connection, held⟩ := usage
      cases held with
      | nil => exact sound
      | cons statement held => exact sound.releasePreparedStatement resetThrows
  | isPreparedStatementInCache sql =>
      exact sound.touched sql

/-- An object that the cache gives up without a mark is finalized at once. -/
theorem entryRemoved_unmarked (unmarked : (connection.objects statement).mInUse = false) :
    (connection.entryRemoved statement).finalized =
        connection.finalized ++ [connection.pointer statement] ∧
      (connection.entryRemoved statement).pointer statement = connection.pointer statement := by
  have mark : ((connection.write statement fun fields =>
      { fields with mInCache := false }).objects statement).mInUse = false := by
    rw [objects_write_self]
    exact unmarked
  have same : (connection.write statement fun fields =>
      { fields with mInCache := false }).pointer statement = connection.pointer statement :=
    pointer_write (by intro _; rfl) statement
  rw [entryRemoved, mark]
  refine ⟨congrArg (fun statementPtr => connection.finalized ++ [statementPtr]) same, ?_⟩
  change ((finalizePreparedStatement _ statement).objects statement).mStatementPtr = _
  rw [objects_finalize, Function.update_self]
  exact same

/-- The eldest is finalized, for whomever it was held. -/
theorem displaced_finalized (sound : connection.Sound held)
    (absent : connection.mPreparedStatementCache.find sql = none) {numParameters type : Nat}
    {readOnly : Bool} (cacheable : isCacheable type = true) {key : String} {eldest : Nat}
    (displaced : connection.mPreparedStatementCache.displaced = some (key, eldest))
    (unmarked : (connection.objects eldest).mInUse = false) :
    (connection.prepareStatement sql (.read numParameters type readOnly) none).2.pointer eldest ∈
      (connection.prepareStatement sql (.read numParameters type readOnly) none).2.finalized := by
  rw [prepareStatement]
  dsimp only
  cases obtains : connection.nativePrepareStatement.2.obtainPreparedStatement sql
      connection.nativePrepareStatement.1 numParameters type readOnly with
  | mk statement after =>
      have obtained := obtained sql _ numParameters type readOnly obtains
      have unowned := (sound.obtain obtained).1
      have cache : after.mPreparedStatementCache = connection.mPreparedStatementCache :=
        obtained.cache
      have different : eldest ≠ statement := by
        rintro rfl
        exact unowned (Or.inl ⟨key, LruCache.displaced_mem displaced⟩)
      have unmarked' : (after.objects eldest).mInUse = false := by
        rw [obtained.elsewhere eldest different]
        exact unmarked
      rw [← cache] at displaced absent
      obtain ⟨rest, -, removed, -⟩ := LruCache.put_of_displaced statement absent displaced
      obtain ⟨finalized, pointer⟩ := entryRemoved_unmarked unmarked'
      rw [cacheable, Option.isNone_none, Bool.and_true, if_pos rfl, pointer_write fun fields => ?_,
        pointer_write fun fields => ?_]
      · change (after.changeCache _).pointer eldest ∈ (after.changeCache _).finalized
        rw [changeCache, removed, List.foldl_cons, List.foldl_nil, entryRemoved_withCache]
        change (after.entryRemoved eldest).pointer eldest ∈ (after.entryRemoved eldest).finalized
        rw [pointer, finalized]
        exact List.mem_append_right _ (List.mem_singleton_self _)
      · rfl
      · rfl

/-- A copy that an exception loses has no owner. -/
theorem copy_lost (sound : connection.Sound held) (inCache : (connection.objects statement).mInCache = true) :
    ¬ Safe ⟨(connection.prepareStatement sql .unread (some statement)).2,
      heldAfter held (connection.prepareStatement sql .unread (some statement)).1⟩ := by
  have lost : connection.prepareStatement sql .unread (some statement) =
      (none, connection.nativePrepareStatement.2) := by
    change (if (!(connection.objects statement).mInCache) = true then _ else _) = _
    rw [inCache]
    rfl
  rw [lost]
  intro safe
  obtain ⟨owner, owns, same⟩ := safe.accounted connection.prepared (Nat.lt_succ_self _)
    fun member => Nat.lt_irrefl _ (sound.owning.past _ member)
  exact Nat.ne_of_lt (sound.owning.below owner owns) same

/-- An acquisition that leaves the connection safe disturbs nobody. -/
theorem undisturbed_of_safe (sound : connection.Sound held) {preparation : Preparation}
    (safe : Safe ⟨(connection.acquirePreparedStatement sql preparation).2,
      heldAfter held (connection.acquirePreparedStatement sql preparation).1⟩) :
    connection.Undisturbed held sql preparation := by
  refine ⟨?_, ?_, ?_⟩
  · intro statement cached unmarked member
    rw [acquire_of_cached cached, if_pos unmarked] at safe
    exact (List.nodup_cons.mp safe.apart).1 member
  · rintro statement cached marked rfl
    rw [acquire_of_cached cached, marked, if_neg (Bool.false_ne_true ∘ Eq.symm)] at safe
    exact copy_lost (sound.touched sql) (sound.flags.known sql statement cached).1 safe
  · rintro absent numParameters type readOnly rfl cacheable key eldest displaced unmarked member
    rw [acquire_of_absent absent] at safe
    exact safe.live eldest (List.mem_cons_of_mem _ member)
      (displaced_finalized sound absent cacheable displaced unmarked)

theorem safe_iff_undisturbing {usage : Usage} (sound : usage.connection.Sound usage.held)
    (action : Action) : Safe (machine.perform action usage).2 ↔ Undisturbing usage action := by
  constructor
  · intro safe
    cases action with
    | acquire sql preparation =>
        rw [perform_acquire] at safe
        exact undisturbed_of_safe sound safe
    | release resetThrows => exact trivial
    | isPreparedStatementInCache sql => exact trivial
  · exact fun undisturbing => (sound.perform action undisturbing).safe

theorem sound_opened (maxSqlCacheSize : Nat) (positive : 0 < maxSqlCacheSize) :
    (opened maxSqlCacheSize positive).connection.Sound [] where
  flags := ⟨nofun, nofun, nofun, List.nodup_nil⟩
  owning := by
    have unowned : ∀ statement,
        ¬ (opened maxSqlCacheSize positive).connection.Owned [] statement := by
      rintro statement (⟨sql, cached⟩ | member)
      · cases cached
      · cases member
    exact ⟨⟨[], rfl, List.nodup_nil, nofun, nofun⟩, fun statement owns => (unowned statement owns).elim,
      fun statement owns => (unowned statement owns).elim,
      fun statement owns => (unowned statement owns).elim,
      fun first _ owns => (unowned first owns).elim, fun _ below => (Nat.not_lt_zero _ below).elim,
      List.nodup_nil, nofun⟩

theorem sound_after {maxSqlCacheSize : Nat} (positive : 0 < maxSqlCacheSize) (run : List Action)
    (undisturbing : machine.Along Undisturbing (opened maxSqlCacheSize positive) run) :
    (machine.after (opened maxSqlCacheSize positive) run).connection.Sound
      (machine.after (opened maxSqlCacheSize positive) run).held :=
  machine.invariant_after (fun usage => usage.connection.Sound usage.held)
    (fun _ action sound undisturbing => sound.perform action undisturbing) _ run
    (sound_opened maxSqlCacheSize positive) undisturbing

/-- In every run of nested uses, with a cache of any size, the connection stays safe exactly
as long as no acquisition disturbs another use: by taking over a statement that is in use
without a mark, by displacing one, or by losing a copy. -/
theorem statements_safe_iff (maxSqlCacheSize : Nat) (positive : 0 < maxSqlCacheSize)
    (run : List Action) :
    machine.Along (fun usage action => Safe (machine.perform action usage).2)
        (opened maxSqlCacheSize positive) run ↔
      machine.Along Undisturbing (opened maxSqlCacheSize positive) run :=
  machine.along_iff_of_kept (fun usage => usage.connection.Sound usage.held)
    (fun _ action sound => safe_iff_undisturbing sound action)
    (fun _ action sound undisturbing => sound.perform action undisturbing) _ run
    (sound_opened maxSqlCacheSize positive)

/-- A use of a statement of the cache, in the middle of another such use: the second gets the
statement of the first. -/
theorem statements_safe_iff_twice :
    ¬ machine.Along (fun usage action => Safe (machine.perform action usage).2)
      (opened 25 (by decide))
      [.acquire "SELECT 1" (.read 0 1 true), .release false,
        .acquire "SELECT 1" (.read 0 1 true), .acquire "SELECT 1" (.read 0 1 true)] := by
  rw [statements_safe_iff 25 (by decide)]
  rintro ⟨-, -, -, disturbing, -⟩
  exact disturbing.unmarked 0 (List.mem_singleton_self _) rfl (List.mem_singleton_self _)

/-- The cache gives up its statements one after the other, while nothing is in use. -/
theorem SQLiteConnection.Sound.evictAll (sound : connection.Sound [])
    {values : List (String × Nat)} (entries : connection.mPreparedStatementCache.entries = values)
    (cleared : LruCache String Nat) (nothing : cleared.entries = []) :
    ((values.map Prod.snd).foldl SQLiteConnection.entryRemoved
        { connection with mPreparedStatementCache := cleared }).Sound [] ∧
      ((values.map Prod.snd).foldl SQLiteConnection.entryRemoved
        { connection with mPreparedStatementCache := cleared }).mPreparedStatementCache =
          cleared := by
  induction values generalizing connection with
  | nil =>
      refine ⟨sound.touch fun entry => ?_, rfl⟩
      rw [nothing, entries]
  | cons eldest rest ih =>
      obtain ⟨key, statement⟩ := eldest
      have cached : connection.Cached key statement := by
        rw [Cached, entries]
        exact List.mem_cons_self
      have others : ∀ entry,
          entry ∈ (connection.mPreparedStatementCache.remove key).2.entries ↔
            entry ∈ connection.mPreparedStatementCache.entries ∧ entry.1 ≠ key :=
        fun entry => LruCache.mem_others
      have evicted := sound.entryRemoved cached others fun _ => List.not_mem_nil
      rw [entryRemoved_withCache] at evicted
      rw [List.map_cons, List.foldl_cons, entryRemoved_withCache]
      have further := ih evicted (LruCache.others_eldest entries)
      exact further

theorem SQLiteConnection.Sound.dispose (sound : connection.Sound []) :
    connection.dispose.Sound [] ∧ connection.dispose.mPreparedStatementCache.entries = [] := by
  obtain ⟨disposed, cache⟩ := sound.evictAll rfl (.empty
    connection.mPreparedStatementCache.maxSize connection.mPreparedStatementCache.positive) rfl
  exact ⟨disposed, congrArg LruCache.entries cache⟩

/-- When a connection is closed after a run that disturbed nobody, and nothing is in use any
more, every native statement that was ever prepared has been finalized, and once. -/
theorem closing_finalizes_all {maxSqlCacheSize : Nat} (positive : 0 < maxSqlCacheSize)
    (run : List Action)
    (undisturbing : machine.Along Undisturbing (opened maxSqlCacheSize positive) run)
    (unused : (machine.after (opened maxSqlCacheSize positive) run).held = []) :
    (machine.after (opened maxSqlCacheSize positive) run).connection.dispose.finalized.Perm
      (List.range
        (machine.after (opened maxSqlCacheSize positive) run).connection.dispose.prepared) := by
  have sound := sound_after positive run undisturbing
  rw [unused] at sound
  obtain ⟨⟨flags, owning⟩, empty⟩ := sound.dispose
  refine (List.perm_ext_iff_of_nodup owning.once List.nodup_range).mpr fun statementPtr => ?_
  rw [List.mem_range]
  constructor
  · exact owning.past statementPtr
  · intro below
    by_contra unfinished
    obtain ⟨statement, ⟨sql, cached⟩ | member, -⟩ := owning.accounted statementPtr below unfinished
    · rw [Cached, empty] at cached
      cases cached
    · cases member

theorem undisturbed_idle (numParameters type : Nat) (readOnly : Bool) :
    connection.Undisturbed [] sql (.read numParameters type readOnly) where
  unmarked _ _ _ := List.not_mem_nil
  copied _ _ _ := nofun
  eldest _ _ _ _ _ _ _ _ _ _ := List.not_mem_nil

/-- Two statements one after the other. -/
def twoStatements : List Action :=
  [.acquire "SELECT 1" (.read 0 1 true), .release false, .acquire "SELECT 2" (.read 0 1 true),
    .release false]

theorem closing_finalizes_all_two :
    (machine.after (opened 1 Nat.one_pos) twoStatements).connection.dispose.finalized.Perm
      (List.range
        (machine.after (opened 1 Nat.one_pos) twoStatements).connection.dispose.prepared) :=
  have undisturbing : machine.Along Undisturbing (opened 1 Nat.one_pos) twoStatements :=
    ⟨undisturbed_idle 0 1 true, trivial, undisturbed_idle 0 1 true, trivial, trivial⟩
  closing_finalizes_all Nat.one_pos twoStatements undisturbing rfl

/-! ## The size of the cache -/

theorem cache_entryRemoved :
    (connection.entryRemoved statement).mPreparedStatementCache =
      connection.mPreparedStatementCache := by
  rw [entryRemoved]
  split
  · rfl
  · rfl

theorem cache_changeCache (change : List Nat × LruCache String Nat) :
    (connection.changeCache change).mPreparedStatementCache = change.2 := by
  obtain ⟨values, cache⟩ := change
  rw [changeCache]
  dsimp only
  generalize start : { connection with mPreparedStatementCache := cache } = next
  have same : next.mPreparedStatementCache = cache := by rw [← start]
  clear start
  induction values generalizing next with
  | nil => exact same
  | cons value rest ih => exact ih _ (cache_entryRemoved.trans same)

theorem maxSize_prepareStatement (preparation : Preparation) (found : Option Nat) :
    (connection.prepareStatement sql preparation found).2.mPreparedStatementCache.maxSize =
      connection.mPreparedStatementCache.maxSize := by
  cases preparation with
  | failed => rfl
  | unread =>
      rw [prepareStatement]
      dsimp only
      split
      · rfl
      · rfl
  | read numParameters type readOnly =>
      rw [prepareStatement]
      dsimp only
      cases obtains : connection.nativePrepareStatement.2.obtainPreparedStatement sql
          connection.nativePrepareStatement.1 numParameters type readOnly with
      | mk statement after =>
          have cache : after.mPreparedStatementCache = connection.mPreparedStatementCache :=
            (obtained sql _ numParameters type readOnly obtains).cache
          dsimp only
          split
          · change (after.changeCache _).mPreparedStatementCache.maxSize = _
            rw [cache_changeCache, cache]
            rfl
          · exact congrArg LruCache.maxSize cache

theorem maxSize_acquirePreparedStatement (preparation : Preparation) :
    (connection.acquirePreparedStatement sql preparation).2.mPreparedStatementCache.maxSize =
      connection.mPreparedStatementCache.maxSize := by
  cases found : connection.mPreparedStatementCache.find sql with
  | none => rw [acquire_of_absent found, maxSize_prepareStatement]
  | some statement =>
      rw [acquire_of_cached (LruCache.find_eq_some.mp found)]
      split
      · exact LruCache.maxSize_get
      · rw [maxSize_prepareStatement]
        exact LruCache.maxSize_get

theorem maxSize_releasePreparedStatement (resetThrows : Bool) :
    (connection.releasePreparedStatement statement resetThrows).mPreparedStatementCache.maxSize =
      connection.mPreparedStatementCache.maxSize := by
  rw [releasePreparedStatement]
  dsimp only
  split
  · split
    · split
      · rw [cache_changeCache]
        rfl
      · rfl
    · rfl
  · rfl

theorem maxSize_perform (action : Action) (usage : Usage) :
    (machine.perform action usage).2.connection.mPreparedStatementCache.maxSize =
      usage.connection.mPreparedStatementCache.maxSize := by
  cases action with
  | acquire sql preparation =>
      rw [perform_acquire]
      exact maxSize_acquirePreparedStatement preparation
  | release resetThrows =>
      obtain ⟨connection, held⟩ := usage
      cases held with
      | nil => rfl
      | cons statement held => exact maxSize_releasePreparedStatement resetThrows
  | isPreparedStatementInCache sql => exact LruCache.maxSize_get

/-- The native statements that have not been finalized. -/
def SQLiteConnection.live (connection : SQLiteConnection) : List Nat :=
  (List.range connection.prepared).filter fun statementPtr =>
    statementPtr ∉ connection.finalized

/-- In a run that disturbs nobody, the native statements that are not finalized are never
more than the cache may hold and the uses need. -/
theorem live_statements_bounded {maxSqlCacheSize : Nat} (positive : 0 < maxSqlCacheSize)
    (run : List Action)
    (undisturbing : machine.Along Undisturbing (opened maxSqlCacheSize positive) run) :
    (machine.after (opened maxSqlCacheSize positive) run).connection.live.length ≤
      maxSqlCacheSize + (machine.after (opened maxSqlCacheSize positive) run).held.length := by
  have sound := sound_after positive run undisturbing
  have maxSize := machine.invariant_of_steps
    (fun usage => usage.connection.mPreparedStatementCache.maxSize = maxSqlCacheSize)
    (fun usage action same => (maxSize_perform action usage).trans same)
    (opened maxSqlCacheSize positive) run rfl
  generalize machine.after (opened maxSqlCacheSize positive) run = usage at sound maxSize ⊢
  obtain ⟨connection, held⟩ := usage
  dsimp only at sound maxSize ⊢
  have bounded := connection.mPreparedStatementCache.bounded
  rw [maxSize] at bounded
  -- every native statement that is not finalized is the one of an owner
  have all : connection.live ⊆
      (connection.mPreparedStatementCache.entries.map Prod.snd ++ held).map connection.pointer := by
    intro statementPtr member
    obtain ⟨below, unfinished⟩ := List.mem_filter.mp member
    obtain ⟨statement, owns, same⟩ := sound.owning.accounted statementPtr
      (List.mem_range.mp below) (of_decide_eq_true unfinished)
    rw [← same]
    refine List.mem_map_of_mem (List.mem_append.mpr ?_)
    exact owns.imp_left fun ⟨_, cached⟩ => List.mem_map_of_mem cached
  have distinct : connection.live.Nodup := List.nodup_range.filter _
  have length := (distinct.subperm all).length_le
  rw [List.length_map, List.length_append, List.length_map] at length
  omega

theorem live_statements_bounded_two :
    (machine.after (opened 1 Nat.one_pos) twoStatements).connection.live.length ≤
      1 + (machine.after (opened 1 Nat.one_pos) twoStatements).held.length :=
  have undisturbing : machine.Along Undisturbing (opened 1 Nat.one_pos) twoStatements :=
    ⟨undisturbed_idle 0 1 true, trivial, undisturbed_idle 0 1 true, trivial, trivial⟩
  live_statements_bounded Nat.one_pos twoStatements undisturbing

end Steps

end Prepared
end ModuleDatabase
