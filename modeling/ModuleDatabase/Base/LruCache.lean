import Mathlib.Data.List.Nodup

namespace ModuleDatabase

/-!
# Caches that forget what was not used for the longest time

The entries of a cache stand in the order of their last use, the eldest first.  An
operation also returns the values that it removes, in the order in which their removal is
reported; the reports come after the change.

Who uses a cache asks only which entries it has, and the lemmas say this for each operation.
-/

structure LruCache (Key Value : Type*) where
  maxSize : Nat
  entries : List (Key × Value)
  positive : 0 < maxSize
  bounded : entries.length ≤ maxSize
  keys : (entries.map Prod.fst).Nodup

namespace LruCache

variable {Key Value : Type*}

def empty (maxSize : Nat) (positive : 0 < maxSize) : LruCache Key Value :=
  ⟨maxSize, [], positive, Nat.zero_le _, List.nodup_nil⟩

variable [DecidableEq Key] (cache : LruCache Key Value) (key : Key) (value : Value)

def find : Option Value := (cache.entries.find? fun entry => entry.1 = key).map Prod.snd

/-- The entries of other keys. -/
def others : List (Key × Value) := cache.entries.filter fun entry => entry.1 ≠ key

variable {cache key value}

omit [DecidableEq Key] in
theorem value_unique {first second : Value} (one : (key, first) ∈ cache.entries)
    (two : (key, second) ∈ cache.entries) : first = second :=
  (Prod.ext_iff.mp (List.inj_on_of_nodup_map cache.keys one two rfl)).2

theorem find_eq_some : cache.find key = some value ↔ (key, value) ∈ cache.entries := by
  constructor
  · intro found
    obtain ⟨⟨other, held⟩, first, rfl⟩ := Option.map_eq_some_iff.mp found
    have keyed := List.find?_some first
    have same : other = key := of_decide_eq_true keyed
    rw [← same]
    exact List.mem_of_find?_eq_some first
  · intro member
    cases found : cache.find key with
    | none =>
        have absent := List.find?_eq_none.mp (Option.map_eq_none_iff.mp found) _ member
        exact absurd (decide_eq_true rfl) absent
    | some held =>
        obtain ⟨⟨other, held⟩, first, rfl⟩ := Option.map_eq_some_iff.mp found
        have keyed := List.find?_some first
        have same : other = key := of_decide_eq_true keyed
        cases same
        rw [value_unique (List.mem_of_find?_eq_some first) member]

theorem find_eq_none : cache.find key = none ↔ ∀ value, (key, value) ∉ cache.entries := by
  constructor
  · intro absent value member
    rw [find_eq_some.mpr member] at absent
    cases absent
  · intro absent
    cases found : cache.find key with
    | none => rfl
    | some value => exact absurd (find_eq_some.mp found) (absent value)

theorem mem_others {entry : Key × Value} :
    entry ∈ cache.others key ↔ entry ∈ cache.entries ∧ entry.1 ≠ key := by
  rw [others, List.mem_filter, decide_eq_true_iff]

theorem others_keys : ((cache.others key).map Prod.fst).Nodup :=
  cache.keys.sublist (List.Sublist.map _ List.filter_sublist)

theorem touched_keys : ((cache.others key ++ [(key, value)]).map Prod.fst).Nodup := by
  rw [List.map_append, List.map_singleton, List.nodup_append]
  refine ⟨others_keys, List.nodup_singleton _, ?_⟩
  intro first member second last
  rw [List.mem_singleton] at last
  obtain ⟨entry, other, rfl⟩ := List.mem_map.mp member
  rw [last]
  exact (mem_others.mp other).2

theorem others_of_absent (absent : cache.find key = none) : cache.others key = cache.entries := by
  refine List.filter_eq_self.mpr fun entry member => decide_eq_true ?_
  rintro rfl
  exact find_eq_none.mp absent entry.2 member

theorem length_others_lt (member : (key, value) ∈ cache.entries) :
    (cache.others key).length < cache.entries.length := by
  refine List.length_filter_lt_length_iff_exists.mpr ⟨_, member, fun kept => ?_⟩
  exact of_decide_eq_true kept rfl

variable (cache key value)

/-- A value that is found becomes the youngest. -/
def get : Option Value × LruCache Key Value :=
  match found : cache.find key with
  | none => (none, cache)
  | some value =>
      (some value, {
        maxSize := cache.maxSize
        entries := cache.others key ++ [(key, value)]
        positive := cache.positive
        bounded := by
          rw [List.length_append, List.length_singleton]
          exact Nat.le_trans (length_others_lt (find_eq_some.mp found)) cache.bounded
        keys := touched_keys })

/-- Removes the value that the key had, and then the eldest as long as there are too many. -/
def put : List Value × LruCache Key Value :=
  let touched := cache.others key ++ [(key, value)]
  let extra := touched.length - cache.maxSize
  ((cache.find key).toList ++ (touched.take extra).map Prod.snd, {
    maxSize := cache.maxSize
    entries := touched.drop extra
    positive := cache.positive
    bounded := by
      rw [List.length_drop]
      omega
    keys := touched_keys.sublist (List.Sublist.map _ (List.drop_sublist _ _)) })

def remove : Option Value × LruCache Key Value :=
  (cache.find key, {
    maxSize := cache.maxSize
    entries := cache.others key
    positive := cache.positive
    bounded := Nat.le_trans (List.length_filter_le _ _) cache.bounded
    keys := others_keys })

def evictAll (cache : LruCache Key Value) : List Value × LruCache Key Value :=
  (cache.entries.map Prod.snd, empty cache.maxSize cache.positive)

/-- The entry that a new key displaces. -/
def displaced (cache : LruCache Key Value) : Option (Key × Value) :=
  if cache.entries.length < cache.maxSize then none else cache.entries.head?

variable {cache key value}

theorem get_fst : (cache.get key).1 = cache.find key := by
  rw [get]
  split
  · exact Eq.symm ‹_›
  · exact Eq.symm ‹_›

theorem mem_get {entry : Key × Value} :
    entry ∈ (cache.get key).2.entries ↔ entry ∈ cache.entries := by
  rw [get]
  split
  · exact Iff.rfl
  · rename_i value found
    have member := find_eq_some.mp found
    change entry ∈ cache.others key ++ [(key, value)] ↔ _
    rw [List.mem_append, mem_others, List.mem_singleton]
    constructor
    · rintro (⟨other, -⟩ | rfl)
      · exact other
      · exact member
    · intro other
      by_cases same : entry.1 = key
      · right
        obtain ⟨first, second⟩ := entry
        cases same
        rw [value_unique other member]
      · exact Or.inl ⟨other, same⟩

theorem get_of_absent (absent : cache.find key = none) : cache.get key = (none, cache) := by
  rw [get]
  split
  · rfl
  · rename_i found
    rw [absent] at found
    cases found

theorem put_fst : (cache.put key value).1 = (cache.find key).toList ++
    ((cache.others key ++ [(key, value)]).take
      ((cache.others key ++ [(key, value)]).length - cache.maxSize)).map Prod.snd := rfl

theorem entries_put : (cache.put key value).2.entries = (cache.others key ++ [(key, value)]).drop
    ((cache.others key ++ [(key, value)]).length - cache.maxSize) := rfl

variable (value) in
theorem put_of_room (absent : cache.find key = none) (room : cache.displaced = none) :
    (cache.put key value).1 = [] ∧
      (cache.put key value).2.entries = cache.entries ++ [(key, value)] := by
  have short : cache.entries.length < cache.maxSize := by
    rw [displaced] at room
    split at room
    · assumption
    · have bounded := cache.bounded
      have positive := cache.positive
      rw [List.head?_eq_none_iff] at room
      rw [room, List.length_nil]
      exact positive
  have extra : (cache.entries ++ [(key, value)]).length - cache.maxSize = 0 := by
    rw [List.length_append, List.length_singleton]
    omega
  constructor
  · rw [put_fst, absent, others_of_absent absent, extra]
    rfl
  · rw [entries_put, others_of_absent absent, extra]
    rfl

variable (value) in
theorem put_of_displaced (absent : cache.find key = none) {eldest : Key × Value}
    (crowded : cache.displaced = some eldest) :
    ∃ rest, cache.entries = eldest :: rest ∧ (cache.put key value).1 = [eldest.2] ∧
      (cache.put key value).2.entries = rest ++ [(key, value)] := by
  rw [displaced] at crowded
  split at crowded
  · cases crowded
  · rename_i full
    have bounded := cache.bounded
    obtain ⟨rest, whole⟩ := List.head?_eq_some_iff.mp crowded
    have extra : (cache.entries ++ [(key, value)]).length - cache.maxSize = 1 := by
      rw [List.length_append, List.length_singleton]
      omega
    refine ⟨rest, whole, ?_, ?_⟩
    · rw [put_fst, absent, others_of_absent absent, extra, whole]
      rfl
    · rw [entries_put, others_of_absent absent, extra, whole]
      rfl

omit [DecidableEq Key] in
theorem displaced_mem {entry : Key × Value} (displaces : cache.displaced = some entry) :
    entry ∈ cache.entries := by
  rw [displaced] at displaces
  split at displaces
  · cases displaces
  · exact List.mem_of_head? displaces

omit [DecidableEq Key] in
/-- The entries behind the eldest are those of other keys. -/
theorem mem_rest {eldest entry : Key × Value} {rest : List (Key × Value)}
    (whole : cache.entries = eldest :: rest) :
    entry ∈ rest ↔ entry ∈ cache.entries ∧ entry.1 ≠ eldest.1 := by
  have keys := cache.keys
  rw [whole, List.map_cons, List.nodup_cons] at keys
  rw [whole, List.mem_cons]
  constructor
  · intro member
    refine ⟨Or.inr member, fun same => keys.1 ?_⟩
    rw [← same]
    exact List.mem_map_of_mem member
  · rintro ⟨rfl | member, other⟩
    · exact absurd rfl other
    · exact member

/-- Behind the eldest stand the entries of other keys. -/
theorem others_eldest {eldest : Key × Value} {rest : List (Key × Value)}
    (whole : cache.entries = eldest :: rest) : cache.others eldest.1 = rest := by
  have keys := cache.keys
  rw [whole, List.map_cons, List.nodup_cons] at keys
  rw [others, whole, List.filter_cons_of_neg (by simp)]
  refine List.filter_eq_self.mpr fun entry member => decide_eq_true fun same => keys.1 ?_
  rw [← same]
  exact List.mem_map_of_mem member

theorem maxSize_get : (cache.get key).2.maxSize = cache.maxSize := by
  rw [get]
  split
  · rfl
  · rfl

end LruCache

end ModuleDatabase
