import Mathlib.Logic.Function.Basic

namespace ModuleDatabase

/-!
# Rings of slots

Entries are written to the slots of a ring one after the other, the first to slot one.  As
many of the last entries as there are slots can be read back, each from its slot, until
there have been that many the other slots are vacant.
-/

/-- The ring after `count` entries, where `holds` says which values stand for an entry. -/
structure RingHolds {Value : Type*} (size : Nat) (slots : Nat → Option Value) (count : Nat)
    (holds : Nat → Value → Prop) : Prop where
  recent : ∀ entry, entry < count → count ≤ entry + size →
    ∃ value, slots ((entry + 1) % size) = some value ∧ holds entry value
  vacant : ∀ slot, slot < size → count < size → slot = 0 ∨ count < slot → slots slot = none

namespace RingHolds

variable {Value : Type*} {size : Nat} {slots : Nat → Option Value} {count : Nat}
  {holds after : Nat → Value → Prop} {value : Value}

theorem initially (size : Nat) (holds : Nat → Value → Prop) :
    RingHolds size (fun _ => none) 0 holds where
  recent _ below := absurd below (Nat.not_lt_zero _)
  vacant _ _ _ _ := rfl

theorem mono (ring : RingHolds size slots count holds)
    (kept : ∀ entry value, entry < count → count ≤ entry + size → holds entry value →
      after entry value) : RingHolds size slots count after where
  recent entry below young := by
    obtain ⟨value, read, held⟩ := ring.recent entry below young
    exact ⟨value, read, kept entry value below young held⟩
  vacant := ring.vacant

/-- Entries that can be read back have different slots. -/
theorem slot_ne {first second : Nat} (before : first < second) (young : second < first + size) :
    (first + 1) % size ≠ (second + 1) % size := by
  intro same
  have whole := Nat.sub_mod_eq_zero_of_mod_eq same.symm
  rw [Nat.mod_eq_of_lt (by omega)] at whole
  omega

theorem push (ring : RingHolds size slots count holds)
    (kept : ∀ entry value, entry < count → holds entry value → after entry value)
    (new : after count value) :
    RingHolds size (Function.update slots ((count + 1) % size) (some value)) (count + 1) after where
  recent entry below young := by
    rcases Nat.lt_or_ge entry count with earlier | last
    · rw [Function.update_of_ne (slot_ne earlier (by omega))]
      obtain ⟨value, read, held⟩ := ring.recent entry earlier (by omega)
      exact ⟨value, read, kept entry value earlier held⟩
    · have same : entry = count := by omega
      rw [same, Function.update_self]
      exact ⟨value, rfl, new⟩
  vacant slot inside short outside := by
    rw [Nat.mod_eq_of_lt short, Function.update_of_ne (by omega)]
    exact ring.vacant slot inside (by omega) (by omega)

/-- The value of an entry is changed in its slot. -/
theorem write (ring : RingHolds size slots count holds) {entry : Nat} (below : entry < count)
    (young : count ≤ entry + size)
    (kept : ∀ other value, other ≠ entry → holds other value → after other value)
    (new : after entry value) :
    RingHolds size (Function.update slots ((entry + 1) % size) (some value)) count after where
  recent other below' young' := by
    by_cases same : other = entry
    · rw [same, Function.update_self]
      exact ⟨value, rfl, new⟩
    · have different : (other + 1) % size ≠ (entry + 1) % size := by
        rcases Nat.lt_or_gt_of_ne same with before | behind
        · exact slot_ne before (by omega)
        · exact (slot_ne behind (by omega)).symm
      rw [Function.update_of_ne different]
      obtain ⟨value, read, held⟩ := ring.recent other below' young'
      exact ⟨value, read, kept other value same held⟩
  vacant slot inside short outside := by
    rw [Nat.mod_eq_of_lt (by omega), Function.update_of_ne (by omega)]
    exact ring.vacant slot inside short outside

end RingHolds

end ModuleDatabase
