import ModuleDatabase.Base.Words
import Mathlib.Tactic.IntervalCases

namespace ModuleDatabase
namespace Tokenizer

/-!
# The macros and functions of ICU that the tokenizer uses

The macros `U8_NEXT`, `U16_APPEND` and `U16_IS_LEAD` are in the vendored
headers and are translated here.  The functions behind them are not in the
repository.  They are the fields of `Icu`, and `Icu.Documented` states what
the headers say about them: an illegal sequence gives a negative value, and a
well-formed one its code point, in its shortest form and not a surrogate.

The rule-based break iterator is not modelled as a set of rules.  It is a
list of boundaries, each with the rule status of the segment that it ends,
and a position in that list.
-/

abbrev UChar := Nat

/-- The functions of the library. -/
structure Icu where
  /-- `utf8_nextCharSafeBody(s, &i, length, c, -1)`: the value and the new `i`. -/
  utf8_nextCharSafeBody : List UInt8 → Nat → Nat → Nat → Int × Nat
  /-- `u_isspace` on one UTF-16 unit. -/
  u_isspace : UChar → Bool
  /-- `unorm_normalize` to NFKD; null stands for a failing status. -/
  unorm_normalize : List UChar → Option (List UChar)
  /-- `u_strFoldCase` with default options. -/
  u_strFoldCase : List UChar → Option (List UChar)
  /-- `u_strToUTF8`; null stands for a failure other than a short buffer. -/
  u_strToUTF8 : List UChar → Option (List UInt8)
  /-- The bytes that a call of `u_strToUTF8` has stored when it fails, or when
  the buffer of this capacity is too short. -/
  u_strToUTF8_stored : List UChar → Nat → List UInt8
  /-- `ubrk_open`: the boundaries after 0, each with its rule status. -/
  ubrk_open : List UChar → Option (List (Nat × Int))

/-! ## UTF-8 -/

/-- `U8_IS_LEAD`. -/
def U8_IS_LEAD (c : Nat) : Bool := 0xc0 ≤ c && c < 0xfe

/-- `U8_NEXT(s, i, length, c)`: the code point, or a negative value, and the
offset behind it.  A byte of the text is read as 0 outside the text, which
the guards exclude. -/
def U8_NEXT (icu : Icu) (s : List UInt8) (i length : Nat) : Int × Nat :=
  let c := (s.getD i 0).toNat
  let i := i + 1
  if c < 0x80 then (c, i)
  else
    let t1 := s.getD i 0 - 0x80
    let t2 := s.getD (i + 1) 0 - 0x80
    if 0xe0 < c && c ≤ 0xec && i + 1 < length && t1 ≤ 0x3f && t2 ≤ 0x3f then
      (((c <<< 12 ||| t1.toNat <<< 6 ||| t2.toNat) % 0x10000 : Nat), i + 2)
    else if c < 0xe0 && 0xc2 ≤ c && i < length && t1 ≤ 0x3f then
      ((((c &&& 0x1f) <<< 6 ||| t1.toNat) % 0x10000 : Nat), i + 1)
    else if U8_IS_LEAD c then icu.utf8_nextCharSafeBody s i length c
    else (-1, i)

/-- A code point that is not a surrogate. -/
def ScalarValue (c : Int) : Prop :=
  0 ≤ c ∧ c ≤ 0x10ffff ∧ ¬ (0xd800 ≤ c ∧ c ≤ 0xdfff)

/-- What the headers document about the functions. -/
structure Icu.Documented (icu : Icu) : Prop where
  /-- The offset does not go back, and stays inside the text. -/
  advances : ∀ s i length c, i ≤ length →
    i ≤ (icu.utf8_nextCharSafeBody s i length c).2 ∧
      (icu.utf8_nextCharSafeBody s i length c).2 ≤ length
  /-- The bytes behind a lead byte that it consumes are trail bytes. -/
  trails : ∀ s i length c k, i ≤ k → k < (icu.utf8_nextCharSafeBody s i length c).2 →
    0x80 ≤ s.getD k 0
  /-- An illegal sequence gives a negative value; a code point outside ASCII
  is the only other result. -/
  value : ∀ s i length c, (icu.utf8_nextCharSafeBody s i length c).1 < 0 ∨
    (0x80 ≤ (icu.utf8_nextCharSafeBody s i length c).1 ∧
      ScalarValue (icu.utf8_nextCharSafeBody s i length c).1)
  /-- A supplementary code point takes four bytes. -/
  supplementary : ∀ s i length c, 0xffff < (icu.utf8_nextCharSafeBody s i length c).1 →
    (icu.utf8_nextCharSafeBody s i length c).2 = i + 3

/-! ## UTF-16 -/

/-- `U16_IS_LEAD`. -/
def U16_IS_LEAD (c : Nat) : Bool := c &&& 0xfffffc00 == 0xd800

/-- `U16_IS_TRAIL`. -/
def U16_IS_TRAIL (c : Nat) : Bool := c &&& 0xfffffc00 == 0xdc00

/-- `U16_APPEND(s, i, capacity, c, isError)`.  The buffer is the list of the
units written so far; null stands for `isError`. -/
def U16_APPEND (s : List UChar) (capacity : Nat) (c : Nat) : Option (List UChar) :=
  if c ≤ 0xffff then some (s ++ [c])
  else if c ≤ 0x10ffff && s.length + 1 < capacity then
    some (s ++ [((c >>> 10) + 0xd7c0) % 0x10000, (c &&& 0x3ff) ||| 0xdc00])
  else none

/-- The units of one code point. -/
def unitsOf (c : Nat) : List UChar :=
  if c ≤ 0xffff then [c] else [((c >>> 10) + 0xd7c0) % 0x10000, (c &&& 0x3ff) ||| 0xdc00]

/-! ## The break iterator -/

/-- A break iterator: the boundaries that it has passed, last one first, and
those that lie ahead.  Before the first `ubrk_next` it is at 0. -/
structure UBreakIterator where
  passed : List (Nat × Int)
  ahead : List (Nat × Int)
  deriving Repr

namespace UBreakIterator

/-- `ubrk_first` on a fresh iterator. -/
def first (boundaries : List (Nat × Int)) : UBreakIterator := ⟨[], boundaries⟩

/-- `ubrk_current`. -/
def current (iter : UBreakIterator) : Nat :=
  match iter.passed with
  | [] => 0
  | (boundary, _) :: _ => boundary

/-- All boundaries of the iterator, in order. -/
def boundaries (iter : UBreakIterator) : List (Nat × Int) := iter.passed.reverse ++ iter.ahead

/-- `ubrk_isBoundary`: as a side effect the iterator is left at the first
boundary at or after the offset. -/
def isBoundary (iter : UBreakIterator) (offset : Nat) : UBreakIterator :=
  if offset = 0 then first iter.boundaries
  else
    let before := iter.boundaries.takeWhile fun boundary => boundary.1 < offset
    match iter.boundaries.drop before.length with
    | [] => ⟨before.reverse, []⟩
    | boundary :: rest => ⟨boundary :: before.reverse, rest⟩

end UBreakIterator

/-- The limits of the rule statuses of word boundaries. -/
def UBRK_WORD_NONE : Int := 0
def UBRK_WORD_NONE_LIMIT : Int := 100
def UBRK_WORD_IDEO : Int := 400
def UBRK_WORD_IDEO_LIMIT : Int := 500

/-! ## Facts about the macros -/

theorem trail_toNat {b : UInt8} (small : b - 0x80 ≤ 0x3f) : 0x80 ≤ b ∧ (b - 0x80).toNat ≤ 63 := by
  refine ⟨?_, UInt8.le_iff_toNat_le.mp small⟩
  rw [UInt8.le_iff_toNat_le] at small ⊢
  rw [UInt8.toNat_sub] at small
  have bound := b.toNat_lt
  simp only [UInt8.reduceToNat] at small ⊢
  omega

theorem three_byte_value {c t1 t2 : Nat} (low : 0xe0 < c) (high : c ≤ 0xec) (first : t1 ≤ 63)
    (second : t2 ≤ 63) :
    (c <<< 12 ||| t1 <<< 6 ||| t2) % 0x10000 = (c - 0xe0) * 4096 + t1 * 64 + t2 := by
  have inner : t1 <<< 6 ||| t2 = t1 * 64 + t2 := by
    rw [← Nat.shiftLeft_add_eq_or_of_lt (by omega), Nat.shiftLeft_eq]
  have outer : c <<< 12 ||| (t1 * 64 + t2) = c * 4096 + (t1 * 64 + t2) := by
    rw [← Nat.shiftLeft_add_eq_or_of_lt (by omega), Nat.shiftLeft_eq]
  rw [Nat.or_assoc, inner, outer]
  omega

theorem two_byte_value {c t1 : Nat} (first : t1 ≤ 63) :
    ((c &&& 0x1f) <<< 6 ||| t1) % 0x10000 = c % 32 * 64 + t1 := by
  have low : c &&& 0x1f = c % 32 := Nat.and_two_pow_sub_one_eq_mod c 5
  rw [low, ← Nat.shiftLeft_add_eq_or_of_lt (by omega), Nat.shiftLeft_eq]
  omega

/-- Masking the low ten bits of a unit leaves the multiple of 1024 below it. -/
theorem lead_mask {c : Nat} (unit : c < 0x10000) : c &&& 0xfffffc00 = c / 1024 * 1024 := by
  have mask : (0xfffffc00 : Nat) = (2 ^ 22 - 1) <<< 10 := by decide
  have width : c < 2 ^ (10 + 22) := by omega
  rw [mask]
  exact and_mask width

theorem isLead_iff {c : Nat} (unit : c < 0x10000) :
    U16_IS_LEAD c = true ↔ 0xd800 ≤ c ∧ c < 0xdc00 := by
  rw [U16_IS_LEAD, beq_iff_eq, lead_mask unit]
  omega

theorem isTrail_iff {c : Nat} (unit : c < 0x10000) :
    U16_IS_TRAIL c = true ↔ 0xdc00 ≤ c ∧ c < 0xe000 := by
  rw [U16_IS_TRAIL, beq_iff_eq, lead_mask unit]
  omega

/-- What one use of `U8_NEXT` can read: a value of up to three bytes that is
put together in the macro, what the function behind it makes of a lead byte, or
-1 for any other byte. -/
theorem U8_NEXT_cases (icu : Icu) (s : List UInt8) (i length : Nat) :
    (0 ≤ (U8_NEXT icu s i length).1 ∧ (U8_NEXT icu s i length).1 ≤ 0xcfff ∧
      ((U8_NEXT icu s i length).1 = 0 → s.getD i 0 = 0) ∧
      i < (U8_NEXT icu s i length).2 ∧
      (i < length → (U8_NEXT icu s i length).2 ≤ length) ∧
      ∀ k, i < k → k < (U8_NEXT icu s i length).2 → 0x80 ≤ s.getD k 0) ∨
    (U8_IS_LEAD (s.getD i 0).toNat = true ∧ U8_NEXT icu s i length =
      icu.utf8_nextCharSafeBody s (i + 1) length (s.getD i 0).toNat) ∨
    U8_NEXT icu s i length = (-1, i + 1) := by
  unfold U8_NEXT
  dsimp only
  split
  · rename_i ascii
    left
    refine ⟨by omega, by omega, ?_, by omega, by omega, by omega⟩
    intro zero
    apply UInt8.toNat_inj.mp
    have natural : (s.getD i 0).toNat = 0 := by omega
    simpa using natural
  · split
    · rename_i guards
      simp only [Bool.and_eq_true, decide_eq_true_eq] at guards
      have first := trail_toNat guards.1.2
      have second := trail_toNat guards.2
      left
      rw [three_byte_value guards.1.1.1.1 guards.1.1.1.2 first.2 second.2]
      refine ⟨by omega, by omega, by omega, by omega, by omega, ?_⟩
      intro k behind before
      rcases Nat.lt_or_ge k (i + 2) with near | far
      · have same : k = i + 1 := by omega
        rw [same]
        exact first.1
      · have same : k = i + 1 + 1 := by omega
        rw [same]
        exact second.1
    · split
      · rename_i guards
        simp only [Bool.and_eq_true, decide_eq_true_eq] at guards
        have first := trail_toNat guards.2
        left
        rw [two_byte_value first.2]
        refine ⟨by omega, by omega, by omega, by omega, by omega, ?_⟩
        intro k behind before
        have same : k = i + 1 := by omega
        rw [same]
        exact first.1
      · split
        · rename_i isLead
          exact Or.inr (Or.inl ⟨isLead, rfl⟩)
        · exact Or.inr (Or.inr rfl)

end Tokenizer
end ModuleDatabase
