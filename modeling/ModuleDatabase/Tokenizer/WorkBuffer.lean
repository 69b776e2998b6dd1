import ModuleDatabase.Tokenizer.Wcicu

namespace ModuleDatabase
namespace Tokenizer

/-!
# The size of the work buffer

One block holds the cursor, the UTF-16 text and the offsets.  Its size is
computed as a `size_t` and handed over as an `int`: `int` has 32 bits here, and
`size_t` and the pointers have 64.

Modulo 2 ^ 32 the size has three ranges.  It is exact; then it is negative as
an `int`, and there is no block; from a length of 715827868 on it has wrapped
around and is positive again, and the block is too small for the cursor alone
or for the two arrays behind it.
-/

/-! ## Layout of the cursor -/

/-- The types of the fields; each is aligned to its size. -/
inductive Scalar where
  | int
  | pointer

def Scalar.size : Scalar → Nat
  | .int => 4
  | .pointer => 8

def alignTo (offset alignment : Nat) : Nat :=
  (offset + alignment - 1) / alignment * alignment

/-- `sizeof` of a structure: every field stands at the next multiple of its
size, and the whole is a multiple of the largest one. -/
def sizeof (fields : List (String × Scalar)) : Nat :=
  let sizes := fields.map fun field => field.2.size
  alignTo (sizes.foldl (fun offset size => alignTo offset size + size) 0) (sizes.foldl max 1)

def mm_cursor_t : List (String × Scalar) :=
  [("iter", .pointer), ("in_buffer", .pointer), ("in_offset", .pointer), ("in_length", .int),
    ("out_buffer", .pointer), ("out_length", .int), ("token_count", .int),
    ("ideo_start", .int), ("ideo_end", .int), ("ideo_state", .int)]

theorem sizeof_mm_cursor_t : sizeof mm_cursor_t = 64 := rfl

/-! ## The request -/

/-- The macro `ROUND4(n)` on an `int`. -/
def round4 (n : BitVec 32) : Option (BitVec 32) := do
  let sum ← addSigned n 3
  some (sum &&& ~~~3)

/-- `dst_len = ROUND4(nText + 1)`. -/
def dstLen (nText : BitVec 32) : Option (BitVec 32) := do
  let length ← addSigned nText 1
  round4 length

/-- `sizeof(mm_cursor_t) + dst_len * sizeof(UChar) + (dst_len + 1) * sizeof(int)`. -/
def bufferSize (dst_len : BitVec 32) : Option (BitVec 64) := do
  let offsets ← addSigned dst_len 1
  some (BitVec.ofNat 64 (sizeof mm_cursor_t) + dst_len.signExtend 64 * 2 +
    offsets.signExtend 64 * 4)

/-- The parameter of `sqlite3_malloc`: the size as an `int`. -/
def bufferRequest (dst_len : BitVec 32) : Option (BitVec 32) := do
  let size ← bufferSize dst_len
  some (size.setWidth 32)

/-- The bytes from the cursor to the end of the last offset. -/
def extent (dst_len : Int) : Int :=
  sizeof mm_cursor_t + 2 * dst_len + 4 * (dst_len + 1)

theorem extent_eq (dst_len : Int) : extent dst_len = 68 + 6 * dst_len := by
  have cursor : ((64 : Nat) : Int) = 64 := rfl
  rw [extent, sizeof_mm_cursor_t, cursor]
  omega

/-- `sqlite3_malloc`: the size of the block, or null. -/
structure Allocator where
  sqlite3_malloc : BitVec 32 → Option Nat
  /-- "If the parameter N is zero or negative then a NULL pointer." -/
  nonpositive : ∀ N, N.toInt ≤ 0 → sqlite3_malloc N = none
  /-- "A block of memory at least N bytes in length." -/
  least : ∀ N block, sqlite3_malloc N = some block → N.toInt ≤ block

/-- Nothing overflows on the way to `dst_len` and to the request, and a request
that is met is as large as what the conversion loop may write to. -/
def BufferFits (nText : BitVec 32) : Prop :=
  ∃ dst_len request, dstLen nText = some dst_len ∧
    dst_len.toInt = ROUND4 (nText.toNat + 1) ∧ bufferRequest dst_len = some request ∧
    ∀ allocator : Allocator, allocator.sqlite3_malloc request ≠ none →
      extent dst_len.toInt ≤ request.toInt

/-! ## What is computed -/

theorem round4_spec {n : BitVec 32} (nonneg : 0 ≤ n.toInt) (room : n.toInt < 2 ^ 31 - 3) :
    ∃ rounded, round4 n = some rounded ∧ rounded.toNat = ROUND4 n.toNat := by
  have sum : addSigned n 3 = some (n + 3) := by
    apply addSigned_of_bounds
    · have three : (3 : BitVec 32).toInt = 3 := rfl
      omega
    · have three : (3 : BitVec 32).toInt = 3 := rfl
      omega
  have small : n.toNat + 3 < 2 ^ 32 := by
    have value := toNat_of_nonneg nonneg
    omega
  refine ⟨(n + 3) &&& ~~~3, ?_, ?_⟩
  · rw [round4, sum]
    rfl
  · have mask : (~~~(3 : BitVec 32)).toNat = (2 ^ 30 - 1) <<< 2 := by decide
    have exact : (n + 3).toNat = n.toNat + 3 := by
      rw [BitVec.toNat_add]
      exact Nat.mod_eq_of_lt small
    rw [BitVec.toNat_and, mask, exact, and_mask (by exact small), ROUND4]
    rfl

theorem dstLen_spec {nText : BitVec 32} (nonneg : 0 ≤ nText.toInt)
    (limit : nText.toInt ≤ 2 ^ 31 - 5) :
    ∃ dst_len, dstLen nText = some dst_len ∧ dst_len.toNat = ROUND4 (nText.toNat + 1) := by
  have one : (1 : BitVec 32).toInt = 1 := rfl
  have length : addSigned nText 1 = some (nText + 1) :=
    addSigned_of_bounds (by omega) (by omega)
  have value := toInt_of_addSigned length
  have natural : (nText + 1).toNat = nText.toNat + 1 := by
    have before := toNat_of_nonneg nonneg
    have after : ((nText + 1).toNat : Int) = (nText + 1).toInt := toNat_of_nonneg (by omega)
    omega
  rcases round4_spec (n := nText + 1) (by omega) (by omega) with ⟨dst_len, rounded, multiple⟩
  refine ⟨dst_len, ?_, ?_⟩
  · rw [dstLen, length]
    exact rounded
  · rw [multiple, natural]

/-- As a `size_t` the size is the extent. -/
theorem bufferSize_spec {dst_len : BitVec 32} (nonneg : 0 ≤ dst_len.toInt)
    (room : dst_len.toInt < 2 ^ 31 - 1) :
    ∃ size, bufferSize dst_len = some size ∧ (size.toNat : Int) = extent dst_len.toInt := by
  have one : (1 : BitVec 32).toInt = 1 := rfl
  have offsets : addSigned dst_len 1 = some (dst_len + 1) :=
    addSigned_of_bounds (by omega) (by omega)
  have next := toInt_of_addSigned offsets
  have units := toNat_of_nonneg nonneg
  have after : ((dst_len + 1).toNat : Int) = (dst_len + 1).toInt := toNat_of_nonneg (by omega)
  refine ⟨BitVec.ofNat 64 (sizeof mm_cursor_t) + dst_len.signExtend 64 * 2 +
    (dst_len + 1).signExtend 64 * 4, ?_, ?_⟩
  · rw [bufferSize, offsets]
    rfl
  · have cursor : (BitVec.ofNat 64 64).toNat = 64 := rfl
    have unit : (2 : BitVec 64).toNat = 2 := rfl
    have offset : (4 : BitVec 64).toNat = 4 := rfl
    rw [BitVec.toNat_add, BitVec.toNat_add, BitVec.toNat_mul, BitVec.toNat_mul,
      toNat_signExtend_of_nonneg (by decide) nonneg,
      toNat_signExtend_of_nonneg (by decide) (by omega), extent_eq, sizeof_mm_cursor_t, cursor,
      unit, offset]
    omega

/-- The request is the extent modulo 2 ^ 32, read as a signed number. -/
theorem bufferRequest_spec {dst_len : BitVec 32} (nonneg : 0 ≤ dst_len.toInt)
    (room : dst_len.toInt < 2 ^ 31 - 1) :
    ∃ request, bufferRequest dst_len = some request ∧
      request.toInt = (extent dst_len.toInt).bmod (2 ^ 32) := by
  rcases bufferSize_spec nonneg room with ⟨size, sized, total⟩
  refine ⟨size.setWidth 32, ?_, ?_⟩
  · rw [bufferRequest, sized]
    rfl
  · rw [BitVec.toInt_setWidth, total]

/-! ## The exact bound -/

/-- An allocator that never runs out of memory. -/
def Allocator.unlimited : Allocator where
  sqlite3_malloc := fun N => if N.toInt ≤ 0 then none else some N.toNat
  nonpositive := by
    intro N nonpositive
    rw [if_pos nonpositive]
  least := by
    intro N block given
    split at given
    · cases given
    · rename_i positive
      rw [← Option.some.inj given, toNat_of_nonneg (by omega)]

theorem bufferFits_iff (nText : BitVec 32) (nonneg : 0 ≤ nText.toInt)
    (limit : nText.toInt ≤ 1000000000) : BufferFits nText ↔ nText.toInt < 715827868 := by
  have natural := toNat_of_nonneg nonneg
  rcases dstLen_spec nonneg (by omega) with ⟨dst_len, computed, multiple⟩
  have bound : ROUND4 (nText.toNat + 1) ≤ 1000000004 := by
    rw [ROUND4]
    omega
  have threshold : nText.toInt < 715827868 ↔ ROUND4 (nText.toNat + 1) ≤ 715827868 := by
    rw [ROUND4]
    omega
  rw [threshold]
  have value : dst_len.toInt = ROUND4 (nText.toNat + 1) := by
    rw [BitVec.toInt_eq_toNat_of_lt (by omega), multiple]
  have nonnegLen : 0 ≤ dst_len.toInt := by omega
  rcases bufferRequest_spec nonnegLen (by omega) with ⟨request, requested, modular⟩
  rw [value, extent_eq, Int.bmod_def] at modular
  constructor
  · rintro ⟨other, asked, sameLen, -, sameRequest, enough⟩
    cases computed.symm.trans sameLen
    cases requested.symm.trans sameRequest
    by_contra long
    -- The request has wrapped around and is positive, so it is met.
    have positive : 0 < request.toInt := by
      have multipleOfFour : ROUND4 (nText.toNat + 1) % 4 = 0 := by
        rw [ROUND4]
        omega
      have turns : (68 + 6 * (ROUND4 (nText.toNat + 1) : Int)) / (2 ^ 32 : Nat) = 1 := by
        omega
      omega
    have given : Allocator.unlimited.sqlite3_malloc request ≠ none := by
      rw [Allocator.unlimited]
      simp only [if_neg (Int.not_le.mpr positive), ne_eq, reduceCtorEq, not_false_eq_true]
    have larger := enough Allocator.unlimited given
    rw [value, extent_eq] at larger
    omega
  · intro short
    refine ⟨dst_len, request, computed, value, requested, ?_⟩
    intro allocator given
    have positive : 0 < request.toInt := by
      by_contra nonpositive
      exact given (allocator.nonpositive request (by omega))
    rw [value, extent_eq]
    omega

theorem bufferFits_thousand : BufferFits 1000 :=
  (bufferFits_iff 1000 (by decide) (by decide)).mpr (by decide)

/-- At the first length that fails, four bytes are requested. -/
theorem not_bufferFits_wrapped :
    (715827868 : BitVec 32).toInt = 715827868 ∧ ¬ BufferFits 715827868 := by
  refine ⟨by decide, ?_⟩
  rintro ⟨dst_len, request, computed, -, requested, enough⟩
  have length : dstLen 715827868 = some 715827872 := by decide
  cases length.symm.trans computed
  have four : bufferRequest 715827872 = some 4 := by decide
  cases four.symm.trans requested
  have given : Allocator.unlimited.sqlite3_malloc 4 ≠ none := by decide
  have larger := enough Allocator.unlimited given
  have needed : extent (715827872 : BitVec 32).toInt = 4294967300 := by decide
  rw [needed] at larger
  exact absurd larger (by decide)

end Tokenizer
end ModuleDatabase
