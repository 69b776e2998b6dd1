import ModuleDatabase.Base.Loop
import ModuleDatabase.Tokenizer.Coverage
import ModuleDatabase.Tokenizer.WorkBuffer

namespace ModuleDatabase
namespace Tokenizer

/-!
# The stores of the conversion loop

The loop is taken turn by turn, with every store to the two arrays and its
index.  The arrays are sized by the number of bytes, and filled by the number
of units: no code point has more units than bytes, so the output never gets
ahead of the input, and a pair of units has room.

The offset between the two units of a pair is never stored.  Every other offset
up to the end of the output is, and they grow.  Of the library nothing is used
but that it consumes bytes of the text, gives no value beyond the code points,
gives zero for a NUL byte only, and has four bytes for a supplementary code
point.
-/

/-- What the conversion loop relies on when it calls the library for a lead byte. -/
structure Icu.Counts (icu : Icu) : Prop where
  inside : ∀ s i length c, U8_IS_LEAD c = true → i ≤ length →
    i ≤ (icu.utf8_nextCharSafeBody s i length c).2 ∧
      (icu.utf8_nextCharSafeBody s i length c).2 ≤ length
  codePoint : ∀ s i length c, U8_IS_LEAD c = true →
    (icu.utf8_nextCharSafeBody s i length c).1 ≤ 0x10ffff
  visible : ∀ s i length c, U8_IS_LEAD c = true →
    (icu.utf8_nextCharSafeBody s i length c).1 ≠ 0
  supplementary : ∀ s i length c, U8_IS_LEAD c = true →
    0xffff < (icu.utf8_nextCharSafeBody s i length c).1 →
      i + 3 ≤ (icu.utf8_nextCharSafeBody s i length c).2

theorem Icu.Documented.counts {icu : Icu} (documented : icu.Documented) : icu.Counts where
  inside := fun s i length c _ within =>
    documented.advances s i length c within
  codePoint := by
    intro s i length c _
    rcases documented.value s i length c with negative | positive
    · omega
    · exact positive.2.2.1
  visible := by
    intro s i length c _
    rcases documented.value s i length c with negative | positive
    · omega
    · omega
  supplementary := fun s i length c _ large =>
    Nat.le_of_eq (documented.supplementary s i length c large).symm

/-- One use of `U8_NEXT`, as the loop counts. -/
theorem Icu.Counts.next {icu : Icu} (counts : icu.Counts) (s : List UInt8) {i length : Nat}
    (inside : i < length) :
    i < (U8_NEXT icu s i length).2 ∧ (U8_NEXT icu s i length).2 ≤ length ∧
      (U8_NEXT icu s i length).1 ≤ 0x10ffff ∧
      ((U8_NEXT icu s i length).1 = 0 → s.getD i 0 = 0) ∧
      (0xffff < (U8_NEXT icu s i length).1 → i + 4 ≤ (U8_NEXT icu s i length).2) := by
  rcases U8_NEXT_cases icu s i length with
    ⟨-, high, nul, grows, stays, -⟩ | ⟨lead, called⟩ | failed
  · exact ⟨grows, stays inside, by omega, nul, by omega⟩
  · have bounds := counts.inside s (i + 1) length _ lead inside
    have pair := counts.supplementary s (i + 1) length _ lead
    rw [called]
    refine ⟨by omega, bounds.2, counts.codePoint s (i + 1) length _ lead, ?_, by omega⟩
    exact fun zero => absurd zero (counts.visible s (i + 1) length _ lead)
  · simp only [failed]
    omega

/-! ## The loop -/

/-- How the loop is left before the end of the text. -/
inductive Leave where
  /-- `if (!c) break`. -/
  | nul
  /-- Writing a UTF-16 character failed. -/
  | failed
  deriving DecidableEq, Repr

/-- The variables of the loop, and the stores to the arrays with their indices, the last one
first. -/
structure Converting where
  i_input : Nat
  i_output : Nat
  in_buffer : List (Nat × UChar)
  in_offset : List (Nat × Nat)
  left : Option Leave
  deriving DecidableEq, Repr

/-- The stores of `U16_APPEND(s, i, capacity, c, isError)`; null stands for `isError`. -/
def U16_STORES (i capacity c : Nat) : Option (List (Nat × UChar)) :=
  if c ≤ 0xffff then some [(i, c)]
  else if c ≤ 0x10ffff && i + 1 < capacity then
    some [(i, ((c >>> 10) + 0xd7c0) % 0x10000), (i + 1, (c &&& 0x3ff) ||| 0xdc00)]
  else none

namespace Converting

/-- In front of the loop the offset of the first unit is stored. -/
def initial : Converting := ⟨0, 0, [], [(0, 0)], none⟩

/-- The body of the loop. -/
def turn (icu : Icu) (pText : List UInt8) (nText dst_len : Nat) (state : Converting) :
    Converting :=
  let (c, i_input) := U8_NEXT icu pText state.i_input nText
  if c = 0 then { state with i_input := i_input, left := some .nul }
  else
    let c := if c < 0 then 0x20 else c.toNat
    match U16_STORES state.i_output dst_len c with
    | none => { state with i_input := i_input, left := some .failed }
    | some stores =>
      let i_output := state.i_output + stores.length
      { state with
          i_input := i_input
          i_output := i_output
          in_buffer := stores.reverse ++ state.in_buffer
          in_offset := (i_output, i_input) :: state.in_offset }

def loop (icu : Icu) (pText : List UInt8) (nText dst_len : Nat) : Loop Converting where
  guard := fun state => state.left.isNone && decide (state.i_input < nText)
  body := fun state => some (turn icu pText nText dst_len state)

/-- What the buffer holds, where it has been written. -/
def unitAt (state : Converting) (k : Nat) : Option UChar := state.in_buffer.lookup k

/-- The offset that is stored for a unit, if there is one. -/
def offsetAt (state : Converting) (k : Nat) : Option Nat := state.in_offset.lookup k

/-! ## One turn -/

/-- The stores of one code point: one unit, or a pair. -/
inductive Stored (i : Nat) : List (Nat × UChar) → Prop
  | one (unit : UChar) : Stored i [(i, unit)]
  | pair {lead trail : UChar} (isLead : U16_IS_LEAD lead = true)
      (isTrail : U16_IS_TRAIL trail = true) : Stored i [(i, lead), (i + 1, trail)]

theorem pair_units {c : Nat} (large : 0xffff < c) (top : c ≤ 0x10ffff) :
    U16_IS_LEAD (((c >>> 10) + 0xd7c0) % 0x10000) = true ∧
      U16_IS_TRAIL ((c &&& 0x3ff) ||| 0xdc00) = true := by
  have lead : ((c >>> 10) + 0xd7c0) % 0x10000 = c / 1024 + 0xd7c0 := by
    rw [Nat.shiftRight_eq_div_pow]
    omega
  have trail : (c &&& 0x3ff) ||| 0xdc00 = c % 1024 + 0xdc00 := by
    have low : c &&& 0x3ff = c % 1024 := Nat.and_two_pow_sub_one_eq_mod c 10
    have high : (0xdc00 : Nat) = 55 <<< 10 := by decide
    rw [low, Nat.or_comm, high, ← Nat.shiftLeft_add_eq_or_of_lt (by omega), Nat.add_comm]
  rw [lead, trail, isLead_iff (by omega), isTrail_iff (by omega)]
  omega

/-- Where there is room for a pair, a code point is stored in at most as many units as given. -/
theorem U16_STORES_spec {i capacity c : Nat} (top : c ≤ 0x10ffff)
    (room : 0xffff < c → i + 1 < capacity) :
    ∃ stores, U16_STORES i capacity c = some stores ∧ Stored i stores ∧
      (stores.length = 1 ∨ stores.length = 2 ∧ 0xffff < c) := by
  by_cases small : c ≤ 0xffff
  · exact ⟨[(i, c)], by rw [U16_STORES, if_pos small], Stored.one c, Or.inl rfl⟩
  · have units := pair_units (Nat.lt_of_not_le small) top
    have fits := room (Nat.lt_of_not_le small)
    refine ⟨_, ?_, Stored.pair units.1 units.2, Or.inr ⟨rfl, Nat.lt_of_not_le small⟩⟩
    rw [U16_STORES, if_neg small, if_pos (by simp [top, fits])]

/-- A code point is stored from `i` on, without a gap. -/
theorem Stored.index {i : Nat} {stores : List (Nat × UChar)} (stored : Stored i stores)
    {store : Nat × UChar} (member : store ∈ stores) :
    i ≤ store.1 ∧ store.1 < i + stores.length := by
  cases stored with
  | one unit =>
      rw [List.mem_singleton.mp member]
      simp
  | pair isLead isTrail =>
      rcases List.mem_cons.mp member with same | same
      · simp [same]
      · simp [List.mem_singleton.mp same]

/-- The state behind a code point. -/
def advance (state : Converting) (next : Nat) (stores : List (Nat × UChar)) : Converting :=
  { state with
      i_input := next
      i_output := state.i_output + stores.length
      in_buffer := stores.reverse ++ state.in_buffer
      in_offset := (state.i_output + stores.length, next) :: state.in_offset }

/-- All that a turn can do: it meets a NUL byte, or it stores a code point that has no more units
than bytes. -/
theorem turn_cases {icu : Icu} (counts : icu.Counts) {pText : List UInt8} {nText dst_len : Nat}
    (room : nText < dst_len) {state : Converting} (behind : state.i_output ≤ state.i_input)
    (inside : state.i_input < nText) :
    ∃ next, state.i_input < next ∧ next ≤ nText ∧
      (pText.getD state.i_input 0 = 0 ∧ turn icu pText nText dst_len state =
          { state with i_input := next, left := some .nul } ∨
        ∃ stores, Stored state.i_output stores ∧ state.i_output + stores.length ≤ next ∧
          turn icu pText nText dst_len state = state.advance next stores) := by
  have read := counts.next pText inside
  unfold turn
  generalize U8_NEXT icu pText state.i_input nText = found at *
  rcases found with ⟨c, next⟩
  dsimp only at *
  refine ⟨next, read.1, read.2.1, ?_⟩
  by_cases zero : c = 0
  · left
    rw [if_pos zero]
    exact ⟨read.2.2.2.1 zero, rfl⟩
  · right
    rw [if_neg zero]
    have top : (if c < 0 then 0x20 else c.toNat : Nat) ≤ 0x10ffff := by
      split <;> omega
    have four : 0xffff < (if c < 0 then 0x20 else c.toNat : Nat) → state.i_input + 4 ≤ next := by
      intro large
      apply read.2.2.2.2
      split at large <;> omega
    generalize (if c < 0 then 0x20 else c.toNat : Nat) = value at *
    have fits : 0xffff < value → state.i_output + 1 < dst_len := by
      intro large
      have wide := four large
      omega
    rcases U16_STORES_spec top fits with ⟨stores, written, stored, length⟩
    refine ⟨stores, stored, ?_, ?_⟩
    · rcases length with one | ⟨two, large⟩
      · omega
      · have wide := four large
        omega
    · rw [written]
      rfl

/-! ## What turns preserve -/

/-- No pair of units goes on across `k`. -/
def Between (state : Converting) (k : Nat) : Prop :=
  ∀ before lead trail, k = before + 1 → state.unitAt before = some lead →
    state.unitAt k = some trail → U16_IS_LEAD lead = true → U16_IS_TRAIL trail = false

/-- The invariant of the loop. -/
structure Kept (pText : List UInt8) (state : Converting) : Prop where
  output_le : state.i_output ≤ state.i_input
  input_le : state.i_input ≤ pText.length
  unfailed : state.left ≠ some .failed
  stopped : state.left = some .nul → 0 ∈ pText
  units : ∀ store ∈ state.in_buffer, store.1 < state.i_output
  offsets : ∀ store ∈ state.in_offset, store.1 ≤ state.i_output ∧ store.2 ≤ state.i_input
  /-- The last offset is that of the end of the output. -/
  current : ∃ byte, state.offsetAt state.i_output = some byte ∧
    (state.left = none → byte = state.i_input)
  /-- An offset that is not stored is that between the two units of a pair. -/
  recorded : ∀ k, k ≤ state.i_output → state.Between k → (state.offsetAt k).isSome = true
  rises : ∀ j k a b, j < k → state.offsetAt j = some a → state.offsetAt k = some b → a < b

theorem kept_initial (pText : List UInt8) : Kept pText initial where
  output_le := Nat.le_refl 0
  input_le := Nat.zero_le _
  unfailed := by simp [initial]
  stopped := by simp [initial]
  units := by simp [initial]
  offsets := by simp [initial]
  current := ⟨0, rfl, fun _ => rfl⟩
  recorded := by
    intro k low _
    rw [Nat.le_zero.mp low]
    rfl
  rises := by
    intro j k a b less _ there
    simp [offsetAt, initial] at there
    omega

/-- At a NUL byte the loop is left, and nothing is stored. -/
theorem Kept.nul {pText : List UInt8} {state : Converting} (kept : Kept pText state) {next : Nat}
    (moves : state.i_input < next) (inside : next ≤ pText.length)
    (nul : pText.getD state.i_input 0 = 0) :
    Kept pText { state with i_input := next, left := some .nul } where
  output_le := by
    have low := kept.output_le
    dsimp only
    omega
  input_le := inside
  unfailed := by simp
  stopped := by
    intro _
    have member : pText[state.i_input] ∈ pText := List.getElem_mem (by omega)
    rw [List.getD_eq_getElem _ _ (by omega)] at nul
    rwa [nul] at member
  units := kept.units
  offsets := by
    intro store member
    have bounds := kept.offsets store member
    exact ⟨bounds.1, Nat.le_of_lt (Nat.lt_of_le_of_lt bounds.2 moves)⟩
  current := by
    rcases kept.current with ⟨byte, here, -⟩
    exact ⟨byte, here, fun left => by cases left⟩
  recorded := kept.recorded
  rises := kept.rises

theorem mem_of_lookup {β : Type} {stores : List (Nat × β)} {k : Nat} {value : β}
    (found : stores.lookup k = some value) : (k, value) ∈ stores := by
  rcases List.lookup_eq_some_iff.mp found with ⟨before, behind, same, -⟩
  rw [same]
  exact List.mem_append_right before List.mem_cons_self

theorem lookup_store {β : Type} (index : Nat) (value : β) (stores : List (Nat × β)) (k : Nat) :
    ((index, value) :: stores).lookup k = if k = index then some value else stores.lookup k := by
  by_cases same : k = index
  · simp [same]
  · have other : (k == index) = false := by simp [same]
    simp [List.lookup_cons, same, other]

theorem offsetAt_advance (state : Converting) (next : Nat) (stores : List (Nat × UChar))
    (k : Nat) : (state.advance next stores).offsetAt k =
      if k = state.i_output + stores.length then some next else state.offsetAt k := by
  simp only [offsetAt, advance, lookup_store]

/-- The units so far stay. -/
theorem unitAt_advance {state : Converting} {next : Nat} {stores : List (Nat × UChar)}
    (stored : Stored state.i_output stores) {k : Nat} (earlier : k < state.i_output) :
    (state.advance next stores).unitAt k = state.unitAt k := by
  have other : stores.reverse.lookup k = none := by
    rw [List.lookup_eq_none_iff]
    intro store member
    have index := stored.index (List.mem_reverse.mp member)
    simp
    omega
  simp [unitAt, advance, List.lookup_append, other]

/-- A boundary among the old units was one before. -/
theorem Kept.between_of_advance {pText : List UInt8} {state : Converting}
    (kept : Kept pText state) {next : Nat} {stores : List (Nat × UChar)}
    (stored : Stored state.i_output stores) {k : Nat}
    (between : (state.advance next stores).Between k) : state.Between k := by
  intro before lead trail follows first second isLead
  have written := kept.units _ (mem_of_lookup second)
  dsimp only at written
  apply between before lead trail follows _ _ isLead
  · rw [unitAt_advance stored (by omega)]
    exact first
  · rw [unitAt_advance stored written]
    exact second

/-- Inside the new units there is no boundary: they are a pair. -/
theorem Stored.not_between {state : Converting} {stores : List (Nat × UChar)}
    (stored : Stored state.i_output stores) (next : Nat) {k : Nat} (behind : state.i_output < k)
    (before : k < state.i_output + stores.length) :
    ¬ (state.advance next stores).Between k := by
  intro between
  cases stored with
  | one unit =>
      rw [List.length_singleton] at before
      omega
  | pair isLead isTrail =>
      rename_i lead trail
      have inner : k = state.i_output + 1 := by
        simp only [List.length_cons, List.length_nil] at before
        omega
      have apart := between state.i_output lead trail inner
        (by simp [unitAt, Converting.advance, lookup_store])
        (by simp [unitAt, Converting.advance, inner]) isLead
      rw [isTrail] at apart
      cases apart

/-- Behind a code point, the invariant holds again. -/
theorem Kept.advance {pText : List UInt8} {state : Converting} (kept : Kept pText state)
    {next : Nat} {stores : List (Nat × UChar)}
    (stored : Stored state.i_output stores) (moves : state.i_input < next)
    (inside : next ≤ pText.length) (fits : state.i_output + stores.length ≤ next) :
    Kept pText (state.advance next stores) where
  output_le := fits
  input_le := inside
  unfailed := kept.unfailed
  stopped := kept.stopped
  units := by
    intro store member
    rcases List.mem_append.mp member with new | old
    · exact (stored.index (List.mem_reverse.mp new)).2
    · exact Nat.lt_of_lt_of_le (kept.units store old) (Nat.le_add_right _ _)
  offsets := by
    intro store member
    rcases List.mem_cons.mp member with new | old
    · rw [new]
      exact ⟨Nat.le_refl _, Nat.le_refl _⟩
    · have bounds := kept.offsets store old
      exact ⟨Nat.le_trans bounds.1 (Nat.le_add_right _ _),
        Nat.le_of_lt (Nat.lt_of_le_of_lt bounds.2 moves)⟩
  current := ⟨next, List.lookup_cons_self, fun _ => rfl⟩
  recorded := by
    intro k low between
    rw [offsetAt_advance]
    split
    · rfl
    · rename_i other
      have bound : k < state.i_output + stores.length := Nat.lt_of_le_of_ne low other
      by_cases old : k ≤ state.i_output
      · exact kept.recorded k old (kept.between_of_advance stored between)
      · exact absurd between (stored.not_between next (Nat.lt_of_not_le old) bound)
  rises := by
    intro j k a b less here there
    rw [offsetAt_advance] at here there
    rcases kept.current with ⟨byte, current, same⟩
    by_cases last : k = state.i_output + stores.length
    · rw [if_pos last] at there
      rw [if_neg (by omega)] at here
      have old := kept.offsets _ (mem_of_lookup here)
      cases there
      exact Nat.lt_of_le_of_lt old.2 moves
    · rw [if_neg last] at there
      have old := kept.offsets _ (mem_of_lookup there)
      dsimp only at old
      rw [if_neg (by omega)] at here
      exact kept.rises j k a b less here there

section Run

variable {icu : Icu} (counts : icu.Counts) {pText : List UInt8} {dst_len : Nat}
  (room : pText.length < dst_len)
include counts room

/-- A turn preserves the invariant and consumes bytes. -/
theorem Kept.turn {state next : Converting} (kept : Kept pText state)
    (turn : (loop icu pText pText.length dst_len).Turn state next) :
    Kept pText next ∧ pText.length - next.i_input < pText.length - state.i_input := by
  rcases turn with ⟨guard, body⟩
  simp only [loop, Bool.and_eq_true, decide_eq_true_eq] at guard
  have inside := guard.2
  cases Option.some.inj body
  rcases turn_cases counts room kept.output_le inside with
    ⟨next, moves, bound, ⟨nul, does⟩ | ⟨stores, stored, fits, does⟩⟩
  · rw [does]
    refine ⟨kept.nul moves bound nul, ?_⟩
    dsimp only
    omega
  · rw [does]
    refine ⟨kept.advance stored moves bound fits, ?_⟩
    dsimp only [Converting.advance]
    omega

theorem kept_of_reaches {state : Converting}
    (reached : (loop icu pText pText.length dst_len).Reaches initial state) :
    Kept pText state :=
  Loop.invariant_of_reaches (fun _ _ kept turn => (Kept.turn counts room kept turn).1)
    (kept_initial pText) reached

/-- The loop ends, and not in its body. -/
theorem loop_ends : ∃ last, (loop icu pText pText.length dst_len).run (pText.length + 1) initial =
    some (last, true) := by
  rcases Loop.run_ends (Kept pText) (fun state => pText.length - state.i_input)
    (fun _ _ kept turn => Kept.turn counts room kept turn) (kept_initial pText)
    (Nat.lt_succ_of_le (Nat.sub_le _ _)) with ⟨last, byGuard, ends⟩
  cases byGuard with
  | true => exact ⟨last, ends⟩
  | false => exact absurd ((Loop.reaches_of_run ends).2.2 rfl) (Option.some_ne_none _)

end Run

/-! ## The loop of the tokenizer -/

/-- What is left in memory, which held something else before. -/
def conversion (garbage : Nat → Int) (state : Converting) : Conversion where
  i_input := state.i_input
  in_buffer := (state.in_buffer.map Prod.snd).reverse
  in_offset := fun k => (state.offsetAt k).elim (garbage k) Int.ofNat

theorem U16_APPEND_stores (s : List UChar) (capacity c : Nat) :
    U16_APPEND s capacity c =
      (U16_STORES s.length capacity c).map fun stores => s ++ stores.map Prod.snd := by
  unfold U16_APPEND U16_STORES
  split
  · rfl
  · split
    · rfl
    · rfl

theorem conversion_advance (garbage : Nat → Int) {state : Converting}
    (filled : state.in_buffer.length = state.i_output) (next : Nat)
    (stores : List (Nat × UChar)) :
    (state.advance next stores).conversion garbage =
      { i_input := next
        in_buffer := (state.conversion garbage).in_buffer ++ stores.map Prod.snd
        in_offset := Function.update (state.conversion garbage).in_offset
          ((state.conversion garbage).in_buffer ++ stores.map Prod.snd).length next } := by
  have length : ((state.conversion garbage).in_buffer ++ stores.map Prod.snd).length =
      state.i_output + stores.length := by
    simp [conversion, filled]
  rw [length, conversion, Conversion.mk.injEq]
  refine ⟨rfl, by simp [advance, conversion], ?_⟩
  funext k
  rw [offsetAt_advance, Function.update_apply]
  split
  · rfl
  · rfl

/-- The loop of the tokenizer is this loop, without the indices. -/
theorem convert_eq_run (icu : Icu) (pText : List UInt8) (nText dst_len : Nat)
    (garbage : Nat → Int) (fuel : Nat) : ∀ state : Converting, state.left = none →
    state.in_buffer.length = state.i_output →
    convert icu pText nText dst_len fuel (state.conversion garbage) =
      ((loop icu pText nText dst_len).run fuel state).map fun ended =>
        (ended.1.conversion garbage, ended.1.left == some .failed) := by
  have atEnd : ∀ fuel (state : Converting), state.left = none → nText ≤ state.i_input →
      convert icu pText nText dst_len fuel (state.conversion garbage) =
        ((loop icu pText nText dst_len).run fuel state).map fun ended =>
          (ended.1.conversion garbage, ended.1.left == some .failed) := by
    intro fuel state going finished
    have stops : (loop icu pText nText dst_len).guard state = false := by
      simp [loop, finished]
    have ended : nText ≤ (state.conversion garbage).i_input := finished
    rw [Loop.run_of_guard stops, Option.map_some, going]
    unfold convert
    rw [if_pos ended]
    rfl
  induction fuel with
  | zero =>
      intro state going filled
      by_cases finished : nText ≤ state.i_input
      · exact atEnd 0 state going finished
      · have goes : (loop icu pText nText dst_len).guard state = true := by
          simp [loop, going, Nat.lt_of_not_le finished]
        have more : ¬ nText ≤ (state.conversion garbage).i_input := finished
        rw [Loop.run, if_pos goes, convert, if_neg more]
        rfl
  | succ fuel ih =>
      intro state going filled
      by_cases finished : nText ≤ state.i_input
      · exact atEnd (fuel + 1) state going finished
      · have goes : (loop icu pText nText dst_len).guard state = true := by
          simp [loop, going, Nat.lt_of_not_le finished]
        have more : ¬ nText ≤ (state.conversion garbage).i_input := finished
        have length : (state.conversion garbage).in_buffer.length = state.i_output := by
          simp [conversion, filled]
        rw [Loop.run_of_turn ⟨goes, rfl⟩, convert, if_neg more, turn]
        have input : (state.conversion garbage).i_input = state.i_input := rfl
        rw [input]
        generalize U8_NEXT icu pText state.i_input nText = found
        rcases found with ⟨c, next⟩
        dsimp only
        by_cases zero : c = 0
        · rw [if_pos zero, if_pos zero, Loop.run_of_guard (by simp [loop])]
          rfl
        · rw [if_neg zero, if_neg zero, U16_APPEND_stores, length]
          cases U16_STORES state.i_output dst_len (if c < 0 then 0x20 else c.toNat) with
          | none =>
              rw [Loop.run_of_guard (by simp [loop])]
              rfl
          | some stores =>
              have filledBehind : (state.advance next stores).in_buffer.length =
                  (state.advance next stores).i_output := by
                simp [advance, filled, Nat.add_comm]
              have later := ih (state.advance next stores) going filledBehind
              rw [conversion_advance garbage filled] at later
              exact later

/-- The loop as `fts5WcicuTokenize` starts it. -/
theorem convert_initial (icu : Icu) (pText : List UInt8) (nText dst_len : Nat)
    (garbage : Nat → Int) (fuel : Nat) :
    convert icu pText nText dst_len fuel ⟨0, [], Function.update garbage 0 0⟩ =
      ((loop icu pText nText dst_len).run fuel initial).map fun ended =>
        (ended.1.conversion garbage, ended.1.left == some .failed) := by
  have start : initial.conversion garbage = ⟨0, [], Function.update garbage 0 0⟩ := by
    rw [conversion, Conversion.mk.injEq]
    refine ⟨rfl, rfl, ?_⟩
    funext k
    rw [offsetAt, initial, lookup_store, Function.update_apply]
    split
    · rfl
    · rfl
  rw [← start]
  exact convert_eq_run icu pText nText dst_len garbage fuel initial rfl rfl

/-! ## What holds throughout, and at the end -/

/-- The output does not get ahead of the input, the input stays inside the text, no character fails
to be written, and every index that is stored to lies in its array. -/
structure StaysInside (nText dst_len : Nat) (state : Converting) : Prop where
  output_le : state.i_output ≤ state.i_input
  input_le : state.i_input ≤ nText
  nText_lt : nText < dst_len
  unfailed : state.left ≠ some .failed
  units : ∀ store ∈ state.in_buffer, store.1 < dst_len
  offsets : ∀ store ∈ state.in_offset, store.1 ≤ dst_len

/-- An offset between two code points of the output. -/
structure Boundary (state : Converting) (k : Nat) : Prop where
  inside : k ≤ state.i_output
  between : state.Between k

/-- The offsets are stored at all boundaries of code points, and grow from one to the next. -/
structure RecordsOffsets (pText : List UInt8) (state : Converting) : Prop where
  recorded : ∀ k, state.Boundary k → ∃ byte, state.offsetAt k = some byte
  rises : ∀ j k a b, state.Boundary j → state.Boundary k → j < k →
    state.offsetAt j = some a → state.offsetAt k = some b → a < b
  /-- The end of the output comes from the end of the text. -/
  whole : 0 ∉ pText → state.offsetAt state.i_output = some pText.length

theorem Kept.staysInside {pText : List UInt8} {dst_len : Nat} (room : pText.length < dst_len)
    {state : Converting} (kept : Kept pText state) :
    state.StaysInside pText.length dst_len where
  output_le := kept.output_le
  input_le := kept.input_le
  nText_lt := room
  unfailed := kept.unfailed
  units := by
    intro store member
    have index := kept.units store member
    have output := kept.output_le
    have input := kept.input_le
    omega
  offsets := by
    intro store member
    have index := (kept.offsets store member).1
    have output := kept.output_le
    have input := kept.input_le
    omega

theorem Kept.recordsOffsets {pText : List UInt8} {state : Converting} (kept : Kept pText state)
    (ended : state.left = none → pText.length ≤ state.i_input) : state.RecordsOffsets pText where
  recorded := fun k boundary =>
    Option.isSome_iff_exists.mp (kept.recorded k boundary.inside boundary.between)
  rises := fun j k a b _ _ less here there => kept.rises j k a b less here there
  whole := by
    intro visible
    rcases kept.current with ⟨byte, current, same⟩
    have going : state.left = none := by
      cases left : state.left with
      | none => rfl
      | some way =>
          cases way with
          | nul => exact absurd (kept.stopped left) visible
          | failed => exact absurd left kept.unfailed
    have finished := Nat.le_antisymm kept.input_le (ended going)
    rw [current, same going, finished]

/-- For every text that is not too long for an `int`, the loop stays inside its arrays from its
first turn to its last, and it ends with the offsets of all code points. -/
theorem conversion_stays_inside {icu : Icu} (counts : icu.Counts) (pText : List UInt8)
    (limit : pText.length ≤ 2 ^ 31 - 5) :
    ∃ dst_len, dstLen (BitVec.ofNat 32 pText.length) = some dst_len ∧
      dst_len.toInt = ROUND4 (pText.length + 1) ∧
      (∀ state, (loop icu pText pText.length dst_len.toNat).Reaches initial state →
        state.StaysInside pText.length dst_len.toNat) ∧
      (∃ fuel last, (loop icu pText pText.length dst_len.toNat).run fuel initial =
        some (last, true)) ∧
      ∀ fuel last byGuard, (loop icu pText pText.length dst_len.toNat).run fuel initial =
        some (last, byGuard) → last.RecordsOffsets pText := by
  have small : pText.length < 2 ^ 32 := by omega
  have natural : (BitVec.ofNat 32 pText.length).toNat = pText.length := by
    rw [BitVec.toNat_ofNat]
    exact Nat.mod_eq_of_lt small
  have value : (BitVec.ofNat 32 pText.length).toInt = pText.length := by
    rw [BitVec.toInt_eq_toNat_of_lt (by omega), natural]
  have nonneg : 0 ≤ (BitVec.ofNat 32 pText.length).toInt := by omega
  rcases dstLen_spec nonneg (by omega) with ⟨dst_len, computed, multiple⟩
  rw [natural] at multiple
  have multipleOfFour : pText.length < ROUND4 (pText.length + 1) ∧
      ROUND4 (pText.length + 1) ≤ 2 ^ 31 - 4 := by
    rw [ROUND4]
    omega
  have room : pText.length < dst_len.toNat := by omega
  refine ⟨dst_len, computed, ?_, ?_, ?_, ?_⟩
  · rw [BitVec.toInt_eq_toNat_of_lt (by omega), multiple]
  · intro state reached
    exact (kept_of_reaches counts room reached).staysInside room
  · exact ⟨pText.length + 1, loop_ends counts room⟩
  · intro fuel last byGuard ends
    rcases Loop.reaches_of_run ends with ⟨reached, stops, left⟩
    apply (kept_of_reaches counts room reached).recordsOffsets
    intro going
    cases byGuard with
    | false => exact absurd (left rfl) (Option.some_ne_none _)
    | true => simpa [loop, going] using stops

end Converting

/-- The library, for well-formed sequences of four bytes. -/
def Icu.fourBytes : Icu :=
  { Icu.small with
      utf8_nextCharSafeBody := fun s i length c =>
        let value := (c - 0xf0) * 0x40000 + ((s.getD i 0).toNat - 0x80) * 0x1000 +
          ((s.getD (i + 1) 0).toNat - 0x80) * 0x40 + ((s.getD (i + 2) 0).toNat - 0x80)
        if i + 3 ≤ length ∧ 0xffff < value ∧ value ≤ 0x10ffff then (value, i + 3) else (-1, i) }

theorem Icu.fourBytes_counts : Icu.fourBytes.Counts where
  inside := by
    intro s i length c _ within
    simp only [Icu.fourBytes]
    split <;> omega
  codePoint := by
    intro s i length c _
    simp only [Icu.fourBytes]
    split <;> omega
  visible := by
    intro s i length c _
    simp only [Icu.fourBytes]
    split <;> omega
  supplementary := by
    intro s i length c _ large
    simp only [Icu.fourBytes] at large ⊢
    split at large
    · rename_i legal
      rw [if_pos legal]
    · omega

/-- A letter and a pair: between the units 1 and 2 no offset is stored. -/
example : (Converting.loop Icu.fourBytes [0x61, 0xf0, 0x9f, 0x98, 0x80] 5 8).run 2
    Converting.initial =
      some
        (⟨5, 3, [(2, 0xde00), (1, 0xd83d), (0, 0x61)], [(3, 5), (1, 1), (0, 0)], none⟩, true) := by
  decide

theorem conversion_stays_inside_pair :
    ∃ dst_len, dstLen (BitVec.ofNat 32 [0x61, 0xf0, 0x9f, 0x98, 0x80].length) = some dst_len ∧
      dst_len.toInt = ROUND4 ([0x61, 0xf0, 0x9f, 0x98, 0x80].length + 1) ∧
      (∀ state, (Converting.loop Icu.fourBytes [0x61, 0xf0, 0x9f, 0x98, 0x80]
          [0x61, 0xf0, 0x9f, 0x98, 0x80].length dst_len.toNat).Reaches Converting.initial state →
        state.StaysInside [0x61, 0xf0, 0x9f, 0x98, 0x80].length dst_len.toNat) ∧
      (∃ fuel last, (Converting.loop Icu.fourBytes [0x61, 0xf0, 0x9f, 0x98, 0x80]
          [0x61, 0xf0, 0x9f, 0x98, 0x80].length dst_len.toNat).run fuel Converting.initial =
        some (last, true)) ∧
      ∀ fuel last byGuard, (Converting.loop Icu.fourBytes [0x61, 0xf0, 0x9f, 0x98, 0x80]
          [0x61, 0xf0, 0x9f, 0x98, 0x80].length dst_len.toNat).run fuel Converting.initial =
        some (last, byGuard) → last.RecordsOffsets [0x61, 0xf0, 0x9f, 0x98, 0x80] :=
  Converting.conversion_stays_inside Icu.fourBytes_counts [0x61, 0xf0, 0x9f, 0x98, 0x80]
    (by decide)

end Tokenizer
end ModuleDatabase
