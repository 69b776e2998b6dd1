import ModuleDatabase.Tokenizer.Wcicu

namespace ModuleDatabase
namespace Tokenizer

/-!
# The conversion loop as a list of code points

`decode` lists what successive uses of `U8_NEXT` read from the text: the
value of each code point, the bytes it comes from and the units that it takes
in the buffer.  The conversion loop writes exactly these units, and it writes
the byte offset of every code point boundary; the offset inside a surrogate
pair is never written.

`Laid` is the layout of such a list between two positions.  The main loop is
analysed over laid lists only.
-/

/-- One use of `U8_NEXT`: a malformed sequence counts as a space. -/
structure CodePoint where
  value : Nat
  unit : Nat
  startByte : Nat
  stopByte : Nat
  deriving DecidableEq, Repr

/-- The number of UTF-16 units of a code point. -/
def CodePoint.width (codePoint : CodePoint) : Nat := (unitsOf codePoint.value).length

/-- The code points from byte `i` on, the first of them at unit `unit`, up to
the end of the text or a NUL byte. -/
def decode (icu : Icu) (pText : List UInt8) (nText : Nat) :
    Nat → Nat → Nat → List CodePoint
  | 0, _, _ => []
  | fuel + 1, i, unit =>
    if nText ≤ i then []
    else
      let (c, next) := U8_NEXT icu pText i nText
      if c = 0 then []
      else
        let value := if c < 0 then 0x20 else c.toNat
        ⟨value, unit, i, next⟩ ::
          decode icu pText nText fuel next (unit + (unitsOf value).length)

/-- The units of a list of code points, in order. -/
def unitsOfAll (codePoints : List CodePoint) : List UChar :=
  codePoints.flatMap fun codePoint => unitsOf codePoint.value

/-! ## One use of `U8_NEXT` -/

section Next

variable {icu : Icu} (documented : icu.Documented)
include documented

/-- It consumes at least one byte, inside the text. -/
theorem U8_NEXT_advances (s : List UInt8) {i length : Nat} (inside : i < length) :
    i < (U8_NEXT icu s i length).2 ∧ (U8_NEXT icu s i length).2 ≤ length := by
  rcases U8_NEXT_cases icu s i length with ⟨-, -, -, grows, stays, -⟩ | ⟨-, called⟩ | failed
  · have within := stays inside
    omega
  · have bounds := documented.advances s (i + 1) length (s.getD i 0).toNat (by omega)
    rw [called]
    omega
  · simp only [failed]
    omega

/-- It yields a negative value or a code point; zero only for a NUL byte. -/
theorem U8_NEXT_value (s : List UInt8) (i length : Nat) :
    (U8_NEXT icu s i length).1 < 0 ∨ ScalarValue (U8_NEXT icu s i length).1 ∧
      ((U8_NEXT icu s i length).1 = 0 → s.getD i 0 = 0) := by
  rcases U8_NEXT_cases icu s i length with ⟨low, high, nul, -⟩ | ⟨-, called⟩ | failed
  · exact Or.inr ⟨⟨low, by omega, by omega⟩, nul⟩
  · rw [called]
    rcases documented.value s (i + 1) length (s.getD i 0).toNat with negative | positive
    · exact Or.inl negative
    · refine Or.inr ⟨positive.2, ?_⟩
      intro zero
      omega
  · simp [failed]

/-- A supplementary code point takes four bytes. -/
theorem U8_NEXT_supplementary (s : List UInt8) (i length : Nat)
    (large : 0xffff < (U8_NEXT icu s i length).1) :
    (U8_NEXT icu s i length).2 = i + 4 := by
  rcases U8_NEXT_cases icu s i length with ⟨-, high, -⟩ | ⟨-, called⟩ | failed
  · omega
  · rw [called] at large ⊢
    have four := documented.supplementary s (i + 1) length (s.getD i 0).toNat large
    omega
  · rw [failed] at large
    omega

/-- The bytes behind the first one that it consumes are not NUL. -/
theorem U8_NEXT_trails (s : List UInt8) (i length k : Nat) (behind : i < k)
    (consumed : k < (U8_NEXT icu s i length).2) : s.getD k 0 ≠ 0 := by
  have trail : 0x80 ≤ s.getD k 0 := by
    rcases U8_NEXT_cases icu s i length with ⟨-, -, -, -, -, trails⟩ | ⟨-, called⟩ | failed
    · exact trails k behind consumed
    · rw [called] at consumed
      exact documented.trails s (i + 1) length (s.getD i 0).toNat k behind consumed
    · simp only [failed] at consumed
      omega
  intro zero
  rw [zero] at trail
  revert trail
  decide

/-- The bytes that it consumes for a value other than 0 are not NUL. -/
theorem U8_NEXT_visible (s : List UInt8) (i length : Nat)
    (nonzero : (U8_NEXT icu s i length).1 ≠ 0) (k : Nat) (behind : i ≤ k)
    (consumed : k < (U8_NEXT icu s i length).2) : s.getD k 0 ≠ 0 := by
  by_cases first : k = i
  · intro zero
    apply nonzero
    rw [U8_NEXT, ← first, zero]
    rfl
  · exact U8_NEXT_trails documented s i length k (by omega) consumed

end Next

/-! ## Laid lists of code points -/

/-- A position in the buffer together with the byte it comes from. -/
structure Mark where
  unit : Nat
  byte : Nat

/-- Where a code point begins. -/
def CodePoint.opens (codePoint : CodePoint) : Mark := ⟨codePoint.unit, codePoint.startByte⟩

/-- Where it ends. -/
def CodePoint.closes (codePoint : CodePoint) : Mark :=
  ⟨codePoint.unit + codePoint.width, codePoint.stopByte⟩

/-- The unit that a code point begins with. -/
def CodePoint.firstUnit (codePoint : CodePoint) : UChar := (unitsOf codePoint.value).getD 0 0

/-- The code points fill the buffer from the first mark to the last one, and
the offsets are known at every mark on the way.  Of the units themselves only
the first one of a code point matters; it leads a surrogate pair exactly if
the code point has two. -/
def Laid (in_buffer : List UChar) (in_offset : Nat → Int) :
    Mark → List CodePoint → Mark → Prop
  | start, [], stop => start = stop ∧ in_offset start.unit = start.byte
  | start, codePoint :: rest, stop =>
      (codePoint.opens = start ∧ in_offset start.unit = start.byte ∧
        start.byte < codePoint.stopByte ∧
        in_buffer.getD start.unit 0 = codePoint.firstUnit ∧
        (U16_IS_LEAD codePoint.firstUnit = true ↔ codePoint.width = 2)) ∧
      Laid in_buffer in_offset codePoint.closes rest stop

theorem width_eq (codePoint : CodePoint) : codePoint.width = 1 ∨ codePoint.width = 2 := by
  unfold CodePoint.width unitsOf
  split
  · exact Or.inl rfl
  · exact Or.inr rfl

section Laid

variable {in_buffer : List UChar} {in_offset : Nat → Int}

theorem Laid.offset_start {start stop : Mark} {codePoints : List CodePoint}
    (laid : Laid in_buffer in_offset start codePoints stop) :
    in_offset start.unit = start.byte := by
  cases codePoints with
  | nil => exact laid.2
  | cons codePoint rest => exact laid.1.2.1

theorem Laid.offset_stop {start stop : Mark} {codePoints : List CodePoint}
    (laid : Laid in_buffer in_offset start codePoints stop) :
    in_offset stop.unit = stop.byte := by
  induction codePoints generalizing start with
  | nil =>
      rcases laid with ⟨same, offset⟩
      rw [← same]
      exact offset
  | cons codePoint rest ih => exact ih laid.2

/-- A laid list can be cut between any two of its code points. -/
theorem laid_append {start stop : Mark} {left right : List CodePoint} :
    Laid in_buffer in_offset start (left ++ right) stop ↔
      ∃ middle, Laid in_buffer in_offset start left middle ∧
        Laid in_buffer in_offset middle right stop := by
  induction left generalizing start with
  | nil =>
      constructor
      · intro laid
        exact ⟨start, ⟨rfl, laid.offset_start⟩, laid⟩
      · rintro ⟨middle, ⟨same, -⟩, laid⟩
        rw [List.nil_append, same]
        exact laid
  | cons codePoint rest ih =>
      constructor
      · rintro ⟨head, tail⟩
        rcases ih.mp tail with ⟨middle, before, behind⟩
        exact ⟨middle, ⟨head, before⟩, behind⟩
      · rintro ⟨middle, ⟨head, before⟩, behind⟩
        exact ⟨head, ih.mpr ⟨middle, before, behind⟩⟩

/-- Every code point takes at least one unit and at least one byte. -/
theorem Laid.length_le {start stop : Mark} {codePoints : List CodePoint}
    (laid : Laid in_buffer in_offset start codePoints stop) :
    start.unit + codePoints.length ≤ stop.unit ∧ start.byte + codePoints.length ≤ stop.byte := by
  induction codePoints generalizing start with
  | nil =>
      rcases laid with ⟨same, -⟩
      subst same
      simp
  | cons codePoint rest ih =>
      rcases laid with ⟨⟨opens, -, grows, -, -⟩, tail⟩
      have behind := ih tail
      subst opens
      have wide := width_eq codePoint
      simp only [CodePoint.opens, CodePoint.closes, List.length_cons] at *
      omega

/-- The code points of a laid list lie between its marks. -/
theorem Laid.bounds {start stop : Mark} {codePoints : List CodePoint}
    (laid : Laid in_buffer in_offset start codePoints stop) {codePoint : CodePoint}
    (member : codePoint ∈ codePoints) :
    start.unit ≤ codePoint.unit ∧ codePoint.closes.unit ≤ stop.unit := by
  induction codePoints generalizing start with
  | nil => cases member
  | cons first rest ih =>
      rcases laid with ⟨⟨opens, -, -, -, -⟩, tail⟩
      have unit : first.unit = start.unit := congrArg Mark.unit opens
      rcases List.mem_cons.mp member with same | behind
      · subst same
        have behind := tail.length_le
        constructor
        · exact Nat.le_of_eq unit.symm
        · omega
      · have bounds := ih tail behind
        constructor
        · simp only [CodePoint.closes] at bounds
          omega
        · exact bounds.2

end Laid

/-! ## The conversion loop -/

theorem unitsOf_length_pos (value : Nat) : 0 < (unitsOf value).length := by
  unfold unitsOf
  split <;> simp

/-- The first unit of a code point leads a pair exactly if there are two. -/
theorem isLead_unitsOf {value : Nat} (scalar : ScalarValue value) :
    U16_IS_LEAD ((unitsOf value).getD 0 0) = true ↔ (unitsOf value).length = 2 := by
  rcases scalar with ⟨-, top, surrogates⟩
  unfold unitsOf
  split
  · rename_i small
    simp only [List.getD_cons_zero, List.length_cons, List.length_nil]
    rw [isLead_iff (by omega)]
    omega
  · rename_i large
    simp only [List.getD_cons_zero, List.length_cons, List.length_nil]
    have unit : ((value >>> 10) + 0xd7c0) % 0x10000 = value / 1024 + 0xd7c0 := by
      rw [Nat.shiftRight_eq_div_pow]
      apply Nat.mod_eq_of_lt
      omega
    rw [unit, isLead_iff (by omega)]
    constructor
    · intro _
      trivial
    · intro _
      omega

/-- `U16_APPEND` succeeds where two units fit. -/
theorem U16_APPEND_eq (s : List UChar) {capacity c : Nat} (scalar : c ≤ 0x10ffff)
    (room : 0xffff < c → s.length + 1 < capacity) :
    U16_APPEND s capacity c = some (s ++ unitsOf c) := by
  unfold U16_APPEND unitsOf
  by_cases small : c ≤ 0xffff
  · rw [if_pos small, if_pos small]
  · have fits := room (by omega)
    rw [if_neg small, if_neg small, if_pos]
    simp only [Bool.and_eq_true, decide_eq_true_eq]
    exact ⟨scalar, fits⟩

theorem getD_unitsOf_append (value : Nat) (more : List UChar) :
    (unitsOf value ++ more).getD 0 0 = (unitsOf value).getD 0 0 :=
  List.getD_append _ _ _ _ (unitsOf_length_pos value)

theorem unitsOfAll_cons (codePoint : CodePoint) (rest : List CodePoint) :
    unitsOfAll (codePoint :: rest) = unitsOf codePoint.value ++ unitsOfAll rest := rfl

/-- The byte offsets, with the ends of some code points noted. -/
def noteOffsets (in_offset : Nat → Int) (codePoints : List CodePoint) : Nat → Int :=
  codePoints.foldl
    (fun in_offset codePoint =>
      Function.update in_offset codePoint.closes.unit codePoint.closes.byte) in_offset

/-- What the loop stores, started at byte `i` on a part of the buffer. -/
structure Decodes (pText : List UInt8) (nText i : Nat) (in_buffer : List UChar)
    (in_offset : Nat → Int) (codePoints : List CodePoint) (conversion : Conversion)
    (stop : Mark) : Prop where
  /-- The buffer grows by the units of the code points. -/
  grown : conversion.in_buffer = in_buffer ++ unitsOfAll codePoints
  /-- The offsets that were known stay. -/
  kept : ∀ k, k ≤ in_buffer.length → conversion.in_offset k = in_offset k
  noted : conversion.in_offset = noteOffsets in_offset codePoints
  laid : Laid conversion.in_buffer conversion.in_offset ⟨in_buffer.length, i⟩ codePoints stop
  filled : stop.unit = conversion.in_buffer.length
  /-- The loop stops at the end of the text or at its first NUL byte. -/
  exhausted : stop.byte = nText ∨ stop.byte < nText ∧ pText.getD stop.byte 0 = 0
  visible : ∀ k, i ≤ k → k < stop.byte → pText.getD k 0 ≠ 0

theorem decodes_nil {pText : List UInt8} {nText i : Nat} {in_buffer : List UChar}
    {in_offset : Nat → Int} (known : in_offset in_buffer.length = i)
    (exhausted : i = nText ∨ i < nText ∧ pText.getD i 0 = 0) (i_input : Nat) :
    Decodes pText nText i in_buffer in_offset [] ⟨i_input, in_buffer, in_offset⟩
      ⟨in_buffer.length, i⟩ where
  grown := by simp [unitsOfAll]
  kept := fun _ _ => rfl
  noted := rfl
  laid := ⟨rfl, known⟩
  filled := rfl
  exhausted := exhausted
  visible := by
    intro k behind before
    simp only at before
    omega

/-- One code point more in front of what a run of the loop stores. -/
theorem Decodes.cons {pText : List UInt8} {nText : Nat} {in_buffer : List UChar}
    {in_offset : Nat → Int} (codePoint : CodePoint) {rest : List CodePoint}
    {conversion : Conversion} {stop : Mark}
    (tail : Decodes pText nText codePoint.stopByte (in_buffer ++ unitsOf codePoint.value)
      (Function.update in_offset (in_buffer ++ unitsOf codePoint.value).length
        codePoint.stopByte) rest conversion stop)
    (unit : codePoint.unit = in_buffer.length)
    (known : in_offset in_buffer.length = codePoint.startByte)
    (grows : codePoint.startByte < codePoint.stopByte)
    (scalar : ScalarValue codePoint.value)
    (visible : ∀ k, codePoint.startByte ≤ k → k < codePoint.stopByte → pText.getD k 0 ≠ 0) :
    Decodes pText nText codePoint.startByte in_buffer in_offset (codePoint :: rest) conversion
      stop := by
  have wide := unitsOf_length_pos codePoint.value
  have grown : conversion.in_buffer = in_buffer ++ unitsOfAll (codePoint :: rest) := by
    rw [tail.grown, unitsOfAll_cons, List.append_assoc]
  have kept : ∀ k, k ≤ in_buffer.length → conversion.in_offset k = in_offset k := by
    intro k low
    rw [tail.kept k (by rw [List.length_append]; omega), Function.update_of_ne]
    rw [List.length_append]
    omega
  have closes : codePoint.closes =
      ⟨(in_buffer ++ unitsOf codePoint.value).length, codePoint.stopByte⟩ := by
    rw [CodePoint.closes, List.length_append, unit, CodePoint.width]
  have first : conversion.in_buffer.getD in_buffer.length 0 = codePoint.firstUnit := by
    rw [grown, unitsOfAll_cons, List.getD_append_right _ _ _ _ (Nat.le_refl _), Nat.sub_self]
    exact getD_unitsOf_append codePoint.value _
  have noted : conversion.in_offset = noteOffsets in_offset (codePoint :: rest) := by
    rw [tail.noted, noteOffsets, noteOffsets, List.foldl_cons, closes]
  refine ⟨grown, kept, noted, ⟨⟨?_, ?_, grows, first, isLead_unitsOf scalar⟩, ?_⟩, tail.filled,
    tail.exhausted, ?_⟩
  · rw [CodePoint.opens, unit]
  · exact (kept _ (Nat.le_refl _)).trans known
  · rw [closes]
    exact tail.laid
  · intro k behind before
    by_cases inside : k < codePoint.stopByte
    · exact visible k behind inside
    · exact tail.visible k (by omega) before

/-- The value that is stored takes no more units than the code point has
bytes. -/
theorem value_bounds {c : Int} {i next : Nat} {nul : Prop}
    (legal : c < 0 ∨ ScalarValue c ∧ nul) (four : 0xffff < c → next = i + 4)
    (advances : i < next) :
    ScalarValue (if c < 0 then 0x20 else c.toNat : Nat) ∧
      i + (unitsOf (if c < 0 then 0x20 else c.toNat)).length ≤ next ∧
      (0xffff < (if c < 0 then 0x20 else c.toNat) → next = i + 4) := by
  unfold ScalarValue at *
  by_cases negative : c < 0
  · simp only [if_pos negative]
    refine ⟨by omega, ?_, by omega⟩
    simp only [unitsOf]
    rw [if_pos (by decide)]
    exact advances
  · simp only [if_neg negative]
    have scalar := (legal.resolve_left negative).1
    have natural : (c.toNat : Int) = c := Int.toNat_of_nonneg (by omega)
    refine ⟨by omega, ?_, ?_⟩
    · unfold unitsOf
      split
      · exact advances
      · simp only [List.length_cons, List.length_nil]
        omega
    · intro large
      exact four (by omega)

section Convert

variable {icu : Icu} (documented : icu.Documented)
include documented

/-- The loop stores what is decoded from the text.  Its invariant is that no
code point has more units than bytes, so that the buffer never runs out. -/
theorem convert_decodes (pText : List UInt8) {nText dst_len : Nat} (room : nText < dst_len)
    (fuel : Nat) : ∀ (depth i : Nat) (in_buffer : List UChar) (in_offset : Nat → Int),
    i ≤ nText → nText - i ≤ fuel → nText - i ≤ depth → in_buffer.length ≤ i →
    in_offset in_buffer.length = i →
    ∃ conversion stop,
      convert icu pText nText dst_len fuel ⟨i, in_buffer, in_offset⟩ =
        some (conversion, false) ∧
      Decodes pText nText i in_buffer in_offset
        (decode icu pText nText depth i in_buffer.length) conversion stop := by
  induction fuel with
  | zero =>
      intro depth i in_buffer in_offset inside enough deep slack known
      have finished : nText ≤ i := by omega
      have empty : decode icu pText nText depth i in_buffer.length = [] := by
        cases depth with
        | zero => rfl
        | succ depth => rw [decode, if_pos finished]
      refine ⟨⟨i, in_buffer, in_offset⟩, ⟨in_buffer.length, i⟩, ?_, ?_⟩
      · rw [convert, if_pos finished]
      · rw [empty]
        exact decodes_nil known (Or.inl (by omega)) i
  | succ fuel ih =>
      intro depth i in_buffer in_offset inside enough deep slack known
      by_cases finished : nText ≤ i
      · have empty : decode icu pText nText depth i in_buffer.length = [] := by
          cases depth with
          | zero => rfl
          | succ depth => rw [decode, if_pos finished]
        refine ⟨⟨i, in_buffer, in_offset⟩, ⟨in_buffer.length, i⟩, ?_, ?_⟩
        · rw [convert, if_pos finished]
        · rw [empty]
          exact decodes_nil known (Or.inl (by omega)) i
      · cases depth with
        | zero => omega
        | succ depth =>
            rw [convert, if_neg finished, decode, if_neg finished]
            have advances := U8_NEXT_advances documented pText (Nat.lt_of_not_le finished)
            have legal := U8_NEXT_value documented pText i nText
            have four := U8_NEXT_supplementary documented pText i nText
            have visible := U8_NEXT_visible documented pText i nText
            generalize U8_NEXT icu pText i nText = read at *
            rcases read with ⟨c, next⟩
            dsimp only at *
            by_cases zero : c = 0
            · rw [if_pos zero, if_pos zero]
              refine ⟨⟨next, in_buffer, in_offset⟩, ⟨in_buffer.length, i⟩, rfl, ?_⟩
              refine decodes_nil known (Or.inr ⟨Nat.lt_of_not_le finished, ?_⟩) next
              rcases legal with negative | legal
              · omega
              · exact legal.2 zero
            · rw [if_neg zero, if_neg zero]
              set value := if c < 0 then 0x20 else c.toNat with valueEq
              rcases value_bounds legal four advances.1 with ⟨scalar, narrow, pair⟩
              rw [← valueEq] at scalar narrow pair
              have fits : in_buffer.length + (unitsOf value).length ≤ next := by omega
              have top := scalar.2.1
              rw [U16_APPEND_eq in_buffer (by omega) (by omega), ← List.length_append]
              rcases ih depth next (in_buffer ++ unitsOf value)
                (Function.update in_offset (in_buffer ++ unitsOf value).length next)
                advances.2 (by omega) (by omega) (by rw [List.length_append]; exact fits)
                (Function.update_self ..) with ⟨conversion, stop, runs, tail⟩
              refine ⟨conversion, stop, runs, ?_⟩
              set codePoint : CodePoint := ⟨value, in_buffer.length, i, next⟩
              refine Decodes.cons codePoint tail rfl known advances.1 scalar ?_
              intro k behind before
              exact visible zero k behind before

end Convert

end Tokenizer
end ModuleDatabase
