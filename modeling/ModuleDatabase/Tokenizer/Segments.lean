import ModuleDatabase.Tokenizer.Decoding

namespace ModuleDatabase
namespace Tokenizer

/-!
# The tokens that a segmented text should yield

This is what the tokenizer is for, stated without its loops.  Boundaries that
lie on code points cut the decoded text into segments, each with the rule
status of its end.  A segment is handed out code point by code point, is
skipped, or is handed out whole.

`Cut` is the same division between two marks of the buffer.  It is what the
main loop keeps: each turn takes segments from its front.
-/

/-- The code points between two boundaries, with the rule status. -/
structure Segment where
  codePoints : List CodePoint
  status : Int
  deriving DecidableEq, Repr

/-- The segments into which boundaries divide a list of code points. -/
def segmentsOf : List CodePoint → List (Nat × Int) → List Segment
  | _, [] => []
  | codePoints, (boundary, status) :: ahead =>
      ⟨codePoints.takeWhile fun codePoint => codePoint.unit < boundary, status⟩ ::
        segmentsOf (codePoints.dropWhile fun codePoint => codePoint.unit < boundary) ahead

/-- The bytes of a code point. -/
def CodePoint.bytes (codePoint : CodePoint) : Int × Int :=
  (codePoint.startByte, codePoint.stopByte)

/-- The bytes of a segment, from its first code point to its last one. -/
def Segment.bytes (segment : Segment) : List (Int × Int) :=
  match segment.codePoints.head?, segment.codePoints.getLast? with
  | some first, some last => [(first.startByte, last.stopByte)]
  | _, _ => []

/-- The segment is not a word and begins with a unit that is ignored. -/
def Segment.skipped (icu : Icu) (segment : Segment) : Bool :=
  isNone segment.status && ignorable icu ((unitsOfAll segment.codePoints).getD 0 0)

/-- The byte ranges that one segment should yield. -/
def Segment.tokens (icu : Icu) (segment : Segment) : List (Int × Int) :=
  if isIdeo segment.status then segment.codePoints.map CodePoint.bytes
  else if segment.skipped icu then []
  else segment.bytes

/-- The byte ranges that a list of segments should yield. -/
def tokensOf (icu : Icu) (segments : List Segment) : List (Int × Int) :=
  segments.flatMap fun segment => segment.tokens icu

/-- The boundaries increase from 0 to the length of the buffer and lie on
ends of code points. -/
structure Segmentation (codePoints : List CodePoint) (in_length : Nat)
    (boundaries : List (Nat × Int)) : Prop where
  increasing : (0 :: boundaries.map Prod.fst).Pairwise (· < ·)
  onCodePoints : ∀ boundary ∈ boundaries,
    ∃ codePoint ∈ codePoints, codePoint.closes.unit = boundary.1
  whole : (0 :: boundaries.map Prod.fst).getLast? = some in_length

/-! ## Statuses -/

theorem isNone_iff (status : Int) : isNone status = true ↔ 0 ≤ status ∧ status < 100 := by
  rw [isNone, Bool.and_eq_true, decide_eq_true_eq, decide_eq_true_eq]
  rfl

theorem isIdeo_iff (status : Int) : isIdeo status = true ↔ 400 ≤ status ∧ status < 500 := by
  rw [isIdeo, Bool.and_eq_true, decide_eq_true_eq, decide_eq_true_eq]
  rfl

theorem isNone_eq_false_of_isIdeo {status : Int} (ideo : isIdeo status = true) :
    isNone status = false := by
  apply Bool.eq_false_iff.mpr
  intro outside
  have high := (isIdeo_iff status).mp ideo
  have low := (isNone_iff status).mp outside
  omega

/-- The test of the source for a segment that is output whole. -/
theorem whole_test (status : Int) :
    (decide (status < UBRK_WORD_IDEO) || decide (UBRK_WORD_IDEO_LIMIT ≤ status)) =
      !isIdeo status := by
  apply Bool.eq_iff_iff.mpr
  rw [Bool.or_eq_true, decide_eq_true_eq, decide_eq_true_eq, Bool.not_eq_true', ← Bool.not_eq_true,
    isIdeo_iff]
  change status < 400 ∨ 500 ≤ status ↔ _
  omega

theorem Segment.skipped_eq_false_of_isIdeo {icu : Icu} {segment : Segment}
    (ideo : isIdeo segment.status = true) : segment.skipped icu = false := by
  rw [Segment.skipped, isNone_eq_false_of_isIdeo ideo, Bool.false_and]

theorem Segment.tokens_of_skipped {icu : Icu} {segment : Segment}
    (skipped : segment.skipped icu = true) : segment.tokens icu = [] := by
  have notIdeo : isIdeo segment.status = false := by
    apply Bool.eq_false_iff.mpr
    intro ideo
    rw [Segment.skipped_eq_false_of_isIdeo ideo] at skipped
    cases skipped
  rw [Segment.tokens, notIdeo, if_neg Bool.false_ne_true, if_pos skipped]

/-! ## Cutting the buffer -/

/-- The segments lie one behind the other between the marks, and each ends
at the boundary of the same place. -/
def Cut (in_buffer : List UChar) (in_offset : Nat → Int) :
    Mark → List Segment → List (Nat × Int) → Mark → Prop
  | start, [], [], stop => start = stop ∧ in_offset start.unit = start.byte
  | start, segment :: segments, (boundary, status) :: ahead, stop =>
      ∃ middle : Mark, segment.codePoints ≠ [] ∧ segment.status = status ∧
        middle.unit = boundary ∧ Laid in_buffer in_offset start segment.codePoints middle ∧
        Cut in_buffer in_offset middle segments ahead stop
  | _, _, _, _ => False

section Cut

variable {in_buffer : List UChar} {in_offset : Nat → Int}

/-- A boundary at the end of a code point divides a laid list. -/
theorem Laid.divide {start stop : Mark} {codePoints : List CodePoint}
    (laid : Laid in_buffer in_offset start codePoints stop) {codePoint : CodePoint}
    (member : codePoint ∈ codePoints) :
    ∃ middle, middle.unit = codePoint.closes.unit ∧
      codePoints.takeWhile (fun other => other.unit < codePoint.closes.unit) ≠ [] ∧
      Laid in_buffer in_offset start
        (codePoints.takeWhile fun other => other.unit < codePoint.closes.unit) middle ∧
      Laid in_buffer in_offset middle
        (codePoints.dropWhile fun other => other.unit < codePoint.closes.unit) stop := by
  induction codePoints generalizing start with
  | nil => cases member
  | cons first rest ih =>
      have bounds := laid.bounds member
      rcases laid with ⟨head, tail⟩
      have unit : first.unit = start.unit := congrArg Mark.unit head.1
      have wide := width_eq codePoint
      have before : first.unit < codePoint.closes.unit := by
        simp only [CodePoint.closes] at bounds ⊢
        omega
      rw [List.takeWhile_cons_of_pos (by simpa using before),
        List.dropWhile_cons_of_pos (by simpa using before)]
      rcases List.mem_cons.mp member with same | behind
      · subst same
        -- the next code point begins at the boundary
        have none_left : rest.takeWhile (fun other => other.unit < codePoint.closes.unit) = [] ∧
            rest.dropWhile (fun other => other.unit < codePoint.closes.unit) = rest := by
          cases rest with
          | nil => exact ⟨rfl, rfl⟩
          | cons second others =>
              have next : second.unit = codePoint.closes.unit := congrArg Mark.unit tail.1.1
              have stops : ¬ second.unit < codePoint.closes.unit := by omega
              exact ⟨List.takeWhile_cons_of_neg (by simpa using stops),
                List.dropWhile_cons_of_neg (by simpa using stops)⟩
        rw [none_left.1, none_left.2]
        exact ⟨codePoint.closes, rfl, List.cons_ne_nil _ _, ⟨head, rfl, tail.offset_start⟩, tail⟩
      · rcases ih tail behind with ⟨middle, same, _, left, right⟩
        exact ⟨middle, same, List.cons_ne_nil _ _, ⟨head, left⟩, right⟩

/-- Boundaries that increase along ends of code points cut the list. -/
theorem cut_segmentsOf {start stop : Mark} {codePoints : List CodePoint}
    {boundaries : List (Nat × Int)}
    (laid : Laid in_buffer in_offset start codePoints stop)
    (increasing : (start.unit :: boundaries.map Prod.fst).Pairwise (· < ·))
    (onCodePoints : ∀ boundary ∈ boundaries,
      ∃ codePoint ∈ codePoints, codePoint.closes.unit = boundary.1)
    (whole : (start.unit :: boundaries.map Prod.fst).getLast? = some stop.unit) :
    Cut in_buffer in_offset start (segmentsOf codePoints boundaries) boundaries stop := by
  induction boundaries generalizing start codePoints with
  | nil =>
      have ends : start.unit = stop.unit := by simpa using whole
      have size := laid.length_le.1
      have empty : codePoints = [] := List.eq_nil_of_length_eq_zero (by omega)
      subst empty
      exact laid
  | cons boundary ahead ih =>
      rcases boundary with ⟨boundary, status⟩
      rcases onCodePoints (boundary, status) List.mem_cons_self with ⟨codePoint, member, closes⟩
      dsimp only at closes
      subst closes
      rcases laid.divide member with ⟨middle, same, nonempty, left, right⟩
      refine ⟨middle, nonempty, rfl, same, left, ih right ?_ ?_ ?_⟩
      · rw [same]
        exact increasing.tail
      · intro later further
        rcases onCodePoints later (List.mem_cons_of_mem _ further) with ⟨other, among, closes⟩
        refine ⟨other, ?_, closes⟩
        rw [← List.takeWhile_append_dropWhile (p := fun other : CodePoint =>
          other.unit < codePoint.closes.unit) (l := codePoints)] at among
        rcases List.mem_append.mp among with early | late
        · exfalso
          have bounds := (left.bounds early).2
          have beyond : codePoint.closes.unit < later.1 :=
            (List.pairwise_cons.mp increasing.tail).1 later.1 (List.mem_map_of_mem further)
          omega
        · exact late
      · rw [same]
        simpa using whole

/-- Every segment has a code point. -/
theorem Cut.length_le {start stop : Mark} {segments : List Segment} {ahead : List (Nat × Int)}
    (cut : Cut in_buffer in_offset start segments ahead stop) :
    start.byte + (segments.flatMap Segment.codePoints).length ≤ stop.byte ∧
      segments.length ≤ (segments.flatMap Segment.codePoints).length := by
  induction segments generalizing start ahead with
  | nil =>
      cases ahead with
      | nil =>
          rcases cut with ⟨same, -⟩
          subst same
          simp
      | cons boundary ahead => cases cut
  | cons segment segments ih =>
      cases ahead with
      | nil => cases cut
      | cons boundary ahead =>
          rcases cut with ⟨middle, nonempty, -, -, laid, rest⟩
          have first := laid.length_le.2
          have behind := ih rest
          have positive := List.length_pos_iff.mpr nonempty
          simp only [List.flatMap_cons, List.length_append, List.length_cons]
          omega

end Cut

end Tokenizer
end ModuleDatabase
