import Mathlib.Data.List.Basic
import ModuleDatabase.Tokenizer.Segments

namespace ModuleDatabase
namespace Tokenizer

/-!
# One turn of the main loop

The loop has three sources of tokens: code points of an ideographic run that
are still pending, a segment that is output whole, and a new ideographic run.
`Stands` says where the cursor is with respect to a cut of the buffer, and a
turn moves it past exactly the bytes of the token that it emits, whether or
not the output succeeds.
-/

/-! ## The iterator -/

/-- Asking whether a boundary is one leaves the iterator there. -/
theorem UBreakIterator.isBoundary_of_boundary (iter : UBreakIterator)
    (sorted : (0 :: iter.boundaries.map Prod.fst).Pairwise (· < ·))
    {boundary : Nat} {status : Int} {others back : List (Nat × Int)}
    (same : iter.boundaries = ((boundary, status) :: others).reverse ++ back) :
    iter.isBoundary boundary = ⟨(boundary, status) :: others, back⟩ := by
  have shape : iter.boundaries = others.reverse ++ (boundary, status) :: back := by
    rw [same, List.reverse_cons, List.append_assoc, List.singleton_append]
  rw [shape, List.map_append, List.pairwise_cons] at sorted
  rcases sorted with ⟨positive, ordered⟩
  have nonzero : boundary ≠ 0 := by
    have above := positive boundary (by simp)
    omega
  have below : ∀ other ∈ others.reverse, other.1 < boundary := by
    intro other member
    exact (List.pairwise_append.mp ordered).2.2 other.1 (List.mem_map_of_mem member) boundary
      (by simp)
  have front : (others.reverse ++ (boundary, status) :: back).takeWhile
      (fun other => other.1 < boundary) = others.reverse := by
    rw [List.takeWhile_append_of_pos (by simpa using below), List.takeWhile_cons_of_neg (by simp),
      List.append_nil]
  rw [UBreakIterator.isBoundary, if_neg nonzero, shape, front]
  dsimp only
  rw [List.drop_left, List.reverse_reverse]

section Loops

variable {in_buffer : List UChar} {in_offset : Nat → Int}

theorem getD_of_laid {start stop : Mark} {codePoints : List CodePoint}
    (laid : Laid in_buffer in_offset start codePoints stop) (nonempty : codePoints ≠ []) :
    in_buffer.getD start.unit 0 = (unitsOfAll codePoints).getD 0 0 := by
  cases codePoints with
  | nil => exact absurd rfl nonempty
  | cons codePoint rest =>
      rw [laid.1.2.2.2.1, unitsOfAll_cons, getD_unitsOf_append]
      rfl

/-- What the first inner loop stops at: segments that are skipped, and one
that is not. -/
structure Found (icu : Icu) (in_buffer : List UChar) (in_offset : Nat → Int)
    (passed : List (Nat × Int)) (segments : List Segment) (ahead : List (Nat × Int))
    (start stop : Mark) (skipped : List Segment) (segment : Segment) (rest : List Segment)
    (before behind : Mark) (passed' back : List (Nat × Int)) : Prop where
  split : segments = skipped ++ segment :: rest
  skips : ∀ other ∈ skipped, other.skipped icu = true
  stays : segment.skipped icu = false
  nonempty : segment.codePoints ≠ []
  later : start.byte ≤ before.byte
  laid : Laid in_buffer in_offset before segment.codePoints behind
  cut : Cut in_buffer in_offset behind rest back stop
  result : findToken icu in_buffer passed start.unit ahead =
    some ((before.unit, behind.unit, segment.status),
      ⟨(behind.unit, segment.status) :: passed', back⟩)
  boundaries : ((behind.unit, segment.status) :: passed').reverse ++ back = passed.reverse ++ ahead

/-- The first inner loop passes the segments that are skipped, one by one. -/
theorem findToken_cases (icu : Icu) {segments : List Segment} {ahead : List (Nat × Int)}
    {start stop : Mark} (cut : Cut in_buffer in_offset start segments ahead stop)
    (passed : List (Nat × Int)) :
    (findToken icu in_buffer passed start.unit ahead = none ∧
        ∀ segment ∈ segments, segment.skipped icu = true) ∨
      ∃ skipped segment rest before behind passed' back,
        Found icu in_buffer in_offset passed segments ahead start stop skipped segment rest
          before behind passed' back := by
  induction segments generalizing start ahead passed with
  | nil =>
      cases ahead with
      | cons boundary ahead => cases cut
      | nil =>
          left
          refine ⟨rfl, ?_⟩
          intro segment member
          cases member
  | cons segment segments ih =>
      cases ahead with
      | nil => cases cut
      | cons boundary ahead =>
          rcases boundary with ⟨boundary, status⟩
          rcases cut with ⟨middle, nonempty, sameStatus, sameUnit, laid, rest⟩
          subst sameStatus
          subst sameUnit
          have test : (isNone segment.status && ignorable icu (in_buffer.getD start.unit 0)) =
              segment.skipped icu := by
            rw [getD_of_laid laid nonempty, Segment.skipped]
          cases skips : segment.skipped icu with
          | true =>
              rcases ih rest ((middle.unit, segment.status) :: passed) with
                ⟨nothing, all⟩ | ⟨skipped, other, others, before, behind, passed', back, found⟩
              · left
                refine ⟨?_, ?_⟩
                · rw [findToken, test, skips, if_pos rfl]
                  exact nothing
                · intro other member
                  rcases List.mem_cons.mp member with same | further
                  · rw [same, skips]
                  · exact all other further
              · right
                refine ⟨segment :: skipped, other, others, before, behind, passed', back, ?_⟩
                have size := laid.length_le.2
                refine ⟨?_, ?_, found.stays, found.nonempty, ?_, found.laid, found.cut, ?_, ?_⟩
                · rw [found.split, List.cons_append]
                · intro one member
                  rcases List.mem_cons.mp member with same | further
                  · rw [same, skips]
                  · exact found.skips one further
                · have later := found.later
                  omega
                · rw [findToken, test, skips, if_pos rfl]
                  exact found.result
                · rw [found.boundaries, List.reverse_cons, List.append_assoc,
                    List.singleton_append]
          | false =>
              right
              refine ⟨[], segment, segments, start, middle, passed, ahead, ?_⟩
              refine ⟨rfl, ?_, skips, nonempty, Nat.le_refl _, laid, rest, ?_, ?_⟩
              · intro one member
                cases member
              · rw [findToken, test, skips, if_neg Bool.false_ne_true]
              · rw [List.reverse_cons, List.append_assoc, List.singleton_append]

/-- The second inner loop collects ideographic segments.  It may read one
boundary too many; the list of all boundaries stays the same. -/
theorem extendIdeo_spec {segments : List Segment} {ahead : List (Nat × Int)}
    {start stop : Mark} (cut : Cut in_buffer in_offset start segments ahead stop)
    (known : in_offset start.unit = start.byte) (status : Int) (others : List (Nat × Int)) :
    ∃ run rest behind last passed' back,
      segments = run ++ rest ∧ (∀ segment ∈ run, isIdeo segment.status = true) ∧
      Laid in_buffer in_offset start (run.flatMap Segment.codePoints) behind ∧
      Cut in_buffer in_offset behind rest back stop ∧
      (extendIdeo ((start.unit, status) :: others) start.unit ahead).1 = behind.unit ∧
      (extendIdeo ((start.unit, status) :: others) start.unit ahead).2.boundaries =
        ((start.unit, status) :: others).reverse ++ ahead ∧
      ((start.unit, status) :: others).reverse ++ ahead =
        ((behind.unit, last) :: passed').reverse ++ back := by
  induction segments generalizing start ahead status others with
  | nil =>
      cases ahead with
      | cons boundary ahead => cases cut
      | nil =>
          refine ⟨[], [], start, status, others, [], rfl, ?_, ⟨rfl, known⟩, cut, rfl, rfl, rfl⟩
          intro segment member
          cases member
  | cons segment segments ih =>
      cases ahead with
      | nil => cases cut
      | cons boundary ahead =>
          rcases boundary with ⟨boundary, next⟩
          have whole := cut
          rcases cut with ⟨middle, nonempty, sameStatus, sameUnit, laid, tail⟩
          subst sameStatus
          subst sameUnit
          cases ideo : isIdeo segment.status with
          | true =>
              rcases ih tail laid.offset_stop segment.status ((start.unit, status) :: others) with
                ⟨run, rest, behind, last, passed', back, split, all, laidRun, cut, stops, same,
                  placed⟩
              refine ⟨segment :: run, rest, behind, last, passed', back, ?_, ?_, ?_, cut, ?_, ?_,
                ?_⟩
              · rw [split, List.cons_append]
              · intro one member
                rcases List.mem_cons.mp member with equal | further
                · rw [equal, ideo]
                · exact all one further
              · rw [List.flatMap_cons]
                exact laid_append.mpr ⟨middle, laid, laidRun⟩
              · rw [extendIdeo, ideo, if_pos rfl]
                exact stops
              · rw [extendIdeo, ideo, if_pos rfl, same]
                simp
              · rw [← placed]
                simp
          | false =>
              refine ⟨[], segment :: segments, start, status, others,
                (middle.unit, segment.status) :: ahead, rfl, ?_, ⟨rfl, known⟩, whole, ?_, ?_,
                rfl⟩
              · intro one member
                cases member
              · rw [extendIdeo, ideo, if_neg Bool.false_ne_true]
              · rw [extendIdeo, ideo, if_neg Bool.false_ne_true]
                simp [UBreakIterator.boundaries]

end Loops

/-! ## Output -/

/-- The two cursors agree on all but the output buffer and the counters. -/
structure MmCursor.SamePlace (cur next : MmCursor) : Prop where
  iter : next.iter = cur.iter
  in_buffer : next.in_buffer = cur.in_buffer
  in_offset : next.in_offset = cur.in_offset
  ideo_start : next.ideo_start = cur.ideo_start
  ideo_end : next.ideo_end = cur.ideo_end
  ideo_state : next.ideo_state = cur.ideo_state

theorem MmCursor.samePlace_reserve (cur : MmCursor) : cur.SamePlace cur.reserve := by
  unfold MmCursor.reserve
  split <;> exact ⟨rfl, rfl, rfl, rfl, rfl, rfl⟩

theorem MmCursor.SamePlace.enlarge {cur next : MmCursor} (same : cur.SamePlace next)
    (result : Nat) : cur.SamePlace (next.enlarge result) := by
  unfold MmCursor.enlarge
  split
  · exact ⟨same.iter, same.in_buffer, same.in_offset, same.ideo_start, same.ideo_end,
      same.ideo_state⟩
  · exact same

/-- `output_token` fails with a code of its own, or stores the offsets of the
two ends. -/
theorem output_token_spec (env : Environment) (cur : MmCursor) (start stop : Nat) :
    cur.SamePlace (output_token env cur start stop).1 ∧
      match (output_token env cur start stop).2 with
      | .error code => code = SQLITE_ERROR ∨ code = SQLITE_NOMEM
      | .ok output => output.iStartOffset = cur.in_offset start ∧
          output.iEndOffset = cur.in_offset stop := by
  have same : cur.SamePlace cur := ⟨rfl, rfl, rfl, rfl, rfl, rfl⟩
  have reserved := cur.samePlace_reserve
  unfold output_token
  dsimp only
  split
  · exact ⟨same, Or.inl rfl⟩
  · split
    · exact ⟨same, Or.inl rfl⟩
    · split
      · exact ⟨same, Or.inl rfl⟩
      · split
        · exact ⟨same, Or.inl rfl⟩
        · split
          · exact ⟨⟨rfl, rfl, rfl, rfl, rfl, rfl⟩, Or.inr rfl⟩
          · split
            · exact ⟨⟨reserved.iter, reserved.in_buffer, reserved.in_offset,
                reserved.ideo_start, reserved.ideo_end, reserved.ideo_state⟩, Or.inl rfl⟩
            · rename_i bytes _
              split
              · exact ⟨⟨reserved.iter, reserved.in_buffer, reserved.in_offset,
                  reserved.ideo_start, reserved.ideo_end, reserved.ideo_state⟩, Or.inr rfl⟩
              · have enlarged := reserved.enlarge bytes.length
                refine ⟨⟨enlarged.iter, enlarged.in_buffer, enlarged.in_offset,
                  enlarged.ideo_start, enlarged.ideo_end, enlarged.ideo_state⟩, ?_, ?_⟩
                · exact congrFun enlarged.in_offset start
                · exact congrFun enlarged.in_offset stop

/-- What a call of `output_token` does to the variables of the loop. -/
structure Emitted (frame next : Frame) (code : Int) : Prop where
  place : frame.cur.SamePlace next.cur
  code_ne : code ≠ UN_OUTPUT_TOKEN
  outputs : next.outputs = frame.outputs ++ [code]
  calls : next.calls = frame.calls
  offsets : code = SQLITE_OK → next.iStartOffset = frame.cur.in_offset frame.start ∧
    next.iEndOffset = frame.cur.in_offset frame.stop

theorem emit_spec (env : Environment) (frame : Frame) :
    Emitted frame (emit env frame).1 (emit env frame).2 := by
  have spec := output_token_spec env frame.cur frame.start frame.stop
  unfold emit
  generalize output_token env frame.cur frame.start frame.stop = outcome at spec
  rcases outcome with ⟨cur, code | output⟩
  · rcases spec with ⟨same, failed⟩
    dsimp only at failed ⊢
    refine ⟨same, ?_, rfl, rfl, ?_⟩
    · rcases failed with error | memory
      · rw [error]
        decide
      · rw [memory]
        decide
    · intro succeeded
      rw [succeeded] at failed
      rcases failed with error | memory
      · cases error
      · cases memory
  · rcases spec with ⟨same, start, stop⟩
    have ok : SQLITE_OK ≠ UN_OUTPUT_TOKEN := by decide
    exact ⟨same, ok, rfl, rfl, fun _ => ⟨start, stop⟩⟩

/-! ## Where the cursor stands -/

/-- The pending code points and the segments ahead, in the cursor's terms:
`here` is where the next token begins, `there` where the iterator is. -/
structure MmCursor.Stands (cur : MmCursor) (here there stop : Mark) (pending : List CodePoint)
    (segments : List Segment) : Prop where
  sorted : (0 :: cur.iter.boundaries.map Prod.fst).Pairwise (· < ·)
  current : cur.iter.current = there.unit
  laid : Laid cur.in_buffer cur.in_offset here pending there
  cut : Cut cur.in_buffer cur.in_offset there segments cur.iter.ahead stop
  state : cur.ideo_state < 0 ∧ pending = [] ∨
    0 ≤ cur.ideo_state ∧ cur.ideo_start = here.unit ∧ cur.ideo_end = there.unit

theorem MmCursor.Stands.samePlace {cur next : MmCursor} {here there stop : Mark}
    {pending : List CodePoint} {segments : List Segment}
    (stands : cur.Stands here there stop pending segments) (same : cur.SamePlace next) :
    next.Stands here there stop pending segments := by
  rcases stands with ⟨sorted, current, laid, cut, state⟩
  rw [← same.iter] at sorted current cut
  rw [← same.in_buffer, ← same.in_offset] at laid cut
  rw [← same.ideo_start, ← same.ideo_end, ← same.ideo_state] at state
  exact ⟨sorted, current, laid, cut, state⟩

section Pending

variable {cur : MmCursor} {here there stop : Mark} {segments : List Segment}

/-- A pending code point is taken from the front of the range, a surrogate
pair as a whole. -/
theorem MmCursor.Stands.find_pending {codePoint : CodePoint} {pending : List CodePoint}
    (stands : cur.Stands here there stop (codePoint :: pending) segments) :
    ∃ next, find_splited_ideo_token cur =
        (some (here.unit, codePoint.closes.unit), next) ∧
      next.in_offset = cur.in_offset ∧
      next.Stands codePoint.closes there stop pending segments := by
  rcases stands with ⟨sorted, current, ⟨⟨opens, known, grows, first, lead⟩, tail⟩, cut, state⟩
  rcases state with ⟨_, empty⟩ | ⟨active, start, ends⟩
  · cases empty
  · have wide := width_eq codePoint
    have size := tail.length_le.1
    have unit : codePoint.unit = here.unit := congrArg Mark.unit opens
    have closes : codePoint.closes.unit = here.unit + codePoint.width := by
      rw [CodePoint.closes, unit]
    have different : ¬ here.unit = there.unit := by omega
    have step : (if U16_IS_LEAD codePoint.firstUnit && 2 ≤ there.unit - here.unit
        then here.unit + 2 else here.unit + 1) = codePoint.closes.unit := by
      rw [closes]
      rcases wide with one | two
      · have notLead : U16_IS_LEAD codePoint.firstUnit = false := by
          apply Bool.eq_false_iff.mpr
          intro isLead
          have pair := lead.mp isLead
          omega
        rw [notLead, Bool.false_and, if_neg Bool.false_ne_true, one]
      · have room : 2 ≤ there.unit - here.unit := by omega
        rw [lead.mpr two, Bool.true_and, if_pos (decide_eq_true room), two]
    refine ⟨{ cur with ideo_start := codePoint.closes.unit }, ?_, rfl, ?_⟩
    · rw [find_splited_ideo_token, if_neg (by omega), start, ends, if_neg different]
      dsimp only
      rw [first, step]
    · exact ⟨sorted, current, tail, cut, Or.inr ⟨active, rfl, ends⟩⟩

/-- With nothing pending the range is empty, and its state is reset. -/
theorem MmCursor.Stands.find_nothing
    (stands : cur.Stands here there stop [] segments) :
    ∃ next, find_splited_ideo_token cur = (none, next) ∧
      next.in_offset = cur.in_offset ∧ next.ideo_state < 0 ∧
      next.Stands here there stop [] segments := by
  rcases stands with ⟨sorted, current, laid, cut, state⟩
  rcases state with ⟨idle, empty⟩ | ⟨active, start, ends⟩
  · refine ⟨cur, ?_, rfl, idle, sorted, current, laid, cut, Or.inl ⟨idle, empty⟩⟩
    rw [find_splited_ideo_token, if_pos idle]
  · have same : here = there := laid.1
    have reset : (-1 : Int) < 0 := by decide
    refine ⟨{ cur with ideo_state := -1 }, ?_, rfl, reset, sorted, current, laid, cut,
      Or.inl ⟨reset, rfl⟩⟩
    rw [find_splited_ideo_token, if_neg (by omega), start, ends, same, if_pos rfl]

/-- The first inner loop, on an iterator with nothing pending. -/
theorem MmCursor.Stands.findToken_cases (icu : Icu) {pending : List CodePoint}
    (stands : cur.Stands here there stop pending segments) :
    (findToken icu cur.in_buffer cur.iter.passed cur.iter.current cur.iter.ahead = none ∧
        ∀ segment ∈ segments, segment.skipped icu = true) ∨
      ∃ skipped segment rest before behind passed back,
        Found icu cur.in_buffer cur.in_offset cur.iter.passed segments cur.iter.ahead there stop
          skipped segment rest before behind passed back := by
  rw [stands.current]
  exact Tokenizer.findToken_cases icu stands.cut cur.iter.passed

end Pending

/-! ## One turn -/

/-- What one turn records: the code of its output and one call of `xToken`,
which gets the byte range if the output succeeded. -/
structure Turn (frame next : Frame) (code : Int) (range : Int × Int) : Prop where
  outputs : next.outputs = frame.outputs ++ [code]
  called : ∃ call, next.calls = frame.calls ++ [call] ∧ next.rc = call.rc ∧
    (code = SQLITE_OK → (call.iStart, call.iEnd) = range)
  reached : code = SQLITE_OK → next.iEndOffset = range.2

theorem deliver_calls (env : Environment) (frame : Frame) :
    ∃ call, (deliver env frame).calls = frame.calls ++ [call] ∧
      (deliver env frame).rc = call.rc ∧
      call.iStart = frame.iStartOffset ∧ call.iEnd = frame.iEndOffset := by
  unfold deliver
  exact ⟨_, rfl, rfl, rfl, rfl⟩

theorem Emitted.turn (env : Environment) {frame before next : Frame} {code : Int}
    (emitted : Emitted before next code) (outputs : before.outputs = frame.outputs)
    (calls : before.calls = frame.calls) {start stop : Mark}
    (startOffset : before.cur.in_offset before.start = start.byte)
    (stopOffset : before.cur.in_offset before.stop = stop.byte) :
    Turn frame (deliver env next) code (start.byte, stop.byte) := by
  refine ⟨?_, ?_, ?_⟩
  · rw [← outputs]
    exact emitted.outputs
  · rcases deliver_calls env next with ⟨call, appended, returned, first, last⟩
    refine ⟨call, ?_, returned, ?_⟩
    · rw [appended, emitted.calls, calls]
    · intro succeeded
      rcases emitted.offsets succeeded with ⟨firstOffset, lastOffset⟩
      rw [first, last, firstOffset, lastOffset, startOffset, stopOffset]
  · intro succeeded
    exact (emitted.offsets succeeded).2.trans stopOffset

/-- The tokens that are still to be emitted. -/
def remaining (icu : Icu) (pending : List CodePoint) (segments : List Segment) :
    List (Int × Int) :=
  pending.map CodePoint.bytes ++ tokensOf icu segments

/-- The progress of a turn: it emits the first token that remains. -/
structure Advance (env : Environment) (frame next : Frame) (here stop : Mark)
    (pending : List CodePoint) (segments : List Segment) (here' there' : Mark)
    (pending' : List CodePoint) (taken segments' : List Segment) (code : Int)
    (start : Mark) : Prop where
  turn : Turn frame next code (start.byte, here'.byte)
  stands : next.cur.Stands here' there' stop pending' segments'
  split : segments = taken ++ segments'
  tokens : remaining env.icu pending segments =
    ((start.byte : Int), (here'.byte : Int)) :: remaining env.icu pending' segments'
  /-- A turn never ends behind a segment that is skipped. -/
  emits : ∀ last ∈ taken.getLast?, last.skipped env.icu = false
  onward : here.byte < here'.byte

/-- A turn with pending code points. -/
theorem iterate_pending (env : Environment) {frame : Frame} {here there stop : Mark}
    {codePoint : CodePoint} {pending : List CodePoint} {segments : List Segment}
    (stands : frame.cur.Stands here there stop (codePoint :: pending) segments) :
    ∃ next code, iterate env frame = some next ∧
      Advance env frame next here stop (codePoint :: pending) segments codePoint.closes there
        pending [] segments code here := by
  rcases stands.find_pending with ⟨cur, found, offsets, standsNext⟩
  rcases stands.laid with ⟨⟨opens, known, grows, -, -⟩, tail⟩
  let before : Frame :=
    { frame with cur := cur, start := here.unit, stop := codePoint.closes.unit }
  have emitted := emit_spec env before
  have process : processPending env frame = emit env before := by
    rw [processPending, found]
  have turn : Turn frame (deliver env (emit env before).1) (emit env before).2
      (here.byte, codePoint.closes.byte) := by
    apply Emitted.turn env emitted
    · rfl
    · rfl
    · exact (congrFun offsets here.unit).trans known
    · exact (congrFun offsets codePoint.closes.unit).trans tail.offset_start
  refine ⟨deliver env (emit env before).1, (emit env before).2, ?_, turn,
    standsNext.samePlace emitted.place, rfl, ?_, ?_, grows⟩
  · rw [iterate, process]
    dsimp only
    rw [if_neg emitted.code_ne]
    dsimp only
    rw [if_neg emitted.code_ne]
  · have first : codePoint.startByte = here.byte := congrArg Mark.byte opens
    simp only [remaining, List.map_cons, List.cons_append, CodePoint.bytes, CodePoint.closes,
      first]
  · intro last member
    cases member

/-- The range of a segment that is output whole. -/
theorem bytes_of_laid {in_buffer : List UChar} {in_offset : Nat → Int} {start stop : Mark}
    {segment : Segment} (laid : Laid in_buffer in_offset start segment.codePoints stop)
    (nonempty : segment.codePoints ≠ []) :
    segment.bytes = [((start.byte : Int), (stop.byte : Int))] := by
  rcases List.eq_nil_or_concat segment.codePoints with empty | ⟨others, last, shape⟩
  · exact absurd empty nonempty
  · have final : segment.codePoints.getLast? = some last := by
      rw [shape]
      simp
    have stopByte : last.stopByte = stop.byte := by
      rw [shape, List.concat_eq_append] at laid
      rcases laid_append.mp laid with ⟨_, -, ⟨-, same, -⟩⟩
      exact congrArg Mark.byte same
    cases codePoints : segment.codePoints with
    | nil => exact absurd codePoints nonempty
    | cons first rest =>
        have startByte : first.startByte = start.byte := by
          rw [codePoints] at laid
          exact congrArg Mark.byte laid.1.1
        rw [Segment.bytes, final, codePoints, List.head?_cons]
        dsimp only
        rw [startByte, stopByte]

theorem tokensOf_append (icu : Icu) (first second : List Segment) :
    tokensOf icu (first ++ second) = tokensOf icu first ++ tokensOf icu second :=
  List.flatMap_append

theorem tokensOf_cons (icu : Icu) (segment : Segment) (rest : List Segment) :
    tokensOf icu (segment :: rest) = segment.tokens icu ++ tokensOf icu rest := rfl

theorem tokensOf_of_skipped {icu : Icu} {segments : List Segment}
    (skipped : ∀ segment ∈ segments, segment.skipped icu = true) : tokensOf icu segments = [] := by
  apply List.flatMap_eq_nil_iff.mpr
  intro segment member
  exact Segment.tokens_of_skipped (skipped segment member)

theorem tokensOf_of_isIdeo {icu : Icu} {segments : List Segment}
    (ideo : ∀ segment ∈ segments, isIdeo segment.status = true) :
    tokensOf icu segments = (segments.flatMap Segment.codePoints).map CodePoint.bytes := by
  induction segments with
  | nil => rfl
  | cons segment rest ih =>
      have head := ideo segment List.mem_cons_self
      have tail := ih fun other member => ideo other (List.mem_cons_of_mem _ member)
      rw [tokensOf_cons, tail, Segment.tokens, if_pos head, List.flatMap_cons, List.map_append]

section Segments

variable {env : Environment} {frame : Frame} {here stop : Mark}
  {segments skipped rest : List Segment} {segment : Segment} {before behind : Mark}
  {passed back : List (Nat × Int)}

/-- With nothing pending a turn goes on to the next segment. -/
theorem iterate_of_nothing {cur : MmCursor}
    (nothing : find_splited_ideo_token frame.cur = (none, cur)) :
    iterate env frame =
      (processSegment env { frame with cur := cur }).map fun outcome =>
        deliver env (if outcome.2 = UN_OUTPUT_TOKEN then processIdeo env outcome.1
          else outcome.1) := by
  rw [iterate, processPending, nothing]
  dsimp only
  rw [if_pos rfl]
  cases processSegment env { frame with cur := cur } <;> rfl

/-- The variables at a segment that was found. -/
def Frame.atSegment (frame : Frame) (start stop : Nat) (iter : UBreakIterator) : Frame :=
  { frame with cur := { frame.cur with iter := iter }, start := start, stop := stop }

theorem Found.processSegment_of_whole
    (found : Found env.icu frame.cur.in_buffer frame.cur.in_offset frame.cur.iter.passed segments
      frame.cur.iter.ahead here stop skipped segment rest before behind passed back)
    (current : frame.cur.iter.current = here.unit) (whole : isIdeo segment.status = false) :
    processSegment env frame = some (emit env (frame.atSegment before.unit behind.unit
      ⟨(behind.unit, segment.status) :: passed, back⟩)) := by
  rw [processSegment, current, found.result]
  dsimp only
  rw [whole_test, whole, if_pos (by rfl)]
  rfl

theorem Found.processSegment_of_ideo
    (found : Found env.icu frame.cur.in_buffer frame.cur.in_offset frame.cur.iter.passed segments
      frame.cur.iter.ahead here stop skipped segment rest before behind passed back)
    (current : frame.cur.iter.current = here.unit) (ideo : isIdeo segment.status = true) :
    processSegment env frame = some (frame.atSegment before.unit behind.unit
      ⟨(behind.unit, segment.status) :: passed, back⟩, UN_OUTPUT_TOKEN) := by
  rw [processSegment, current, found.result]
  dsimp only
  rw [whole_test, ideo, if_neg (by decide)]
  rfl

variable (frame) in
/-- A turn at a segment that is output whole. -/
theorem Found.advance_whole
    (found : Found env.icu frame.cur.in_buffer frame.cur.in_offset frame.cur.iter.passed segments
      frame.cur.iter.ahead here stop skipped segment rest before behind passed back)
    (stands : frame.cur.Stands here here stop [] segments) (idle : frame.cur.ideo_state < 0)
    (whole : isIdeo segment.status = false) :
    ∃ next code,
      ((processSegment env frame).map fun outcome =>
        deliver env (if outcome.2 = UN_OUTPUT_TOKEN then processIdeo env outcome.1
          else outcome.1)) = some next ∧
      Advance env frame next here stop [] segments behind behind [] (skipped ++ [segment]) rest
        code before := by
  set entered := frame.atSegment before.unit behind.unit
    ⟨(behind.unit, segment.status) :: passed, back⟩ with enteredEq
  have emitted := emit_spec env entered
  have behindOffset := found.laid.offset_stop
  have turn : Turn frame (deliver env (emit env entered).1) (emit env entered).2
      (before.byte, behind.byte) := by
    apply Emitted.turn env emitted
    · rfl
    · rfl
    · exact found.laid.offset_start
    · exact behindOffset
  have standsNext : entered.cur.Stands behind behind stop [] rest := by
    refine ⟨?_, rfl, ⟨rfl, behindOffset⟩, found.cut, Or.inl ⟨idle, rfl⟩⟩
    have sorted := stands.sorted
    rw [UBreakIterator.boundaries, ← found.boundaries] at sorted
    exact sorted
  refine ⟨deliver env (emit env entered).1, (emit env entered).2, ?_, turn,
    standsNext.samePlace emitted.place, ?_, ?_, ?_, ?_⟩
  · rw [found.processSegment_of_whole stands.current whole, ← enteredEq, Option.map_some,
      if_neg emitted.code_ne]
  · rw [found.split, List.append_assoc, List.singleton_append]
  · rw [remaining, found.split, tokensOf_append, tokensOf_of_skipped found.skips, tokensOf_cons,
      Segment.tokens, whole, if_neg Bool.false_ne_true, found.stays, if_neg Bool.false_ne_true,
      bytes_of_laid found.laid found.nonempty]
    rfl
  · intro last member
    rw [List.getLast?_concat, Option.mem_some_iff] at member
    rw [← member, found.stays]
  · have size := found.laid.length_le.2
    have positive := List.length_pos_iff.mpr found.nonempty
    have later := found.later
    omega

/-- The look-ahead ends in front of the first segment that is not
ideographic, with all code points up to there pending. -/
theorem lookAhead_stands (entered : Frame) {status : Int} {codePoints : List CodePoint}
    (laid : Laid entered.cur.in_buffer entered.cur.in_offset before codePoints behind)
    (cut : Cut entered.cur.in_buffer entered.cur.in_offset behind segments
      entered.cur.iter.ahead stop)
    (sorted : (0 :: entered.cur.iter.boundaries.map Prod.fst).Pairwise (· < ·))
    (start : entered.start = before.unit) (reached : entered.stop = behind.unit)
    (last : entered.cur.iter.passed = (behind.unit, status) :: passed) :
    ∃ run segments' there', segments = run ++ segments' ∧
      (∀ segment ∈ run, isIdeo segment.status = true) ∧
      (lookAhead entered).in_offset = entered.cur.in_offset ∧
      (lookAhead entered).Stands before there' stop
        (codePoints ++ run.flatMap Segment.codePoints) segments' := by
  rcases extendIdeo_spec cut laid.offset_stop status passed with
    ⟨run, segments', there', other, passed', back', split, all, laidRun, cutRest, stops, same,
      placed⟩
  rw [UBreakIterator.boundaries, last, ← same] at sorted
  have resumed := UBreakIterator.isBoundary_of_boundary _ sorted (same.trans placed)
  have iter : (lookAhead entered).iter = ⟨(there'.unit, other) :: passed', back'⟩ := by
    simp only [lookAhead, last, reached]
    rw [stops]
    exact resumed
  refine ⟨run, segments', there', split, all, rfl, ?_, ?_, ?_, ?_, ?_⟩
  · rw [iter, UBreakIterator.boundaries, ← placed, ← same]
    exact sorted
  · rw [iter]
    rfl
  · exact laid_append.mpr ⟨behind, laid, laidRun⟩
  · rw [iter]
    exact cutRest
  · right
    refine ⟨Int.le_refl 0, start, ?_⟩
    simp only [lookAhead, last, reached]
    exact stops

variable (frame) in
/-- A turn at an ideographic segment: afterwards the code points of the run
are pending, less the first one. -/
theorem Found.advance_ideo
    (found : Found env.icu frame.cur.in_buffer frame.cur.in_offset frame.cur.iter.passed segments
      frame.cur.iter.ahead here stop skipped segment rest before behind passed back)
    (stands : frame.cur.Stands here here stop [] segments)
    (ideo : isIdeo segment.status = true) :
    ∃ next code here' there' pending taken segments',
      ((processSegment env frame).map fun outcome =>
        deliver env (if outcome.2 = UN_OUTPUT_TOKEN then processIdeo env outcome.1
          else outcome.1)) = some next ∧
      Advance env frame next here stop [] segments here' there' pending taken segments' code
        before := by
  set entered := frame.atSegment before.unit behind.unit
    ⟨(behind.unit, segment.status) :: passed, back⟩ with enteredEq
  have sorted : (0 :: entered.cur.iter.boundaries.map Prod.fst).Pairwise (· < ·) := by
    have whole := stands.sorted
    rw [UBreakIterator.boundaries, ← found.boundaries] at whole
    exact whole
  rcases lookAhead_stands entered found.laid found.cut sorted rfl rfl rfl with
    ⟨run, segments', there', split, all, offsets, standsRun⟩
  cases codePoints : segment.codePoints with
  | nil => exact absurd codePoints found.nonempty
  | cons first others =>
      rw [codePoints, List.cons_append] at standsRun
      rcases standsRun.find_pending with ⟨cur, foundFirst, offsetsFirst, standsNext⟩
      let placed : Frame :=
        { entered with cur := cur, start := before.unit, stop := first.closes.unit }
      have emitted := emit_spec env placed
      have process : processIdeo env entered = (emit env placed).1 := by
        rw [processIdeo, foundFirst]
      have laid := found.laid
      rw [codePoints] at laid
      have turn : Turn frame (deliver env (emit env placed).1) (emit env placed).2
          (before.byte, first.closes.byte) := by
        apply Emitted.turn env emitted
        · rfl
        · rfl
        · exact (congrFun (offsetsFirst.trans offsets) before.unit).trans laid.offset_start
        · exact (congrFun (offsetsFirst.trans offsets) first.closes.unit).trans
            laid.2.offset_start
      refine ⟨deliver env (emit env placed).1, (emit env placed).2, first.closes, there',
        others ++ run.flatMap Segment.codePoints, skipped ++ segment :: run, segments', ?_, turn,
        standsNext.samePlace emitted.place, ?_, ?_, ?_, ?_⟩
      · rw [found.processSegment_of_ideo stands.current ideo, ← enteredEq, Option.map_some,
          if_pos rfl, process]
      · rw [found.split, split, List.append_assoc, List.cons_append]
      · have startByte : first.startByte = before.byte := congrArg Mark.byte laid.1.1
        rw [remaining, remaining, found.split, split, tokensOf_append,
          tokensOf_of_skipped found.skips, tokensOf_cons, tokensOf_append, tokensOf_of_isIdeo all,
          Segment.tokens, if_pos ideo, codePoints]
        simp [CodePoint.bytes, CodePoint.closes, startByte]
      · intro last member
        have ends : ∀ other ∈ segment :: run, other.skipped env.icu = false := by
          intro other among
          rcases List.mem_cons.mp among with same | further
          · rw [same]
            exact found.stays
          · exact Segment.skipped_eq_false_of_isIdeo (all other further)
        rw [List.getLast?_append_of_ne_nil _ (List.cons_ne_nil _ _)] at member
        exact ends last (List.mem_of_getLast? member)
      · have grows := laid.1.2.2.1
        have later := found.later
        simp only [CodePoint.closes]
        omega

end Segments

/-- Every turn either finds that all segments left are skipped, or emits the
first of the tokens that remain. -/
theorem iterate_cases (env : Environment) {frame : Frame} {here there stop : Mark}
    {pending : List CodePoint} {segments : List Segment}
    (stands : frame.cur.Stands here there stop pending segments) :
    (iterate env frame = none ∧ pending = [] ∧
        ∀ segment ∈ segments, segment.skipped env.icu = true) ∨
      ∃ next code here' there' pending' taken segments' start,
        iterate env frame = some next ∧
        Advance env frame next here stop pending segments here' there' pending' taken segments'
          code start := by
  cases pending with
  | cons codePoint pending =>
      right
      rcases iterate_pending env stands with ⟨next, code, turns, advance⟩
      exact ⟨next, code, _, _, _, _, _, _, turns, advance⟩
  | nil =>
      have same : here = there := stands.laid.1
      subst same
      rcases stands.find_nothing with ⟨cur, nothing, offsets, idle, standsNext⟩
      rw [iterate_of_nothing nothing]
      rcases standsNext.findToken_cases env.icu with
        ⟨exhausted, all⟩ | ⟨skipped, segment, rest, before, behind, passed, back, found⟩
      · left
        refine ⟨?_, rfl, all⟩
        rw [processSegment]
        dsimp only
        rw [exhausted]
        rfl
      · right
        cases ideo : isIdeo segment.status with
        | false =>
            rcases found.advance_whole { frame with cur := cur } standsNext idle ideo
              with ⟨next, code, turns, advance⟩
            refine ⟨next, code, _, _, _, _, _, _, turns, ?_, advance.stands, advance.split,
              advance.tokens, advance.emits, advance.onward⟩
            exact ⟨advance.turn.outputs, advance.turn.called, advance.turn.reached⟩
        | true =>
            rcases found.advance_ideo { frame with cur := cur } standsNext ideo
              with ⟨next, code, here', there', pending', taken, segments', turns, advance⟩
            refine ⟨next, code, _, _, _, _, _, _, turns, ?_, advance.stands, advance.split,
              advance.tokens, advance.emits, advance.onward⟩
            exact ⟨advance.turn.outputs, advance.turn.called, advance.turn.reached⟩

end Tokenizer
end ModuleDatabase
