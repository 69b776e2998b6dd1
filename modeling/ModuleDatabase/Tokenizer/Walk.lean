import Mathlib.Algebra.Order.BigOperators.Group.List
import ModuleDatabase.Base.Loop
import ModuleDatabase.Tokenizer.Coverage
import ModuleDatabase.Tokenizer.Offers

namespace ModuleDatabase
namespace Tokenizer

/-!
# Any increasing sequence of boundaries

Here the boundaries need not lie on code points, the text may hold anything,
and any output may fail.  What is left of `Stands` is `Walks`: the boundaries
increase, and a pending range ends where the iterator is.

The guard of the main loop compares an offset that stands still whenever an
output fails, so it is no measure.  What a turn always moves is the place where
the next token begins: the start of the pending range, or the iterator if
nothing is pending.  Moving the iterator back behind the look-ahead does not
move it in front of that place.
-/

/-- The main loop as a loop. -/
def mainTurns (env : Environment) (nText : Nat) : Loop Frame where
  guard frame := decide (frame.iEndOffset < nText)
  body := iterate env

/-- What the lines behind the loop return. -/
def Frame.finish : Frame × Bool → Result
  | (frame, true) =>
      ⟨if frame.rc = SQLITE_DONE then SQLITE_OK else frame.rc, frame.outputs, frame.calls⟩
  | (frame, false) => ⟨SQLITE_DONE, frame.outputs, frame.calls⟩

theorem mainLoop_eq_run (env : Environment) (nText fuel : Nat) (frame : Frame) :
    mainLoop env nText fuel frame = ((mainTurns env nText).run fuel frame).map Frame.finish := by
  induction fuel generalizing frame with
  | zero =>
      unfold mainLoop Loop.run
      by_cases finished : (nText : Int) ≤ frame.iEndOffset
      · have stops : (mainTurns env nText).guard frame = false :=
          decide_eq_false (not_lt.mpr finished)
        rw [if_pos finished, stops, if_neg Bool.false_ne_true]
        rfl
      · have holds : (mainTurns env nText).guard frame = true :=
          decide_eq_true (not_le.mp finished)
        rw [if_neg finished, if_pos holds]
        rfl
  | succ fuel ih =>
      unfold mainLoop Loop.run
      by_cases finished : (nText : Int) ≤ frame.iEndOffset
      · have stops : (mainTurns env nText).guard frame = false :=
          decide_eq_false (not_lt.mpr finished)
        rw [if_pos finished, stops, if_neg Bool.false_ne_true]
        rfl
      · have holds : (mainTurns env nText).guard frame = true :=
          decide_eq_true (not_le.mp finished)
        rw [if_neg finished, if_pos holds]
        have body : (mainTurns env nText).body frame = iterate env frame := rfl
        rw [body]
        cases iterate env frame with
        | none => rfl
        | some next => exact ih next

/-! ## The place of the cursor -/

/-- Where the next token begins. -/
def MmCursor.place (cur : MmCursor) : Nat :=
  if cur.ideo_state < 0 then cur.iter.current else cur.ideo_start

/-- The ranges that are still to be output. -/
def MmCursor.spans (cur : MmCursor) (icu : Icu) : List (Nat × Nat) :=
  (if cur.ideo_state < 0 then [] else charactersOf cur.in_buffer cur.ideo_start cur.ideo_end) ++
    spansOf icu cur.in_buffer none cur.iter.current cur.iter.ahead

/-- The boundaries increase, up to a bound, and a pending range ends at the
iterator. -/
structure MmCursor.Walks (cur : MmCursor) (bound : Nat) : Prop where
  sorted : (0 :: cur.iter.boundaries.map Prod.fst).Pairwise (· < ·)
  within : ∀ boundary ∈ cur.iter.boundaries, boundary.1 ≤ bound
  state : cur.ideo_state < 0 ∨ cur.ideo_start ≤ cur.ideo_end ∧ cur.ideo_end = cur.iter.current

theorem MmCursor.Walks.samePlace {cur next : MmCursor} {bound : Nat} (walks : cur.Walks bound)
    (same : cur.SamePlace next) :
    next.Walks bound ∧ next.place = cur.place ∧ ∀ icu, next.spans icu = cur.spans icu := by
  rcases walks with ⟨sorted, within, state⟩
  refine ⟨⟨?_, ?_, ?_⟩, ?_, ?_⟩
  · rw [same.iter]
    exact sorted
  · rw [same.iter]
    exact within
  · rw [same.iter, same.ideo_start, same.ideo_end, same.ideo_state]
    exact state
  · rw [MmCursor.place, MmCursor.place, same.iter, same.ideo_start, same.ideo_state]
  · intro icu
    rw [MmCursor.spans, MmCursor.spans, same.iter, same.in_buffer, same.ideo_start, same.ideo_end,
      same.ideo_state]

section Iterator

/-- The boundaries ahead are behind the current one. -/
theorem UBreakIterator.sorted_ahead {iter : UBreakIterator}
    (sorted : (0 :: iter.boundaries.map Prod.fst).Pairwise (· < ·)) :
    (iter.current :: iter.ahead.map Prod.fst).Pairwise (· < ·) := by
  rcases iter with ⟨passed, ahead⟩
  cases passed with
  | nil => exact sorted
  | cons boundary others =>
      rw [UBreakIterator.boundaries, List.reverse_cons, List.append_assoc, List.singleton_append,
        List.map_append, List.map_cons] at sorted
      exact (List.pairwise_append.mp sorted.tail).2.1

theorem UBreakIterator.current_le {iter : UBreakIterator} {bound : Nat}
    (within : ∀ boundary ∈ iter.boundaries, boundary.1 ≤ bound) : iter.current ≤ bound := by
  rcases iter with ⟨passed, ahead⟩
  cases passed with
  | nil => exact Nat.zero_le bound
  | cons boundary others =>
      apply within boundary
      rw [UBreakIterator.boundaries, List.mem_append, List.mem_reverse]
      exact Or.inl List.mem_cons_self

/-- The first inner loop moves forward, and keeps the boundaries. -/
theorem findToken_some (icu : Icu) (in_buffer : List UChar) {passed ahead : List (Nat × Int)}
    {start : Nat} (sorted : (start :: ahead.map Prod.fst).Pairwise (· < ·)) {first last : Nat}
    {token_type : Int} {iter : UBreakIterator}
    (found : findToken icu in_buffer passed start ahead = some ((first, last, token_type), iter)) :
    start ≤ first ∧ first < last ∧ iter.boundaries = passed.reverse ++ ahead ∧
      ∃ others, iter.passed = (last, token_type) :: others := by
  induction ahead generalizing passed start with
  | nil => cases found
  | cons boundary ahead ih =>
      rcases boundary with ⟨boundary, status⟩
      have grows : start < boundary := by
        rw [List.map_cons] at sorted
        exact List.rel_of_pairwise_cons sorted List.mem_cons_self
      rw [findToken] at found
      split at found
      · rcases ih sorted.tail found with ⟨after, longer, same, others⟩
        refine ⟨by omega, longer, ?_, others⟩
        rw [same, List.reverse_cons, List.append_assoc, List.singleton_append]
      · cases found
        refine ⟨Nat.le_refl _, grows, ?_, passed, rfl⟩
        rw [UBreakIterator.boundaries, List.reverse_cons, List.append_assoc, List.singleton_append]

/-- The second inner loop ends at a boundary that is not in front of the one it
begins at, and keeps the boundaries. -/
theorem extendIdeo_walks (icu : Icu) (in_buffer : List UChar) (first : Nat)
    {ahead : List (Nat × Int)} {stop : Nat}
    (sorted : (stop :: ahead.map Prod.fst).Pairwise (· < ·)) (status : Int)
    (others : List (Nat × Int)) :
    stop ≤ (extendIdeo ((stop, status) :: others) stop ahead).1 ∧
      (extendIdeo ((stop, status) :: others) stop ahead).2.boundaries =
        ((stop, status) :: others).reverse ++ ahead ∧
      ∃ last front back, ((stop, status) :: others).reverse ++ ahead =
          (((extendIdeo ((stop, status) :: others) stop ahead).1, last) :: front).reverse ++ back ∧
        spansOf icu in_buffer (some first) stop ahead =
          charactersOf in_buffer first (extendIdeo ((stop, status) :: others) stop ahead).1 ++
            spansOf icu in_buffer none (extendIdeo ((stop, status) :: others) stop ahead).1
              back := by
  induction ahead generalizing stop status others with
  | nil => exact ⟨Nat.le_refl _, rfl, status, others, [], rfl, (List.append_nil _).symm⟩
  | cons boundary ahead ih =>
      rcases boundary with ⟨boundary, next⟩
      have grows : stop < boundary := by
        rw [List.map_cons] at sorted
        exact List.rel_of_pairwise_cons sorted List.mem_cons_self
      have later : (boundary :: ahead.map Prod.fst).Pairwise (· < ·) := sorted.tail
      have shift : ((stop, status) :: others).reverse ++ (boundary, next) :: ahead =
          ((boundary, next) :: (stop, status) :: others).reverse ++ ahead := by
        rw [List.reverse_cons (a := (boundary, next)), List.append_assoc, List.singleton_append]
      rw [extendIdeo]
      split
      · rename_i ideo
        rcases ih later next ((stop, status) :: others) with
          ⟨further, same, last, front, back, placed, spans⟩
        refine ⟨by omega, ?_, last, front, back, ?_, ?_⟩
        · rw [same, shift]
        · rw [shift, placed]
        · rw [← spans, spansOf, if_pos ideo]
          rfl
      · rename_i notIdeo
        refine ⟨Nat.le_refl _, shift.symm, status, others, (boundary, next) :: ahead, rfl, ?_⟩
        rw [spansOf, spansOf, if_neg notIdeo, if_neg notIdeo]
        split <;> rfl

end Iterator

/-! ## One turn -/

section Turn

variable {env : Environment} {bound : Nat} {cur : MmCursor} {frame next : Frame}

theorem MmCursor.Walks.place_le (walks : cur.Walks bound) : cur.place ≤ bound := by
  have current := UBreakIterator.current_le walks.within
  rw [MmCursor.place]
  split
  · exact current
  · rcases walks.state with idle | ⟨ordered, ends⟩
    · exact absurd idle ‹_›
    · omega

/-- Either nothing is pending, or the next code point of the range is taken. -/
theorem MmCursor.Walks.find_cases (walks : cur.Walks bound) (icu : Icu) :
    (∃ cur', find_splited_ideo_token cur = (none, cur') ∧ cur'.Walks bound ∧
        cur'.ideo_state < 0 ∧ cur'.place = cur.place ∧ cur' = cur.movedTo cur' ∧
        cur'.spans icu = cur.spans icu) ∨
      ∃ start stop cur', find_splited_ideo_token cur = (some (start, stop), cur') ∧
        cur'.Walks bound ∧ cur.place < cur'.place ∧ cur' = cur.movedTo cur' ∧
        cur.spans icu = (start, stop) :: cur'.spans icu := by
  by_cases idle : cur.ideo_state < 0
  · left
    exact ⟨cur, by rw [find_splited_ideo_token, if_pos idle], walks, idle, rfl, rfl, rfl⟩
  · rcases walks.state with impossible | ⟨ordered, ends⟩
    · exact absurd impossible idle
    · have begins : cur.place = cur.ideo_start := by rw [MmCursor.place, if_neg idle]
      by_cases atEnd : cur.ideo_start = cur.ideo_end
      · left
        have reset : (-1 : Int) < 0 := by decide
        refine ⟨{ cur with ideo_state := -1 }, ?_, ⟨walks.sorted, walks.within, Or.inl reset⟩,
          reset, ?_, rfl, ?_⟩
        · rw [find_splited_ideo_token, if_neg idle, if_pos atEnd]
        · rw [begins, atEnd, ends, MmCursor.place, if_pos reset]
        · rw [MmCursor.spans, MmCursor.spans, if_pos reset, if_neg idle, atEnd, charactersOf_self]
      · right
        have inside : cur.ideo_start < cur.ideo_end := by omega
        have grows := lt_characterEnd cur.in_buffer cur.ideo_start cur.ideo_end
        have within := characterEnd_le cur.in_buffer inside
        set stop := characterEnd cur.in_buffer cur.ideo_start cur.ideo_end with stopEq
        refine ⟨cur.ideo_start, stop, { cur with ideo_start := stop }, ?_,
          ⟨walks.sorted, walks.within, Or.inr ⟨within, ends⟩⟩, ?_, rfl, ?_⟩
        · rw [find_splited_ideo_token, if_neg idle, if_neg atEnd]
          rfl
        · rw [begins, MmCursor.place, if_neg idle]
          exact grows
        · rw [MmCursor.spans, MmCursor.spans, if_neg idle, if_neg idle,
            charactersOf_of_lt cur.in_buffer inside]
          rfl

/-- The look-ahead makes a range pending that begins where the segment does. -/
theorem walks_lookAhead (icu : Icu) (frame : Frame) {start stop : Nat} {status : Int}
    {others : List (Nat × Int)}
    (sorted : (0 :: frame.cur.iter.boundaries.map Prod.fst).Pairwise (· < ·))
    (within : ∀ boundary ∈ frame.cur.iter.boundaries, boundary.1 ≤ bound)
    (begins : frame.start = start) (ends : frame.stop = stop) (nonempty : start < stop)
    (reached : frame.cur.iter.passed = (stop, status) :: others) :
    (lookAhead frame).Walks bound ∧ (lookAhead frame).place = start ∧
      (lookAhead frame).ideo_start < (lookAhead frame).ideo_end ∧
      (lookAhead frame).ideo_state = 0 ∧
      lookAhead frame = frame.cur.movedTo (lookAhead frame) ∧
      (lookAhead frame).spans icu =
        spansOf icu frame.cur.in_buffer (some start) stop frame.cur.iter.ahead := by
  have ahead := UBreakIterator.sorted_ahead sorted
  rw [UBreakIterator.current, reached] at ahead
  dsimp only at ahead
  rcases extendIdeo_walks icu frame.cur.in_buffer start ahead status others with
    ⟨further, same, last, front, back, placed, spans⟩
  rw [UBreakIterator.boundaries, reached, ← same] at sorted
  have resumed := UBreakIterator.isBoundary_of_boundary _ sorted (same.trans placed)
  set range := extendIdeo ((stop, status) :: others) stop frame.cur.iter.ahead
  have shape : lookAhead frame = { frame.cur with
      iter := ⟨(range.1, last) :: front, back⟩, ideo_start := start, ideo_end := range.1,
      ideo_state := 0 } := by
    rw [lookAhead, reached, ends, begins]
    dsimp only
    rw [resumed]
  rw [shape]
  have active : ¬ (0 : Int) < 0 := by decide
  refine ⟨⟨?_, ?_, Or.inr ⟨?_, rfl⟩⟩, ?_, ?_, rfl, rfl, ?_⟩
  · rw [UBreakIterator.boundaries, ← placed, ← same]
    exact sorted
  · rw [UBreakIterator.boundaries, ← placed, ← reached]
    exact within
  · dsimp only
    omega
  · rw [MmCursor.place, if_neg active]
  · dsimp only
    omega
  · rw [MmCursor.spans, if_neg active, spans]
    rfl

/-- What one turn is: an output of the next range, and a call of `xToken`, with
the place of the cursor moved forward. -/
structure Steps (env : Environment) (bound : Nat) (frame before next : Frame) : Prop where
  result : next = deliver env (emit env before).1
  outputs : before.outputs = frame.outputs
  calls : before.calls = frame.calls
  walks : before.cur.Walks bound
  onward : frame.cur.place < before.cur.place
  alike : frame.Alike before
  spans : frame.cur.spans env.icu = (before.start, before.stop) :: before.cur.spans env.icu

/-- A turn with a range that is pending. -/
theorem steps_of_pending {cur : MmCursor} {start stop : Nat}
    (found : find_splited_ideo_token frame.cur = (some (start, stop), cur))
    (walks : cur.Walks bound) (onward : frame.cur.place < cur.place)
    (moved : cur = frame.cur.movedTo cur)
    (spans : frame.cur.spans env.icu = (start, stop) :: cur.spans env.icu)
    (turns : iterate env frame = some next) :
    Steps env bound frame { frame with cur := cur, start := start, stop := stop } next := by
  set taken : Frame := { frame with cur := cur, start := start, stop := stop }
  have process : processPending env frame = emit env taken := by
    rw [processPending, found]
  have output := (emit_spec env taken).code_ne
  rw [iterate, process] at turns
  dsimp only at turns
  rw [if_neg output] at turns
  dsimp only at turns
  rw [if_neg output, Option.some.injEq] at turns
  refine ⟨turns.symm, rfl, rfl, walks, onward, ⟨taken, ?_⟩, spans⟩
  rw [Frame.movedTo, ← moved]

/-- A turn with the next segment: it is output whole, or its first code point is. -/
theorem steps_of_segment {entered : Frame × Int}
    (segment : processSegment env frame = some entered) (walks : frame.cur.Walks bound)
    (idle : frame.cur.ideo_state < 0) :
    ∃ before, Steps env bound frame before
      (deliver env (if entered.2 = UN_OUTPUT_TOKEN then processIdeo env entered.1
        else entered.1)) := by
  have current : frame.cur.place = frame.cur.iter.current := by rw [MmCursor.place, if_pos idle]
  rw [processSegment] at segment
  dsimp only at segment
  cases finds : findToken env.icu frame.cur.in_buffer frame.cur.iter.passed frame.cur.iter.current
      frame.cur.iter.ahead with
  | none =>
      rw [finds] at segment
      cases segment
  | some token =>
      rcases token with ⟨⟨first, last, token_type⟩, iter⟩
      rw [finds] at segment
      dsimp only at segment
      rcases findToken_some env.icu frame.cur.in_buffer (UBreakIterator.sorted_ahead walks.sorted)
        finds with ⟨after, longer, boundaries, others, passed⟩
      have sorted : (0 :: iter.boundaries.map Prod.fst).Pairwise (· < ·) := by
        rw [boundaries]
        exact walks.sorted
      have within : ∀ boundary ∈ iter.boundaries, boundary.1 ≤ bound := by
        rw [boundaries]
        exact walks.within
      rw [whole_test] at segment
      cases ideo : isIdeo token_type with
      | false =>
          rw [ideo, Bool.not_false, if_pos rfl, Option.some.injEq] at segment
          subst segment
          rw [if_neg (emit_spec env _).code_ne]
          have reached : iter.current = last := by rw [UBreakIterator.current, passed]
          refine ⟨{ frame with
              cur := { frame.cur with iter := iter }, start := first, stop := last },
            rfl, rfl, rfl, ⟨sorted, within, Or.inl idle⟩, ?_, ⟨{ frame with
              cur := { frame.cur with iter := iter }, start := first, stop := last }, rfl⟩, ?_⟩
          · calc
              frame.cur.place ≤ first := by rw [current]; exact after
              _ < last := longer
              _ = iter.current := reached.symm
              _ = _ := by rw [MmCursor.place, if_pos idle]
          · rw [MmCursor.spans, MmCursor.spans, if_pos idle, List.nil_append,
              spansOf_of_findToken_some env.icu frame.cur.in_buffer finds, ideo,
              if_neg Bool.false_ne_true, ← reached]
            rfl
      | true =>
          rw [ideo, Bool.not_true, if_neg Bool.false_ne_true, Option.some.injEq] at segment
          subst segment
          rw [if_pos rfl]
          rcases walks_lookAhead env.icu { frame with
              cur := { frame.cur with iter := iter }, start := first, stop := last }
            sorted within rfl rfl longer passed with
            ⟨walksAhead, begins, room, active, ahead, spansAhead⟩
          rcases walksAhead.find_cases env.icu with ⟨_, nothing, -, -, -, -, -⟩ |
            ⟨start, stop, cur, found, walksNext, onward, moved, spans⟩
          · exfalso
            rw [find_splited_ideo_token, if_neg (by omega), if_neg (by omega)] at nothing
            cases nothing
          · refine ⟨{ frame with cur := cur, start := start, stop := stop }, ?_, rfl, rfl,
              walksNext, ?_, ⟨{ frame with cur := cur, start := start, stop := stop }, ?_⟩, ?_⟩
            · rw [processIdeo, found]
            · calc
                frame.cur.place ≤ first := by rw [current]; exact after
                _ = _ := begins.symm
                _ < _ := onward
            · have both : cur = frame.cur.movedTo cur := by
                rw [ahead] at moved
                exact moved
              rw [Frame.movedTo, ← both]
            · rw [← spans, spansAhead, MmCursor.spans, if_pos idle, List.nil_append,
                spansOf_of_findToken_some env.icu frame.cur.in_buffer finds, ideo, if_pos rfl]

/-- Every turn of the main loop outputs once, and calls `xToken` once. -/
theorem iterate_steps (walks : frame.cur.Walks bound) (turns : iterate env frame = some next) :
    ∃ before, Steps env bound frame before next := by
  rcases walks.find_cases env.icu with ⟨cur, nothing, walksNext, idle, still, moved, spans⟩ |
    ⟨start, stop, cur, found, walksNext, onward, moved, spans⟩
  · rw [iterate_of_nothing nothing, Option.map_eq_some_iff] at turns
    rcases turns with ⟨entered, segment, same⟩
    rcases steps_of_segment segment walksNext idle with
      ⟨before, steps⟩
    have here : frame.Alike { frame with cur := cur } :=
      ⟨{ frame with cur := cur }, by rw [Frame.movedTo, ← moved]⟩
    refine ⟨before, ?_, steps.outputs, steps.calls, steps.walks, ?_, here.trans steps.alike, ?_⟩
    · rw [← same]
      exact steps.result
    · rw [← still]
      exact steps.onward
    · rw [← spans]
      exact steps.spans
  · exact ⟨_, steps_of_pending found walksNext onward moved spans turns⟩

/-- If there is no turn, then nothing is left to be output. -/
theorem spans_of_iterate_none (walks : frame.cur.Walks bound) (leaves : iterate env frame = none) :
    frame.cur.spans env.icu = [] := by
  rcases walks.find_cases env.icu with ⟨cur, nothing, walksNext, idle, still, moved, spans⟩ |
    ⟨start, stop, cur, found, walksNext, onward, moved, spans⟩
  · rw [iterate_of_nothing nothing, Option.map_eq_none_iff, processSegment] at leaves
    dsimp only at leaves
    rw [← spans, MmCursor.spans, if_pos idle, List.nil_append]
    cases finds : findToken env.icu cur.in_buffer cur.iter.passed cur.iter.current
        cur.iter.ahead with
    | none => exact spansOf_of_findToken_none env.icu cur.in_buffer finds
    | some token =>
        rw [finds] at leaves
        dsimp only at leaves
        split at leaves <;> cases leaves
  · have process : processPending env frame =
        emit env { frame with cur := cur, start := start, stop := stop } := by
      rw [processPending, found]
    rw [iterate, process] at leaves
    dsimp only at leaves
    rw [if_neg (emit_spec env _).code_ne] at leaves
    cases leaves

theorem Steps.forward {before : Frame} (steps : Steps env bound frame before next) :
    next.cur.Walks bound ∧ frame.cur.place < next.cur.place ∧
      frame.cur.spans env.icu = (before.start, before.stop) :: next.cur.spans env.icu := by
  have output := emit_spec env before
  have delivered : next.cur = (emit env before).1.cur := by
    rw [steps.result]
    rfl
  rcases steps.walks.samePlace output.place with ⟨walks, still, spans⟩
  rw [delivered, still, spans]
  exact ⟨walks, steps.onward, steps.spans⟩

end Turn

/-! ## The loop ends -/

theorem walks_initial {boundaries : List (Nat × Int)} {bound : Nat}
    (increasing : (0 :: boundaries.map Prod.fst).Pairwise (· < ·))
    (within : ∀ boundary ∈ boundaries, boundary.1 ≤ bound) (conversion : Conversion) :
    (Frame.initial boundaries conversion).cur.Walks bound where
  sorted := increasing
  within := within
  state := by
    left
    show (-1 : Int) < 0
    decide

/-- The main loop ends after at most as many turns as the bound says, whatever
the text holds and whichever outputs and calls fail. -/
theorem mainTurns_end (env : Environment) (nText : Nat) {frame : Frame} {bound : Nat}
    (walks : frame.cur.Walks bound) {fuel : Nat} (enough : bound < fuel) :
    ∃ last byGuard, (mainTurns env nText).run fuel frame = some (last, byGuard) := by
  have step : ∀ frame next : Frame, frame.cur.Walks bound → (mainTurns env nText).Turn frame next →
      next.cur.Walks bound ∧ bound - next.cur.place < bound - frame.cur.place := by
    intro frame next walking turn
    rcases iterate_steps walking turn.2 with ⟨before, steps⟩
    rcases steps.forward with ⟨still, onward, -⟩
    have inside := still.place_le
    exact ⟨still, by omega⟩
  exact Loop.run_ends (fun frame : Frame => frame.cur.Walks bound)
    (fun frame => bound - frame.cur.place) step walks (by omega)

/-! ## A whole call -/

/-- The boundaries that the library finds increase. -/
def Icu.Increasing (icu : Icu) : Prop :=
  ∀ in_buffer boundaries, icu.ubrk_open in_buffer = some boundaries →
    (0 :: boundaries.map Prod.fst).Pairwise (· < ·)

/-- The number of bytes that count as the text. -/
def lengthOf (pText : List UInt8) (nText : Int) : Nat :=
  if nText < 0 then strlen pText else nText.toNat

/-- A call comes to the main loop, with these variables. -/
def Starts (env : Environment) (pText : List UInt8) (nText : Int) (fuel : Nat) (frame : Frame) :
    Prop :=
  env.allocates 0 = true ∧ ∃ conversion boundaries,
    convert env.icu pText (lengthOf pText nText) (ROUND4 (lengthOf pText nText + 1)) fuel
      ⟨0, [], Function.update env.garbage 0 0⟩ = some (conversion, false) ∧
    env.icu.ubrk_open conversion.in_buffer = some boundaries ∧
    frame = Frame.initial boundaries conversion

section Call

variable {env : Environment} {pText : List UInt8} {nText : Int} {fuel : Nat}

/-- A call that comes to the main loop returns what the loop does. -/
theorem Starts.runs {frame : Frame} (starts : Starts env pText nText fuel frame) :
    fts5WcicuTokenize env pText nText fuel = mainLoop env (lengthOf pText nText) fuel frame := by
  rcases starts with ⟨allocated, conversion, boundaries, converts, opened, same⟩
  have length : (if nText < 0 then strlen pText else nText.toNat) = lengthOf pText nText := rfl
  simp only [fts5WcicuTokenize, length, allocated, Bool.not_true, if_neg Bool.false_ne_true,
    converts, opened, same]

theorem Starts.unique {first second : Frame} (one : Starts env pText nText fuel first)
    (other : Starts env pText nText fuel second) : first = second := by
  rcases one with ⟨-, conversion, boundaries, converts, opened, same⟩
  rcases other with ⟨-, conversion', boundaries', converts', opened', same'⟩
  rw [converts, Option.some.injEq, Prod.mk.injEq] at converts'
  rw [← converts'.1, opened, Option.some.injEq] at opened'
  rw [same, same', converts'.1, opened']

/-- What the units of the text are, and where its boundaries end. -/
theorem exists_bound (env : Environment) (increasing : env.icu.Increasing) (units : List UChar) :
    ∃ bound, ∀ boundaries, env.icu.ubrk_open units = some boundaries → ∀ conversion,
      (Frame.initial boundaries conversion).cur.Walks bound := by
  cases opened : env.icu.ubrk_open units with
  | none => exact ⟨0, fun _ impossible => by cases impossible⟩
  | some found =>
      refine ⟨(found.map Prod.fst).sum, ?_⟩
      intro boundaries same conversion
      cases same
      apply walks_initial (increasing units found opened)
      intro boundary member
      exact List.single_le_sum (fun _ _ => Nat.zero_le _) _ (List.mem_map_of_mem member)

/-- Every call ends, in front of the main loop or behind it. -/
theorem fts5WcicuTokenize_cases (documented : env.icu.Documented)
    (increasing : env.icu.Increasing) (pText : List UInt8) (nText : Int) :
    ∃ enough, ∀ fuel, enough ≤ fuel →
      ((∀ frame, ¬ Starts env pText nText fuel frame) ∧
          ∃ code, fts5WcicuTokenize env pText nText fuel = some ⟨code, [], []⟩) ∨
        ∃ frame bound last byGuard, Starts env pText nText fuel frame ∧ frame.cur.Walks bound ∧
          (mainTurns env (lengthOf pText nText)).run fuel frame = some (last, byGuard) ∧
          fts5WcicuTokenize env pText nText fuel = some (Frame.finish (last, byGuard)) := by
  set size := lengthOf pText nText with sizeEq
  set units := unitsOfAll (decode env.icu pText size size 0 0) with unitsEq
  rcases exists_bound env increasing units with ⟨bound, walks⟩
  refine ⟨max size (bound + 1), ?_⟩
  intro fuel enough
  have room : size < ROUND4 (size + 1) := by
    rw [ROUND4]
    omega
  rcases convert_decodes documented pText room fuel size 0 [] (Function.update env.garbage 0 0)
    (Nat.zero_le _) (by omega) (by omega) (Nat.le_refl _) (Function.update_self ..) with
    ⟨conversion, stop, converts, decodes⟩
  have buffer : conversion.in_buffer = units := decodes.grown
  have blocked : ∀ code, (env.allocates 0 = true → env.icu.ubrk_open units = none) →
      fts5WcicuTokenize env pText nText fuel = some ⟨code, [], []⟩ →
      (∀ frame, ¬ Starts env pText nText fuel frame) ∧
        ∃ code, fts5WcicuTokenize env pText nText fuel = some ⟨code, [], []⟩ := by
    intro code closed ends
    refine ⟨?_, code, ends⟩
    rintro frame ⟨allocated, conversion', boundaries, converts', opened, -⟩
    rw [← sizeEq, converts, Option.some.injEq, Prod.mk.injEq] at converts'
    rw [← converts'.1, buffer, closed allocated] at opened
    cases opened
  cases allocated : env.allocates 0 with
  | false =>
      left
      refine blocked SQLITE_NOMEM ?_ ?_
      · intro impossible
        rw [allocated] at impossible
        cases impossible
      · rw [fts5WcicuTokenize, allocated, Bool.not_false, if_pos rfl]
  | true =>
      cases opened : env.icu.ubrk_open units with
      | none =>
          left
          apply blocked SQLITE_ERROR (fun _ => opened)
          have length : (if nText < 0 then strlen pText else nText.toNat) = size := rfl
          simp only [fts5WcicuTokenize, length, allocated, Bool.not_true,
            if_neg Bool.false_ne_true, converts, buffer, opened]
      | some boundaries =>
          right
          have starts : Starts env pText nText fuel (Frame.initial boundaries conversion) :=
            ⟨allocated, conversion, boundaries, converts, buffer ▸ opened, rfl⟩
          have walking := walks boundaries opened conversion
          rcases mainTurns_end env size walking (by omega : bound < fuel) with
            ⟨last, byGuard, ends⟩
          refine ⟨_, bound, last, byGuard, starts, walking, ends, ?_⟩
          rw [starts.runs, mainLoop_eq_run, ← sizeEq, ends, Option.map_some]

/-- The tokenizer ends on every text, for every increasing sequence of
boundaries, and whatever the calls of `output_token` and `xToken` return. -/
theorem fts5WcicuTokenize_ends (documented : env.icu.Documented)
    (increasing : env.icu.Increasing) (pText : List UInt8) (nText : Int) :
    ∃ enough, ∀ fuel, enough ≤ fuel →
      ∃ result, fts5WcicuTokenize env pText nText fuel = some result := by
  rcases fts5WcicuTokenize_cases documented increasing pText nText with ⟨enough, ends⟩
  refine ⟨enough, ?_⟩
  intro fuel sufficient
  rcases ends fuel sufficient with ⟨-, code, returns⟩ | ⟨_, _, last, byGuard, -, -, -, returns⟩
  · exact ⟨_, returns⟩
  · exact ⟨_, returns⟩

end Call

/-- The boundaries of the small library increase. -/
theorem Icu.small_increasing : Icu.small.Increasing := by
  intro in_buffer boundaries opened
  have positions : boundaries.map Prod.fst = List.range' 1 in_buffer.length := by
    have same := Option.some.inj opened
    rw [← same, List.map_map, List.range'_eq_map_range, List.range_eq_range',
      ← List.zipIdx_map_snd 0 in_buffer, List.map_map]
    apply List.map_congr_left
    intro pair _
    exact Nat.add_comm _ _
  rw [positions, List.pairwise_cons]
  refine ⟨?_, List.pairwise_lt_range'⟩
  intro position member
  have after := (List.mem_range'_1.mp member).1
  omega

/-- The theorem on `a` and an illegal byte. -/
theorem fts5WcicuTokenize_ends_malformed :
    ∃ enough, ∀ fuel, enough ≤ fuel →
      ∃ result, fts5WcicuTokenize Environment.small [0x61, 0xff] (-1) fuel = some result :=
  fts5WcicuTokenize_ends Icu.small_documented Icu.small_increasing [0x61, 0xff] (-1)

end Tokenizer
end ModuleDatabase
