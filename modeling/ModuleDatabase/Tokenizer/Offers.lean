import ModuleDatabase.Tokenizer.Segments

namespace ModuleDatabase
namespace Tokenizer

/-!
# What is offered to the callback

Which ranges of the buffer the tokenizer outputs, and in which order, does not
depend on what any call returns: it follows from the units of the text and from
the boundaries with their statuses.  A segment that is not ideographic is one
range, unless it is skipped; a run of ideographic segments is divided into
characters as a whole.  The boundaries may lie anywhere, so that a character here
is one unit, or two of which the first leads a surrogate pair.

The tokens of the text are what `output_token` makes of these ranges, one after
the other.  They do not depend on the callback, which is only asked about them.
-/

/-! ## The ranges that are output -/

/-- Where the character ends that begins at `start` in a range up to `stop`. -/
def characterEnd (in_buffer : List UChar) (start stop : Nat) : Nat :=
  if U16_IS_LEAD (in_buffer.getD start 0) && 2 ≤ stop - start then start + 2 else start + 1

theorem lt_characterEnd (in_buffer : List UChar) (start stop : Nat) :
    start < characterEnd in_buffer start stop := by
  unfold characterEnd
  split
  · exact Nat.lt_add_of_pos_right Nat.two_pos
  · exact Nat.lt_succ_self start

theorem characterEnd_le (in_buffer : List UChar) {start stop : Nat} (inside : start < stop) :
    characterEnd in_buffer start stop ≤ stop := by
  unfold characterEnd
  split
  · rename_i pair
    have room := of_decide_eq_true (Bool.and_eq_true_iff.mp pair).2
    omega
  · exact inside

/-- The characters of a range. -/
def charactersOf (in_buffer : List UChar) (start stop : Nat) : List (Nat × Nat) :=
  if stop ≤ start then []
  else
    (start, characterEnd in_buffer start stop) ::
      charactersOf in_buffer (characterEnd in_buffer start stop) stop
termination_by stop - start
decreasing_by
  have grows := lt_characterEnd in_buffer start stop
  omega

theorem charactersOf_self (in_buffer : List UChar) (start : Nat) :
    charactersOf in_buffer start start = [] := by
  rw [charactersOf, if_pos (Nat.le_refl start)]

theorem charactersOf_of_lt (in_buffer : List UChar) {start stop : Nat} (inside : start < stop) :
    charactersOf in_buffer start stop = (start, characterEnd in_buffer start stop) ::
      charactersOf in_buffer (characterEnd in_buffer start stop) stop := by
  rw [charactersOf, if_neg (Nat.not_le_of_lt inside)]

/-- The characters of a run of ideographic segments that ends here, if there is
one. -/
def runOf (in_buffer : List UChar) (run : Option Nat) (stop : Nat) : List (Nat × Nat) :=
  match run with
  | none => []
  | some first => charactersOf in_buffer first stop

/-- The ranges that are output for the boundaries behind `start`, where `run` is
the beginning of a run of ideographic segments that reaches up to `start`. -/
def spansOf (icu : Icu) (in_buffer : List UChar) :
    Option Nat → Nat → List (Nat × Int) → List (Nat × Nat)
  | run, start, [] => runOf in_buffer run start
  | run, start, (boundary, status) :: ahead =>
    if isIdeo status then spansOf icu in_buffer (some (run.getD start)) boundary ahead
    else if isNone status && ignorable icu (in_buffer.getD start 0) then
      runOf in_buffer run start ++ spansOf icu in_buffer none boundary ahead
    else
      runOf in_buffer run start ++ (start, boundary) :: spansOf icu in_buffer none boundary ahead

section Loops

variable (icu : Icu) (in_buffer : List UChar)

/-- The first inner loop skips what is not output. -/
theorem spansOf_of_findToken_none {passed ahead : List (Nat × Int)} {start : Nat}
    (nothing : findToken icu in_buffer passed start ahead = none) :
    spansOf icu in_buffer none start ahead = [] := by
  induction ahead generalizing passed start with
  | nil => rfl
  | cons boundary ahead ih =>
      rcases boundary with ⟨boundary, status⟩
      rw [findToken] at nothing
      split at nothing
      · rename_i skipped
        have notIdeo : isIdeo status = false := by
          apply Bool.eq_false_iff.mpr
          intro ideo
          rw [isNone_eq_false_of_isIdeo ideo, Bool.false_and] at skipped
          cases skipped
        rw [spansOf, notIdeo, if_neg Bool.false_ne_true, if_pos skipped, ih nothing]
        rfl
      · cases nothing

/-- It stops at the segment with the first range that is output. -/
theorem spansOf_of_findToken_some {passed ahead : List (Nat × Int)} {start first last : Nat}
    {token_type : Int} {iter : UBreakIterator}
    (found : findToken icu in_buffer passed start ahead = some ((first, last, token_type), iter)) :
    spansOf icu in_buffer none start ahead =
      if isIdeo token_type then spansOf icu in_buffer (some first) last iter.ahead
      else (first, last) :: spansOf icu in_buffer none last iter.ahead := by
  induction ahead generalizing passed start with
  | nil => cases found
  | cons boundary ahead ih =>
      rcases boundary with ⟨boundary, status⟩
      rw [findToken] at found
      split at found
      · rename_i skipped
        have notIdeo : isIdeo status = false := by
          apply Bool.eq_false_iff.mpr
          intro ideo
          rw [isNone_eq_false_of_isIdeo ideo, Bool.false_and] at skipped
          cases skipped
        rw [spansOf, notIdeo, if_neg Bool.false_ne_true, if_pos skipped, ← ih found]
        rfl
      · rename_i shown
        cases found
        rw [spansOf]
        cases isIdeo token_type with
        | true => rfl
        | false =>
            rw [if_neg Bool.false_ne_true, if_neg Bool.false_ne_true, if_neg shown]
            rfl

end Loops

/-! ## The place of the cursor -/

/-- The cursor with the variables of its place from another one. -/
def MmCursor.movedTo (cur place : MmCursor) : MmCursor :=
  { cur with
    iter := place.iter
    ideo_start := place.ideo_start
    ideo_end := place.ideo_end
    ideo_state := place.ideo_state }

theorem MmCursor.reserve_movedTo (cur place : MmCursor) :
    (cur.movedTo place).reserve = cur.reserve.movedTo place := by
  unfold MmCursor.reserve MmCursor.movedTo
  dsimp only
  split <;> rfl

theorem MmCursor.enlarge_movedTo (cur place : MmCursor) (result : Nat) :
    (cur.movedTo place).enlarge result = (cur.enlarge result).movedTo place := by
  unfold MmCursor.enlarge MmCursor.movedTo
  dsimp only
  split <;> rfl

theorem output_token_movedTo (env : Environment) (cur place : MmCursor) (start stop : Nat) :
    output_token env (cur.movedTo place) start stop =
      ((output_token env cur start stop).1.movedTo place, (output_token env cur start stop).2) := by
  unfold output_token
  rw [MmCursor.reserve_movedTo]
  have units : (cur.movedTo place).in_buffer = cur.in_buffer := rfl
  have buffer : (cur.movedTo place).out_buffer = cur.out_buffer := rfl
  have number : (cur.movedTo place).allocations = cur.allocations := rfl
  have size : (cur.reserve.movedTo place).out_length = cur.reserve.out_length := rfl
  have used : (cur.reserve.movedTo place).allocations = cur.reserve.allocations := rfl
  dsimp only
  rw [units, buffer, number, size, used]
  cases env.icu.unorm_normalize ((cur.in_buffer.drop start).take (min (stop - start) 256)) with
  | none => rfl
  | some buf1 =>
      dsimp only
      by_cases long : 256 < buf1.length
      · simp only [if_pos long]
      · simp only [if_neg long]
        cases env.icu.u_strFoldCase buf1 with
        | none => rfl
        | some buf2 =>
            dsimp only
            by_cases long : 256 < buf2.length
            · simp only [if_pos long]
            · simp only [if_neg long]
              by_cases refused : (cur.out_buffer.isNone && !env.allocates cur.allocations) = true
              · simp only [if_pos refused]
                rfl
              · simp only [if_neg refused]
                cases env.icu.u_strToUTF8 buf2 with
                | none => rfl
                | some bytes =>
                    dsimp only
                    rw [MmCursor.enlarge_movedTo]
                    by_cases short : (decide (cur.reserve.out_length < bytes.length) &&
                        !env.allocates cur.reserve.allocations) = true
                    · simp only [if_pos short]
                      rfl
                    · simp only [if_neg short]
                      rfl

/-- The variables of an output from one frame, all others from another one. -/
def Frame.movedTo (frame place : Frame) : Frame :=
  { place with
    cur := frame.cur.movedTo place.cur
    pToken := frame.pToken
    nBytes := frame.nBytes
    iStartOffset := frame.iStartOffset
    iEndOffset := frame.iEndOffset
    iPosition := frame.iPosition }

/-- Two frames agree in the variables of an output. -/
def Frame.Alike (frame other : Frame) : Prop := ∃ place, other = frame.movedTo place

theorem Frame.Alike.trans {first second third : Frame} (one : first.Alike second)
    (other : second.Alike third) : first.Alike third := by
  rcases one with ⟨place, same⟩
  rcases other with ⟨next, same'⟩
  subst same
  exact ⟨next, same'⟩

theorem Frame.Alike.iEndOffset {frame other : Frame} (alike : frame.Alike other) :
    other.iEndOffset = frame.iEndOffset := by
  rcases alike with ⟨place, same⟩
  rw [same]
  rfl

/-- The frame behind the output of a range. -/
def Frame.shown (env : Environment) (frame : Frame) (start stop : Nat) : Frame :=
  (emit env { frame with start := start, stop := stop }).1

theorem Frame.Alike.shown {frame other : Frame} (alike : frame.Alike other) (env : Environment)
    (start stop : Nat) : (frame.shown env start stop).Alike (other.shown env start stop) := by
  rcases alike with ⟨place, same⟩
  subst same
  have moved := output_token_movedTo env frame.cur place.cur start stop
  unfold Frame.shown emit
  dsimp only [Frame.movedTo] at moved ⊢
  rw [moved]
  rcases output_token env frame.cur start stop with ⟨cur, code | output⟩
  · exact ⟨{ place with start, stop, outputs := place.outputs ++ [code] }, rfl⟩
  · exact ⟨{ place with start, stop, outputs := place.outputs ++ [SQLITE_OK] }, rfl⟩

/-! ## The tokens -/

/-- What the callback is asked about. -/
structure Token where
  pToken : List UInt8
  nToken : Nat
  iStart : Int
  iEnd : Int
  deriving DecidableEq, Repr

/-- The call about a token, with its result. -/
def Token.call (token : Token) (rc : Int) : TokenCall :=
  ⟨token.pToken, token.nToken, token.iStart, token.iEnd, rc⟩

/-- The token that the variables of an output describe. -/
def Frame.token (frame : Frame) : Token where
  pToken := match frame.pToken with
    | none => []
    | some () => (frame.cur.out_buffer.getD []).take frame.nBytes
  nToken := frame.nBytes
  iStart := frame.iStartOffset
  iEnd := frame.iEndOffset

theorem Frame.Alike.token {frame other : Frame} (alike : frame.Alike other) :
    other.token = frame.token := by
  rcases alike with ⟨place, same⟩
  rw [same]
  rfl

/-- The tokens of the ranges, as long as none has ended at the end of the text.
A range whose output fails yields the token before it once more. -/
def tokensFrom (env : Environment) (nText : Nat) : Frame → List (Nat × Nat) → List Token
  | _, [] => []
  | frame, (start, stop) :: spans =>
    if nText ≤ frame.iEndOffset then []
    else
      (frame.shown env start stop).token ::
        tokensFrom env nText (frame.shown env start stop) spans

theorem tokensFrom_of_ended (env : Environment) {nText : Nat} {frame : Frame}
    (ended : nText ≤ frame.iEndOffset) (spans : List (Nat × Nat)) :
    tokensFrom env nText frame spans = [] := by
  cases spans with
  | nil => rfl
  | cons span spans => exact if_pos ended

theorem Frame.Alike.tokensFrom {frame other : Frame} (alike : frame.Alike other)
    (env : Environment) (nText : Nat) (spans : List (Nat × Nat)) :
    tokensFrom env nText other spans = tokensFrom env nText frame spans := by
  induction spans generalizing frame other with
  | nil => rfl
  | cons span spans ih =>
      rcases span with ⟨start, stop⟩
      have next := alike.shown env start stop
      rw [Tokenizer.tokensFrom, Tokenizer.tokensFrom, alike.iEndOffset, next.token, ih next]

/-- Only the last token reaches the end of the text. -/
theorem tokensFrom_inside (env : Environment) (nText : Nat) {frame : Frame}
    {spans : List (Nat × Nat)} {before after : List Token} {token : Token}
    (split : tokensFrom env nText frame spans = before ++ token :: after) (more : after ≠ []) :
    token.iEnd < nText := by
  induction spans generalizing frame before with
  | nil => exact absurd split.symm (List.append_ne_nil_of_right_ne_nil _ (List.cons_ne_nil _ _))
  | cons span spans ih =>
      rcases span with ⟨start, stop⟩
      rw [tokensFrom] at split
      split at split
      · exact absurd split.symm (List.append_ne_nil_of_right_ne_nil _ (List.cons_ne_nil _ _))
      · cases before with
        | cons first before =>
            rw [List.cons_append, List.cons.injEq] at split
            exact ih split.2
        | nil =>
            rw [List.nil_append, List.cons.injEq] at split
            by_contra ended
            have done : nText ≤ (frame.shown env start stop).iEndOffset := by
              rw [← split.1] at ended
              exact not_lt.mp ended
            have nothing := tokensFrom_of_ended env done spans
            rw [split.2] at nothing
            exact more nothing

/-! ## What the callback says to them -/

/-- The calls about some tokens, behind earlier ones. -/
def callsOf (env : Environment) : List TokenCall → List Token → List TokenCall
  | _, [] => []
  | earlier, token :: later =>
    let call := token.call
      (env.xToken earlier token.pToken token.nToken token.iStart token.iEnd)
    call :: callsOf env (earlier ++ [call]) later

/-- Behind calls that were all accepted, the first token that the callback
refuses reaches the end of the text, or it is the last one there is and refused
with `SQLITE_DONE`. -/
def RefusesAtEnd (env : Environment) (nText : Nat) : List TokenCall → List Token → Prop
  | _, [] => True
  | earlier, token :: later =>
    let rc := env.xToken earlier token.pToken token.nToken token.iStart token.iEnd
    if rc = SQLITE_OK then RefusesAtEnd env nText (earlier ++ [token.call SQLITE_OK]) later
    else nText ≤ token.iEnd ∨ rc = SQLITE_DONE ∧ later = []

/-! ## The tokens of a text -/

/-- The code points of a text of the given length, up to its first NUL byte. -/
def codePointsOf (icu : Icu) (pText : List UInt8) (nText : Nat) : List CodePoint :=
  decode icu pText nText nText 0 0

/-- The tokens of a text that is cut at the given boundaries. -/
def tokensOfText (env : Environment) (pText : List UInt8) (nText : Nat)
    (boundaries : List (Nat × Int)) : List Token :=
  let codePoints := codePointsOf env.icu pText nText
  let in_offset := noteOffsets (Function.update env.garbage 0 0) codePoints
  tokensFrom env nText (Frame.initial boundaries ⟨nText, unitsOfAll codePoints, in_offset⟩)
    (spansOf env.icu (unitsOfAll codePoints) none 0 boundaries)

end Tokenizer
end ModuleDatabase
