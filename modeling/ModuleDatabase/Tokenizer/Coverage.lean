import Mathlib.Data.List.TakeWhile
import ModuleDatabase.Tokenizer.Progress

namespace ModuleDatabase
namespace Tokenizer

/-!
# What the tokenizer reports

A whole run is a sequence of turns.  Since every turn moves the next token
forward in the text, there are at most as many turns as bytes, and as long as
each output succeeds the end offset of the last token is where the next one
begins.  The loop therefore stops at the end of the text exactly if a token
ends there; otherwise it runs into the end of the iterator, which it reports
as `SQLITE_DONE`.

Two theorems come out of the same run: the reported byte ranges are those of
the segments, and the return code is right only for texts without a NUL byte
that do not end in a segment that is skipped.
-/

/-- Every recorded code is that of a success. -/
def Clean (codes : List Int) : Prop := ∀ code ∈ codes, code = SQLITE_OK

/-- The offsets that a call of `xToken` gets. -/
def TokenCall.range (call : TokenCall) : Int × Int := (call.iStart, call.iEnd)

/-- The last of the segments, if there is one, is not skipped. -/
def EndsInToken (icu : Icu) (segments : List Segment) : Prop :=
  ∀ last ∈ segments.getLast?, last.skipped icu = false

theorem Advance.endsInToken_iff {env : Environment} {frame next : Frame} {here stop here' there' : Mark}
    {pending pending' : List CodePoint} {segments taken segments' : List Segment} {code : Int}
    {start : Mark}
    (advance : Advance env frame next here stop pending segments here' there' pending' taken
      segments' code start) :
    EndsInToken env.icu segments ↔ EndsInToken env.icu segments' := by
  rw [advance.split]
  cases segments' with
  | nil =>
      rw [List.append_nil]
      refine iff_of_true advance.emits ?_
      intro last member
      cases member
  | cons segment rest =>
      unfold EndsInToken
      rw [List.getLast?_append_of_ne_nil _ (List.cons_ne_nil _ _)]

/-- Where the next token begins behind all others, nothing remains. -/
theorem MmCursor.Stands.exhausted {cur : MmCursor} {here there stop : Mark}
    {pending : List CodePoint} {segments : List Segment}
    (stands : cur.Stands here there stop pending segments) (reached : stop.byte ≤ here.byte) :
    pending = [] ∧ segments = [] ∧ here.byte = stop.byte := by
  have first := stands.laid.length_le.2
  have second := stands.cut.length_le
  refine ⟨List.eq_nil_of_length_eq_zero ?_, List.eq_nil_of_length_eq_zero ?_, ?_⟩ <;> omega

theorem MmCursor.Stands.at_end {cur : MmCursor} {here there stop : Mark}
    (stands : cur.Stands here there stop [] []) : here.byte = stop.byte := by
  have first : here = there := stands.laid.1
  have second := stands.cut
  cases ahead : cur.iter.ahead with
  | nil =>
      rw [ahead] at second
      rw [first, second.1]
  | cons boundary ahead' =>
      rw [ahead] at second
      cases second

/-- What a run of the main loop reports, with `ranges` still to come. -/
structure Reports (icu : Icu) (nText : Nat) (frame : Frame) (stop : Mark)
    (ranges : List (Int × Int)) (segments : List Segment) (result : Result) : Prop where
  outputs : frame.outputs <+: result.outputs
  calls : frame.calls <+: result.calls
  ranges : Clean result.outputs →
    result.calls.map TokenCall.range = frame.calls.map TokenCall.range ++ ranges
  code : Clean result.outputs → Clean (result.calls.map TokenCall.rc) → frame.rc = SQLITE_OK →
    (result.rc = SQLITE_OK ↔ stop.byte = nText ∧ EndsInToken icu segments)

/-- The main loop ends, and reports the tokens that remain.  The induction is
on the fuel, of which one unit for each byte ahead is enough. -/
theorem mainLoop_reports (env : Environment) {nText : Nat} {stop : Mark}
    (inside : stop.byte ≤ nText) (fuel : Nat) :
    ∀ (frame : Frame) (here there : Mark) (pending : List CodePoint) (segments : List Segment),
      frame.cur.Stands here there stop pending segments →
      (Clean frame.outputs → frame.iEndOffset = here.byte) →
      stop.byte - here.byte < fuel →
      ∃ result, mainLoop env nText fuel frame = some result ∧
        Reports env.icu nText frame stop (remaining env.icu pending segments) segments result := by
  induction fuel with
  | zero =>
      intro frame here there pending segments _ _ enough
      exact absurd enough (Nat.not_lt_zero _)
  | succ fuel ih =>
      intro frame here there pending segments stands tracks enough
      by_cases finished : (nText : Int) ≤ frame.iEndOffset
      · refine ⟨_, by rw [mainLoop, if_pos finished], List.prefix_refl _, List.prefix_refl _, ?_,
          ?_⟩
        · intro clean
          have place := tracks clean
          rcases stands.exhausted (by omega) with ⟨noPending, noSegments, _⟩
          rw [noPending, noSegments]
          simp [remaining, tokensOf]
        · intro clean _ ok
          have place := tracks clean
          rcases stands.exhausted (by omega) with ⟨noPending, noSegments, ends⟩
          rw [noSegments, ok]
          refine iff_of_true rfl ⟨by omega, ?_⟩
          intro last member
          cases member
      · rcases iterate_cases env stands with
          ⟨stops, noPending, skipped⟩ |
          ⟨next, code, here', there', pending', taken, segments', start, turns, advance⟩
        · refine ⟨⟨SQLITE_DONE, frame.outputs, frame.calls⟩, by rw [mainLoop, if_neg finished, stops],
            List.prefix_refl _, List.prefix_refl _, ?_, ?_⟩
          · intro _
            rw [noPending, remaining, tokensOf_of_skipped skipped]
            simp
          · intro clean _ _
            have failed : ¬ SQLITE_DONE = SQLITE_OK := by decide
            refine iff_of_false failed ?_
            rintro ⟨whole, ends⟩
            have place := tracks clean
            cases last : segments.getLast? with
            | some segment =>
                have stays := ends segment last
                rw [skipped segment (List.mem_of_getLast? last)] at stays
                cases stays
            | none =>
                rw [noPending, List.getLast?_eq_none_iff.mp last] at stands
                have ends := stands.at_end
                omega
        · have tracksNext : Clean next.outputs → next.iEndOffset = here'.byte := by
            intro clean
            apply advance.turn.reached
            apply clean
            rw [advance.turn.outputs]
            simp
          have onward := advance.onward
          have bound : here'.byte ≤ stop.byte := by
            have first := advance.stands.laid.length_le.2
            have second := advance.stands.cut.length_le
            omega
          rcases ih next here' there' pending' segments' advance.stands tracksNext (by omega) with
            ⟨result, runs, reports⟩
          rcases advance.turn.called with ⟨call, called, returned, range⟩
          have outputs := reports.outputs
          rw [advance.turn.outputs] at outputs
          have calls := reports.calls
          rw [called] at calls
          refine ⟨result, ?_, (List.prefix_append _ _).trans outputs,
            (List.prefix_append _ _).trans calls, ?_, ?_⟩
          · rw [mainLoop, if_neg finished, turns]
            exact runs
          · intro clean
            have succeeded : code = SQLITE_OK := clean code (outputs.subset (by simp))
            rw [reports.ranges clean, called, advance.tokens, List.map_append, List.append_assoc,
              List.map_cons, List.map_nil, List.singleton_append, TokenCall.range,
              range succeeded]
          · intro clean accepted _
            have ok : next.rc = SQLITE_OK := by
              rw [returned]
              exact accepted call.rc (List.mem_map_of_mem (calls.subset (by simp)))
            rw [advance.endsInToken_iff]
            exact reports.code clean accepted ok

/-! ## A call of the tokenizer -/

/-- The code points of a text, up to its first NUL byte. -/
def decoded (icu : Icu) (pText : List UInt8) : List CodePoint :=
  decode icu pText pText.length pText.length 0 0

theorem getD_of_mem {pText : List UInt8} (nul : (0 : UInt8) ∈ pText) :
    ∃ k, k < pText.length ∧ pText.getD k 0 = 0 := by
  rcases List.mem_iff_getElem.mp nul with ⟨k, inside, value⟩
  refine ⟨k, inside, ?_⟩
  rw [List.getD_eq_getElem _ _ inside, value]

theorem strlen_of_visible {pText : List UInt8} (visible : (0 : UInt8) ∉ pText) :
    strlen pText = pText.length := by
  rw [strlen, List.takeWhile_eq_self_iff.mpr]
  intro byte member
  have nonzero : byte ≠ 0 := by
    intro zero
    rw [zero] at member
    exact visible member
  simpa using nonzero

section Decoded

variable {pText : List UInt8} {nText : Nat} {in_offset : Nat → Int} {codePoints : List CodePoint}
  {conversion : Conversion} {stop : Mark} {boundaries : List (Nat × Int)}
  (decodes : Decodes pText nText 0 [] in_offset codePoints conversion stop)
  (segmentation : Segmentation codePoints (unitsOfAll codePoints).length boundaries)
include decodes segmentation

/-- Boundaries on code points cut the buffer that the conversion fills. -/
theorem Decodes.cut :
    Cut conversion.in_buffer conversion.in_offset ⟨0, 0⟩ (segmentsOf codePoints boundaries)
      boundaries stop := by
  have buffer : conversion.in_buffer = unitsOfAll codePoints := decodes.grown
  apply cut_segmentsOf decodes.laid segmentation.increasing segmentation.onCodePoints
  rw [decodes.filled, buffer]
  exact segmentation.whole

/-- The main loop ends, and reports the tokens of the segments. -/
theorem Decodes.reports (env : Environment) (fuel : Nat) (enough : nText < fuel) :
    ∃ result, mainLoop env nText fuel (Frame.initial boundaries conversion) = some result ∧
      Reports env.icu nText (Frame.initial boundaries conversion) stop
        (tokensOf env.icu (segmentsOf codePoints boundaries)) (segmentsOf codePoints boundaries)
        result := by
  have inside : stop.byte ≤ nText := by
    rcases decodes.exhausted with same | ⟨below, _⟩ <;> omega
  have idle : (-1 : Int) < 0 := by decide
  have stands : (Frame.initial boundaries conversion).cur.Stands ⟨0, 0⟩ ⟨0, 0⟩ stop []
      (segmentsOf codePoints boundaries) :=
    ⟨segmentation.increasing, rfl, ⟨rfl, decodes.laid.offset_start⟩, decodes.cut segmentation,
      Or.inl ⟨idle, rfl⟩⟩
  exact mainLoop_reports env inside fuel (Frame.initial boundaries conversion) ⟨0, 0⟩ ⟨0, 0⟩ []
    (segmentsOf codePoints boundaries) stands (fun _ => rfl) (by simp only; omega)

end Decoded

/-- A call of the tokenizer on a text of the given length: the loops end, and
the main loop reports the tokens of the segments. -/
theorem fts5WcicuTokenize_reports (env : Environment) (documented : env.icu.Documented)
    (pText : List UInt8) (nText : Int)
    (length : (if nText < 0 then strlen pText else nText.toNat) = pText.length)
    (allocated : env.allocates 0 = true) (boundaries : List (Nat × Int))
    (opened : env.icu.ubrk_open (unitsOfAll (decoded env.icu pText)) = some boundaries)
    (segmentation : Segmentation (decoded env.icu pText)
      (unitsOfAll (decoded env.icu pText)).length boundaries)
    (fuel : Nat) (enough : pText.length < fuel) :
    ∃ result conversion stop,
      fts5WcicuTokenize env pText nText fuel = some result ∧
      Reports env.icu pText.length (Frame.initial boundaries conversion) stop
        (tokensOf env.icu (segmentsOf (decoded env.icu pText) boundaries))
        (segmentsOf (decoded env.icu pText) boundaries) result ∧
      (stop.byte = pText.length ↔ (0 : UInt8) ∉ pText) := by
  have room : pText.length < ROUND4 (pText.length + 1) := by
    rw [ROUND4]
    omega
  rcases convert_decodes documented pText room fuel pText.length 0 []
    (Function.update env.garbage 0 0) (Nat.zero_le _) (by omega) (by omega) (Nat.le_refl _)
    (Function.update_self ..) with ⟨conversion, stop, converts, decodes⟩
  have buffer : conversion.in_buffer = unitsOfAll (decoded env.icu pText) := decodes.grown
  rcases decodes.reports segmentation env fuel enough with ⟨result, runs, reports⟩
  refine ⟨result, conversion, stop, ?_, reports, ?_⟩
  · rw [fts5WcicuTokenize]
    simp only [length, allocated, Bool.not_true, Bool.false_eq_true, if_false, converts, buffer,
      opened]
    exact runs
  · constructor
    · intro whole nul
      rcases getD_of_mem nul with ⟨k, below, zero⟩
      exact decodes.visible k (Nat.zero_le _) (by omega) zero
    · intro visible
      rcases decodes.exhausted with whole | ⟨below, zero⟩
      · exact whole
      · exfalso
        apply visible
        rw [List.getD_eq_getElem _ _ below] at zero
        rw [← zero]
        exact List.getElem_mem below

/-- On a text without NUL bytes, cut at boundaries that lie on code points,
the calls of `xToken` get the byte ranges of the segments, each once and in
order. -/
theorem fts5WcicuTokenize_covers (env : Environment) (documented : env.icu.Documented)
    (pText : List UInt8) (visible : (0 : UInt8) ∉ pText) (nText : Int)
    (length : nText < 0 ∨ nText = pText.length) (allocated : env.allocates 0 = true)
    (boundaries : List (Nat × Int))
    (opened : env.icu.ubrk_open (unitsOfAll (decoded env.icu pText)) = some boundaries)
    (segmentation : Segmentation (decoded env.icu pText)
      (unitsOfAll (decoded env.icu pText)).length boundaries)
    (fuel : Nat) (enough : pText.length < fuel) :
    ∃ result, fts5WcicuTokenize env pText nText fuel = some result ∧
      (Clean result.outputs → result.calls.map TokenCall.range =
        tokensOf env.icu (segmentsOf (decoded env.icu pText) boundaries)) := by
  have measured : (if nText < 0 then strlen pText else nText.toNat) = pText.length := by
    split
    · exact strlen_of_visible visible
    · omega
  rcases fts5WcicuTokenize_reports env documented pText nText measured allocated boundaries opened
    segmentation fuel enough with ⟨result, conversion, stop, runs, reports, _⟩
  refine ⟨result, runs, ?_⟩
  intro clean
  rw [reports.ranges clean]
  rfl

/-! ## A small library -/

/-- The functions as they are on blanks, single letters and the characters
from U+1000 to U+CFFF: such a text has a word boundary behind each of them. -/
def Icu.small : Icu where
  utf8_nextCharSafeBody := fun _ i _ _ => (-1, i)
  u_isspace := fun c => c == 0x20 || 9 ≤ c && c ≤ 13
  unorm_normalize := fun text => some text
  u_strFoldCase := fun text => some (text.map fun c => if 0x41 ≤ c && c ≤ 0x5a then c + 0x20 else c)
  u_strToUTF8 := fun text => some (text.flatMap fun c =>
    if c < 0x80 then [UInt8.ofNat c]
    else [UInt8.ofNat (0xe0 + c / 4096), UInt8.ofNat (0x80 + c / 64 % 64),
      UInt8.ofNat (0x80 + c % 64)])
  u_strToUTF8_stored := fun _ _ => []
  ubrk_open := fun text => some (text.zipIdx.map fun (c, i) =>
    (i + 1, if c = 0x20 then 0 else if c < 0x80 then 200 else 400))

theorem Icu.small_documented : Icu.small.Documented where
  advances := by
    intro s i length c inside
    exact ⟨Nat.le_refl i, inside⟩
  trails := by
    intro s i length c k behind consumed
    exact absurd consumed (Nat.not_lt_of_ge behind)
  value := by
    intro s i length c
    left
    change (-1 : Int) < 0
    decide
  supplementary := by
    intro s i length c large
    change (0xffff : Int) < -1 at large
    omega

/-- An environment in which nothing fails. -/
def Environment.small : Environment where
  icu := Icu.small
  allocates := fun _ => true
  garbage := fun _ => 0
  xToken := fun _ _ _ _ _ => SQLITE_OK

/-- The theorem on `a 中`: a word and an ideograph of three bytes. -/
theorem fts5WcicuTokenize_covers_mixed :
    ∃ result, fts5WcicuTokenize Environment.small [0x61, 0x20, 0xe4, 0xb8, 0xad] 5 6 =
        some result ∧
      (Clean result.outputs → result.calls.map TokenCall.range = [(0, 1), (2, 5)]) :=
  fts5WcicuTokenize_covers Environment.small Icu.small_documented [0x61, 0x20, 0xe4, 0xb8, 0xad]
    (by decide) 5 (Or.inr rfl) rfl [(1, 200), (2, 0), (3, 400)] rfl
    ⟨by decide, by decide, rfl⟩ 6 (by decide)

/-! ## The return code -/

/-- With every output and every call of `xToken` succeeding, the return code
is `SQLITE_OK` exactly if the text has no NUL byte and does not end in a
segment that is skipped. -/
theorem fts5WcicuTokenize_succeeds_iff (env : Environment) (documented : env.icu.Documented)
    (pText : List UInt8) (allocated : ∀ n, env.allocates n = true)
    (boundaries : List (Nat × Int))
    (opened : env.icu.ubrk_open (unitsOfAll (decoded env.icu pText)) = some boundaries)
    (segmentation : Segmentation (decoded env.icu pText)
      (unitsOfAll (decoded env.icu pText)).length boundaries)
    (fuel : Nat) (enough : pText.length < fuel) :
    ∃ result, fts5WcicuTokenize env pText pText.length fuel = some result ∧
      (Clean result.outputs → Clean (result.calls.map TokenCall.rc) →
        (result.rc = SQLITE_OK ↔ (0 : UInt8) ∉ pText ∧
          EndsInToken env.icu (segmentsOf (decoded env.icu pText) boundaries))) := by
  have measured : (if (pText.length : Int) < 0 then strlen pText
      else (pText.length : Int).toNat) = pText.length := by
    rw [if_neg (by omega), Int.toNat_natCast]
  rcases fts5WcicuTokenize_reports env documented pText pText.length measured (allocated 0)
    boundaries opened segmentation fuel enough with
    ⟨result, conversion, stop, runs, reports, visible⟩
  refine ⟨result, runs, ?_⟩
  intro clean accepted
  rw [reports.code clean accepted rfl, visible]

/-- The theorem on `a`, where the code is right. -/
theorem fts5WcicuTokenize_succeeds_letter :
    ∃ result, fts5WcicuTokenize Environment.small [0x61] (1 : Nat) 2 = some result ∧
      (Clean result.outputs → Clean (result.calls.map TokenCall.rc) →
        (result.rc = SQLITE_OK ↔ (0 : UInt8) ∉ [(0x61 : UInt8)] ∧
          EndsInToken Icu.small [⟨[⟨0x61, 0, 0, 1⟩], 200⟩])) :=
  fts5WcicuTokenize_succeeds_iff Environment.small Icu.small_documented [0x61] (fun _ => rfl)
    [(1, 200)] rfl ⟨by decide, by decide, rfl⟩ 2 (by decide)

/-- On a single blank everything succeeds, and the tokenizer returns
`SQLITE_DONE`. -/
theorem not_fts5WcicuTokenize_succeeds :
    ¬ ∀ (env : Environment) (pText : List UInt8) (boundaries : List (Nat × Int)) (fuel : Nat)
      (result : Result), env.icu.Documented → (∀ n, env.allocates n = true) →
      env.icu.ubrk_open (unitsOfAll (decoded env.icu pText)) = some boundaries →
      Segmentation (decoded env.icu pText) (unitsOfAll (decoded env.icu pText)).length
        boundaries →
      fts5WcicuTokenize env pText pText.length fuel = some result →
      Clean result.outputs → Clean (result.calls.map TokenCall.rc) →
      result.rc = SQLITE_OK := by
  intro succeeds
  have blank := succeeds Environment.small [0x20] [(1, 0)] 2 ⟨SQLITE_DONE, [], []⟩
    Icu.small_documented (fun _ => rfl) rfl ⟨by decide, by decide, rfl⟩ rfl
    (fun _ member => absurd member List.not_mem_nil)
    (fun _ member => absurd member List.not_mem_nil)
  exact absurd blank (by decide)

end Tokenizer
end ModuleDatabase
