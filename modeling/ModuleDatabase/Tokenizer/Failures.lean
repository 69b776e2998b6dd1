import ModuleDatabase.Tokenizer.Walk

namespace ModuleDatabase
namespace Tokenizer

/-!
# Failures that the main loop does not look at

Every turn calls `output_token` once and `xToken` once.  Of what the first
returns the loop only asks whether it is the code for no output, which it never
is; of what the second returns it asks nothing until the guard ends the loop.

So a turn in which the output fails hands out the token of an earlier turn once
more.  And the code of `xToken` is overwritten by the next call, or by
`SQLITE_DONE`; it is returned only if its token ends at the end of the text, so
that the guard stops the loop before another one.
-/

/-! ## What the variables say about the calls -/

/-- The last call has set the code and the end offset, and the calls before it
got tokens that end inside the text. -/
structure Noted (nText : Nat) (frame : Frame) : Prop where
  nothing : frame.calls = [] → frame.rc = SQLITE_OK
  last : ∀ earlier call, frame.calls = earlier ++ [call] →
    frame.rc = call.rc ∧ frame.iEndOffset = call.iEnd ∧ ∀ other ∈ earlier, other.iEnd < (nText : Int)

section Turns

variable {env : Environment} {nText bound : Nat} {frame before next : Frame}

theorem Steps.called (steps : Steps env bound frame before next) :
    ∃ call, next.calls = frame.calls ++ [call] ∧ next.rc = call.rc ∧
      next.iEndOffset = call.iEnd := by
  rcases deliver_calls env (emit env before).1 with ⟨call, appended, code, -, ends⟩
  refine ⟨call, ?_, ?_, ?_⟩
  · rw [steps.result, appended, (emit_spec env before).calls, steps.calls]
  · rw [steps.result, code]
  · rw [steps.result, ends]
    rfl

theorem Steps.noted (steps : Steps env bound frame before next) (noted : Noted nText frame)
    (inside : frame.iEndOffset < nText) : Noted nText next := by
  rcases steps.called with ⟨call, appended, code, ends⟩
  constructor
  · intro nothing
    rw [appended] at nothing
    exact absurd nothing (List.append_ne_nil_of_right_ne_nil _ (List.cons_ne_nil _ _))
  · intro earlier other split
    rw [appended] at split
    rcases List.append_inj' split rfl with ⟨sameEarlier, sameCall⟩
    rw [← List.singleton_inj.mp sameCall, ← sameEarlier]
    refine ⟨code, ends, ?_⟩
    rcases List.eq_nil_or_concat frame.calls with empty | ⟨first, last, shape⟩
    · rw [empty]
      intro one member
      cases member
    · rw [List.concat_eq_append] at shape
      rcases noted.last first last shape with ⟨-, reached, shorter⟩
      rw [shape]
      intro one member
      rcases List.mem_append.mp member with early | late
      · exact shorter one early
      · rw [List.mem_singleton.mp late, ← reached]
        exact inside

theorem noted_initial (boundaries : List (Nat × Int)) (conversion : Conversion) :
    Noted nText (Frame.initial boundaries conversion) where
  nothing := fun _ => rfl
  last := by
    intro earlier call split
    exact absurd split.symm (List.append_ne_nil_of_right_ne_nil _ (List.cons_ne_nil _ _))

theorem noted_of_reaches (walks : frame.cur.Walks bound) (noted : Noted nText frame)
    (reached : (mainTurns env nText).Reaches frame next) : Noted nText next := by
  have step : ∀ state after : Frame, (state.cur.Walks bound ∧ Noted nText state) →
      (mainTurns env nText).Turn state after → after.cur.Walks bound ∧ Noted nText after := by
    rintro state after ⟨walking, noting⟩ turn
    rcases iterate_steps walking turn.2 with ⟨before, steps⟩
    exact ⟨steps.forward.1, steps.noted noting (of_decide_eq_true turn.1)⟩
  exact (Loop.invariant_of_reaches step ⟨walks, noted⟩ reached).2

end Turns

/-! ## Errors of the callback -/

/-- The first call that fails is the last one, and its code is returned, where
`SQLITE_DONE` may be returned as `SQLITE_OK`. -/
def StopsAtError (result : Result) : Prop :=
  ∀ before call after, result.calls = before ++ call :: after →
    Clean (before.map TokenCall.rc) → call.rc ≠ SQLITE_OK →
    after = [] ∧ (result.rc = call.rc ∨ call.rc = SQLITE_DONE ∧ result.rc = SQLITE_OK)

/-- All calls that fail are for a token that ends at the end of the text, or
with `SQLITE_DONE` for a token that no other one follows. -/
def FailsAtEnd (nText : Nat) (calls : List TokenCall) : Prop :=
  ∀ before call after, calls = before ++ call :: after → call.rc ≠ SQLITE_OK →
    (nText : Int) ≤ call.iEnd ∨ call.rc = SQLITE_DONE ∧ after = []

/-- A list with a call that fails has a first one. -/
theorem exists_first_failure {calls : List TokenCall} {call : TokenCall} (member : call ∈ calls)
    (fails : call.rc ≠ SQLITE_OK) :
    ∃ before first after, calls = before ++ first :: after ∧ Clean (before.map TokenCall.rc) ∧
      first.rc ≠ SQLITE_OK := by
  induction calls with
  | nil => cases member
  | cons head rest ih =>
      by_cases ok : head.rc = SQLITE_OK
      · have later : call ∈ rest := by
          rcases List.mem_cons.mp member with same | later
          · rw [same] at fails
            exact absurd ok fails
          · exact later
        rcases ih later with ⟨before, first, after, split, clean, failing⟩
        refine ⟨head :: before, first, after, by rw [split, List.cons_append], ?_, failing⟩
        intro code among
        rw [List.map_cons, List.mem_cons] at among
        rcases among with same | inside
        · rw [same, ok]
        · exact clean code inside
      · refine ⟨[], head, rest, rfl, ?_, ok⟩
        intro code among
        cases among

/-- An element that does not stand in front of the last one is the last one. -/
theorem eq_last_of_not_mem {α : Type*} {front before after : List α} {last element : α}
    (split : front ++ [last] = before ++ element :: after) (apart : element ∉ front) :
    element = last ∧ after = [] := by
  rcases List.eq_nil_or_concat after with empty | ⟨others, final, shape⟩
  · rw [empty] at split
    exact ⟨(List.singleton_inj.mp (List.append_inj' split rfl).2).symm, empty⟩
  · exfalso
    rw [shape, List.concat_eq_append, ← List.cons_append, ← List.append_assoc] at split
    rw [(List.append_inj' split rfl).1] at apart
    exact apart (List.mem_append_right _ List.mem_cons_self)

/-- A finished loop stops at an error if and only if the callback fails at the
end only. -/
theorem stopsAtError_finish_iff {env : Environment} {nText : Nat} {last : Frame} {byGuard : Bool}
    (noted : Noted nText last) (guard : (mainTurns env nText).guard last = !byGuard) :
    StopsAtError (Frame.finish (last, byGuard)) ↔ FailsAtEnd nText last.calls := by
  have calls : (Frame.finish (last, byGuard)).calls = last.calls := by cases byGuard <;> rfl
  have ended : (nText : Int) ≤ last.iEndOffset ↔ byGuard = true := by
    rw [← not_lt, ← decide_eq_false_iff_not]
    change (mainTurns env nText).guard last = false ↔ _
    rw [guard, Bool.not_eq_false']
  constructor
  · intro stops before call after split fails
    rcases exists_first_failure (List.mem_iff_append.mpr ⟨_, _, split⟩) fails with
      ⟨front, first, back, firstSplit, clean, firstFails⟩
    rcases stops front first back (calls.trans firstSplit) clean firstFails with ⟨noneBefore, returned⟩
    subst noneBefore
    have apart : call ∉ front := fun inside => fails (clean _ (List.mem_map_of_mem inside))
    rcases eq_last_of_not_mem (firstSplit.symm.trans split) apart with ⟨same, alone⟩
    rw [same]
    rcases noted.last front first firstSplit with ⟨code, reached, -⟩
    cases byGuard with
    | true =>
        left
        rw [← reached]
        exact ended.mpr rfl
    | false =>
        right
        rcases returned with returned | ⟨done, -⟩
        · exact ⟨returned.symm, alone⟩
        · exact ⟨done, alone⟩
  · intro late before call after split _ fails
    rw [calls] at split
    have alone : after = [] := by
      rcases late before call after split fails with beyond | ⟨-, alone⟩
      · rcases List.eq_nil_or_concat last.calls with empty | ⟨front, final, shape⟩
        · rw [empty] at split
          exact absurd split.symm (List.append_ne_nil_of_right_ne_nil _ (List.cons_ne_nil _ _))
        · rw [List.concat_eq_append] at shape
          have shorter := (noted.last front final shape).2.2
          have apart : call ∉ front := fun inside => absurd (shorter call inside) (not_lt.mpr beyond)
          exact (eq_last_of_not_mem (shape.symm.trans split) apart).2
      · exact alone
    subst alone
    rcases noted.last before call split with ⟨code, reached, -⟩
    refine ⟨rfl, ?_⟩
    cases byGuard with
    | true =>
        rw [Frame.finish, code]
        by_cases done : call.rc = SQLITE_DONE
        · exact Or.inr ⟨done, if_pos done⟩
        · exact Or.inl (if_neg done)
    | false =>
        left
        rcases late before call [] split fails with beyond | ⟨done, -⟩
        · rw [← reached, ended] at beyond
          cases beyond
        · exact done.symm

theorem stopsAtError_of_nothing (code : Int) : StopsAtError ⟨code, [], []⟩ := by
  intro before call after split
  exact absurd split.symm (List.append_ne_nil_of_right_ne_nil _ (List.cons_ne_nil _ _))

/-- The calls of a run are those about the tokens of its ranges. -/
theorem calls_of_run {env : Environment} {nText bound fuel : Nat} {frame last : Frame}
    {byGuard : Bool} (walks : frame.cur.Walks bound)
    (runs : (mainTurns env nText).run fuel frame = some (last, byGuard)) :
    last.calls = frame.calls ++
      callsOf env frame.calls (tokensFrom env nText frame (frame.cur.spans env.icu)) := by
  induction fuel generalizing frame with
  | zero =>
      cases guard : (mainTurns env nText).guard frame with
      | true =>
          rw [Loop.run, if_pos guard] at runs
          cases runs
      | false =>
          rw [Loop.run_of_guard guard] at runs
          cases runs
          have ended := not_lt.mp (of_decide_eq_false guard)
          rw [tokensFrom_of_ended env ended]
          exact (List.append_nil _).symm
  | succ fuel ih =>
      rcases Loop.head_cases (mainTurns env nText) frame with
        stops | ⟨holds, leaves⟩ | ⟨next, turn⟩
      · rw [Loop.run_of_guard stops] at runs
        cases runs
        have ended := not_lt.mp (of_decide_eq_false stops)
        rw [tokensFrom_of_ended env ended]
        exact (List.append_nil _).symm
      · rw [Loop.run_of_leave holds leaves] at runs
        cases runs
        rw [spans_of_iterate_none walks leaves]
        exact (List.append_nil _).symm
      · rw [Loop.run_of_turn turn] at runs
        rcases iterate_steps walks turn.2 with ⟨before, steps⟩
        rcases steps.forward with ⟨walksNext, -, spans⟩
        -- The token of this turn is the one that the variables describe behind the output.
        have output : (frame.shown env before.start before.stop).Alike (emit env before).1 :=
          steps.alike.shown env before.start before.stop
        have alike : (frame.shown env before.start before.stop).Alike next := by
          rw [steps.result]
          exact output.trans ⟨deliver env (emit env before).1, rfl⟩
        have inside : ¬ (nText : Int) ≤ frame.iEndOffset := not_le.mpr (of_decide_eq_true turn.1)
        have delivered : next.calls = frame.calls ++
            [(frame.shown env before.start before.stop).token.call
              (env.xToken frame.calls (frame.shown env before.start before.stop).token.pToken
                (frame.shown env before.start before.stop).token.nToken
                (frame.shown env before.start before.stop).token.iStart
                (frame.shown env before.start before.stop).token.iEnd)] := by
          rw [← output.token, steps.result, ← steps.calls, ← (emit_spec env before).calls]
          rfl
        rw [ih walksNext runs, alike.tokensFrom, spans, tokensFrom, if_neg inside, callsOf,
          delivered, List.append_assoc]
        rfl

/-- Calls fail at the end only if the callback refuses the last token only. -/
theorem failsAtEnd_callsOf_iff {env : Environment} {nText : Nat} {tokens : List Token}
    (inside : ∀ (before after : List Token) (token : Token), tokens = before ++ token :: after →
      after ≠ [] → token.iEnd < (nText : Int)) (earlier : List TokenCall) :
    FailsAtEnd nText (callsOf env earlier tokens) ↔ RefusesAtEnd env nText earlier tokens := by
  induction tokens generalizing earlier with
  | nil =>
      refine iff_of_true ?_ trivial
      intro before call after split
      exact absurd split.symm (List.append_ne_nil_of_right_ne_nil _ (List.cons_ne_nil _ _))
  | cons token later ih =>
      have behind : ∀ (before after : List Token) (other : Token),
          later = before ++ other :: after → after ≠ [] → other.iEnd < (nText : Int) := by
        intro before after other split
        exact inside (token :: before) after other (by rw [split, List.cons_append])
      rw [callsOf, RefusesAtEnd]
      generalize code : env.xToken earlier token.pToken token.nToken token.iStart token.iEnd = rc
      by_cases ok : rc = SQLITE_OK
      · rw [if_pos ok, ok, ← ih behind (earlier ++ [token.call SQLITE_OK])]
        constructor
        · intro late before call after split
          exact late (token.call SQLITE_OK :: before) call after
            (by rw [split, List.cons_append])
        · intro late before call after split fails
          cases before with
          | nil =>
              rw [List.nil_append, List.cons.injEq] at split
              exact absurd (by rw [← split.1]; rfl) fails
          | cons first before =>
              rw [List.cons_append, List.cons.injEq] at split
              exact late before call after split.2 fails
      · rw [if_neg ok]
        have alone : ∀ calls, (nText : Int) ≤ token.iEnd ∨ rc = SQLITE_DONE ∧
            callsOf env calls later = [] → later = [] := by
          rintro calls (beyond | ⟨-, nothing⟩)
          · by_contra more
            have short := inside [] later token rfl more
            omega
          · cases later with
            | nil => rfl
            | cons second rest =>
                rw [callsOf] at nothing
                exact absurd nothing (List.cons_ne_nil _ _)
        constructor
        · intro late
          have first := late [] _ _ rfl ok
          have empty := alone _ first
          rcases first with beyond | ⟨done, -⟩
          · exact Or.inl beyond
          · exact Or.inr ⟨done, empty⟩
        · intro refused
          have empty : later = [] := by
            rcases refused with beyond | ⟨-, nothing⟩
            · exact alone [] (Or.inl beyond)
            · exact nothing
          subst empty
          intro before call after split _
          cases before with
          | nil =>
              rw [List.nil_append, List.cons.injEq] at split
              rw [← split.1, ← split.2]
              rcases refused with beyond | ⟨done, -⟩
              · exact Or.inl beyond
              · exact Or.inr ⟨done, rfl⟩
          | cons first before =>
              rw [List.cons_append, List.cons.injEq] at split
              exact absurd split.2.symm
                (List.append_ne_nil_of_right_ne_nil _ (List.cons_ne_nil _ _))

/-- With the boundaries that the library finds, the callback refuses the last
token of the text only. -/
def RefusesLastOnly (env : Environment) (pText : List UInt8) (nText : Nat) : Prop :=
  ∀ boundaries, env.allocates 0 = true →
    env.icu.ubrk_open (unitsOfAll (codePointsOf env.icu pText nText)) = some boundaries →
    RefusesAtEnd env nText [] (tokensOfText env pText nText boundaries)

/-- The main loop starts with the units and the offsets of the code points. -/
theorem starts_iff {env : Environment} (documented : env.icu.Documented) {pText : List UInt8}
    {nText : Int} {fuel : Nat} (enough : lengthOf pText nText ≤ fuel) (frame : Frame) :
    Starts env pText nText fuel frame ↔ env.allocates 0 = true ∧ ∃ boundaries,
      env.icu.ubrk_open (unitsOfAll (codePointsOf env.icu pText (lengthOf pText nText))) =
        some boundaries ∧
      frame = Frame.initial boundaries ⟨lengthOf pText nText,
        unitsOfAll (codePointsOf env.icu pText (lengthOf pText nText)),
        noteOffsets (Function.update env.garbage 0 0)
          (codePointsOf env.icu pText (lengthOf pText nText))⟩ := by
  have room : lengthOf pText nText < ROUND4 (lengthOf pText nText + 1) := by
    rw [ROUND4]
    omega
  rcases convert_decodes documented pText room fuel (lengthOf pText nText) 0 []
    (Function.update env.garbage 0 0) (Nat.zero_le _) (by omega) (by omega) (Nat.le_refl _)
    (Function.update_self ..) with ⟨conversion, stop, converts, decodes⟩
  have buffer : conversion.in_buffer =
      unitsOfAll (codePointsOf env.icu pText (lengthOf pText nText)) := decodes.grown
  have same : ∀ boundaries, Frame.initial boundaries conversion =
      Frame.initial boundaries ⟨lengthOf pText nText,
        unitsOfAll (codePointsOf env.icu pText (lengthOf pText nText)),
        noteOffsets (Function.update env.garbage 0 0)
          (codePointsOf env.icu pText (lengthOf pText nText))⟩ := by
    intro boundaries
    rw [Frame.initial, Frame.initial, buffer, decodes.noted]
    rfl
  constructor
  · rintro ⟨allocated, conversion', boundaries, converts', opened, shape⟩
    rw [converts, Option.some.injEq, Prod.mk.injEq] at converts'
    rw [← converts'.1] at opened shape
    rw [buffer] at opened
    exact ⟨allocated, boundaries, opened, shape.trans (same boundaries)⟩
  · rintro ⟨allocated, boundaries, opened, shape⟩
    rw [← buffer] at opened
    exact ⟨allocated, conversion, boundaries, converts, opened, shape.trans (same boundaries).symm⟩

/-- The tokenizer stops at an error of the callback if and only if the callback
refuses the last token of the text only. -/
theorem stopsAtError_iff {env : Environment} (documented : env.icu.Documented)
    (increasing : env.icu.Increasing) (pText : List UInt8) (nText : Int) :
    ∃ enough, ∀ fuel, enough ≤ fuel →
      ∃ result, fts5WcicuTokenize env pText nText fuel = some result ∧
        (StopsAtError result ↔ RefusesLastOnly env pText (lengthOf pText nText)) := by
  rcases fts5WcicuTokenize_cases documented increasing pText nText with ⟨enough, ends⟩
  refine ⟨max enough (lengthOf pText nText), ?_⟩
  intro fuel sufficient
  have long : lengthOf pText nText ≤ fuel := by omega
  rcases ends fuel (by omega) with ⟨unstarted, code, returns⟩ |
    ⟨frame, bound, last, byGuard, starts, walks, runs, returns⟩
  · refine ⟨_, returns, iff_of_true (stopsAtError_of_nothing code) ?_⟩
    intro boundaries allocated opened
    exact absurd ((starts_iff documented long _).mpr ⟨allocated, boundaries, opened, rfl⟩)
      (unstarted _)
  · refine ⟨_, returns, ?_⟩
    rcases Loop.reaches_of_run runs with ⟨reached, guard, -⟩
    rcases (starts_iff documented long frame).mp starts with
      ⟨allocated, boundaries, opened, shape⟩
    have first : Noted (lengthOf pText nText) frame := by
      rw [shape]
      exact noted_initial boundaries _
    have idle : (-1 : Int) < 0 := by decide
    have calls := calls_of_run walks runs
    rw [shape, MmCursor.spans] at calls
    have tokens : last.calls =
        callsOf env [] (tokensOfText env pText (lengthOf pText nText) boundaries) := by
      rw [calls, Frame.initial]
      dsimp only
      rw [if_pos idle]
      rfl
    have inside : ∀ (before after : List Token) (token : Token),
        tokensOfText env pText (lengthOf pText nText) boundaries = before ++ token :: after →
        after ≠ [] → token.iEnd < (lengthOf pText nText : Int) :=
      fun _ _ _ split more => tokensFrom_inside env _ split more
    rw [stopsAtError_finish_iff (noted_of_reaches walks first reached) guard, tokens,
      failsAtEnd_callsOf_iff inside []]
    constructor
    · intro refused boundaries' _ opened'
      rw [opened, Option.some.injEq] at opened'
      rw [← opened']
      exact refused
    · exact fun refused => refused boundaries allocated opened

/-- A callback that refuses its first token. -/
def Environment.refusing : Environment :=
  { Environment.small with
    xToken := fun earlier _ _ _ _ => if earlier.isEmpty then SQLITE_ERROR else SQLITE_OK }

/-- The theorem on `a`, the whole of the text. -/
theorem stopsAtError_letter :
    ∃ enough, ∀ fuel, enough ≤ fuel →
      ∃ result, fts5WcicuTokenize Environment.refusing [0x61] 1 fuel = some result ∧
        (StopsAtError result ↔ RefusesLastOnly Environment.refusing [0x61] (lengthOf [0x61] 1)) :=
  stopsAtError_iff Icu.small_documented Icu.small_increasing [0x61] 1

/-- On `ab` the first token is refused, and the second one is handed out all the
same, and the code is that of a success. -/
theorem not_stopsAtError_two_letters :
    ¬ ∀ (env : Environment) (pText : List UInt8) (nText : Int) (fuel : Nat) (result : Result),
      env.icu.Documented → env.icu.Increasing →
      fts5WcicuTokenize env pText nText fuel = some result → StopsAtError result := by
  intro stops
  have refused : StopsAtError ⟨0, [0, 0], [⟨[0x61], 1, 0, 1, 1⟩, ⟨[0x62], 1, 1, 2, 0⟩]⟩ := by
    apply stops Environment.refusing [0x61, 0x62] 2 3 _ Icu.small_documented Icu.small_increasing
    decide +kernel
  have noneBefore := (refused [] ⟨[0x61], 1, 0, 1, 1⟩ [⟨[0x62], 1, 1, 2, 0⟩] rfl
    (fun _ member => absurd member List.not_mem_nil) (by decide)).1
  exact absurd noneBefore (List.cons_ne_nil _ _)

/-! ## Failures of the output -/

/-- In this turn a call of `output_token` succeeds, and `xToken` gets the text and
the offsets that it stores. -/
def FreshTurn (env : Environment) (frame next : Frame) : Prop :=
  next.outputs = frame.outputs ++ [SQLITE_OK] ∧
    ∃ cur start stop output rc,
      output_token env cur start stop = (next.cur, .ok output) ∧
        next.calls = frame.calls ++ [⟨(next.cur.out_buffer.getD []).take output.nBytes,
          output.nBytes, output.iStartOffset, output.iEndOffset, rc⟩]

/-- Every call of `xToken` gets a token of its own turn. -/
def FreshTokens (env : Environment) (pText : List UInt8) (nText : Int) (fuel : Nat) : Prop :=
  ∀ first frame next, Starts env pText nText fuel first →
    (mainTurns env (lengthOf pText nText)).Reaches first frame →
    (mainTurns env (lengthOf pText nText)).Turn frame next → FreshTurn env frame next

section Output

variable {env : Environment} {nText bound : Nat} {frame before next : Frame}

/-- A turn adds the code of its output, and is fresh if that is a success. -/
theorem Steps.outcome (steps : Steps env bound frame before next) :
    ∃ code, next.outputs = frame.outputs ++ [code] ∧
      (FreshTurn env frame next ↔ code = SQLITE_OK) := by
  have emitted := emit_spec env before
  have outputs : next.outputs = frame.outputs ++ [(emit env before).2] := by
    rw [steps.result, ← steps.outputs, ← emitted.outputs]
    rfl
  refine ⟨(emit env before).2, outputs, ?_⟩
  constructor
  · rintro ⟨succeeded, -⟩
    rw [outputs] at succeeded
    exact List.singleton_inj.mp (List.append_cancel_left succeeded)
  · intro succeeded
    refine ⟨by rw [outputs, succeeded], before.cur, before.start, before.stop, ?_⟩
    cases outcome : output_token env before.cur before.start before.stop with
    | mk cur output =>
        cases output with
        | error code =>
            -- A failure does not have the code of a success.
            exfalso
            have spec := (output_token_spec env before.cur before.start before.stop).2
            have answer : (emit env before).2 = code := by rw [emit, outcome]
            rw [outcome] at spec
            rw [← answer, succeeded] at spec
            rcases spec with error | memory
            · cases error
            · cases memory
        | ok output =>
            have stored : (emit env before).1 = { before with
                cur := cur, pToken := some (), nBytes := output.nBytes,
                iStartOffset := output.iStartOffset, iEndOffset := output.iEndOffset,
                iPosition := output.iPosition, outputs := before.outputs ++ [SQLITE_OK] } := by
              rw [emit, outcome]
            have delivered : next.cur = cur := by
              rw [steps.result, stored]
              rfl
            refine ⟨output, next.rc, by rw [delivered], ?_⟩
            rw [delivered, steps.result, stored, ← steps.calls]
            rfl

theorem outputs_of_reaches (walks : frame.cur.Walks bound)
    (reached : (mainTurns env nText).Reaches frame next) :
    next.cur.Walks bound ∧ frame.outputs <+: next.outputs := by
  apply Loop.relation_of_reaches (fun first second : Frame => first.outputs <+: second.outputs)
    (fun _ => List.prefix_refl _) (fun _ _ _ => List.IsPrefix.trans) _ walks reached
  intro state after walking turn
  rcases iterate_steps walking turn.2 with ⟨before, steps⟩
  rcases steps.outcome with ⟨code, added, -⟩
  refine ⟨steps.forward.1, ?_⟩
  rw [added]
  exact List.prefix_append _ _

/-- All turns are fresh if and only if all outputs succeed. -/
theorem fresh_iff_clean {fuel : Nat} {last : Frame} {byGuard : Bool}
    (walks : frame.cur.Walks bound) (nothing : frame.outputs = [])
    (runs : (mainTurns env nText).run fuel frame = some (last, byGuard)) :
    (∀ state next, (mainTurns env nText).Reaches frame state →
        (mainTurns env nText).Turn state next → FreshTurn env state next) ↔
      Clean last.outputs := by
  rcases Loop.reaches_of_run runs with ⟨reached, -⟩
  constructor
  · intro fresh
    have step : ∀ state after : Frame,
        ((mainTurns env nText).Reaches frame state ∧ Clean state.outputs) →
        (mainTurns env nText).Turn state after →
        (mainTurns env nText).Reaches frame after ∧ Clean after.outputs := by
      rintro state after ⟨here, clean⟩ turn
      refine ⟨here.tail turn, ?_⟩
      rw [(fresh state after here turn).1]
      intro code member
      rcases List.mem_append.mp member with early | late
      · exact clean code early
      · exact List.mem_singleton.mp late
    refine (Loop.invariant_of_reaches step ⟨Relation.ReflTransGen.refl, ?_⟩ reached).2
    rw [nothing]
    intro code member
    cases member
  · intro clean state next here turn
    rcases outputs_of_reaches walks here with ⟨walking, -⟩
    rcases iterate_steps walking turn.2 with ⟨before, steps⟩
    rcases steps.outcome with ⟨code, added, fresh⟩
    apply fresh.mpr
    apply clean
    have later := outputs_of_reaches steps.forward.1
      (Loop.reaches_last runs (here.tail turn))
    apply later.2.subset
    rw [added]
    exact List.mem_append_right _ (List.mem_singleton.mpr rfl)

end Output

/-! ## Tokens in the order of the text -/

/-- Byte ranges that lie one behind the other between two offsets. -/
structure Ascends (low : Int) (ranges : List (Int × Int)) (high : Int) : Prop where
  ordered : low ≤ high
  apart : ranges.Pairwise fun first second => first.2 ≤ second.1
  inside : ∀ range ∈ ranges, low ≤ range.1 ∧ range.1 < range.2 ∧ range.2 ≤ high

namespace Ascends

variable {low middle high : Int} {first second : List (Int × Int)}

theorem nil (ordered : low ≤ high) : Ascends low [] high :=
  ⟨ordered, List.Pairwise.nil, fun _ member => absurd member List.not_mem_nil⟩

theorem single (nonempty : low < high) : Ascends low [(low, high)] high where
  ordered := le_of_lt nonempty
  apart := List.pairwise_singleton _ _
  inside := by
    intro range member
    rw [List.mem_singleton.mp member]
    exact ⟨le_refl _, nonempty, le_refl _⟩

theorem append (front : Ascends low first middle) (back : Ascends middle second high) :
    Ascends low (first ++ second) high where
  ordered := front.ordered.trans back.ordered
  apart := by
    apply List.pairwise_append.mpr
    refine ⟨front.apart, back.apart, ?_⟩
    intro one early other late
    exact (front.inside one early).2.2.trans (back.inside other late).1
  inside := by
    intro range member
    rcases List.mem_append.mp member with early | late
    · have bounds := front.inside range early
      exact ⟨bounds.1, bounds.2.1, bounds.2.2.trans back.ordered⟩
    · have bounds := back.inside range late
      exact ⟨front.ordered.trans bounds.1, bounds.2⟩

/-- The ranges begin at offsets that increase. -/
theorem increasing (ascends : Ascends low first high) :
    (first.map Prod.fst).Pairwise (· < ·) := by
  rw [List.pairwise_map]
  apply List.Pairwise.imp_of_mem _ ascends.apart
  intro one other among _ behind
  exact (ascends.inside one among).2.1.trans_le behind

end Ascends

section Order

variable {in_buffer : List UChar} {in_offset : Nat → Int}

theorem Laid.ascends {start stop : Mark} {codePoints : List CodePoint}
    (laid : Laid in_buffer in_offset start codePoints stop) :
    Ascends start.byte (codePoints.map CodePoint.bytes) stop.byte := by
  induction codePoints generalizing start with
  | nil =>
      rw [laid.1]
      exact Ascends.nil (le_refl _)
  | cons codePoint rest ih =>
      rcases laid with ⟨⟨opens, -, grows, -, -⟩, tail⟩
      have first : codePoint.startByte = start.byte := congrArg Mark.byte opens
      have own : Ascends start.byte [codePoint.bytes] codePoint.closes.byte := by
        rw [CodePoint.bytes, first]
        exact Ascends.single (Int.ofNat_lt.mpr grows)
      exact own.append (ih tail)

/-- The tokens of segments that cut the buffer lie one behind the other. -/
theorem Cut.ascends (icu : Icu) {start stop : Mark} {segments : List Segment}
    {ahead : List (Nat × Int)} (cut : Cut in_buffer in_offset start segments ahead stop) :
    Ascends start.byte (tokensOf icu segments) stop.byte := by
  induction segments generalizing start ahead with
  | nil =>
      cases ahead with
      | cons boundary ahead => cases cut
      | nil =>
          rw [cut.1]
          exact Ascends.nil (le_refl _)
  | cons segment segments ih =>
      cases ahead with
      | nil => cases cut
      | cons boundary ahead =>
          rcases cut with ⟨middle, nonempty, -, -, laid, rest⟩
          rw [tokensOf_cons]
          refine Ascends.append ?_ (ih rest)
          rw [Segment.tokens]
          split
          · exact laid.ascends
          · split
            · exact Ascends.nil laid.ascends.ordered
            · rw [bytes_of_laid laid nonempty]
              have size := laid.length_le.2
              have positive := List.length_pos_iff.mpr nonempty
              exact Ascends.single (by omega)

end Order

/-! ## No token is handed out twice -/

/-- The code points of the text, as far as it counts. -/
def decodedUpTo (icu : Icu) (pText : List UInt8) (nText : Int) : List CodePoint :=
  decode icu pText (lengthOf pText nText) (lengthOf pText nText) 0 0

/-- The boundaries that are found in this text lie on ends of code points. -/
def OnCodePoints (icu : Icu) (pText : List UInt8) (nText : Int) : Prop :=
  ∀ boundaries, icu.ubrk_open (unitsOfAll (decodedUpTo icu pText nText)) = some boundaries →
    Segmentation (decodedUpTo icu pText nText)
      (unitsOfAll (decodedUpTo icu pText nText)).length boundaries

/-- The tokens begin at offsets that increase. -/
def InOrder (calls : List TokenCall) : Prop := (calls.map TokenCall.iStart).Pairwise (· < ·)

/-- Tokens that all come from outputs that succeed lie one behind the other. -/
theorem inOrder_of_clean {env : Environment} (documented : env.icu.Documented)
    {pText : List UInt8} {nText : Int} (onCodePoints : OnCodePoints env.icu pText nText)
    {fuel : Nat} (enough : lengthOf pText nText < fuel) {frame : Frame}
    (starts : Starts env pText nText fuel frame) {result : Result}
    (returns : fts5WcicuTokenize env pText nText fuel = some result)
    (clean : Clean result.outputs) : InOrder result.calls := by
  have runs := returns
  rw [starts.runs] at runs
  rcases starts with ⟨-, conversion, boundaries, converts, opened, same⟩
  set size := lengthOf pText nText with sizeEq
  have room : size < ROUND4 (size + 1) := by
    rw [ROUND4]
    omega
  rcases convert_decodes documented pText room fuel size 0 [] (Function.update env.garbage 0 0)
    (Nat.zero_le _) (by omega) (by omega) (Nat.le_refl _) (Function.update_self ..) with
    ⟨conversion', stop, converts', decodes⟩
  rw [converts, Option.some.injEq, Prod.mk.injEq] at converts'
  rw [← converts'.1] at decodes
  change Decodes pText size 0 [] _ (decodedUpTo env.icu pText nText) conversion stop at decodes
  have buffer : conversion.in_buffer = unitsOfAll (decodedUpTo env.icu pText nText) :=
    decodes.grown
  rw [buffer] at opened
  have segmentation := onCodePoints boundaries opened
  rcases decodes.reports segmentation env fuel enough with ⟨found, ends, reports⟩
  rw [← same, runs, Option.some.injEq] at ends
  rw [← ends] at reports
  have ranges : result.calls.map TokenCall.range =
      tokensOf env.icu (segmentsOf (decodedUpTo env.icu pText nText) boundaries) :=
    reports.ranges clean
  have ascending := ((decodes.cut segmentation).ascends env.icu).increasing
  rw [← ranges, List.map_map] at ascending
  exact ascending

/-- Every call of `xToken` gets a token of its own turn if and only if all outputs
succeed, and then the tokens begin at offsets that increase. -/
theorem noPhantoms_iff {env : Environment} (documented : env.icu.Documented)
    (increasing : env.icu.Increasing) (pText : List UInt8) (nText : Int) :
    ∃ enough, ∀ fuel, enough ≤ fuel →
      ∃ result, fts5WcicuTokenize env pText nText fuel = some result ∧
        (FreshTokens env pText nText fuel ↔ Clean result.outputs) ∧
        (OnCodePoints env.icu pText nText →
          (FreshTokens env pText nText fuel ∧ InOrder result.calls ↔ Clean result.outputs)) := by
  rcases fts5WcicuTokenize_cases documented increasing pText nText with ⟨enough, ends⟩
  refine ⟨max enough (lengthOf pText nText + 1), ?_⟩
  intro fuel sufficient
  rcases ends fuel (by omega) with ⟨unstarted, code, returns⟩ |
    ⟨frame, bound, last, byGuard, starts, walks, runs, returns⟩
  · have clean : Clean (⟨code, [], []⟩ : Result).outputs := fun _ member =>
      absurd member List.not_mem_nil
    have fresh : FreshTokens env pText nText fuel := fun first _ _ starts =>
      absurd starts (unstarted first)
    exact ⟨_, returns, iff_of_true fresh clean,
      fun _ => iff_of_true ⟨fresh, List.Pairwise.nil⟩ clean⟩
  · have nothing : frame.outputs = [] := by
      rcases starts with ⟨-, conversion, boundaries, -, -, same⟩
      rw [same]
      rfl
    have outputs : (Frame.finish (last, byGuard)).outputs = last.outputs := by
      cases byGuard <;> rfl
    have fresh : FreshTokens env pText nText fuel ↔
        Clean (Frame.finish (last, byGuard)).outputs := by
      rw [outputs, ← fresh_iff_clean walks nothing runs]
      constructor
      · exact fun all state next => all frame state next starts
      · intro all first state next other
        rw [other.unique starts]
        exact all state next
    refine ⟨_, returns, fresh, ?_⟩
    intro onCodePoints
    rw [fresh]
    exact and_iff_left_of_imp
      (inOrder_of_clean documented onCodePoints (by omega) starts returns)

/-- The library, in which the normalisation of one letter overflows. -/
def Icu.overflowing : Icu :=
  { Icu.small with unorm_normalize := fun text => if text = [0x62] then none else some text }

theorem Icu.overflowing_documented : Icu.overflowing.Documented :=
  ⟨Icu.small_documented.advances, Icu.small_documented.trails, Icu.small_documented.value,
    Icu.small_documented.supplementary⟩

/-- The theorem on `ab`, where the output of the second token fails. -/
theorem noPhantoms_two_letters :
    ∃ enough, ∀ fuel, enough ≤ fuel →
      ∃ result, fts5WcicuTokenize { Environment.small with icu := Icu.overflowing } [0x61, 0x62] 2
          fuel = some result ∧
        (FreshTokens { Environment.small with icu := Icu.overflowing } [0x61, 0x62] 2 fuel ↔
          Clean result.outputs) ∧
        (OnCodePoints Icu.overflowing [0x61, 0x62] 2 →
          (FreshTokens { Environment.small with icu := Icu.overflowing } [0x61, 0x62] 2 fuel ∧
            InOrder result.calls ↔ Clean result.outputs)) :=
  noPhantoms_iff Icu.overflowing_documented Icu.small_increasing [0x61, 0x62] 2

/-- There the first token is handed out twice. -/
theorem not_noPhantoms_two_letters :
    ¬ ∀ (env : Environment) (pText : List UInt8) (nText : Int) (fuel : Nat) (result : Result),
      env.icu.Documented → env.icu.Increasing → OnCodePoints env.icu pText nText →
      fts5WcicuTokenize env pText nText fuel = some result →
      FreshTokens env pText nText fuel ∧ InOrder result.calls := by
  intro fresh
  have onCodePoints : OnCodePoints Icu.overflowing [0x61, 0x62] 2 := by
    intro boundaries opened
    cases opened
    exact ⟨by decide, by decide, rfl⟩
  have twice : InOrder [⟨[0x61], 1, 0, 1, 0⟩, ⟨[0x61], 1, 0, 1, 0⟩] := by
    refine (fresh { Environment.small with icu := Icu.overflowing } [0x61, 0x62] 2 3
      ⟨101, [0, 1], _⟩ Icu.overflowing_documented Icu.small_increasing onCodePoints ?_).2
    decide +kernel
  revert twice
  unfold InOrder
  decide

end Tokenizer
end ModuleDatabase
